import GrpcCbCore.Client.ReaderWriterLane

/-! The write half of `ClientAsyncReaderWriterImpl` sends what it accepted, one
message at a time, and half-closes once, behind the last of them. -/
namespace GrpcCbCore.Client.ReaderWriterImpl
open GrpcCbCore.Library

variable {grpc : Nat → Bool} {s : Impl} {l : Lane StdString Unit}

section columns

theorem Refines.accepted (h : Refines s l) :
    collect ReaderWriterImpl.accepted s.call.log = l.accepted := by
  rw [← h.ledger.accepted]
  exact (collect_flatMap _ fun e => (sights_columns e).1).symm

theorem Refines.sent (h : Refines s l) : collect Event.sent s.call.log = l.started := by
  rw [← h.ledger.started]
  exact (collect_flatMap _ fun e => (sights_columns e).2.1).symm

theorem Refines.closeAttempt (h : Refines s l) :
    collect ReaderWriterImpl.closeAttempt s.call.log =
      if l.closeSent then l.closing.toList else [] := by
  rw [← h.ledger.closed]
  exact (collect_flatMap _ fun e => (sights_columns e).2.2.2.2.1).symm

theorem Refines.closeCall (h : Refines s l) (hok : s.status.ok = true) :
    (collect ReaderWriterImpl.closeCall s.call.log).head? = l.closing := by
  have hasked := h.ledger.asked (h.ok hok)
  rwa [collect_flatMap _ fun e => (sights_columns e).2.2.2.1] at hasked

theorem failed_of_trouble {history : List (Event Note)} (h : collect trouble history = []) :
    collect Event.failed history = [] := by
  apply collect_eq_nil
  intro e he
  by_contra hfailed
  refine (collect_ne_nil trouble history).mpr ⟨e, he, ?_⟩ h
  cases e with
  | note n => simp at hfailed
  | _ => simpa [trouble] using hfailed

theorem Refines.closes_last (h : Refines s l) :
    AtEach (fun before e => ReaderWriterImpl.closeAttempt e ≠ none →
      collect ReaderWriterImpl.closeCall before ≠ [] ∧
      collect Event.delivered before = collect ReaderWriterImpl.accepted before) s.call.log := by
  intro before e after hlog hattempt
  have hlaw := h.lawful before e after hlog
  cases e with
  | start tag ok =>
    have htag : tag = .clientSendClose := by simpa using hattempt
    obtain ⟨hbroke, -, -, hclose⟩ := hlaw (.inr htag)
    obtain ⟨hasked, hdone⟩ := hclose htag
    rw [collect_flatMap_eq_nil _ fun e => (sights_columns e).2.2.2.2.2] at hbroke
    rw [Ne, collect_flatMap _ fun e => (sights_columns e).2.2.2.1] at hasked
    rw [collect_flatMap _ fun e => (sights_columns e).1,
      collect_flatMap _ fun e => (sights_columns e).2.2.1] at hdone
    exact ⟨hasked, (Event.delivered_eq_finished (failed_of_trouble hbroke)).trans hdone.symm⟩
  | complete tag success received => simp at hattempt
  | note n => simp at hattempt

theorem Refines.refuses (h : Refines s l) :
    AtEach (fun before e => collect ReaderWriterImpl.closeCall before ≠ [] →
      ∀ msg result, e = .note (.write msg result) → result = false) s.call.log := by
  rintro before e after hlog hclosing msg result rfl
  by_contra htrue
  obtain rfl : result = true := by simpa using htrue
  obtain ⟨-, hasked⟩ := h.lawful before _ after hlog (by simp [reading])
  rw [collect_flatMap _ fun e => (sights_columns e).2.2.2.1] at hasked
  exact hclosing hasked

theorem Refines.half_closed (h : Refines s l) (hok : s.status.ok = true)
    (hclosing : collect ReaderWriterImpl.closeCall s.call.log ≠ [])
    (hidle : s.call.outstanding.filterMap CqTag.message? = []) :
    collect ReaderWriterImpl.closeAttempt s.call.log ≠ [] := by
  have hasked : l.closing.isSome = true := by
    rw [← h.closeCall hok]
    cases hcalls : collect ReaderWriterImpl.closeCall s.call.log with
    | nil => exact absurd hcalls hclosing
    | cons _ _ => rfl
  have hnone : l.flying = none := by
    have hout := h.outstanding.symm.trans hidle
    simpa using hout
  rw [h.closeAttempt, (h.settled (h.ok hok) hnone).2 hasked]
  obtain ⟨word, hword⟩ := Option.isSome_iff_exists.mp hasked
  simp [hword]

end columns

/-- One message at a time, in order, none lost; the half-close once, last, and in
time; and no message accepted after CloseWriting. -/
theorem write_half_in_order {statusCb : Bool} {ls : List Label}
    (hrun : (machine grpc).run (clientAsyncReaderWriterImpl statusCb) ls = some s) :
    (s.call.outstanding.filterMap CqTag.message?).length ≤ 1 ∧
    (∀ msg, .clientSendMsg msg ∈ s.call.outstanding → s.msgQueue.head? = some msg) ∧
    (s.status.ok = true →
      collect Event.sent s.call.log ++ s.msgQueue.tail = collect accepted s.call.log ∧
      (s.msgQueue ≠ [] → (s.call.outstanding.filterMap CqTag.message?).length = 1)) ∧
    ((collect closeAttempt s.call.log).length ≤ 1 ∧
      AtEach (fun before e => closeAttempt e ≠ none → collect closeCall before ≠ [] ∧
        collect Event.delivered before = collect accepted before) s.call.log) ∧
    (s.status.ok = true → collect closeCall s.call.log ≠ [] →
      s.call.outstanding.filterMap CqTag.message? = [] →
      collect closeAttempt s.call.log ≠ []) ∧
    AtEach (fun before e => collect closeCall before ≠ [] →
      ∀ msg result, e = .note (.write msg result) → result = false) s.call.log := by
  obtain ⟨l, h⟩ := run_refines hrun
  refine ⟨h.toTracks.one_outstanding, fun _ => h.toTracks.front_of_outstanding,
    fun hok => ⟨?_, h.toTracks.outstanding_of_queue h.settled hok⟩, ⟨?_, h.closes_last⟩,
    h.half_closed, h.refuses⟩
  · rw [h.sent, h.accepted]
    exact h.toTracks.started_append_tail h.settled hok
  · rw [h.closeAttempt]
    exact l.closed_length_le

/-- Two messages and a CloseWriting; a read that fails while the first message is
in flight makes an error of it. -/
def brokenReadLabels : List Label :=
  [.op (.readEach true []), .op (.write [1] []), .op (.write [2] []), .op (.closeWriting []),
    .complete 2 false {} { statusCb := [.write [3] []] }, .complete 2 true {} {}]

theorem write_half_in_order_broken :
    ∃ s, (machine fun _ => true).run (clientAsyncReaderWriterImpl true) brokenReadLabels = some s ∧
      AtEach (fun before e => collect closeCall before ≠ [] →
        ∀ msg result, e = .note (.write msg result) → result = false) s.call.log := by
  have hrun : (machine fun _ => true).run (clientAsyncReaderWriterImpl true) brokenReadLabels =
      some _ := rfl
  exact ⟨_, hrun, (write_half_in_order hrun).2.2.2.2.2⟩

end GrpcCbCore.Client.ReaderWriterImpl
