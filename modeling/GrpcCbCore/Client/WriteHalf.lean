import GrpcCbCore.Common.Call
import GrpcCbCore.Library.Ledger

/-! The write half of the client classes: a queue whose front is the message in
flight, one status, and a half-close behind the last message. It is a lane;
each thing a class does to its write half is a lane step. -/
namespace GrpcCbCore.Client
open GrpcCbCore.Library

variable {Note : Type}

/-- How the history of a class shows its write half: the tag that half-closes,
and what the notes say. -/
structure Reading (Note : Type) where
  closeTag : CqTag
  noteSights : Note → List (Sight StdString Unit)

namespace Reading

variable (R : Reading Note)

/-- A refused start and a failed message break the lane. -/
def sights : Event Note → List (Sight StdString Unit)
  | .start tag true => tag.message?.toList.map .start ++
      if tag = R.closeTag then [.sendClose ()] else []
  | .start tag false => (if tag = R.closeTag then [.sendClose ()] else []) ++ [.breaks]
  | .complete tag success _ => tag.message?.toList.flatMap fun m =>
      .finish m :: if success then [] else [.breaks]
  | .note n => R.noteSights n

/-- What the history before an event must show. Messages and the half-close are
started on an unbroken idle lane that is not closed; the half-close, once asked
for, when everything accepted has been delivered. -/
def Lawful (before : List (Event Note)) : Event Note → Prop
  | .start tag _ => tag.message? ≠ none ∨ tag = R.closeTag →
      collect Sight.broke (before.flatMap R.sights) = [] ∧
      collect Sight.closed (before.flatMap R.sights) = [] ∧
      collect Sight.started (before.flatMap R.sights) =
        collect Sight.finished (before.flatMap R.sights) ∧
      (tag = R.closeTag → collect Sight.asked (before.flatMap R.sights) ≠ [] ∧
        collect Sight.accepted (before.flatMap R.sights) =
          collect Sight.finished (before.flatMap R.sights))
  | .note n => collect Sight.accepted (R.noteSights n) ≠ [] →
      collect Sight.broke (before.flatMap R.sights) = [] ∧
      collect Sight.asked (before.flatMap R.sights) = []
  | .complete _ _ _ => True

end Reading

/-- What the classes' write halves have in common. -/
structure WriteHalf (Note : Type) where
  call : Call Note
  ok : Bool
  closing : Bool
  hasSentClose : Bool
  msgQueue : List StdString

/-- The lane of a write half. The message in flight stays at the front of the
queue; behind it the two queues agree as long as no error came up. -/
structure Tracks (R : Reading Note) (h : WriteHalf Note) (l : Lane StdString Unit) : Prop where
  ledger : Ledger (h.call.log.flatMap R.sights) l
  outstanding : h.call.outstanding.filterMap CqTag.message? = l.flying.toList
  ok : h.ok = true → l.broken = false
  failed : h.ok = false → l.broken = true ∨ l.closeSent = true
  closing : l.broken = false → h.closing = l.closing.isSome
  sentClose : h.hasSentClose = l.closeSent
  queue : l.broken = false → h.msgQueue = l.flying.toList ++ l.waiting
  front : ∀ m, l.flying = some m → h.msgQueue.head? = some m
  lawful : AtEach R.Lawful h.call.log

namespace Tracks

variable {R : Reading Note} {h : WriteHalf Note} {l : Lane StdString Unit}

theorem fresh (R : Reading Note) : Tracks R ⟨{}, true, false, false, []⟩ Lane.fresh where
  ledger := by simpa using Ledger.fresh
  outstanding := rfl
  ok := fun _ => rfl
  failed := by simp
  closing := fun _ => rfl
  sentClose := rfl
  queue := fun _ => rfl
  front := by simp
  lawful := by simp

theorem silent (t : Tracks R h l) {call : Call Note} {e : Event Note}
    (hlog : call.log = h.call.log ++ [e]) (hsight : R.sights e = [])
    (hout : call.outstanding.filterMap CqTag.message? =
      h.call.outstanding.filterMap CqTag.message?)
    (hlaw : R.Lawful h.call.log e) : Tracks R { h with call := call } l :=
  { t with
    ledger := by simpa [hlog, hsight] using t.ledger
    outstanding := hout.trans t.outstanding
    lawful := by simpa [hlog] using t.lawful.snoc hlaw }

theorem breaks (t : Tracks R h l) {call : Call Note} {e : Event Note}
    (hlog : call.log = h.call.log ++ [e]) (hsight : R.sights e = [.breaks])
    (hout : call.outstanding.filterMap CqTag.message? =
      h.call.outstanding.filterMap CqTag.message?)
    (hlaw : R.Lawful h.call.log e) : Tracks R { h with call := call, ok := false } l.break_ :=
  { t with
    ledger := by simpa [hlog, hsight] using t.ledger.break_
    outstanding := hout.trans t.outstanding
    ok := by simp
    failed := by simp
    closing := by simp
    queue := by simp
    lawful := by simpa [hlog] using t.lawful.snoc hlaw }

theorem set_failed (t : Tracks R h l) (hdone : l.broken = true ∨ l.closeSent = true) :
    Tracks R { h with ok := false } l :=
  { t with
    ok := by simp
    failed := fun _ => hdone }

/-- A message may be started on an idle write half that is not closed; the
half-close, when asked for and nothing waits. -/
theorem lawful_start (t : Tracks R h l) (hok : h.ok = true) (hidle : l.flying = none)
    (hunsent : l.closeSent = false) {tag : CqTag}
    (hclose : tag = R.closeTag → l.closing.isSome = true ∧ l.waiting = []) (ok : Bool) :
    R.Lawful h.call.log (.start tag ok) := by
  intro _
  have hlive := t.ok hok
  refine ⟨t.ledger.broke.mp hlive, ?_, ?_, ?_⟩
  · simp [t.ledger.closed, hunsent]
  · rw [t.ledger.started, t.ledger.finished]
    simp [Lane.started, hidle]
  · intro htag
    obtain ⟨hasked, hempty⟩ := hclose htag
    refine ⟨fun hnone => ?_, ?_⟩
    · have hhead := t.ledger.asked hlive
      rw [hnone] at hhead
      rw [← hhead] at hasked
      simp at hasked
    · rw [t.ledger.accepted, t.ledger.finished]
      exact Lane.accepted_of_idle hidle hempty

private theorem lawful_write (t : Tracks R h l) (hok : h.ok = true) (hopen : l.closing = none)
    (n : Note) : R.Lawful h.call.log (.note n) := by
  intro _
  have hlive := t.ok hok
  refine ⟨t.ledger.broke.mp hlive, ?_⟩
  have hhead := t.ledger.asked hlive
  rwa [hopen, List.head?_eq_none_iff] at hhead

section reading

theorem live (t : Tracks R h l) (hok : h.ok = true) (hopen : h.closing = false) :
    l.broken = false ∧ l.closing = none ∧ l.closeSent = false := by
  have hlive := t.ok hok
  have hclosing : l.closing = none := by
    have heq := (t.closing hlive).symm.trans hopen
    simpa using heq
  exact ⟨hlive, hclosing, Lane.unsent_of_open hclosing⟩

theorem one_outstanding (t : Tracks R h l) :
    (h.call.outstanding.filterMap CqTag.message?).length ≤ 1 := by
  rw [t.outstanding]
  cases l.flying <;> simp

theorem flying_of_outstanding (t : Tracks R h l) {m : StdString}
    (hmem : .clientSendMsg m ∈ h.call.outstanding) : l.flying = some m := by
  have hflying : m ∈ h.call.outstanding.filterMap CqTag.message? :=
    List.mem_filterMap.mpr ⟨_, hmem, rfl⟩
  rw [t.outstanding] at hflying
  simpa using hflying

theorem front_of_outstanding (t : Tracks R h l) {m : StdString}
    (hmem : .clientSendMsg m ∈ h.call.outstanding) : h.msgQueue.head? = some m :=
  t.front m (t.flying_of_outstanding hmem)

theorem started_append_tail (t : Tracks R h l) (hsettled : l.Settled) (hok : h.ok = true) :
    l.started ++ h.msgQueue.tail = l.accepted := by
  rw [t.queue (t.ok hok)]
  cases hflying : l.flying with
  | some m => simp [Lane.accepted]
  | none => simp [Lane.accepted, (hsettled (t.ok hok) hflying).1]

theorem flying_of_queue (t : Tracks R h l) (hsettled : l.Settled) (hok : h.ok = true)
    (hqueue : h.msgQueue ≠ []) : l.flying.isSome = true := by
  by_contra hidle
  have hnone : l.flying = none := by simpa using hidle
  have hempty := (hsettled (t.ok hok) hnone).1
  exact hqueue ((t.queue (t.ok hok)).trans (by simp [hnone, hempty]))

theorem outstanding_of_queue (t : Tracks R h l) (hsettled : l.Settled) (hok : h.ok = true)
    (hqueue : h.msgQueue ≠ []) : (h.call.outstanding.filterMap CqTag.message?).length = 1 := by
  obtain ⟨m, hm⟩ := Option.isSome_iff_exists.mp (t.flying_of_queue hsettled hok hqueue)
  simp [t.outstanding, hm]

theorem idle_of_queue (t : Tracks R h l) (hok : h.ok = true) (hqueue : h.msgQueue = []) :
    l.flying = none ∧ l.waiting = [] := by
  have heq := (t.queue (t.ok hok)).symm.trans hqueue
  simpa using heq

end reading

section steps

variable {m : StdString} {n : Note} {grpc : Nat → Bool}

theorem write_queued (t : Tracks R h l) (hok : h.ok = true) (hopen : l.closing = none)
    (hsight : R.noteSights n = [.accept m]) :
    Tracks R { h with msgQueue := h.msgQueue ++ [m], call := h.call.note n }
      (l.accept m hopen) :=
  { t with
    ledger := by simpa [Reading.sights, hsight] using t.ledger.accept m hopen
    queue := fun hlive => by simp [t.queue hlive]
    front := by
      intro front hfront
      have hhead := t.front front hfront
      simp [List.head?_append, hhead]
    lawful := by simpa using t.lawful.snoc (t.lawful_write hok hopen n) }

theorem write_started (t : Tracks R h l) (hok : h.ok = true) (hopen : l.closing = none)
    (hidle : l.flying = none) (hempty : l.waiting = [])
    (hsight : R.noteSights n = [.accept m]) (hnot : .clientSendMsg m ≠ R.closeTag)
    (hgrpc : grpc h.call.starts = true) :
    Tracks R { h with
        msgQueue := [m], call := (h.call.startBatch grpc (.clientSendMsg m)).2.note n }
      ((l.accept m hopen).start m [] (by simp [hempty])) :=
  { t with
    ledger := by
      simpa [Reading.sights, hsight, hgrpc, hnot] using t.ledger.start_accept m hopen hidle hempty
    outstanding := by simp [hgrpc, t.outstanding, hidle]
    queue := fun _ => rfl
    front := by simp
    lawful := by
      have hunsent : l.closeSent = false := Lane.unsent_of_open hopen
      have hstart := t.lawful_start hok hidle hunsent (fun htag => absurd htag hnot) true
      have hnote : R.Lawful (h.call.log ++ [.start (.clientSendMsg m) true]) (.note n) := by
        intro hacc
        simpa [Reading.sights, hnot] using t.lawful_write hok hopen n hacc
      simpa [hgrpc] using (t.lawful.snoc hstart).snoc hnote }

/-- A message that grpc refuses, whatever is in the queue by then. -/
theorem message_refused (t : Tracks R h l) (hok : h.ok = true) (hidle : l.flying = none)
    (hunsent : l.closeSent = false) (hnot : .clientSendMsg m ≠ R.closeTag)
    (hgrpc : grpc h.call.starts = false) (queue : List StdString) :
    Tracks R { h with
        msgQueue := queue, ok := false
        call := (h.call.startBatch grpc (.clientSendMsg m)).2 } l.break_ :=
  { t with
    ledger := by simpa [Reading.sights, hgrpc, hnot] using t.ledger.break_
    outstanding := by simpa [hgrpc] using t.outstanding
    ok := by simp
    failed := by simp
    closing := by simp
    queue := by simp
    front := by simp [hidle]
    lawful := by
      simpa [hgrpc] using
        t.lawful.snoc (t.lawful_start hok hidle hunsent (fun htag => absurd htag hnot) false) }

theorem next_started (t : Tracks R h l) (hok : h.ok = true) (hidle : l.flying = none)
    {rest : List StdString} (hwaiting : l.waiting = m :: rest)
    (hnot : .clientSendMsg m ≠ R.closeTag) (hgrpc : grpc h.call.starts = true) :
    Tracks R { h with call := (h.call.startBatch grpc (.clientSendMsg m)).2 }
      (l.start m rest hwaiting) :=
  { t with
    ledger := by simpa [Reading.sights, hgrpc, hnot] using t.ledger.start hwaiting hidle
    outstanding := by simp [hgrpc, t.outstanding, hidle]
    queue := fun hlive => by simp [t.queue hlive, hidle, hwaiting]
    front := by
      intro front hfront
      have hqueue := t.queue (t.ok hok)
      simp [hqueue, hidle, hwaiting] at hfront ⊢
      exact hfront
    lawful := by
      have hunsent : l.closeSent = false := Lane.unsent_of_waiting hwaiting
      simpa [hgrpc] using
        t.lawful.snoc (t.lawful_start hok hidle hunsent (fun htag => absurd htag hnot) true) }

theorem completes_silent (t : Tracks R h l) {call : Call Note} {index : Nat} {success : Bool}
    {received : Received} {tag : CqTag} (hmsg : tag.message? = none)
    (hcall : h.call.complete index success received = some (tag, call)) :
    Tracks R { h with call := call } l := by
  obtain ⟨before, after, hsplit, rfl⟩ := Call.complete_eq_some hcall
  apply t.silent
  · rfl
  · simp [Reading.sights, hmsg]
  · simp [hsplit, hmsg]
  · trivial

theorem completes_sent (t : Tracks R h l) {call : Call Note} {index : Nat} {received : Received}
    (hcall : h.call.complete index true received = some (.clientSendMsg m, call)) :
    l.flying = some m ∧
      Tracks R { h with call := call, msgQueue := h.msgQueue.tail } l.finish := by
  obtain ⟨before, after, hsplit, rfl⟩ := Call.complete_eq_some hcall
  obtain ⟨hflying, hrest⟩ := CqTag.only_message t.outstanding hsplit rfl
  exact ⟨hflying, { t with
    ledger := by simpa [Reading.sights] using t.ledger.finish hflying
    outstanding := hrest
    queue := fun hlive => by simp [t.queue hlive, hflying]
    front := by simp
    lawful := t.lawful.snoc trivial }⟩

theorem completes_failed (t : Tracks R h l) {call : Call Note} {index : Nat}
    {received : Received}
    (hcall : h.call.complete index false received = some (.clientSendMsg m, call)) :
    l.flying = some m ∧
      Tracks R { h with call := call, msgQueue := h.msgQueue.tail, ok := false }
        l.finish.break_ := by
  obtain ⟨before, after, hsplit, rfl⟩ := Call.complete_eq_some hcall
  obtain ⟨hflying, hrest⟩ := CqTag.only_message t.outstanding hsplit rfl
  exact ⟨hflying, { t with
    ledger := by simpa [Reading.sights] using (t.ledger.finish hflying).break_
    outstanding := hrest
    ok := by simp
    failed := by simp
    closing := by simp
    queue := by simp
    front := by simp
    lawful := t.lawful.snoc trivial }⟩

theorem ask_close (t : Tracks R h l) (hok : h.ok = true) (hopen : l.closing = none)
    (hsight : R.noteSights n = [.askClose ()]) :
    Tracks R { h with call := h.call.note n, closing := true } (l.askClose ()) :=
  { t with
    ledger := by
      simpa [Reading.sights, hsight] using
        t.ledger.askClose () hopen (t.ok hok) (Lane.unsent_of_open hopen)
    closing := by simp
    lawful := by
      have hlaw : R.Lawful h.call.log (.note n) := by simp [Reading.Lawful, hsight]
      simpa using t.lawful.snoc hlaw }

theorem ask_again (t : Tracks R h l) (hasked : l.broken = true ∨ l.closing.isSome = true)
    (hsight : R.noteSights n = [.askClose ()]) : Tracks R { h with call := h.call.note n } l :=
  { t with
    ledger := by simpa [Reading.sights, hsight] using t.ledger.askAgain () hasked
    lawful := by
      have hlaw : R.Lawful h.call.log (.note n) := by simp [Reading.Lawful, hsight]
      simpa using t.lawful.snoc hlaw }

theorem set_closing (t : Tracks R h l) (hasked : l.broken = true ∨ l.closing.isSome = true) :
    Tracks R { h with closing := true } l :=
  { t with
    closing := fun hlive => by
      rw [hlive] at hasked
      simpa using hasked.symm }

theorem send_close (t : Tracks R h l) (hok : h.ok = true) (hidle : l.flying = none)
    (hempty : l.waiting = []) (hasked : l.closing.isSome = true) (hunsent : l.closeSent = false)
    (hmsg : R.closeTag.message? = none) (hgrpc : grpc h.call.starts = true) :
    Tracks R { h with call := (h.call.startBatch grpc R.closeTag).2, hasSentClose := true }
      (l.sendClose hidle hempty hasked) :=
  { t with
    ledger := by
      obtain ⟨word, hword⟩ := Option.isSome_iff_exists.mp hasked
      simpa [Reading.sights, hgrpc, hmsg] using
        t.ledger.sendClose hidle hempty hword hunsent
    outstanding := by simp [hgrpc, hmsg, t.outstanding]
    failed := by simp
    sentClose := rfl
    lawful := by
      simpa [hgrpc] using t.lawful.snoc
        (t.lawful_start hok hidle hunsent (fun _ => ⟨hasked, hempty⟩) true) }

theorem close_refused (t : Tracks R h l) (hok : h.ok = true) (hidle : l.flying = none)
    (hempty : l.waiting = []) (hasked : l.closing.isSome = true) (hunsent : l.closeSent = false)
    (hgrpc : grpc h.call.starts = false) :
    Tracks R { h with
        call := (h.call.startBatch grpc R.closeTag).2, hasSentClose := true, ok := false }
      (l.sendClose hidle hempty hasked).break_ :=
  { t with
    ledger := by
      obtain ⟨word, hword⟩ := Option.isSome_iff_exists.mp hasked
      simpa [Reading.sights, hgrpc] using
        (t.ledger.sendClose hidle hempty hword hunsent).break_
    outstanding := by simpa [hgrpc] using t.outstanding
    ok := by simp
    failed := by simp
    closing := by simp
    sentClose := rfl
    queue := by simp
    lawful := by
      simpa [hgrpc] using t.lawful.snoc
        (t.lawful_start hok hidle hunsent (fun _ => ⟨hasked, hempty⟩) false) }

end steps

end Tracks

end GrpcCbCore.Client
