import GrpcCbCore.Server.WriterThreads
import GrpcCbCore.Library.Ledger

/-! `ServerWriterImpl` refines the lane: each section of the implementation is
a few lane steps, and the history is the lane's own account of its messages. -/
namespace GrpcCbCore.Server.WriterImpl
open GrpcCbCore.Library

@[simp] def sights : Event Note → List (Sight StdString Status)
  | .start tag true => tag.message?.toList.map .start ++ tag.status?.toList.map .sendClose
  | .start tag false => tag.message?.toList.map (fun _ => .breaks) ++
      tag.status?.toList.map .sendClose
  | .complete tag _ _ => tag.message?.toList.map .finish
  | .note (.asyncWrite response true) => [.accept response]
  | .note (.asyncClose status) => [.askClose status]
  | .note .destroy => [.askClose .OK]
  | _ => []

def ownTag : CqTag → Bool
  | .serverWriterWrite _ _ | .serverWriterSendStatus _ _ => true
  | _ => false

/-- What the history before an event must be for the writer to do it. A batch
is started only with no message outstanding, before any status and with no
message ever refused; a status, only after everything accepted has completed. -/
def Lawful (before : List (Event Note)) : Event Note → Prop
  | .start tag _ =>
      ownTag tag = true ∧
      collect Event.sent before = collect Event.finished before ∧
      collect Event.statusAttempt before = [] ∧
      collect Event.refusedMessage before = [] ∧
      tag.hasInitMd = (collect Event.started before).isEmpty ∧
      ∀ status, tag.status? = some status →
        collect accepted before = collect Event.finished before ∧
        (collect closeCall before).head? = some status
  | .note (.asyncWrite _ true) => collect Event.statusAttempt before = []
  | _ => True

/-- The lane of a writer. Once a start was refused the queue's contents no
longer matter: nothing is sent any more. -/
structure Tracks (s : Impl) (l : Lane StdString Status) : Prop where
  ledger : Ledger (s.call.log.flatMap sights) l
  own : ∀ tag ∈ s.call.outstanding, ownTag tag = true
  outstanding : s.call.outstanding.filterMap CqTag.message? = l.flying.toList
  closing : s.closeStatus = l.closing
  closed : s.closed = (l.closeSent || l.broken)
  sending : l.broken = false → s.isSending = l.flying.isSome
  queue : l.broken = false → s.queue = l.waiting
  rest : l.broken = true → l.flying = none
  initMd : s.closed = false → s.sendInitMd = (collect Event.started s.call.log).isEmpty
  lawful : AtEach Lawful s.call.log

/-- Between sections the lane is settled as well. -/
structure Refines (s : Impl) (l : Lane StdString Status) : Prop extends Tracks s l where
  settled : l.Settled

namespace Impl

@[simp] theorem check_true (site : Site) (s : Impl) : s.check site true = s := rfl

@[simp] theorem note_call (n : Note) (s : Impl) : (s.note n).call = s.call.note n := rfl
@[simp] theorem note_closed (n : Note) (s : Impl) : (s.note n).closed = s.closed := rfl
@[simp] theorem note_sendInitMd (n : Note) (s : Impl) : (s.note n).sendInitMd = s.sendInitMd := rfl
@[simp] theorem note_isSending (n : Note) (s : Impl) : (s.note n).isSending = s.isSending := rfl
@[simp] theorem note_queue (n : Note) (s : Impl) : (s.note n).queue = s.queue := rfl
@[simp] theorem note_closeStatus (n : Note) (s : Impl) :
    (s.note n).closeStatus = s.closeStatus := rfl

end Impl

private theorem sights_columns (e : Event Note) :
    collect Sight.accepted (sights e) = (accepted e).toList ∧
    collect Sight.started (sights e) = (Event.sent e).toList ∧
    collect Sight.finished (sights e) = (Event.finished e).toList ∧
    collect Sight.asked (sights e) = (closeCall e).toList ∧
    collect Sight.closed (sights e) = (Event.statusAttempt e).toList ∧
    (collect Sight.broke (sights e) = [] ↔ Event.refusedMessage e = none) := by
  cases e with
  | start tag ok =>
    cases ok <;> cases hm : tag.message? <;> cases hs : tag.status? <;> simp [hm, hs]
  | complete tag success received => cases hm : tag.message? <;> simp [hm]
  | note n => rcases n with ⟨_, _ | _⟩ | _ | _ | _ | _ <;> simp

section columns

variable {s : Impl} {l : Lane StdString Status}

theorem Tracks.accepted (h : Tracks s l) : collect WriterImpl.accepted s.call.log = l.accepted := by
  rw [← h.ledger.accepted]
  exact (collect_flatMap _ fun e => (sights_columns e).1).symm

theorem Tracks.sent (h : Tracks s l) : collect Event.sent s.call.log = l.started := by
  rw [← h.ledger.started]
  exact (collect_flatMap _ fun e => (sights_columns e).2.1).symm

theorem Tracks.finished (h : Tracks s l) : collect Event.finished s.call.log = l.finished := by
  rw [← h.ledger.finished]
  exact (collect_flatMap _ fun e => (sights_columns e).2.2.1).symm

theorem Tracks.firstClose (h : Tracks s l) (hlive : l.broken = false) :
    (collect closeCall s.call.log).head? = l.closing := by
  rw [← h.ledger.asked hlive]
  rw [collect_flatMap _ fun e => (sights_columns e).2.2.2.1]

theorem Tracks.statusAttempt (h : Tracks s l) :
    collect Event.statusAttempt s.call.log = if l.closeSent then l.closing.toList else [] := by
  rw [← h.ledger.closed]
  exact (collect_flatMap _ fun e => (sights_columns e).2.2.2.2.1).symm

theorem Tracks.refused (h : Tracks s l) :
    l.broken = false ↔ collect Event.refusedMessage s.call.log = [] := by
  rw [h.ledger.broke]
  exact collect_flatMap_eq_nil _ fun e => (sights_columns e).2.2.2.2.2

end columns

section primitives

variable {grpc : Nat → Bool} {s : Impl} {l : Lane StdString Status}

theorem sendMsg_accepted {msg : StdString} (hclosed : s.closed = false)
    (hsending : s.isSending = false) (hok : grpc s.call.starts = true) :
    sendMsg grpc msg s = (true, { s with
      call := (s.call.startBatch grpc (.serverWriterWrite msg s.sendInitMd)).2
      isSending := true, sendInitMd := false }) := by
  simp [sendMsg, Impl.startBatch, hclosed, hsending, hok]

theorem sendMsg_refused {msg : StdString} (hclosed : s.closed = false)
    (hsending : s.isSending = false) (hok : grpc s.call.starts = false) :
    sendMsg grpc msg s = (false, { s with
      call := (s.call.startBatch grpc (.serverWriterWrite msg s.sendInitMd)).2
      isSending := true, closed := true, queue := [] }) := by
  simp [sendMsg, Impl.startBatch, hclosed, hsending, hok]

theorem sendStatus_eq {status : Status} (hclosed : s.closed = false)
    (hstatus : s.closeStatus = some status) (hqueue : s.queue = []) :
    sendStatus grpc s = { s with
      call := (s.call.startBatch grpc (.serverWriterSendStatus status s.sendInitMd)).2
      closed := true } := by
  simp [sendStatus, Impl.startBatch, hclosed, hstatus, hqueue]

theorem asyncWrite_shut {msg : StdString} (hshut : (s.closed || s.closeStatus.isSome) = true) :
    asyncWrite grpc msg s = (false, s) := by
  simp [asyncWrite, hshut]

private theorem asyncWrite_sending {msg : StdString} (hclosed : s.closed = false)
    (hstatus : s.closeStatus = none) (hsending : s.isSending = true) :
    asyncWrite grpc msg s = (true, { s with queue := s.queue ++ [msg] }) := by
  simp [asyncWrite, hclosed, hstatus, hsending]

theorem asyncWrite_idle {msg : StdString} (hclosed : s.closed = false)
    (hstatus : s.closeStatus = none) (hsending : s.isSending = false) (hqueue : s.queue = []) :
    asyncWrite grpc msg s = sendMsg grpc msg s := by
  simp [asyncWrite, hclosed, hstatus, hsending, hqueue]

theorem asyncClose_shut {status : Status} (hshut : (s.closed || s.closeStatus.isSome) = true) :
    asyncClose grpc status s = s := by
  simp [asyncClose, hshut]

private theorem asyncClose_sending {status : Status} (hclosed : s.closed = false)
    (hstatus : s.closeStatus = none) (hsending : s.isSending = true) :
    asyncClose grpc status s = { s with closeStatus := some status } := by
  simp [asyncClose, hclosed, hstatus, hsending]

private theorem asyncClose_idle {status : Status} (hclosed : s.closed = false)
    (hstatus : s.closeStatus = none) (hsending : s.isSending = false) (hqueue : s.queue = []) :
    asyncClose grpc status s = sendStatus grpc { s with closeStatus := some status } := by
  simp [asyncClose, hclosed, hstatus, hsending, hqueue]

theorem tryToWriteNext_accepted {junk rest : List StdString} {front : StdString}
    (hclosed : s.closed = false) (hqueue : s.queue = front :: rest)
    (hok : grpc s.call.starts = true) :
    tryToWriteNext grpc junk s = { s with
      call := (s.call.startBatch grpc (.serverWriterWrite front s.sendInitMd)).2
      isSending := true, sendInitMd := false, queue := rest } := by
  simp [tryToWriteNext, sendMsg, Impl.startBatch, Impl.pop, hclosed, hqueue, hok]

/-- The refusal empties the queue, and the `pop()` after it has nothing to take. -/
theorem tryToWriteNext_refused (junk : List StdString) {rest : List StdString}
    {front : StdString} (hclosed : s.closed = false) (hqueue : s.queue = front :: rest)
    (hok : grpc s.call.starts = false) :
    tryToWriteNext grpc junk s = { (({ s with
      call := (s.call.startBatch grpc (.serverWriterWrite front s.sendInitMd)).2
      isSending := true, closed := true } : Impl).note (.fault .tryToWriteNextPop)) with
        queue := junk } := by
  simp [tryToWriteNext, sendMsg, Impl.startBatch, Impl.pop, Impl.note, hclosed, hqueue, hok]

private theorem tryToWriteNext_status {junk : List StdString} {status : Status}
    (hclosed : s.closed = false) (hqueue : s.queue = []) (hstatus : s.closeStatus = some status) :
    tryToWriteNext grpc junk s = sendStatus grpc { s with isSending := false } := by
  simp [tryToWriteNext, hclosed, hqueue, hstatus]

private theorem tryToWriteNext_rest {junk : List StdString} (hclosed : s.closed = false)
    (hqueue : s.queue = []) (hstatus : s.closeStatus = none) :
    tryToWriteNext grpc junk s = { s with isSending := false } := by
  simp [tryToWriteNext, hclosed, hqueue, hstatus]

theorem Tracks.live (h : Tracks s l) (hclosed : s.closed = false) :
    l.broken = false ∧ l.closeSent = false := by
  have hboth : (l.closeSent || l.broken) = false := h.closed.symm.trans hclosed
  simpa [and_comm] using hboth

theorem Tracks.lawful_start (h : Tracks s l) (hclosed : s.closed = false)
    (hidle : l.flying = none) {tag : CqTag} (hown : ownTag tag = true)
    (hmd : tag.hasInitMd = s.sendInitMd)
    (hstatus : ∀ status, tag.status? = some status →
      l.waiting = [] ∧ l.closing = some status) (ok : Bool) :
    Lawful s.call.log (.start tag ok) := by
  obtain ⟨hlive, hunsent⟩ := h.live hclosed
  refine ⟨hown, ?_, ?_, h.refused.mp hlive, hmd.trans (h.initMd hclosed), ?_⟩
  · rw [h.sent, h.finished]
    simp [Lane.started, hidle]
  · simp [h.statusAttempt, hunsent]
  · intro status htag
    obtain ⟨hempty, hasked⟩ := hstatus status htag
    rw [h.accepted, h.finished, h.firstClose hlive]
    exact ⟨Lane.accepted_of_idle hidle hempty, hasked⟩

theorem Tracks.own_start (h : Tracks s l) {tag : CqTag} (hown : ownTag tag = true) :
    ∀ t ∈ (s.call.startBatch grpc tag).2.outstanding, ownTag t = true := by
  intro t ht
  rw [Call.startBatch_outstanding] at ht
  split at ht
  · rcases List.mem_append.mp ht with hold | hnew
    · exact h.own t hold
    · rw [List.mem_singleton.mp hnew]
      exact hown
  · exact h.own t ht

theorem Tracks.lawful_message (h : Tracks s l) (hclosed : s.closed = false)
    (hidle : l.flying = none) (m : StdString) (ok : Bool) :
    Lawful s.call.log (.start (.serverWriterWrite m s.sendInitMd) ok) :=
  h.lawful_start hclosed hidle rfl (by simp) (by simp) ok

theorem Tracks.note (h : Tracks s l) {n : Note} (hwrite : WriterImpl.accepted (.note n) = none)
    (hclose : closeCall (.note n) = none ∨ l.broken = true ∨ l.closing.isSome = true) :
    Tracks (s.note n) l :=
  { h with
    ledger := by
      rcases n with ⟨m, _ | _⟩ | status | _ | _ | _ <;> simp at hwrite hclose ⊢
      case asyncClose => exact h.ledger.askAgain status hclose
      case destroy => exact h.ledger.askAgain .OK hclose
      all_goals exact h.ledger
    initMd := by simpa using h.initMd
    lawful := by
      have hlaw : Lawful s.call.log (.note n) := by
        unfold Lawful
        split <;> simp_all
      simpa using h.lawful.snoc hlaw }

theorem Tracks.write_queued (h : Tracks s l) (m : StdString) (hclosed : s.closed = false)
    (hopen : l.closing = none) :
    Tracks (({ s with queue := s.queue ++ [m] } : Impl).note (.asyncWrite m true))
      (l.accept m hopen) :=
  { h with
    ledger := by simpa using h.ledger.accept m hopen
    queue := fun hlive => by simp [h.queue hlive]
    initMd := by simpa using h.initMd
    lawful := by
      have hlaw : Lawful s.call.log (.note (.asyncWrite m true)) := by
        simp [Lawful, h.statusAttempt, (h.live hclosed).2]
      simpa using h.lawful.snoc hlaw }

theorem Tracks.write_accepted (h : Tracks s l) (m : StdString) (hclosed : s.closed = false)
    (hidle : l.flying = none) (hempty : l.waiting = []) (hopen : l.closing = none)
    (hok : grpc s.call.starts = true) :
    Tracks (({ s with
        call := (s.call.startBatch grpc (.serverWriterWrite m s.sendInitMd)).2
        isSending := true, sendInitMd := false } : Impl).note (.asyncWrite m true))
      ((l.accept m hopen).start m [] (by simp [hempty])) :=
  { h with
    ledger := by simpa [hok] using h.ledger.start_accept m hopen hidle hempty
    own := h.own_start rfl
    outstanding := by simp [hok, h.outstanding, hidle]
    sending := fun _ => by simp
    queue := fun hlive => by simpa [hempty] using h.queue hlive
    rest := fun hbroken => absurd hbroken (by simp [(h.live hclosed).1])
    initMd := by simp [hok]
    lawful := by
      have hlaw := h.lawful_message hclosed hidle m true
      have hwrite := (h.lawful.snoc hlaw).snoc (e := .note (.asyncWrite m true)) (by
        simpa [Lawful] using hlaw.2.2.1)
      simpa [hok] using hwrite }

theorem Tracks.write_refused (h : Tracks s l) (m : StdString) (hclosed : s.closed = false)
    (hidle : l.flying = none) (hok : grpc s.call.starts = false) :
    Tracks (({ s with
        call := (s.call.startBatch grpc (.serverWriterWrite m s.sendInitMd)).2
        isSending := true, closed := true, queue := [] } : Impl).note (.asyncWrite m false))
      l.break_ :=
  { h with
    ledger := by simpa [hok] using h.ledger.break_
    own := h.own_start rfl
    outstanding := by simpa [hok] using h.outstanding
    closed := by simp
    sending := by simp
    queue := by simp
    rest := fun _ => hidle
    initMd := by simp
    lawful := by
      have hwrite := (h.lawful.snoc (h.lawful_message hclosed hidle m false)).snoc
        (e := .note (.asyncWrite m false)) (by simp [Lawful])
      simpa [hok] using hwrite }

theorem Tracks.ask_close (h : Tracks s l) {n : Note} {status : Status}
    (hclose : closeCall (.note n) = some status) (hclosed : s.closed = false)
    (hopen : l.closing = none) :
    Tracks { s.note n with closeStatus := some status } (l.askClose status) :=
  { h with
    ledger := by
      obtain ⟨hlive, hunsent⟩ := h.live hclosed
      have hasked := h.ledger.askClose status hopen hlive hunsent
      rcases n with ⟨m, _ | _⟩ | word | _ | _ | _ <;> simp at hclose
      · simpa [hclose] using hasked
      · simpa [hclose] using hasked
    closing := rfl
    initMd := by simpa using h.initMd
    lawful := by
      have hlaw : Lawful s.call.log (.note n) := by
        unfold Lawful
        split <;> simp_all
      simpa using h.lawful.snoc hlaw }

theorem Tracks.send_status (h : Tracks s l) {status : Status} (hclosed : s.closed = false)
    (hidle : l.flying = none) (hempty : l.waiting = []) (hasked : l.closing = some status) :
    Tracks (sendStatus grpc s) (l.sendClose hidle hempty (by simp [hasked])) := by
  obtain ⟨hlive, hunsent⟩ := h.live hclosed
  rw [sendStatus_eq hclosed (h.closing.trans hasked) ((h.queue hlive).trans hempty)]
  have hledger := h.ledger.sendClose hidle hempty hasked hunsent
  have hlaw : Lawful s.call.log
      (.start (.serverWriterSendStatus status s.sendInitMd) (grpc s.call.starts)) :=
    h.lawful_start hclosed hidle rfl (by simp) (by simp [hempty, hasked]) _
  exact { h with
    ledger := by cases hok : grpc s.call.starts <;> simpa [hok] using hledger
    own := h.own_start rfl
    outstanding := by cases hok : grpc s.call.starts <;> simpa [hok] using h.outstanding
    closed := by simp
    initMd := by simp
    lawful := by simpa using h.lawful.snoc hlaw }

theorem Tracks.open_of_flying (h : Tracks s l) {m : StdString} (hflying : l.flying = some m) :
    s.closed = false := by
  have hunsent : l.closeSent = false := Lane.unsent_of_flying hflying
  have hlive : l.broken = false := by
    cases hbroken : l.broken with
    | false => rfl
    | true => simp [h.rest hbroken] at hflying
  simp [h.closed, hunsent, hlive]

theorem Tracks.completes_message (h : Tracks s l) {call : Call Note} {index : Nat}
    {success : Bool} {received : Received} {m : StdString} {md : Bool}
    (hcall : s.call.complete index success received = some (.serverWriterWrite m md, call)) :
    l.flying = some m ∧ Tracks { s with call := call, isSending := false } l.finish := by
  have hown := (Call.complete_subset hcall).2
  obtain ⟨before, after, hsplit, rfl⟩ := Call.complete_eq_some hcall
  obtain ⟨hflying, hrest⟩ :=
    CqTag.only_message h.outstanding hsplit (CqTag.message?_serverWriterWrite m md)
  exact ⟨hflying, { h with
    ledger := by simpa using h.ledger.finish hflying
    own := fun tag htag => h.own tag (hown tag htag)
    outstanding := hrest
    sending := fun _ => rfl
    rest := fun _ => rfl
    initMd := by simpa using h.initMd
    lawful := by
      simpa using h.lawful.snoc (e := .complete _ success received) (by simp [Lawful]) }⟩

theorem Tracks.completes_status (h : Tracks s l) {call : Call Note} {index : Nat}
    {success : Bool} {received : Received} {status : Status} {md : Bool}
    (hcall : s.call.complete index success received =
      some (.serverWriterSendStatus status md, call)) :
    Tracks { s with call := call } l := by
  have hown := (Call.complete_subset hcall).2
  obtain ⟨before, after, hsplit, rfl⟩ := Call.complete_eq_some hcall
  exact { h with
    ledger := by simpa using h.ledger
    own := fun tag htag => h.own tag (hown tag htag)
    outstanding := by simpa [hsplit] using h.outstanding
    initMd := by simpa using h.initMd
    lawful := by
      simpa using h.lawful.snoc (e := .complete _ success received) (by simp [Lawful]) }

theorem Tracks.next_accepted (h : Tracks s l) {m : StdString} {rest : List StdString}
    (hclosed : s.closed = false) (hidle : l.flying = none) (hwaiting : l.waiting = m :: rest)
    (hok : grpc s.call.starts = true) :
    Tracks { s with
        call := (s.call.startBatch grpc (.serverWriterWrite m s.sendInitMd)).2
        isSending := true, sendInitMd := false, queue := rest } (l.start m rest hwaiting) :=
  { h with
    ledger := by simpa [hok] using h.ledger.start hwaiting hidle
    own := h.own_start rfl
    outstanding := by simp [hok, h.outstanding, hidle]
    sending := fun _ => by simp
    queue := fun _ => rfl
    rest := fun hbroken => absurd hbroken (by simp [(h.live hclosed).1])
    initMd := by simp [hok]
    lawful := by simpa [hok] using h.lawful.snoc (h.lawful_message hclosed hidle m true) }

/-- A refusal in mid-stream. What `pop()` then does to the empty queue is `junk`. -/
theorem Tracks.next_refused (h : Tracks s l) (m : StdString) (hclosed : s.closed = false)
    (hidle : l.flying = none) (hok : grpc s.call.starts = false) (junk : List StdString) :
    Tracks { (({ s with
        call := (s.call.startBatch grpc (.serverWriterWrite m s.sendInitMd)).2
        isSending := true, closed := true } : Impl).note (.fault .tryToWriteNextPop)) with
          queue := junk } l.break_ :=
  { h with
    ledger := by simpa [hok] using h.ledger.break_
    own := h.own_start rfl
    outstanding := by simpa [hok] using h.outstanding
    closed := by simp
    sending := by simp
    queue := by simp
    rest := fun _ => hidle
    initMd := by simp
    lawful := by
      have hfault := (h.lawful.snoc (h.lawful_message hclosed hidle m false)).snoc
        (e := .note (.fault .tryToWriteNextPop)) (by simp [Lawful])
      simpa [hok] using hfault }

end primitives

section sections

variable {grpc : Nat → Bool} {s : Impl} {l : Lane StdString Status}

theorem refines_fresh : Refines {} Lane.fresh where
  ledger := by simpa using Ledger.fresh
  own := by simp
  outstanding := rfl
  closing := rfl
  closed := rfl
  sending := fun _ => rfl
  queue := fun _ => rfl
  rest := by simp
  initMd := fun _ => rfl
  lawful := by simp
  settled := Lane.settled_fresh

/-- An open writer that is not sending is at rest: nothing waits, no Close. -/
theorem Refines.at_rest (h : Refines s l) (hclosed : s.closed = false)
    (hsending : s.isSending = false) :
    l.flying = none ∧ l.waiting = [] ∧ l.closing = none ∧ s.queue = [] := by
  obtain ⟨hlive, hunsent⟩ := h.live hclosed
  have hidle : l.flying = none := by simpa [hsending] using h.sending hlive
  obtain ⟨hempty, hasked⟩ := h.settled hlive hidle
  refine ⟨hidle, hempty, ?_, (h.queue hlive).trans hempty⟩
  cases hclosing : l.closing with
  | none => rfl
  | some status => simp [hclosing, hunsent] at hasked

theorem Refines.note (h : Refines s l) {n : Note} (hwrite : WriterImpl.accepted (.note n) = none)
    (hclose : closeCall (.note n) = none ∨ l.broken = true ∨ l.closing.isSome = true) :
    Refines (s.note n) l :=
  ⟨h.toTracks.note hwrite hclose, h.settled⟩

theorem Refines.setHighQueueSize (h : Refines s l) (size : Nat) :
    Refines { s with highQueueSize := size } l :=
  { h with }

theorem asyncWrite_cases (grpc : Nat → Bool) (h : Refines s l) (m : StdString) :
    asyncWrite grpc m s = (false, s) ∨
    (s.closed = false ∧ l.closing = none ∧ l.flying.isSome = true ∧
      asyncWrite grpc m s = (true, { s with queue := s.queue ++ [m] })) ∨
    (s.closed = false ∧ l.closing = none ∧ l.flying = none ∧ l.waiting = [] ∧
      grpc s.call.starts = true ∧ asyncWrite grpc m s = (true, { s with
        call := (s.call.startBatch grpc (.serverWriterWrite m s.sendInitMd)).2
        isSending := true, sendInitMd := false })) ∨
    (s.closed = false ∧ l.flying = none ∧ grpc s.call.starts = false ∧
      asyncWrite grpc m s = (false, { s with
        call := (s.call.startBatch grpc (.serverWriterWrite m s.sendInitMd)).2
        isSending := true, closed := true, queue := [] })) := by
  by_cases hshut : (s.closed || s.closeStatus.isSome) = true
  · exact .inl (asyncWrite_shut hshut)
  obtain ⟨hclosed, hstatus⟩ : s.closed = false ∧ s.closeStatus = none := by
    simpa using hshut
  have hopen : l.closing = none := h.closing.symm.trans hstatus
  refine .inr ?_
  rcases Bool.eq_false_or_eq_true s.isSending with hsending | hsending
  · have hbusy := (h.sending (h.live hclosed).1).symm.trans hsending
    exact .inl ⟨hclosed, hopen, hbusy, asyncWrite_sending hclosed hstatus hsending⟩
  · obtain ⟨hidle, hempty, -, hqueue⟩ := h.at_rest hclosed hsending
    rw [asyncWrite_idle hclosed hstatus hsending hqueue]
    cases hok : grpc s.call.starts with
    | true =>
      exact .inr (.inl ⟨hclosed, hopen, hidle, hempty, rfl,
        sendMsg_accepted hclosed hsending hok⟩)
    | false => exact .inr (.inr ⟨hclosed, hidle, rfl, sendMsg_refused hclosed hsending hok⟩)

theorem asyncClose_cases (grpc : Nat → Bool) (h : Refines s l) (n : Note) (status : Status) :
    ((l.broken = true ∨ l.closing.isSome = true) ∧
      asyncClose grpc status (s.note n) = s.note n) ∨
    (s.closed = false ∧ l.closing = none ∧ l.flying.isSome = true ∧
      asyncClose grpc status (s.note n) = { s.note n with closeStatus := some status }) ∨
    (s.closed = false ∧ l.closing = none ∧ l.flying = none ∧ l.waiting = [] ∧ s.queue = [] ∧
      asyncClose grpc status (s.note n) =
        sendStatus grpc { s.note n with closeStatus := some status }) := by
  by_cases hshut : (s.closed || s.closeStatus.isSome) = true
  · refine .inl ⟨?_, asyncClose_shut (s := s.note n) hshut⟩
    rw [h.closing, h.closed] at hshut
    cases hsent : l.closeSent with
    | true => exact .inr (l.close_last hsent).2.2
    | false => simpa [hsent] using hshut
  obtain ⟨hclosed, hstatus⟩ : s.closed = false ∧ s.closeStatus = none := by
    simpa using hshut
  have hopen : l.closing = none := h.closing.symm.trans hstatus
  refine .inr ?_
  rcases Bool.eq_false_or_eq_true s.isSending with hsending | hsending
  · have hbusy := (h.sending (h.live hclosed).1).symm.trans hsending
    exact .inl ⟨hclosed, hopen, hbusy,
      asyncClose_sending (s := s.note n) hclosed hstatus hsending⟩
  · obtain ⟨hidle, hempty, -, hqueue⟩ := h.at_rest hclosed hsending
    exact .inr ⟨hclosed, hopen, hidle, hempty, hqueue,
      asyncClose_idle (s := s.note n) hclosed hstatus hsending hqueue⟩

/-- What the completion of a message can do, `call` being what it makes of the call. -/
theorem tryToWriteNext_cases (grpc : Nat → Bool) (h : Tracks s l) (hclosed : s.closed = false)
    (call : Call Note)
    (junk : List StdString) :
    (∃ front rest, l.waiting = front :: rest ∧ grpc call.starts = true ∧
      tryToWriteNext grpc junk { s with call := call } = { s with
        call := (call.startBatch grpc (.serverWriterWrite front s.sendInitMd)).2
        isSending := true, sendInitMd := false, queue := rest }) ∨
    (∃ front, s.queue ≠ [] ∧ grpc call.starts = false ∧
      tryToWriteNext grpc junk { s with call := call } = { (({ s with
        call := (call.startBatch grpc (.serverWriterWrite front s.sendInitMd)).2
        isSending := true, closed := true } : Impl).note (.fault .tryToWriteNextPop)) with
          queue := junk }) ∨
    (∃ status, s.queue = [] ∧ l.waiting = [] ∧ l.closing = some status ∧
      tryToWriteNext grpc junk { s with call := call } =
        sendStatus grpc { s with call := call, isSending := false }) ∨
    (l.waiting = [] ∧ l.closing = none ∧
      tryToWriteNext grpc junk { s with call := call } =
        { s with call := call, isSending := false }) := by
  have hqueue := h.queue (h.live hclosed).1
  cases hwaiting : l.waiting with
  | cons front rest =>
    rw [hwaiting] at hqueue
    cases hok : grpc call.starts with
    | true =>
      exact .inl ⟨front, rest, rfl, rfl,
        tryToWriteNext_accepted (s := { s with call := call }) hclosed hqueue hok⟩
    | false =>
      exact .inr (.inl ⟨front, by simp [hqueue], rfl,
        tryToWriteNext_refused (s := { s with call := call }) junk hclosed hqueue hok⟩)
  | nil =>
    rw [hwaiting] at hqueue
    cases hasked : l.closing with
    | some status =>
      exact .inr (.inr (.inl ⟨status, hqueue, rfl, rfl, tryToWriteNext_status
        (s := { s with call := call }) hclosed hqueue (h.closing.trans hasked)⟩))
    | none =>
      exact .inr (.inr (.inr ⟨rfl, rfl, tryToWriteNext_rest
        (s := { s with call := call }) hclosed hqueue (h.closing.trans hasked)⟩))

theorem asyncWrite_refines (grpc : Nat → Bool) (h : Refines s l) (m : StdString) :
    ∃ l', Lane.Steps l l' ∧ Refines (asyncWriteSection grpc m s).2 l' := by
  unfold asyncWriteSection
  obtain heq | ⟨hclosed, hopen, hbusy, heq⟩ | ⟨hclosed, hopen, hidle, hempty, hok, heq⟩ |
    ⟨hclosed, hidle, hok, heq⟩ := asyncWrite_cases grpc h m <;> rw [heq]
  · exact ⟨l, .refl, h.note (by simp) (by simp)⟩
  · exact ⟨_, .single (.accept l m hopen (h.live hclosed).1),
      h.write_queued m hclosed hopen, Lane.settled_of_busy (.inl hbusy)⟩
  · exact ⟨_, Lane.steps_acceptStart m hopen (h.live hclosed).1 hidle hempty,
      h.write_accepted m hclosed hidle hempty hopen hok, Lane.settled_of_busy (.inl rfl)⟩
  · exact ⟨l.break_, .single (.break_ l), h.write_refused m hclosed hidle hok,
      Lane.settled_of_busy (.inr rfl)⟩

/-- A Close, with `n` the note made of it. -/
theorem asyncClose_refines (h : Refines s l) {n : Note} {status : Status}
    (hclose : closeCall (.note n) = some status) :
    ∃ l', Lane.Steps l l' ∧ Refines (asyncClose grpc status (s.note n)) l' := by
  have hwrite : WriterImpl.accepted (.note n) = none := by
    rcases n with _ | _ | _ | _ | _ <;> simp_all
  obtain ⟨hshut, heq⟩ | ⟨hclosed, hopen, hbusy, heq⟩ |
    ⟨hclosed, hopen, hidle, hempty, -, heq⟩ := asyncClose_cases grpc h n status <;>
    rw [heq]
  · exact ⟨l, .refl, h.note hwrite (.inr hshut)⟩
  · exact ⟨_, .single (.askClose l status hopen), h.ask_close hclose hclosed hopen,
      Lane.settled_of_busy (.inl hbusy)⟩
  · have hasked : Lane.Steps l (l.askClose status) := .single (.askClose l status hopen)
    have hsend : Lane.Step (l.askClose status) _ :=
      .sendClose (l.askClose status) hidle hempty rfl (h.live hclosed).2 (h.live hclosed).1
    exact ⟨_, hasked.tail hsend,
      (h.ask_close hclose hclosed hopen).send_status hclosed hidle hempty rfl,
      fun _ _ => ⟨hempty, fun _ => rfl⟩⟩

private theorem tryToWriteNext_refines (h : Refines s l) {call : Call Note} {index : Nat}
    {success : Bool} {received : Received} {m : StdString} {md : Bool}
    (hcall : s.call.complete index success received = some (.serverWriterWrite m md, call))
    (junk : List StdString) :
    ∃ l', Lane.Steps l l' ∧ Refines (tryToWriteNext grpc junk { s with call := call }) l' := by
  obtain ⟨hflying, hdone⟩ := h.completes_message hcall
  have hclosed := h.open_of_flying hflying
  obtain ⟨hlive, hunsent⟩ := h.live hclosed
  have hfinish : Lane.Steps l l.finish := .single (.finish l (by simp [hflying]))
  obtain ⟨front, rest, hwaiting, hok, heq⟩ | ⟨front, -, hok, heq⟩ |
    ⟨status, -, hwaiting, hasked, heq⟩ | ⟨hwaiting, hasked, heq⟩ :=
    tryToWriteNext_cases grpc h.toTracks hclosed call junk <;> rw [heq]
  · exact ⟨_, hfinish.tail (.start l.finish front rest hwaiting rfl hlive),
      hdone.next_accepted hclosed rfl hwaiting hok, Lane.settled_of_busy (.inl rfl)⟩
  · exact ⟨_, hfinish.tail (.break_ l.finish), hdone.next_refused front hclosed rfl hok junk,
      Lane.settled_of_busy (.inr rfl)⟩
  · have hsend : Lane.Step l.finish _ :=
      .sendClose l.finish rfl hwaiting (by simp [hasked]) hunsent hlive
    exact ⟨_, hfinish.tail hsend, hdone.send_status hclosed rfl hwaiting hasked,
      fun _ _ => ⟨hwaiting, fun _ => rfl⟩⟩
  · exact ⟨_, hfinish, hdone, fun _ _ => ⟨hwaiting, by simp [hasked]⟩⟩

private theorem doComplete_refines (h : Refines s l) {call : Call Note} {index : Nat}
    {success : Bool} {received : Received} {tag : CqTag}
    (hcall : s.call.complete index success received = some (tag, call))
    (junk : List StdString) :
    ∃ l', Lane.Steps l l' ∧ Refines (doComplete grpc tag junk { s with call := call }) l' := by
  have hown : ownTag tag = true := h.own tag (Call.complete_subset hcall).1
  cases tag with
  | serverWriterWrite m md => exact tryToWriteNext_refines h hcall junk
  | serverWriterSendStatus status md =>
    exact ⟨l, .refl, h.completes_status hcall, h.settled⟩
  | _ => simp [ownTag] at hown

private theorem runSection_refines (h : Refines s l) {pc pc' : Pc} {t : Impl}
    (hrun : runSection grpc pc s = some (pc', t)) :
    ∃ l', Lane.Steps l l' ∧ Refines t l' :=
  runSection_keeps (I := fun t => ∃ l', Lane.Steps l l' ∧ Refines t l') ⟨l, .refl, h⟩
    (asyncWrite_refines grpc h) (fun _ => asyncClose_refines h rfl)
    (fun _ _ _ _ ⟨l', hsteps, h'⟩ => ⟨l', hsteps, h'.note (by simp) (by simp)⟩) hrun

theorem Refines.queue_empty (h : Refines s l)
    (hnone : (s.call.outstanding.filterMap CqTag.message?).isEmpty = true)
    (hlive : l.broken = false) : s.queue = [] := by
  have hidle : l.flying = none := by
    rw [h.outstanding] at hnone
    cases hflying : l.flying <;> simp_all
  exact (h.queue hlive).trans (h.settled hlive hidle).1

/-- The destructor's Close. Of a broken writer it may find the queue not empty. -/
theorem destroy_refines (h : Refines s l)
    (hnone : (s.call.outstanding.filterMap CqTag.message?).isEmpty = true) :
    ∃ l', Lane.Steps l l' ∧ Refines (asyncClose grpc .OK
      ((s.note .destroy).check .destructorQueue (s.note .destroy).queue.isEmpty)) l' := by
  cases hlive : l.broken with
  | false =>
    rw [Impl.note_queue, h.queue_empty hnone hlive]
    exact asyncClose_refines h rfl
  | true =>
    have hnote := h.note (n := .destroy) (by simp) (.inr (.inl hlive))
    have hcheck : Refines ((s.note .destroy).check .destructorQueue
        (s.note .destroy).queue.isEmpty) l := by
      unfold Impl.check
      split
      · exact hnote
      · exact hnote.note (by simp) (by simp)
    have hclosed := hcheck.closed
    rw [hlive, Bool.or_true] at hclosed
    rw [asyncClose_shut (by rw [hclosed, Bool.true_or])]
    exact ⟨l, .refl, hcheck⟩

end sections

section runs

variable {grpc : Nat → Bool}

theorem step_completes_message {w w' : World} {l : Lane StdString Status}
    (h : Refines w.impl l) {index : Nat} {success : Bool} {junk : List StdString}
    {message : StdString} {md : Bool}
    (htag : w.impl.call.outstanding[index]? = some (.serverWriterWrite message md))
    (hstep : step grpc w (.complete index success junk) = some w') :
    w.impl.closed = false ∧ ∃ call,
      w.impl.call.complete index success {} = some (.serverWriterWrite message md, call) ∧
      w' = { w with impl := tryToWriteNext grpc junk { w.impl with call := call } } := by
  obtain ⟨tag, call, hcall, rfl⟩ := step_complete hstep
  cases htag.symm.trans (Call.complete_found hcall).1
  exact ⟨h.open_of_flying (h.completes_message hcall).1, call, hcall, rfl⟩

/-- One step of the threads is a few steps of the lane. -/
theorem step_refines {w w' : World} {l : Lane StdString Status} (h : Refines w.impl l)
    {label : Label} (hstep : step grpc w label = some w') :
    ∃ l', Lane.Steps l l' ∧ Refines w'.impl l' := by
  cases step_steps hstep with
  | calls => exact ⟨l, .refl, h⟩
  | runs thread pc pc' impl halive hpc hrun => exact runSection_refines h hrun
  | sets size => exact ⟨l, .refl, h.setHighQueueSize size⟩
  | completes index success junk tag call hcall => exact doComplete_refines h hcall junk
  | destroys halive hidle hnone => exact destroy_refines h hnone
  | waits => exact ⟨l, .refl, h⟩

/-- Every run of the threads is a run of the lane. -/
theorem run_refines {n : Nat} {ls : List Label} {w : World}
    (hrun : (machine grpc).run (initial n) ls = some w) :
    ∃ l, Lane.Steps Lane.fresh l ∧ Refines w.impl l :=
  Machine.invariant (M := machine grpc)
    (I := fun w => ∃ l, Lane.Steps Lane.fresh l ∧ Refines w.impl l)
    (by
      rintro w label w' ⟨l, hsteps, hl⟩ hstep
      obtain ⟨l', hsteps', hl'⟩ := step_refines hl hstep
      exact ⟨l', hsteps.trans hsteps', hl'⟩)
    ⟨Lane.fresh, .refl, refines_fresh⟩ hrun

end runs

end GrpcCbCore.Server.WriterImpl
