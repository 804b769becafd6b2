import GrpcCbCore.Server.WriterFailure
import GrpcCbCore.Server.WriterTickets
import GrpcCbCore.Library.Backlog

/-! `Write` looks at the queue's size in one section and adds to the queue in another.
The queue of a `ServerWriterImpl` whose threads only call `Write` refines the backlog
with a high mark, and is bounded as it is, up to a refusal that leaves it undefined. -/
namespace GrpcCbCore.Server.WriterImpl
open GrpcCbCore.Library

variable {grpc : Nat → Bool}

def Pc.place : Pc → Place
  | .asyncWrite _ => .low
  | .syncWrite _ => .high
  | .syncWriteWait _ _ => .waiting
  | _ => .ready

def World.backlog (w : World) : Backlog where
  size := w.impl.queue.length
  places := w.threads.map Pc.place

/-- The calls of the threads are calls of `Write`, and the mark stays as it is. -/
def writesOnly : Label → Bool
  | .call _ (.write _) => true
  | .call _ _ => false
  | .setHighQueueSize _ => false
  | _ => true

def initialHigh (n mark : Nat) : World where
  impl := { highQueueSize := mark }
  threads := List.replicate n .idle

/-- A label but for what `pop()` on an empty queue would leave. -/
def Label.known : Label → Label
  | .complete index success _ => .complete index success []
  | label => label

/-- Whatever such a `pop()` leaves, no state of the run has more than `bound` entries
queued. -/
def StaysWithin (grpc : Nat → Bool) (bound : Nat) (w : World) (ls : List Label) : Prop :=
  ∀ ls', ls'.map Label.known = ls.map Label.known →
    ((machine grpc).restrict writesOnly).Throughout (fun w => getQueueSize w.impl ≤ bound) w ls'

section mark

variable (s : Impl)

@[simp] theorem check_highQueueSize (site : Site) (holds : Bool) :
    (s.check site holds).highQueueSize = s.highQueueSize := by
  unfold Impl.check
  split <;> rfl

@[simp] theorem sendStatus_highQueueSize :
    (sendStatus grpc s).highQueueSize = s.highQueueSize := by
  simp only [sendStatus]
  split <;> simp [Impl.startBatch]

@[simp] theorem sendMsg_highQueueSize (msg : StdString) :
    (sendMsg grpc msg s).2.highQueueSize = s.highQueueSize := by
  simp only [sendMsg]
  split
  all_goals
    next hstart =>
    have hmark := congrArg (fun r => r.2.highQueueSize) hstart
    simpa [Impl.startBatch] using hmark.symm

@[simp] theorem pop_highQueueSize (junk : List StdString) :
    (s.pop junk).highQueueSize = s.highQueueSize := by
  unfold Impl.pop
  split <;> rfl

@[simp] theorem asyncWrite_highQueueSize (response : StdString) :
    (asyncWrite grpc response s).2.highQueueSize = s.highQueueSize := by
  unfold asyncWrite
  split
  · rfl
  · split <;> simp

@[simp] theorem asyncClose_highQueueSize (status : Status) :
    (asyncClose grpc status s).highQueueSize = s.highQueueSize := by
  unfold asyncClose
  split
  · rfl
  · simp only
    split <;> simp

@[simp] theorem tryToWriteNext_highQueueSize (junk : List StdString) :
    (tryToWriteNext grpc junk s).highQueueSize = s.highQueueSize := by
  unfold tryToWriteNext
  split
  · rfl
  · simp only
    split
    · simp
    · split <;> simp

@[simp] theorem doComplete_highQueueSize (tag : CqTag) (junk : List StdString) :
    (doComplete grpc tag junk s).highQueueSize = s.highQueueSize := by
  unfold doComplete
  split <;> simp

end mark

section sections

variable {s t : Impl} {l : Lane StdString Status} {pc pc' : Pc}

private theorem runSection_highQueueSize (hrun : runSection grpc pc s = some (pc', t)) :
    t.highQueueSize = s.highQueueSize :=
  runSection_keeps (I := fun u => u.highQueueSize = s.highQueueSize) rfl
    (fun _ => by simp [asyncWriteSection, Impl.note])
    (fun _ => by simp [asyncCloseSection, Impl.note]) (fun _ _ _ _ hu => hu) hrun

private theorem runSection_closed (hclosed : s.closed = true)
    (hrun : runSection grpc pc s = some (pc', t)) : t.closed = true ∧ t.queue = s.queue :=
  runSection_keeps (I := fun u => u.closed = true ∧ u.queue = s.queue) ⟨hclosed, rfl⟩
    (fun _ => by simp [asyncWriteSection, asyncWrite_shut, hclosed])
    (fun status => by
      rw [asyncCloseSection, asyncClose_shut (by simp [hclosed])]
      exact ⟨hclosed, rfl⟩)
    (fun _ _ _ _ hu => hu) hrun

private theorem asyncWriteSection_queue (grpc : Nat → Bool) (h : Refines s l) {response : StdString}
    {result : Bool} (hsection : asyncWriteSection grpc response s = (result, t)) :
    t.queue.length ≤ s.queue.length + 1 ∧
      (result = false → t.queue.length ≤ s.queue.length) := by
  unfold asyncWriteSection at hsection
  obtain heq | ⟨-, -, -, heq⟩ | ⟨-, -, -, -, -, heq⟩ | ⟨-, -, -, heq⟩ :=
    asyncWrite_cases grpc h response <;> rw [heq] at hsection <;> cases hsection <;> simp

private theorem asyncClose_queue (h : Refines s l) (n : Note) (status : Status) :
    (asyncClose grpc status (s.note n)).queue = s.queue := by
  obtain ⟨-, heq⟩ | ⟨-, -, -, heq⟩ | ⟨hclosed, -, -, -, hqueue, heq⟩ :=
    asyncClose_cases grpc h n status <;> rw [heq]
  · rfl
  · rfl
  · rw [sendStatus_eq (s := { s.note n with closeStatus := some status }) hclosed rfl hqueue]
    rfl

private theorem runSection_move (h : Refines s l) (hrun : runSection grpc pc s = some (pc', t)) :
    (pc'.place = pc.place ∧ t.queue.length = s.queue.length) ∨
      Backlog.Move s.highQueueSize s.queue.length pc.place t.queue.length pc'.place := by
  cases pc with
  | idle => simp [runSection] at hrun
  | write response =>
    cases hrun
    right
    split
    · next hhigh => exact .lookHigh hhigh
    · next hlow => exact .lookLow (by omega)
  | asyncWrite response =>
    cases hrun
    exact .inr (.add (asyncWriteSection_queue grpc h rfl).1)
  | syncWrite response =>
    simp only [runSection] at hrun
    rcases hsection : asyncWriteSection grpc response s with ⟨_ | _, u⟩ <;>
      rw [hsection] at hrun <;> cases hrun
    · exact .inr (.giveUp ((asyncWriteSection_queue grpc h hsection).2 rfl))
    · exact .inr (.addWait (asyncWriteSection_queue grpc h hsection).1)
  | syncWriteWait response ticket =>
    cases hrun
    split
    · exact .inl ⟨rfl, rfl⟩
    · next hsize => exact .inr (.wake (by simpa [getQueueSize] using hsize))
  | syncWriteResult response ticket => cases hrun; exact .inl ⟨rfl, rfl⟩
  | asyncClose status =>
    cases hrun
    exact .inl ⟨rfl, by rw [asyncCloseSection, asyncClose_queue h]⟩
  | syncClose status =>
    cases hrun
    exact .inl ⟨rfl, by rw [asyncCloseSection, asyncClose_queue h]⟩
  | syncCloseWait =>
    cases hrun
    split <;> exact .inl ⟨rfl, rfl⟩

end sections

/-- The backlog keeps within its bound, unless the writer is closed; then what is queued
stays as the close left it. -/
structure Bounded (n mark : Nat) (w : World) : Prop where
  count : w.threads.length = n
  mark_eq : w.impl.highQueueSize = mark
  size : w.backlog.Within mark ∨
    (w.impl.closed = true ∧ w.impl.queue.length ≤ mark + 2 * n - 1)

section runs

variable {n mark : Nat} {w w' : World} {l : Lane StdString Status} {label : Label}

private theorem bounded_initial (n mark : Nat) : Bounded n mark (initialHigh n mark) where
  count := by simp [initialHigh]
  mark_eq := rfl
  size := by
    left
    simpa [World.backlog, initialHigh, Pc.place] using Backlog.within_fresh mark n

theorem Bounded.queue_le (h : Bounded n mark w) : getQueueSize w.impl ≤ mark + 2 * n - 1 := by
  rcases h.size with hwithin | ⟨-, hle⟩
  · simpa [World.backlog, getQueueSize, h.count] using hwithin.size_le
  · exact hle

theorem Bounded.drain (h : Bounded n mark w) (hplaces : w'.threads.map Pc.place =
      w.threads.map Pc.place) (hmark : w'.impl.highQueueSize = w.impl.highQueueSize)
    (hclosed : w.impl.closed = true → w'.impl.closed = true)
    (hqueue : w'.impl.queue.length ≤ w.impl.queue.length) : Bounded n mark w' := by
  refine ⟨?_, hmark.trans h.mark_eq, ?_⟩
  · rw [← h.count]
    simpa using congrArg List.length hplaces
  · refine h.size.imp (fun hwithin => ?_) fun ⟨hc, hle⟩ => ⟨hclosed hc, Nat.le_trans hqueue hle⟩
    rw [World.backlog, hplaces]
    exact hwithin.step (.drain _ hqueue)

private theorem places_set {threads : List Pc} {thread : Nat} {pc pc' : Pc}
    (hpc : threads[thread]? = some pc) (hsame : pc'.place = pc.place) :
    (threads.set thread pc').map Pc.place = threads.map Pc.place := by
  have hplace : (threads.map Pc.place)[thread]? = some pc.place := by simp [hpc]
  obtain ⟨hlt, heq⟩ := List.getElem?_eq_some_iff.mp hplace
  rw [List.map_set, hsame, ← heq, List.set_getElem_self]

private theorem run_bounded (h : Refines w.impl l) (hb : Bounded n mark w) {thread : Nat}
    {pc pc' : Pc} {impl : Impl} (hpc : w.threads[thread]? = some pc)
    (hrun : runSection grpc pc w.impl = some (pc', impl)) :
    Bounded n mark { w with impl := impl, threads := w.threads.set thread pc' } := by
  obtain ⟨hsame, hqueue⟩ | hmove := runSection_move h hrun
  · exact hb.drain (places_set hpc hsame) (runSection_highQueueSize hrun)
      (fun hclosed => (runSection_closed hclosed hrun).1) (Nat.le_of_eq hqueue)
  · refine ⟨by simpa using hb.count, (runSection_highQueueSize hrun).trans hb.mark_eq, ?_⟩
    rcases hb.size with hwithin | ⟨hclosed, hle⟩
    · left
      rw [hb.mark_eq] at hmove
      have hplace : (w.threads.map Pc.place)[thread]? = some pc.place := by simp [hpc]
      have hnext := hwithin.step (.move _ hplace hmove)
      rwa [World.backlog, ← List.map_set] at hnext
    · obtain ⟨hstill, hqueue⟩ := runSection_closed hclosed hrun
      exact .inr ⟨hstill, by rw [hqueue]; exact hle⟩

private theorem complete_bounded (h : Refines w.impl l) (hb : Bounded n mark w) {call : Call Note}
    {index : Nat} {success : Bool} {received : Received} {tag : CqTag} {junk : List StdString}
    (hcall : w.impl.call.complete index success received = some (tag, call))
    (hgood : ∀ message md, tag = .serverWriterWrite message md → w.impl.queue ≠ [] →
      grpc call.starts = true) :
    Bounded n mark { w with impl := doComplete grpc tag junk { w.impl with call := call } } := by
  cases tag with
  | serverWriterWrite message md =>
    have hclosed := h.open_of_flying (h.completes_message hcall).1
    have hopen : w.impl.closed ≠ true := by simp [hclosed]
    obtain ⟨front, rest, hwaiting, -, heq⟩ | ⟨front, hqueue, hok, heq⟩ |
      ⟨status, hqueue, -, hasked, heq⟩ | ⟨-, -, heq⟩ :=
      tryToWriteNext_cases grpc h.toTracks hclosed call junk <;> rw [doComplete, heq]
    · refine hb.drain rfl rfl (fun hc => absurd hc hopen) ?_
      simp [h.queue (h.live hclosed).1, hwaiting]
    · simp [hgood message md rfl hqueue] at hok
    · refine hb.drain rfl (by simp) (fun hc => absurd hc hopen) (Nat.le_of_eq ?_)
      rw [sendStatus_eq (s := { w.impl with call := call, isSending := false }) hclosed
        (h.closing.trans hasked) hqueue]
    · exact hb.drain rfl rfl (fun hc => absurd hc hopen) (Nat.le_refl _)
  | _ => exact hb.drain rfl rfl id (Nat.le_refl _)

private theorem step_bounded (h : Refines w.impl l) (hb : Bounded n mark w)
    (hwrites : writesOnly label = true) (hgood : ¬ RefusesQueued grpc w label)
    (hstep : step grpc w label = some w') : Bounded n mark w' := by
  cases step_steps hstep with
  | calls thread request halive hpc =>
    cases request with
    | write response => exact hb.drain (places_set hpc rfl) rfl id (Nat.le_refl _)
    | _ => simp [writesOnly] at hwrites
  | runs thread pc pc' impl halive hpc hrun => exact run_bounded h hb hpc hrun
  | sets => simp [writesOnly] at hwrites
  | completes index success junk tag call hcall =>
    obtain ⟨hfound, hstarts⟩ := Call.complete_found hcall
    refine complete_bounded h hb hcall ?_
    rintro message md rfl hqueue
    by_contra hrefused
    exact hgood ⟨index, success, junk, message, md, rfl, hfound, hqueue, by
      simpa [hstarts] using hrefused⟩
  | destroys halive hidle hnone =>
    refine hb.drain rfl (by simp [Impl.note]) (destroy_extends h hnone).closed ?_
    obtain heq | ⟨-, heq | heq⟩ := destroy_cases grpc h hnone rfl <;> rw [heq]
    · exact Nat.le_of_eq (congrArg List.length (asyncClose_queue h _ _))
    · simp
    · simp
  | waits => exact hb.drain rfl rfl id (Nat.le_refl _)

private theorem tryToWriteNext_junk {s : Impl} (hclosed : s.closed = false)
    (hgood : s.queue = [] ∨ grpc s.call.starts = true) (junk junk' : List StdString) :
    tryToWriteNext grpc junk s = tryToWriteNext grpc junk' s := by
  cases hqueue : s.queue with
  | nil => simp [tryToWriteNext, hqueue]
  | cons front rest =>
    have hok : grpc s.call.starts = true := hgood.resolve_left (by simp [hqueue])
    rw [tryToWriteNext_accepted hclosed hqueue hok, tryToWriteNext_accepted hclosed hqueue hok]

/-- What `pop()` would leave on an empty queue is nothing to a step that makes none. -/
theorem step_known (h : Refines w.impl l) (hgood : ¬ RefusesQueued grpc w label) {label' : Label}
    (hknown : label'.known = label.known) : step grpc w label' = step grpc w label := by
  cases label with
  | complete index success junk =>
    cases label' with
    | complete index' success' junk' =>
      obtain ⟨rfl, rfl⟩ : index' = index ∧ success' = success := by
        simpa [Label.known] using hknown
      simp only [step]
      cases hcall : w.impl.call.complete index' success' {} with
      | none => rfl
      | some found =>
        obtain ⟨tag, call⟩ := found
        obtain ⟨hfound, hstarts⟩ := Call.complete_found hcall
        have hsame : doComplete grpc tag junk' { w.impl with call := call } =
            doComplete grpc tag junk { w.impl with call := call } := by
          cases tag with
          | serverWriterWrite message md =>
            have hclosed := h.open_of_flying (h.completes_message hcall).1
            refine tryToWriteNext_junk (s := { w.impl with call := call }) hclosed ?_ junk' junk
            by_contra hrefused
            obtain ⟨hqueue, hok⟩ : w.impl.queue ≠ [] ∧ grpc call.starts = false := by
              simpa using hrefused
            exact hgood ⟨index', success', junk, message, md, rfl, hfound, hqueue, hstarts ▸ hok⟩
          | _ => rfl
        simp only [hsame]
    | _ => simp [Label.known] at hknown
  | _ => cases label' <;> simp_all [Label.known]

/-- A refusal of a queued message may leave any number of entries. -/
theorem refusesQueued_leaves (h : Refines w.impl l) (hbad : RefusesQueued grpc w label)
    (junk : List StdString) : ∃ label' w', label'.known = label.known ∧
      writesOnly label' = true ∧ step grpc w label' = some w' ∧ w'.impl.queue = junk := by
  obtain ⟨index, success, other, message, md, rfl, htag, hqueue, hok⟩ := hbad
  obtain ⟨w', hstep⟩ : ∃ w', step grpc w (.complete index success junk) = some w' := by
    simp [step, Call.complete, htag]
  obtain ⟨hclosed, call, hcall, rfl⟩ := step_completes_message h htag hstep
  obtain ⟨front, rest, hwaiting⟩ := List.exists_cons_of_ne_nil hqueue
  have hrefuses : grpc call.starts = false := by rw [(Call.complete_found hcall).2, hok]
  refine ⟨.complete index success junk, _, rfl, rfl, hstep, ?_⟩
  rw [tryToWriteNext_refused (s := { w.impl with call := call }) junk hclosed hwaiting hrefuses]

private theorem restrict_bounded {w w' : World} {label : Label}
    (h : (∃ l, Refines w.impl l) ∧ Bounded n mark w) (hgood : ¬ RefusesQueued grpc w label)
    (hstep : ((machine grpc).restrict writesOnly).step w label = some w') :
    (∃ l, Refines w'.impl l) ∧ Bounded n mark w' := by
  obtain ⟨⟨l, h⟩, hb⟩ := h
  obtain ⟨hwrites, hstep⟩ := Machine.restrict_step.mp hstep
  obtain ⟨l', -, h'⟩ := step_refines h hstep
  exact ⟨⟨l', h'⟩, step_bounded h hb hwrites hgood hstep⟩

private theorem run_within {ls : List Label} (h : (∃ l, Refines w.impl l) ∧ Bounded n mark w)
    (halong : ((machine grpc).restrict writesOnly).Along
      (fun w label => ¬ RefusesQueued grpc w label) w ls) :
    StaysWithin grpc (mark + 2 * n - 1) w ls := by
  rintro ls' hknown before after w' rfl hrun
  have hsame := Machine.run_similar (M := (machine grpc).restrict writesOnly)
    (I := fun w => (∃ l, Refines w.impl l) ∧ Bounded n mark w)
    (fun _ _ _ h hgood hstep => restrict_bounded h hgood hstep)
    (fun w label label' h hgood hkey => ?_) h halong hknown
  · rw [hsame] at hrun
    have htaken : ((machine grpc).restrict writesOnly).Along
        (fun w label => ¬ RefusesQueued grpc w label) w (ls.take before.length) := by
      intro first label rest u hls hu
      refine halong first label (rest ++ ls.drop before.length) u ?_ hu
      rw [← List.cons_append, ← List.append_assoc, ← hls, List.take_append_drop]
    exact (Machine.invariant_along (fun _ _ _ h hgood hstep => restrict_bounded h hgood hstep) h
      htaken hrun).2.queue_le
  · obtain ⟨⟨l, h⟩, -⟩ := h
    have hwrites : writesOnly label' = writesOnly label := by
      cases label <;> cases label' <;> simp_all [Label.known, writesOnly]
    simp only [Machine.restrict, hwrites]
    rw [show (machine grpc).step w label' = _ from step_known h hgood hkey]
    rfl

end runs

/-- Threads that only call `Write` keep the queue at `mark + 2 * n - 1` entries or fewer,
just when no start of a queued message is refused. -/
theorem queue_bounded_iff {n mark : Nat} {ls : List Label} {w : World}
    (hrun : ((machine grpc).restrict writesOnly).run (initialHigh n mark) ls = some w) :
    StaysWithin grpc (mark + 2 * n - 1) (initialHigh n mark) ls ↔
      ((machine grpc).restrict writesOnly).Along
        (fun w label => ¬ RefusesQueued grpc w label) (initialHigh n mark) ls := by
  have hinit : (∃ l, Refines (initialHigh n mark).impl l) ∧
      Bounded n mark (initialHigh n mark) :=
    ⟨⟨_, refines_fresh.setHighQueueSize mark⟩, bounded_initial n mark⟩
  constructor
  · rintro hstays before label after w' rfl hbefore hbad
    obtain ⟨l, h⟩ : ∃ l, Refines w'.impl l :=
      Machine.invariant (M := (machine grpc).restrict writesOnly)
        (I := fun w => ∃ l, Refines w.impl l) (fun _ _ _ ⟨_, h⟩ hstep => by
          obtain ⟨l', -, h'⟩ := step_refines h (Machine.restrict_step.mp hstep).2
          exact ⟨l', h'⟩) hinit.1 hbefore
    obtain ⟨label', w'', hknown, hwrites, hstep, hqueue⟩ :=
      refusesQueued_leaves h hbad (List.replicate (mark + 2 * n + 1) [])
    have hlong := hstays (before ++ label' :: after) (by simp [hknown]) (before ++ [label']) after
      w'' (by simp) ((Machine.run_append _).mpr ⟨w', hbefore, (Machine.run_cons _).mpr
        ⟨w'', Machine.restrict_step.mpr ⟨hwrites, hstep⟩, rfl⟩⟩)
    simp only [getQueueSize, hqueue, List.length_replicate] at hlong
    omega
  · exact run_within hinit

/-- A single thread, with a mark of one: the third message finds the queue at the mark,
and goes one past it. -/
def pastMarkLabels : List Label :=
  [.call 0 (.write [1]), .run 0, .run 0, .call 0 (.write [2]), .run 0, .run 0,
    .call 0 (.write [3]), .run 0, .run 0]

theorem queue_bounded_past_mark :
    ∃ w, ((machine fun _ => true).restrict writesOnly).run (initialHigh 1 1) pastMarkLabels =
        some w ∧ getQueueSize w.impl = 2 ∧
      StaysWithin (fun _ => true) (1 + 2 * 1 - 1) (initialHigh 1 1) pastMarkLabels := by
  have hrun : ((machine fun _ => true).restrict writesOnly).run (initialHigh 1 1)
    pastMarkLabels = some _ := rfl
  refine ⟨_, hrun, rfl, (queue_bounded_iff hrun).mpr ?_⟩
  rintro before label after w - - ⟨-, -, -, -, -, -, -, -, hok⟩
  cases hok

/-- The second message is queued and then refused; the queue, emptied by the refusal and
popped once more, may be left with three entries. -/
def overflowLabels : List Label :=
  [.call 0 (.write [1]), .run 0, .run 0, .call 0 (.write [2]), .run 0, .run 0,
    .complete 0 true [[], [], []]]

theorem refused_pop_overflows :
    ∃ w, ((machine fun k => k = 0).restrict writesOnly).run (initialHigh 1 1) overflowLabels =
        some w ∧ getQueueSize w.impl = 3 ∧
      ¬ StaysWithin (fun k => k = 0) (1 + 2 * 1 - 1) (initialHigh 1 1) overflowLabels := by
  have hrun : ((machine fun k => k = 0).restrict writesOnly).run (initialHigh 1 1)
    overflowLabels = some _ := rfl
  refine ⟨_, hrun, rfl, fun hall => ?_⟩
  exact absurd (hall overflowLabels rfl overflowLabels [] _ (List.append_nil _).symm hrun)
    (by decide)

end GrpcCbCore.Server.WriterImpl
