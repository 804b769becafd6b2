import GrpcCbCore.Client.ReaderWriterDelivery
import GrpcCbCore.Client.ReaderWriterEnds
import GrpcCbCore.Common.Wire

/-! The read half of `ClientAsyncReaderWriterImpl`: what its message callback hears of what
its reads have brought. -/
namespace GrpcCbCore.Client.ReaderWriterImpl
open GrpcCbCore.Library Relation

@[simp] def heard : Event Note → Option StdString
  | .note (.msgCb sMsg) => some sMsg
  | _ => none

def taken (s : Impl) : List StdString := collect (Event.brought .clientReaderRead) s.call.log

/-- The history goes on, but nothing is heard and nothing completes. -/
def Silently (c c' : Call Note) : Prop :=
  ∃ more, c'.log = c.log ++ more ∧ ∀ e ∈ more, heard e = none ∧ e.completion = none

namespace Silently

variable {grpc : Nat → Bool} {c c' c'' : Call Note}

private theorem refl (c : Call Note) : Silently c c := ⟨[], by simp, by simp⟩

private theorem trans (h : Silently c c') (h' : Silently c' c'') : Silently c c'' := by
  obtain ⟨more, hlog, hmore⟩ := h
  obtain ⟨more', hlog', hmore'⟩ := h'
  refine ⟨more ++ more', by rw [hlog', hlog, List.append_assoc], fun e he => ?_⟩
  rcases List.mem_append.mp he with he | he
  · exact hmore e he
  · exact hmore' e he

private theorem start (tag : CqTag) : Silently c (c.startBatch grpc tag).2 :=
  ⟨[.start tag (grpc c.starts)], rfl, by simp⟩

private theorem notes {ns : List Note} (hns : ∀ n ∈ ns, heard (.note n) = none) :
    Silently c (c.notes ns) := by
  refine ⟨ns.map .note, rfl, fun e he => ?_⟩
  obtain ⟨n, hn, rfl⟩ := List.mem_map.mp he
  exact ⟨hns n hn, rfl⟩

private theorem note {n : Note} (hn : heard (.note n) = none) : Silently c (c.note n) :=
  ⟨[.note n], rfl, by simpa using hn⟩

private theorem grows (h : Silently c c') : c.log <+: c'.log := by
  obtain ⟨more, hlog, -⟩ := h
  exact ⟨more, hlog.symm⟩

private theorem heard_eq (h : Silently c c') : collect heard c'.log = collect heard c.log := by
  obtain ⟨more, hlog, hmore⟩ := h
  rw [hlog, collect_append, collect_eq_nil _ _ fun e he => (hmore e he).1, List.append_nil]

private theorem completions_eq (h : Silently c c') : c'.completions = c.completions := by
  obtain ⟨more, hlog, hmore⟩ := h
  rw [Call.completions, hlog, collect_append, collect_eq_nil _ _ fun e he => (hmore e he).2,
    List.append_nil]
  rfl

theorem brought_eq (h : Silently c c') : collect (Event.brought .clientReaderRead) c'.log =
    collect (Event.brought .clientReaderRead) c.log := by
  refine Call.collect_same (fun e he => ?_) h.completions_eq
  cases e <;> simp_all

end Silently

section acts

variable {grpc : Nat → Bool} {s t u v : Impl}

theorem Alive.silently (h : Alive grpc s t) : Silently s.call t.call := by
  cases h with
  | ignoredWrite msg => exact .note rfl
  | closedAgain hclosing => exact .note rfl
  | init hnew hsend hrecv => exact (Silently.start _).trans (.start _)
  | queued msg hopen hqueue => exact .note rfl
  | sent msg hopen hqueue hgrpc => exact (Silently.start _).trans (.note rfl)
  | closes hopen hqueue => exact .note rfl
  | halfCloses hopen hqueue hgrpc => exact (Silently.note rfl).trans (.start _)
  | reads hasMsgCb hinit hnew hgrpc => exact .start _

theorem Fatal.silently (h : Fatal grpc s u) : Silently s.call u.call := by
  cases h with
  | set status => exact .note rfl
  | initSend reading hreading hnew hsend => exact .start _
  | initRecv reading hreading hnew hsend hrecv => exact (Silently.start _).trans (.start _)
  | message msg hopen hqueue hgrpc => exact .start _
  | close hopen hqueue hgrpc => exact (Silently.note rfl).trans (.start _)
  | read hasMsgCb hgrpc => exact .start _

theorem Quiet.unheard {n : Note} (hn : Quiet n) : heard (.note n) = none := by
  cases n <;> simp_all [Quiet]

theorem Ghostly.unheard {n : Note} (hn : Ghostly n) : heard (.note n) = none := by
  cases n <;> simp_all [Ghostly]

theorem Errored.silently (h : Errored u v) : Silently u.call v.call := by
  obtain ⟨error, ns, -, hns, hcall⟩ := h.notes
  rw [hcall]
  apply Silently.notes
  intro n hn
  simp only [List.mem_append, List.mem_cons] at hn
  rcases hn with (rfl | hn) | hn
  · rfl
  · split at hn
    · rw [List.mem_singleton.mp hn]
      rfl
    · simp at hn
  · exact (hns n hn).unheard

theorem Frozen.silently (h : Frozen s t) : Silently s.call t.call := by
  obtain ⟨ns, hns, hcall⟩ := h.notes
  rw [hcall]
  exact .notes fun n hn => (hns n hn).unheard

theorem Undead.silently (h : Undead grpc u t) : Silently u.call t.call := by
  obtain ⟨ns, ms, hnotes, hcall | hcall⟩ := h.call
  · rw [hcall]
    exact .notes fun n hn => (hnotes n hn).unheard
  · rw [hcall]
    exact ((Silently.notes fun n hn => (hnotes n (List.mem_append_left ms hn)).unheard).trans
      (.start _)).trans (.notes fun n hn => (hnotes n (List.mem_append_right ns hn)).unheard)

private theorem runOps_silently (hcore : Core s) (ops : List Op) :
    Silently s.call (runOps grpc ops s).call := by
  rcases Bool.eq_false_or_eq_true s.status.ok with hok | hfailed
  · exact (runOps_acts hcore hok ops).keeps (J := fun u => Silently s.call u.call)
      (fun _ _ _ _ halive hs => hs.trans halive.silently)
      (fun _ _ _ _ _ hfatal herrored hs => (hs.trans hfatal.silently).trans herrored.silently)
      (fun _ _ _ hfrozen hs => hs.trans hfrozen.silently) hcore hok (.refl _)
  · exact (runOps_frozen hfailed ops).silently

private theorem callStatusCb_silently (hcore : Core s) (cb : List Op) :
    Silently s.call (callStatusCb (runOps grpc cb) s).call := by
  unfold callStatusCb
  split
  · have hcore' : Core (s.note (.statusCb s.status)) := { hcore with }
    have hnote : Silently s.call (s.note (.statusCb s.status)).call := .note rfl
    exact hnote.trans (runOps_silently hcore' cb)
  · exact .refl _

private theorem goesOn_silently (script : Script) (hcore : Core u) :
    Silently u.call (goesOn grpc script u).call := by
  have hnote : Silently u.call (u.call.note (.msgCbReturns script.msgCbResult)) := .note rfl
  rcases Bool.eq_false_or_eq_true u.status.ok with hok | hfailed
  · rcases goesOn_cases grpc script hok with herrored | ⟨-, heq⟩ | ⟨-, herrored⟩
    · exact hnote.trans herrored.silently
    · rw [heq]
      exact hnote.trans (.start _)
    · exact (hnote.trans (.start _)).trans herrored.silently
  · exact (goesOn_dead script hfailed (hcore.silenced hfailed)).silently

theorem Sent.silently {call : Call Note} {success : Bool} {cb : List Op}
    (hsent : Sent grpc cb s call success t) (hcore : Core s) : Silently call t.call := by
  cases hsent with
  | failed t herrored => exact herrored.silently
  | next front rest hqueue hgrpc => exact .start _
  | nextRefused front rest t hqueue hgrpc herrored =>
    exact (Silently.start _).trans herrored.silently
  | idle hqueue hopen => exact .refl _
  | closes hqueue hclosing hreading hgrpc => exact .start _
  | ends hqueue hclosing hreading hgrpc =>
    exact (Silently.start _).trans (callStatusCb_silently (hcore.half_closes hclosing _ _) cb)
  | closeRefused t hqueue hclosing hgrpc herrored =>
    exact (Silently.start _).trans herrored.silently

end acts

/-- A live object has heard all that was taken, if it has a message callback; any other a
beginning of it. -/
structure Hears (s : Impl) : Prop where
  untaken : s.readingStarted = false → taken s = []
  all : s.status.ok = true → s.msgCb = true → collect heard s.call.log = taken s
  first : collect heard s.call.log <+: taken s

section hears

variable {grpc : Nat → Bool} {s t u v : Impl} {call : Call Note}

theorem Hears.goes_on (h : Hears s) (hcall : Silently s.call t.call)
    (hstarted : t.readingStarted = false → s.readingStarted = false)
    (hall : t.status.ok = true → t.msgCb = true → collect heard s.call.log = taken s) :
    Hears t := by
  have htaken : taken t = taken s := hcall.brought_eq
  constructor
  · intro hnew
    rw [htaken, h.untaken (hstarted hnew)]
  · intro hok hcb
    rw [hcall.heard_eq, htaken, hall hok hcb]
  · rw [hcall.heard_eq, htaken]
    exact h.first

theorem Alive.hears (halive : Alive grpc s t) (h : Hears s) : Hears t := by
  have hcall := halive.silently
  cases halive with
  | reads hasMsgCb hinit hnew hgrpc =>
    refine h.goes_on hcall (by simp) fun _ _ => ?_
    have hnone := h.untaken hnew
    have hfirst := h.first
    rw [hnone, List.prefix_nil] at hfirst
    rw [hfirst, hnone]
  | _ => exact h.goes_on hcall id h.all

theorem Hears.dies (h : Hears s) (hcall : Silently s.call t.call)
    (hstarted : s.readingStarted = true → t.readingStarted = true)
    (hdead : t.status.ok = false) : Hears t := by
  refine h.goes_on hcall (fun hnew => ?_) (by simp [hdead])
  by_contra hold
  simp [hstarted (by simpa using hold)] at hnew

theorem Fatal.started (hfatal : Fatal grpc s u) :
    s.readingStarted = true → u.readingStarted = true := by
  cases hfatal with
  | initSend reading hreading => exact hreading
  | initRecv reading hreading => exact hreading
  | read => exact fun _ => rfl
  | _ => exact id

private theorem runOps_hears (hcore : Core s) (h : Hears s) (ops : List Op) :
    Hears (runOps grpc ops s) := by
  rcases Bool.eq_false_or_eq_true s.status.ok with hok | hfailed
  · refine (runOps_acts hcore hok ops).keeps (fun _ _ _ _ halive hs => halive.hears hs) ?_
      (fun _ _ _ hfrozen hs => hs.dies hfrozen.silently hfrozen.started hfrozen.failed) hcore hok h
    intro s u v _ _ hfatal herrored hs
    exact hs.dies (hfatal.silently.trans herrored.silently)
      (fun hstarted => herrored.started (hfatal.started hstarted)) herrored.failed
  · have hfrozen : Frozen s (runOps grpc ops s) := runOps_frozen hfailed ops
    exact h.dies hfrozen.silently hfrozen.started hfrozen.failed

private theorem callStatusCb_hears (hcore : Core s) (h : Hears s) (cb : List Op) :
    Hears (callStatusCb (runOps grpc cb) s) := by
  unfold callStatusCb
  split
  · have hcore' : Core (s.note (.statusCb s.status)) := { hcore with }
    have hnote : Hears (s.note (.statusCb s.status)) := h.goes_on (.note rfl) id h.all
    have hafter : Hears (runOps grpc cb (s.note (.statusCb s.status))) :=
      runOps_hears hcore' hnote cb
    exact { hafter with }
  · exact h

theorem Errored.hears (herrored : Errored u v) (h : Hears u) : Hears v :=
  h.dies herrored.silently herrored.started herrored.failed

theorem Sent.hears {success : Bool} {cb : List Op} (hsent : Sent grpc cb s call success t)
    (hcore : Core s) (h : Hears { s with call := call }) : Hears t := by
  have hstart (queue : List StdString) (sent ended : Bool) (tag : CqTag) : Hears { s with
      msgQueue := queue, hasSentClose := sent, writingEnded := ended
      call := (call.startBatch grpc tag).2 } :=
    h.goes_on (.start tag) id h.all
  cases hsent with
  | failed t herrored => exact herrored.hears { h with }
  | next front rest hqueue hgrpc => exact hstart _ _ _ _
  | nextRefused front rest t hqueue hgrpc herrored => exact herrored.hears (hstart _ _ _ _)
  | idle hqueue hopen => exact { h with }
  | closes hqueue hclosing hreading hgrpc => exact hstart _ _ _ _
  | ends hqueue hclosing hreading hgrpc =>
    exact callStatusCb_hears (hcore.half_closes hclosing _ _) (hstart _ _ _ _) cb
  | closeRefused t hqueue hclosing hgrpc herrored => exact herrored.hears (hstart _ _ _ _)

private theorem goesOn_hears (script : Script) (hcore : Core u) (h : Hears u) :
    Hears (goesOn grpc script u) := by
  have hnote : Hears (u.note (.msgCbReturns script.msgCbResult)) := h.goes_on (.note rfl) id h.all
  have hread : Hears { u with
      call := ((u.call.note (.msgCbReturns script.msgCbResult)).startBatch grpc
        .clientReaderRead).2 } := hnote.goes_on (.start _) id hnote.all
  rcases Bool.eq_false_or_eq_true u.status.ok with hok | hfailed
  · rcases goesOn_cases grpc script hok with herrored | ⟨-, heq⟩ | ⟨-, herrored⟩
    · exact herrored.hears hnote
    · rw [heq]
      exact hread
    · exact herrored.hears hread
  · have hundead : Undead grpc u (goesOn grpc script u) :=
      goesOn_dead script hfailed (hcore.silenced hfailed)
    exact h.dies hundead.silently (by simp [hundead.started]) hundead.failed

theorem Hears.complete (h : Hears s) {index : Nat} {success : Bool} {received : Received}
    {tag : CqTag} (hcall : s.call.complete index success received = some (tag, call))
    (hread : tag = .clientReaderRead → s.readingStarted = true)
    (hnone : (Event.brought .clientReaderRead (.complete tag success received : Event Note)) = none
      ∨ s.status.ok = false ∨ s.msgCb = false) : Hears { s with call := call } := by
  have hlog := Call.complete_log hcall
  have htaken : taken { s with call := call } = taken s ++
      (Event.brought .clientReaderRead (.complete tag success received : Event Note)).toList := by
    simp only [taken, hlog, collect_append, collect_cons, collect_nil, List.append_nil]
  have hheard : collect heard call.log = collect heard s.call.log := by simp [hlog]
  constructor
  · intro hnew
    rw [htaken, h.untaken hnew]
    have htag : tag ≠ .clientReaderRead := by
      rintro rfl
      simp [hread rfl] at hnew
    cases success <;> simp [htag]
  · intro hok hcb
    rw [hheard, htaken, h.all hok hcb]
    rcases hnone with hnone | hfailed | hdeaf
    · rw [hnone, Option.toList_none, List.append_nil]
    · simp [hfailed] at hok
    · simp [hdeaf] at hcb
  · rw [hheard, htaken]
    exact h.first.trans (List.prefix_append _ _)

theorem Heard.keeps_hears {index : Nat} {script : Script} {success : Bool} {received : Received}
    (hheard : Heard grpc script s call success received t) (hcore : Core s)
    (hok : s.status.ok = true) (hstarted : s.readingStarted = true) (h : Hears s)
    (hcall : s.call.complete index success received = some (.clientReaderRead, call)) :
    Hears t := by
  have hquiet := h.complete hcall fun _ => hstarted
  cases hheard with
  | failed _ t herrored => exact herrored.hears (hquiet (.inl rfl))
  | closes _ hnone hwriting => exact { hquiet (.inl (by simp [hnone])) with }
  | ends _ hnone hwriting =>
    have hcore' : Core { s with call := call, readingEnded := true } := { hcore with }
    exact callStatusCb_hears hcore' { hquiet (.inl (by simp [hnone])) with } script.statusCb
  | garbled _ t hbuf herrored => exact herrored.hears (hquiet (.inl (by simp [hbuf])))
  | reads _ bytes hbuf hcb hgrpc =>
    have hafter := hquiet (.inr (.inr hcb))
    exact hafter.goes_on (.start _) id hafter.all
  | readRefused _ bytes t hbuf hcb hgrpc herrored =>
    have hafter := hquiet (.inr (.inr hcb))
    exact herrored.hears (hafter.goes_on (.start _) id hafter.all)
  | hears _ bytes hbuf hcb =>
    have hlog := Call.complete_log hcall
    have hcore' : Core { s with call := call.note (.msgCb bytes) } := { hcore with }
    have hall := h.all hok hcb
    have hnote : Hears { s with call := call.note (.msgCb bytes) } := by
      have heq : collect heard (call.note (.msgCb bytes)).log =
          taken { s with call := call.note (.msgCb bytes) } := by
        simp only [taken] at hall ⊢
        simp [hlog, hbuf, hall]
      exact ⟨by simp [hstarted], fun _ _ => heq, heq ▸ List.prefix_rfl⟩
    exact goesOn_hears script ((runOps_acts hcore' hok script.msgCb).core hcore' hok)
      (runOps_hears hcore' hnote script.msgCb)

theorem step_hears {l : Lane StdString Unit} {label : Label} (h : Refines s l) (hhears : Hears s)
    (hstep : step grpc s label = some t) : Hears t := by
  cases step_cases h hstep with
  | op op =>
    have hops : Hears (runOps grpc [op] s) := runOps_hears h.core hhears [op]
    simpa [runOps] using hops
  | sent _ success _ _ m call t hcall hok hsent =>
    exact hsent.hears h.core (hhears.complete hcall (by simp) (.inl (by cases success <;> simp)))
  | sentDead _ success _ _ m call hcall hfailed =>
    exact { hhears.complete hcall (by simp) (.inr (.inl hfailed)) with }
  | heard _ _ _ _ call t hcall hok hstarted hheard =>
    exact hheard.keeps_hears h.core hok hstarted hhears hcall
  | silent _ success _ _ tag call hcall hmsg hdead =>
    apply hhears.complete hcall
    · rintro rfl
      simpa [ownTag] using h.own _ (Call.complete_subset hcall).1
    · by_cases htag : tag = .clientReaderRead
      · exact .inr (.inl (hdead htag))
      · exact .inl (by cases success <;> simp [htag])

theorem run_hears {statusCb : Bool} {ls : List Label}
    (hrun : (machine grpc).run (clientAsyncReaderWriterImpl statusCb) ls = some s) : Hears s := by
  have hfresh : Hears (clientAsyncReaderWriterImpl statusCb) :=
    ⟨fun _ => rfl, fun _ _ => rfl, List.prefix_rfl⟩
  refine ((machine grpc).invariant (I := fun s => (∃ l, Refines s l) ∧ Hears s) ?_
    ⟨⟨_, refines_fresh statusCb⟩, hfresh⟩ hrun).2
  rintro s label t ⟨⟨l, h⟩, hhears⟩ hstep
  exact ⟨step_refines h hstep, step_hears h hhears hstep⟩

end hears

section grows

variable {grpc : Nat → Bool} {s t : Impl} {l l' : Lane StdString Unit} {call : Call Note}

theorem Heard.silently {script : Script} {success : Bool} {received : Received}
    (hheard : Heard grpc script s call success received t) (hcore : Core s)
    (hok : s.status.ok = true) :
    Silently call t.call ∨ ∃ bytes, Silently (call.note (.msgCb bytes)) t.call := by
  cases hheard with
  | failed _ t herrored => exact .inl herrored.silently
  | closes _ hnone hwriting => exact .inl (.refl call)
  | ends _ hnone hwriting =>
    have hcore' : Core { s with call := call, readingEnded := true } := { hcore with }
    exact .inl (callStatusCb_silently hcore' script.statusCb)
  | garbled _ t hbuf herrored => exact .inl herrored.silently
  | reads _ bytes hbuf hcb hgrpc => exact .inl (.start _)
  | readRefused _ bytes t hbuf hcb hgrpc herrored =>
    exact .inl ((Silently.start _).trans herrored.silently)
  | hears _ bytes hbuf hcb =>
    have hcore' : Core { s with call := call.note (.msgCb bytes) } := { hcore with }
    have hacts : Acts grpc { s with call := call.note (.msgCb bytes) }
        (runOps grpc script.msgCb { s with call := call.note (.msgCb bytes) }) :=
      runOps_acts hcore' hok script.msgCb
    exact .inr ⟨bytes, (runOps_silently hcore' script.msgCb).trans
      (goesOn_silently script (hacts.core hcore' hok))⟩

def Completes (s : Impl) (label : Label) (done : CqTag × Bool × Received) : Prop :=
  ∃ index script, label = .complete index done.2.1 done.2.2 script ∧
    s.call.outstanding[index]? = some done.1

theorem step_adds {label : Label} (h : Refines s l) (hstep : step grpc s label = some t) :
    s.call.log <+: t.call.log ∧ (t.call.completions = s.call.completions ∨
      ∃ done, Completes s label done ∧
        t.call.completions = s.call.completions ++ [done]) := by
  have hcomplete {index : Nat} {success : Bool} {received : Received} {script : Script}
      {tag : CqTag} {call call' : Call Note} {t : Impl}
      (hcall : s.call.complete index success received = some (tag, call))
      (hlog : call.log <+: call'.log) (hsame : call'.completions = call.completions)
      (ht : Silently call' t.call) :
      s.call.log <+: t.call.log ∧ (t.call.completions = s.call.completions ∨
        ∃ done, Completes s (.complete index success received script) done ∧
          t.call.completions = s.call.completions ++ [done]) := by
    refine ⟨?_, .inr ⟨(tag, success, received), ⟨index, script, rfl, ?_⟩, ?_⟩⟩
    · rw [Call.complete_log hcall] at hlog
      exact ((List.prefix_append _ _).trans hlog).trans ht.grows
    · exact (Call.complete_found hcall).1
    · rw [ht.completions_eq, hsame, Call.completions_complete hcall]
  cases step_cases h hstep with
  | op op =>
    have hsilent : Silently s.call (runOp grpc op s).call := by
      simpa [runOps] using runOps_silently (s := s) h.core [op]
    exact ⟨hsilent.grows, .inl hsilent.completions_eq⟩
  | sent _ _ _ _ m call t hcall hok hsent =>
    exact hcomplete hcall List.prefix_rfl rfl (hsent.silently h.core)
  | sentDead _ _ _ _ m call hcall hfailed => exact hcomplete hcall List.prefix_rfl rfl (.refl call)
  | silent _ _ _ _ tag call hcall hmsg hdead =>
    exact hcomplete hcall List.prefix_rfl rfl (.refl call)
  | heard _ _ _ _ call t hcall hok hstarted hheard =>
    rcases hheard.silently h.core hok with ht | ⟨bytes, ht⟩
    · exact hcomplete hcall List.prefix_rfl rfl ht
    · exact hcomplete hcall (List.prefix_append _ _) (Call.completions_note call _) ht

theorem step_taken {label : Label} (h : Refines s l) (hstep : step grpc s label = some t) :
    taken t = taken s ∨ ∃ index received script bytes,
      label = .complete index true received script ∧
      s.call.outstanding[index]? = some .clientReaderRead ∧
      received.message? = some bytes ∧ taken t = taken s ++ [bytes] := by
  have hnone (e : Event Note) (he : e.completion = none) :
      Event.brought .clientReaderRead e = none := by
    cases e <;> simp_all
  rcases (step_adds h hstep).2 with hsame | ⟨done, ⟨index, script, rfl, htag⟩, hmore⟩
  · exact .inl (Call.collect_same hnone hsame)
  · obtain ⟨tag, success, received⟩ := done
    have htaken : taken t = taken s ++
        (Event.brought .clientReaderRead (.complete tag success received : Event Note)).toList :=
      Call.collect_completed hnone hmore
    cases success with
    | false => exact .inl (by simpa using htaken)
    | true =>
      by_cases hread : tag = .clientReaderRead
      · subst hread
        have hbrought : Event.brought .clientReaderRead
            (.complete .clientReaderRead true received : Event Note) = received.message? := by
          rw [Event.brought, if_pos rfl]
        rw [hbrought] at htaken
        cases hmessage : received.message? with
        | none =>
          rw [hmessage, Option.toList_none, List.append_nil] at htaken
          exact .inl htaken
        | some bytes =>
          rw [hmessage, Option.toList_some] at htaken
          exact .inr ⟨index, received, script, bytes, rfl, htag, hmessage, htaken⟩
      · exact .inl (by simpa [hread] using htaken)

theorem Refines.started_grows (h : Refines s l) (h' : Refines t l')
    (hlog : s.call.log <+: t.call.log) :
    l.started <+: l'.started ∧
      (l.closeSent = true → l'.closeSent = true ∧ l'.started = l.started) := by
  obtain ⟨more, hlog⟩ := hlog
  have hsent := h'.sent
  have hattempt := h'.closeAttempt
  rw [← hlog, collect_append] at hsent hattempt
  rw [h.sent] at hsent
  rw [h.closeAttempt] at hattempt
  refine ⟨⟨_, hsent⟩, fun hclosed => ⟨?_, ?_⟩⟩
  · by_contra hopen
    obtain ⟨word, hword⟩ := Option.isSome_iff_exists.mp (l.close_last hclosed).2.2
    simp [hopen, hclosed, hword] at hattempt
  · rw [← hsent, collect_eq_nil _ more, List.append_nil]
    intro e he
    by_contra hstarts
    obtain ⟨before, after, rfl⟩ := List.append_of_mem he
    have hlaw := h'.lawful (s.call.log ++ before) e after (by simp [← hlog])
    rcases e with ⟨tag, _ | _⟩ | _ | _
    case start.true =>
      have hnone := (hlaw (.inl (by simpa using hstarts))).2.1
      rw [List.flatMap_append, collect_append, List.append_eq_nil_iff] at hnone
      obtain ⟨word, hword⟩ := Option.isSome_iff_exists.mp (l.close_last hclosed).2.2
      have hled := h.ledger.closed
      simp [hnone.1, hclosed, hword] at hled
    all_goals simp at hstarts

end grows

end GrpcCbCore.Client.ReaderWriterImpl
