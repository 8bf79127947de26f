import QuantumDebug.Proofs.Session.Loading
import QuantumDebug.Proofs.Session.Scripted
import QuantumDebug.Proofs.Waiting

/-!
What a launch announces. Every request that waits for the program is announced with what it matches,
before the launch is answered and before anything is run. Of the requests for one source the one
whose path comes last is armed, which need not be the one that was made last, and the others have
been announced all the same.
-/

namespace QuantumDebug

open World

variable {S : Surroundings}

lemma Effect.Work.announced? {e : Effect} (h : e.Work) : e.announced? = none := by
  rcases e with _ | _ | _ | m
  · rfl
  · rfl
  · rfl
  · cases m with
    | response => rfl
    | event e => cases e <;> simp [Effect.Work] at h ⊢

namespace Debugger

/-! ### What comes after the announcements -/

section Silent

variable {message : String} {code : Int} {m : Message} {action : StepAction} {now : Nat}
  {d : Debugger S} {es : List Effect} {h : Handled S}

lemma Ends.silent (ends : Ends message code d es h) : ∀ e ∈ es, e.announced? = none := by
  cases ends with
  | past => simp
  | closes _ sent =>
    refine List.forall_mem_cons.mpr ⟨rfl, sent.forall_mem fun m hm ok => ?_⟩
    simp only [closingEvents, List.map_cons, List.map_nil, List.mem_cons, List.not_mem_nil,
      or_false] at hm
    rcases hm with rfl | rfl | rfl <;> rfl

lemma EndsAfter.silent (ends : EndsAfter m message code d es h)
    (hm : ∀ ok, (Effect.message m ok).announced? = none) : ∀ e ∈ es, e.announced? = none := by
  cases ends with
  | heard ends => exact List.forall_mem_cons.mpr ⟨hm true, ends.silent⟩
  | unheard => exact List.forall_mem_singleton.mpr (hm false)

lemma Steps.silent (steps : Steps action d es h) : ∀ e ∈ es, e.announced? = none := by
  have asked {fs gs : List Effect} (tail : ∀ e ∈ fs, e.Aftermath)
      (hgs : ∀ e ∈ gs, e.announced? = none) :
      ∀ e ∈ d.question action :: fs ++ gs, e.announced? = none := by
    refine List.forall_mem_append.mpr ⟨List.forall_mem_cons.mpr ⟨rfl, fun e he => ?_⟩, hgs⟩
    exact (tail e he).work.announced?
  cases steps with
  | idle => simp
  | @stops _ _ e _ _ tail stopped =>
    refine asked tail (List.forall_mem_singleton.mpr ?_)
    unfold StepOutcome.stoppedEvent? at stopped
    split at stopped
    · obtain rfl := Option.some.inj stopped
      rfl
    · obtain rfl := Option.some.inj stopped
      rfl
    · simp at stopped
  | completes _ tail _ ends => exact asked tail ends.silent
  | fails _ tail _ ends => exact asked tail (ends.silent fun _ => rfl)

lemma Shoots.silent (shoots : Shoots d es h) : ∀ e ∈ es, e.announced? = none := by
  cases shoots with
  | finishes work _ _ ends =>
    exact List.forall_mem_append.mpr ⟨fun e he => (work e he).announced?, ends.silent⟩
  | fails work _ ends =>
    exact List.forall_mem_append.mpr
      ⟨fun e he => (work e he).announced?, ends.silent fun _ => rfl⟩

lemma Resumes.silent (resumes : Resumes now d es h) : ∀ e ∈ es, e.announced? = none := by
  cases resumes with
  | waits => simp
  | unheard => exact List.forall_mem_singleton.mpr rfl
  | goes _ proceeds =>
    refine List.forall_mem_cons.mpr ⟨rfl, ?_⟩
    cases proceeds with
    | shots _ shoots => exact shoots.silent
    | step _ steps => exact steps.silent

end Silent

/-! ### What is announced and what is armed -/

def announcedIds (d : Debugger S) (c : Call) : List Int :=
  (announced (d.effects c)).filterMap Breakpoint.id

/-- In each source is armed what the last request for it has matched. -/
def ArmsLast (p : Program) (asked : List (String × List RequestedBreakpoint)) : Prop :=
  ∀ key, p.breakpoints.armed.get? key = (p.armings asked).reverse.lookup key

/-- What a launch announces and arms of the requests that have been made for its program. -/
structure Announces (d : Debugger S) (launch : Call) (p : Program)
    (asked : List (String × List RequestedBreakpoint)) : Prop where
  /-- The requests that wait are announced one after another. Before that nothing is answered and
  nothing run, and after it nothing more is announced. -/
  stretch : ∃ pre post, d.effects launch =
      pre ++ (p.announcements (Program.waiting asked)).map
        (fun b => .message (.event (.breakpoint b)) true) ++ post ∧
    (∀ e ∈ pre, e.announced? = none ∧ e.reply? = none ∧ ¬ e.Evals) ∧
    ∀ e ∈ post, e.announced? = none
  /-- No launch has been answered before, and nothing has been run. -/
  quiet : acks d.world.trace = [] ∧ ∀ e ∈ d.world.trace, ¬ e.Evals
  /-- What the load has armed stays armed, also if the launch goes ahead at once. -/
  kept : (d.call launch).2.program.breakpoints = p.breakpoints
  /-- In each source the request whose path comes last is armed. -/
  arms : ArmsLast p (Program.waiting asked)
  /-- That is the last request for the source just if the two match the same. -/
  arms_last_iff : ArmsLast p asked ↔
    ∀ key, (p.armings (Program.waiting asked)).reverse.lookup key =
      (p.armings asked).reverse.lookup key
  /-- The ids that are announced are those that are armed just if no request that matches anything
  gives way to another for its source. -/
  announced_perm_iff : (d.announcedIds launch).Perm p.breakpoints.armedIds ↔
    ∀ pre e post, p.armings (Program.waiting asked) = pre ++ e :: post →
      (∃ e' ∈ post, e'.1 = e.1) → e.2 = []
  /-- Both hold if every source is asked for under one path. -/
  names_once : p.sources.NamesOnce asked →
    (d.announcedIds launch).Perm p.breakpoints.armedIds ∧ ArmsLast p asked

lemma announced_stretch {pre post : List Effect} {bs : List Breakpoint}
    (hpre : ∀ e ∈ pre, e.announced? = none) (hpost : ∀ e ∈ post, e.announced? = none) :
    announced (pre ++ bs.map (fun b => .message (.event (.breakpoint b)) true) ++ post) = bs := by
  rw [announced, List.filterMap_append, List.filterMap_append,
    List.filterMap_eq_nil_iff.mpr hpre, List.filterMap_eq_nil_iff.mpr hpost, List.filterMap_map]
  simp [Function.comp_def]

section Result

variable {d : Debugger S} {r : Request} {config : RunConfiguration} {urls : List Url}

lemma Loading.stretch {now later : Nat} {p : Program} {es fs : List Effect}
    (h : Loading d now later r config p es fs) :
    ∃ pre post, d.effects (.request now later r) =
        pre ++ (p.announcements d.program.breakpoints.deferred.entries).map
          (fun b => .message (.event (.breakpoint b)) true) ++ post ∧
      (∀ e ∈ pre, e.announced? = none ∧ e.reply? = none ∧ ¬ e.Evals) ∧
      ∀ e ∈ post, e.announced? = none := by
  refine ⟨taken config :: .engine (.loadProgram config) :: es, fs, ?_, ?_, h.resumes.silent⟩
  · rw [h.effects]
    rfl
  · refine List.forall_mem_cons.mpr ⟨⟨rfl, rfl, id⟩,
      List.forall_mem_cons.mpr ⟨⟨rfl, rfl, id⟩, fun e he => ?_⟩⟩
    have aside := h.aside e he
    exact ⟨aside.work.announced?, aside.work.reply?,
      fun hevals => aside.aftermath.not_runs hevals.runs⟩

lemma calls_quiet (hA : S.Attentive) (h : d.Fresh) (before : List Call)
    (hphase : ¬ .awaitingConfiguration ≤ (d.calls before).phase) :
    acks (d.calls before).world.trace = [] ∧ ∀ e ∈ (d.calls before).world.trace, ¬ e.Evals := by
  have acked := calls_acked hA h before
  have hacks : acks (d.calls before).world.trace = [] := by
    by_contra hne
    exact hphase (Phase.le_trans (by decide) (acked.past hne))
  exact ⟨hacks, acked.quiet hacks⟩

/-- **A launch announces every request that waits, and arms in each source the one whose path comes
last.** -/
theorem launch_announces (hA : S.Attentive) (h : d.Fresh) (before : List Call) (now later : Nat)
    (launches : (d.calls before).Launches r config urls) :
    Announces (d.calls before) (.request now later r) ((d.calls before).loadedBy config)
      (before.flatMap Call.asked) := by
  obtain ⟨noDebug, data, -, accepted⟩ := launches.accepted
  obtain ⟨es, fs, hload, loaded⟩ := call_launches launches now later (.inl hA)
  have unloaded := calls_unloaded hA h before (accepted_phase accepted)
  have hstretch := hload.stretch
  have harmed := loaded.breakpoints
  dsimp only at harmed
  rw [unloaded.breakpoints] at hstretch harmed
  let asked := before.flatMap Call.asked
  generalize (d.calls before).loadedBy config = p at hload hstretch harmed ⊢
  have harmed : p.breakpoints =
      ⟨Table.empty.insertAll (p.armings (Program.waiting asked)), .empty⟩ := harmed
  have hkept : ((d.calls before).call (.request now later r)).2.program.breakpoints =
      p.breakpoints := by
    rcases hload.reruns with heq | ⟨-, reloads⟩
    · rw [heq]
    · exact reloads.breakpoints (by rw [harmed])
  have harms : ArmsLast p (Program.waiting asked) := by
    intro key
    rw [harmed, Table.get?_insertAll, Table.get?_empty, Option.or_none]
  have harmedIds : p.breakpoints.armedIds =
      (Table.empty.insertAll (p.armings (Program.waiting asked))).values.flatten.map
        Candidate.id := by
    rw [BreakpointSet.armedIds, harmed]
  have hannounced : (d.calls before).announcedIds (.request now later r) =
      (p.announcements (Program.waiting asked)).filterMap Breakpoint.id := by
    obtain ⟨pre, post, heffects, hpre, hpost⟩ := hstretch
    rw [announcedIds, heffects, announced_stretch (fun e he => (hpre e he).1) hpost]
    rfl
  have hview (c : Candidate) (source : Source) : (c.toBreakpoint source).id = some c.id := rfl
  exact {
    stretch := hstretch
    quiet := calls_quiet hA h before (accepted_phase accepted)
    kept := hkept
    arms := harms
    arms_last_iff := forall_congr' fun key => by rw [harms key]
    announced_perm_iff := by
      rw [hannounced, harmedIds]
      exact Program.announcements_perm_iff hview p _
    names_once := fun honce => by
      rw [hannounced, harmedIds]
      refine ⟨Program.announcements_perm honce hview, fun key => ?_⟩
      exact (harms key).trans (Program.lookup_keyed_waiting honce p.matched key) }

end Result

def asksAgain : List Call :=
  [.request 0 0 (.breakAt 1 "/main.qs" 7), .request 10 10 (.breakAt 2 "/lib.qs" 5),
    .request 20 20 (.breakAt 3 "/main.qs" 3)]

theorem asksAgain_announces :
    (Surroundings.surveyed filePlaces).Attentive ∧ (onFiles []).Fresh ∧
      ((onFiles []).calls asksAgain).Launches (.plainLaunch 4) .plain
        [.localFile "/main.qs", .localFile "/lib.qs"] ∧
      Announces ((onFiles []).calls asksAgain) (.request 30 30 (.plainLaunch 4))
        (((onFiles []).calls asksAgain).loadedBy .plain) (asksAgain.flatMap Call.asked) ∧
      ((onFiles []).calls asksAgain).announcedIds (.request 30 30 (.plainLaunch 4)) = [1, 2] :=
  have hA := Surroundings.surveyed_attentive filePlaces
  have hfresh : (onFiles []).Fresh := surveyed_fresh _ _
  have launches : ((onFiles []).calls asksAgain).Launches (.plainLaunch 4) .plain
      [.localFile "/main.qs", .localFile "/lib.qs"] := ⟨⟨none, _, rfl, rfl⟩, rfl⟩
  ⟨hA, hfresh, launches, launch_announces hA hfresh asksAgain 30 30 launches, by decide +kernel⟩

/-- Requests for one file under two names, of which the later comes first in the order of paths. -/
def twoNames : List Call :=
  [.request 0 0 (.breakAt 1 "file:///main.qs" 3), .request 10 10 (.breakAt 2 "/main.qs" 7)]

/-- A file that is asked for under two names has both requests announced and one of them armed, and
that is not the last. -/
theorem twoNames_announced_not_armed :
    (Surroundings.surveyed filePlaces).Attentive ∧ (onFiles []).Fresh ∧
      ((onFiles []).calls twoNames).Launches (.plainLaunch 3) .plain
        [.localFile "/main.qs", .localFile "/lib.qs"] ∧
      ¬ (((onFiles []).calls twoNames).announcedIds (.request 20 20 (.plainLaunch 3))).Perm
          (((onFiles []).calls twoNames).loadedBy .plain).breakpoints.armedIds ∧
      ¬ ArmsLast (((onFiles []).calls twoNames).loadedBy .plain)
          (twoNames.flatMap Call.asked) := by
  refine ⟨Surroundings.surveyed_attentive filePlaces, surveyed_fresh _ _,
    ⟨⟨none, _, rfl, rfl⟩, rfl⟩, fun hperm => ?_, fun harms => ?_⟩
  · have hlength := hperm.length_eq
    revert hlength
    decide +kernel
  · have hmain := harms "file:///main.qs"
    revert hmain
    decide +kernel

end Debugger

end QuantumDebug
