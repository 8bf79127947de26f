import QuantumDebug.Proofs.Session.Lifecycle
import QuantumDebug.Proofs.Session.Scripted

/-!
What has to end a session, with any client at all: a run of the program that fails or comes to its
end, the shots, a program that does not load, and a request to terminate. The session is over after
it unless the last message before the end, the one that says why, does not arrive.
-/

namespace QuantumDebug

variable {S : Surroundings}

/-! ### Fatal effects -/

/-- A question to the engine whose answer has to end the session: a run that fails or comes to its
end, or a load that fails. -/
def Effect.Fatal (w : World S) : Effect → Prop
  | .engine (.eval action armed) =>
    w.outcome action armed = .completed ∨ ∃ e, w.outcome action armed = .failed e
  | .engine (.loadProgram config) => ∃ e, (S.engine.loadProgram config w.engine).1 = .error e
  | _ => False

/-- One of the effects is fatal in the world that it finds. -/
def World.Fatal (w : World S) : List Effect → Prop
  | [] => False
  | e :: es => e.Fatal w ∨ (w.play e).Fatal es

lemma World.fatal_append (w : World S) (es fs : List Effect) :
    w.Fatal (es ++ fs) ↔ w.Fatal es ∨ (w.playAll es).Fatal fs := by
  induction es generalizing w with
  | nil => simp [World.Fatal]
  | cons e es ih => simp [World.Fatal, ih, or_assoc]

lemma Effect.Fatal.runs {w : World S} {e : Effect} (h : e.Fatal w) : e.Runs := by
  unfold Effect.Fatal at h
  split at h
  · trivial
  · trivial
  · exact h.elim

lemma World.not_fatal {w : World S} {es : List Effect} (h : ∀ e ∈ es, ¬ e.Runs) :
    ¬ w.Fatal es := by
  induction es generalizing w with
  | nil => exact id
  | cons e es ih =>
    rintro (he | hes)
    · exact h e (by simp) he.runs
    · exact ih (fun e he => h e (by simp [he])) hes

/-! ### Messages that do not arrive -/

/-- A message that says why the session is going to end, and that has not arrived. -/
def Effect.Missed : Effect → Prop
  | .message (.response _) false => True
  | .message (.event (.output .stderr _)) false => True
  | _ => False

/-- The last of all is a message that says why the session is going to end, and it has not
arrived. -/
def Unheard (es : List Effect) : Prop := ∃ e, es.getLast? = some e ∧ e.Missed

lemma unheard_append {pre es : List Effect} (hes : es ≠ []) :
    Unheard (pre ++ es) ↔ Unheard es := by
  unfold Unheard
  rw [List.getLast?_append, List.getLast?_eq_some_getLast hes, Option.some_or]

lemma not_unheard {es : List Effect} (h : ∀ e ∈ es, ¬ e.Missed) : ¬ Unheard es := by
  rintro ⟨e, hlast, hmissed⟩
  exact h e (List.mem_of_getLast? hlast) hmissed

def Launched (es : List Effect) : Prop :=
  ∃ seq, .message (.response ⟨seq, .success .launch⟩) true ∈ es

lemma not_launched {es : List Effect} (h : ∀ q ∈ replies es, q.reply ≠ .success .launch) :
    ¬ Launched es := by
  rintro ⟨seq, hseq⟩
  exact h _ (List.mem_filterMap.mpr ⟨_, hseq, rfl⟩) rfl

namespace Debugger

/-! ### Coming to an end -/

/-- On the way from one session to another everything has been done to end it, and it has ended
unless the last message before that has not arrived. -/
structure Falls (d : Debugger S) (es : List Effect) (d' : Debugger S) : Prop where
  effects : es ≠ []
  over_iff : d'.phase = .terminated ↔ d.phase = .terminated ∨ ¬ Unheard es
  attentive : S.Attentive → d'.phase = .terminated

/-- On the way from one session to another nothing has happened that has to end it. -/
structure Tame (d : Debugger S) (es : List Effect) (d' : Debugger S) : Prop where
  effects : ¬ d.world.Fatal es
  launched : Launched es → d'.program.config.noDebug = false

section Moves

variable {message : String} {code : Int} {m : Message} {action : StepAction} {now later : Nat}
  {r : Request} {d d₁ d' : Debugger S} {es : List Effect} {h : Handled S}

lemma Falls.after (falls : Falls d₁ es d') (pre : List Effect)
    (hphase : d₁.phase = .terminated ↔ d.phase = .terminated) : Falls d (pre ++ es) d' where
  effects := by simp [falls.effects]
  over_iff := by rw [unheard_append falls.effects, falls.over_iff, hphase]
  attentive := falls.attentive

lemma Tame.of_not_runs (hruns : ∀ e ∈ es, ¬ e.Runs) (hlaunched : ¬ Launched es) :
    Tame d es d' :=
  ⟨World.not_fatal hruns, fun h => absurd h hlaunched⟩

lemma Tame.after (tame : Tame d₁ es d') (pre : List Effect) (hworld : d₁.world = d.world.playAll pre)
    (hpre : ¬ d.world.Fatal pre) (hlaunched : Launched pre → d'.program.config.noDebug = false) :
    Tame d (pre ++ es) d' where
  effects := by
    rw [World.fatal_append, ← hworld]
    exact not_or.mpr ⟨hpre, tame.effects⟩
  launched := by
    rintro ⟨seq, hseq⟩
    rcases List.mem_append.mp hseq with hseq | hseq
    · exact hlaunched ⟨seq, hseq⟩
    · exact tame.launched ⟨seq, hseq⟩

lemma Ends.falls (ends : Ends message code d es h) (hd : d.phase ≠ .terminated) :
    Falls d es h.2 := by
  cases ends with
  | past hover => exact absurd hover hd
  | @closes fs _ _ sent =>
    have hmissed : ∀ e ∈ .telemetry (.sessionEnd code) :: fs, ¬ Effect.Missed e := by
      refine List.forall_mem_cons.mpr ⟨id, sent.forall_mem fun m hm ok => ?_⟩
      simp only [closingEvents, List.map_cons, List.map_nil, List.mem_cons, List.not_mem_nil,
        or_false] at hm
      rcases hm with rfl | rfl | rfl
      · exact id
      · exact id
      · exact id
    exact ⟨by simp, ⟨fun _ => .inr (not_unheard hmissed), fun _ => rfl⟩, fun _ => rfl⟩

lemma EndsAfter.falls (ends : EndsAfter m message code d es h)
    (hm : (Effect.message m false).Missed) : Falls d es h.2 := by
  cases ends with
  | heard ends =>
    by_cases hd : d.phase = .terminated
    · exact ⟨by simp, by simp [ends.terminated, hd], fun _ => ends.terminated⟩
    · exact (ends.falls hd).after [_] Iff.rfl
  | unheard hS =>
    have hunheard : Unheard [Effect.message m false] := ⟨_, rfl, hm⟩
    exact ⟨by simp, by simp [hunheard], fun hA => absurd hA hS⟩

/-- A step comes to an end, or its run has left the program standing. -/
lemma Steps.falls_or_tame (steps : Steps action d es h) (hd : d.phase = .running) :
    Falls d es h.2 ∨ ¬ d.world.Fatal es ∧ ¬ Launched es := by
  have hworked {p : Program} {v : Visualization} {fs : List Effect} :
      (d.worked p v fs).phase ≠ .terminated := by
    rw [show (d.worked p v fs).phase = .running from hd]
    decide
  cases steps with
  | idle hidle => exact absurd hd hidle
  | @stops v fs e ok _ tail stopped =>
    refine .inr ⟨?_, not_launched ?_⟩
    · rintro (hfatal | hfatal)
      · rcases hfatal with hcompleted | ⟨e, hfailed⟩
        · rw [outcome, hcompleted] at stopped
          simp [StepOutcome.stoppedEvent?] at stopped
        · rw [outcome, hfailed] at stopped
          simp [StepOutcome.stoppedEvent?] at stopped
      · exact World.not_fatal (List.forall_mem_append.mpr
          ⟨fun e he => (tail e he).not_runs, List.forall_mem_singleton.mpr id⟩) hfatal
    · rw [replies_append, question, replies_engine, replies_work fun e he => (tail e he).work]
      simp
  | completes _ _ _ ends => exact .inl ((ends.falls hworked).after _ Iff.rfl)
  | fails _ _ _ ends => exact .inl ((ends.falls trivial).after _ Iff.rfl)

lemma Shoots.falls (shoots : Shoots d es h) (hd : d.phase ≠ .terminated) : Falls d es h.2 := by
  cases shoots with
  | finishes _ _ _ ends => exact (ends.falls hd).after _ Iff.rfl
  | fails _ _ ends => exact (ends.falls trivial).after _ Iff.rfl

lemma Proceeds.falls_or_tame (proceeds : Proceeds d es h) (hd : d.phase = .running) :
    Falls d es h.2 ∨ ¬ d.world.Fatal es ∧ h.2.program.config.noDebug = false := by
  cases proceeds with
  | shots _ shoots => exact .inl (shoots.falls (by simp [hd]))
  | step debug steps =>
    rcases steps.falls_or_tame hd with falls | ⟨hfatal, -⟩
    · exact .inl falls
    · exact .inr ⟨hfatal, by rw [steps.program, debug]⟩

lemma Resumes.falls_or_tame (resumes : Resumes now d es h)
    (hd : d.pending ≠ none → d.phase = .awaitingConfiguration) :
    Falls d es h.2 ∨ Tame d es h.2 := by
  cases resumes with
  | waits => exact .inr (.of_not_runs (by simp) (by simp [Launched]))
  | unheard =>
    exact .inr (.of_not_runs (by simp [PendingLaunch.ack, Request.answer])
      (by simp [Launched, PendingLaunch.ack, Request.answer]))
  | @goes l fs _ hl proceeds =>
    have hawait : d.phase = .awaitingConfiguration := by
      refine hd fun hnone => ?_
      simp [due, hnone] at hl
    have hrun : (d.released l).phase = .running := by
      rw [released, advance, play_phase, hawait]
      rfl
    rcases proceeds.falls_or_tame hrun with falls | ⟨hfatal, debug⟩
    · exact .inl (falls.after [_] Phase.advance_running_terminated)
    · refine .inr (Tame.after ⟨hfatal, fun _ => debug⟩ [_] rfl ?_ fun _ => debug)
      exact World.not_fatal (by simp [PendingLaunch.ack, Request.answer])

lemma not_fatal_load {config : RunConfiguration} {urls : List Url}
    (answered : (S.engine.loadProgram config d.world.engine).1 = .ok urls)
    (hes : ∀ e ∈ es, ¬ e.Runs) :
    ¬ d.world.Fatal (taken config :: .engine (.loadProgram config) :: es) := by
  rintro (hfatal | ⟨e, failed⟩ | hfatal)
  · exact hfatal
  · have failed : (S.engine.loadProgram config d.world.engine).1 = .error e := failed
    rw [answered] at failed
    simp at failed
  · exact World.not_fatal hes hfatal

lemma not_launched_load {config : RunConfiguration} (hes : ∀ e ∈ es, e.reply? = none) :
    ¬ Launched (taken config :: .engine (.loadProgram config) :: es) := by
  refine not_launched ?_
  rw [taken, replies_telemetry, replies_engine, replies, List.filterMap_eq_nil_iff.mpr hes]
  simp

lemma Handles.falls_or_tame (handles : Handles now later r d es h) (hd : Patient d) :
    Falls d es h.2 ∨ Tame d es h.2 ∧ r.command ≠ .terminate := by
  cases handles with
  | @looks _ _ _ fs body ok command aside _ noLaunch =>
    have hruns : ∀ e ∈ fs ++ [r.answer (.success body) ok], ¬ e.Runs :=
      List.forall_mem_append.mpr
        ⟨Effect.not_runs_of_aside aside, List.forall_mem_singleton.mpr id⟩
    refine .inr ⟨.of_not_runs hruns (not_launched ?_), (Command.neutral_of_looks command).terminate⟩
    rw [replies_append, replies_work fun e he => (aside e he).work, Request.answer]
    simpa using noLaunch
  | greets command sent =>
    refine .inr ⟨.of_not_runs sent.not_runs ?_, by simp [command]⟩
    rintro ⟨seq, hseq⟩
    obtain ⟨m, hm, ok, heq⟩ := sent.mem hseq
    simp only [List.mem_cons, List.not_mem_nil, or_false] at hm
    rcases hm with rfl | rfl <;> simp [Request.success] at heq
  | refuses refuses =>
    refine .inr ⟨.of_not_runs (by simp [Request.answer])
      (not_launched (by simp [Request.answer])), ?_⟩
    cases refuses <;> simp [*]
  | unheard command =>
    refine .inr ⟨.of_not_runs (by simp [Request.answer]) (by simp [Launched, Request.answer]), ?_⟩
    rcases command with ⟨command, -⟩ | ⟨action, command⟩
    · simp [command]
    · exact (Command.neutral_of_step command).terminate
  | configures command resumes =>
    have hawait : d.pending ≠ none → d.phase = .awaitingConfiguration := fun hp => (hd hp).1
    rcases resumes.falls_or_tame hawait with falls | tame
    · exact .inl (falls.after [_] Iff.rfl)
    · refine .inr ⟨tame.after [_] rfl (World.not_fatal (by simp [Request.answer]))
        fun hlaunched => ?_, by simp [command]⟩
      exact absurd hlaunched (not_launched (by simp [Request.answer]))
  | @steps body _ _ _ command steps =>
    have hc : r.command ≠ .terminate := (Command.neutral_of_step command).terminate
    have hanswer : ¬ Launched [r.answer (.success body) true] :=
      not_launched (by simpa [Request.answer] using Command.ne_launch_of_step command)
    rcases steps.idle_or_running with ⟨rfl, rfl⟩ | hrun
    · exact .inr ⟨.of_not_runs (by simp [Request.answer]) hanswer, hc⟩
    · rcases steps.falls_or_tame hrun with falls | ⟨hfatal, hsteps⟩
      · exact .inl (falls.after [_] Iff.rfl)
      · exact .inr ⟨Tame.after ⟨hfatal, fun h => absurd h hsteps⟩ [_] rfl
          (World.not_fatal (by simp [Request.answer])) fun h => absurd h hanswer, hc⟩
  | loadFails _ _ _ _ _ ends => exact .inl ((ends.falls trivial).after [_, _] Iff.rfl)
  | @loses _ _ config _ _ front fs bs command _ answered _ aside _ sent =>
    have hruns : ∀ e ∈ front ++ fs, ¬ e.Runs :=
      List.forall_mem_append.mpr ⟨Effect.not_runs_of_aside aside, sent.not_runs⟩
    have hreplies : ∀ e ∈ front ++ fs, e.reply? = none := by
      refine List.forall_mem_append.mpr ⟨fun e he => (aside e he).work.reply?, ?_⟩
      refine sent.forall_mem fun m hm ok => ?_
      obtain ⟨b, -, rfl⟩ := List.mem_map.mp hm
      rfl
    exact .inr ⟨⟨not_fatal_load answered hruns, fun h => absurd h (not_launched_load hreplies)⟩,
      by simp [command]⟩
  | @launches _ _ config _ p front fs bs _ command accepted answered _ _ aside resumes =>
    have hawait := Phase.advance_awaiting (accepted_phase accepted)
    rcases resumes.falls_or_tame fun _ => hawait with falls | tame
    · exact .inl (falls.after (_ :: _ :: _) Phase.advance_awaiting_terminated)
    · let announced : List Effect := bs.map fun b => .message (.event (.breakpoint b)) true
      have hruns : ∀ e ∈ front ++ announced, ¬ e.Runs :=
        List.forall_mem_append.mpr ⟨Effect.not_runs_of_aside aside, by simp [announced]⟩
      have hreplies : ∀ e ∈ front ++ announced, e.reply? = none :=
        List.forall_mem_append.mpr
          ⟨fun e he => (aside e he).work.reply?, by simp [announced]⟩
      exact .inr ⟨tame.after (_ :: _ :: _) rfl (not_fatal_load answered hruns)
        fun h => absurd h (not_launched_load hreplies), by simp [command]⟩
  | terminates _ ends => exact .inl ((ends.falls trivial).after [_] Iff.rfl)
  | disconnects command =>
    exact .inr ⟨.of_not_runs (by simp [Request.answer]) (not_launched (by simp [Request.answer])),
      by simp [command]⟩

end Moves

/-! ### Calls that have to end a session -/

/-- Calls that have to end a session. -/
inductive MustEnd (d : Debugger S) (c : Call) : Prop where
  /-- A run of the program fails or comes to its end, or a program does not load. -/
  | engine (fatal : d.world.Fatal (d.effects c))
  /-- A launch goes ahead that runs all shots. -/
  | shots (launched : Launched (d.effects c))
      (noDebug : (d.call c).2.program.config.noDebug = true)
  | terminate (asks : c.Asks .terminate)

lemma Tame.not_mustEnd {d : Debugger S} {c : Call} (tame : Tame d (d.effects c) (d.call c).2)
    (stays : ¬ c.Asks .terminate) : ¬ d.MustEnd c := by
  intro must
  cases must with
  | engine fatal => exact tame.effects fatal
  | shots launched noDebug => simp [tame.launched launched] at noDebug
  | terminate asks => exact stays asks

theorem call_falls {d : Debugger S} (hd : Patient d) {c : Call} (must : d.MustEnd c) :
    Falls d (d.effects c) (d.call c).2 := by
  have moves := d.call_moves c
  have hcases : Falls d (d.effects c) (d.call c).2 ∨
      Tame d (d.effects c) (d.call c).2 ∧ ¬ c.Asks .terminate := by
    cases moves with
    | request handles =>
      rcases handles.falls_or_tame hd with falls | ⟨tame, hc⟩
      · exact .inl falls
      · exact .inr ⟨tame, by simpa [Call.Asks, Call.request?] using hc⟩
    | resume resumes =>
      rcases resumes.falls_or_tame fun hp => (hd hp).1 with falls | tame
      · exact .inl falls
      · exact .inr ⟨tame, by simp [Call.Asks, Call.request?]⟩
  rcases hcases with falls | ⟨tame, stays⟩
  · exact falls
  · exact absurd must (tame.not_mustEnd stays)

/-- What has become of a session after a run of calls and one that has to end it. -/
structure EndsUnlessUnheard (d : Debugger S) (cs : List Call) (c : Call) : Prop where
  /-- It is over, unless it was going on and the last thing done is a message that has not arrived,
  the one that says why the session is to end. -/
  over_iff : (d.calls (cs ++ [c])).phase = .terminated ↔
    (d.calls cs).phase = .terminated ∨ ¬ Unheard ((d.calls cs).effects c)
  /-- To an attentive client every message arrives. -/
  attentive : S.Attentive → (d.calls (cs ++ [c])).phase = .terminated
  /-- Once it is over, no later call runs or loads a program. -/
  final : (d.calls (cs ++ [c])).phase = .terminated →
    ∀ later c', ∀ e ∈ (d.calls (cs ++ [c] ++ later)).effects c', ¬ e.Runs

/-- **What has to end a session ends it, unless the client cannot be told why.** -/
theorem calls_endsUnlessUnheard {d : Debugger S} (h : d.Fresh) (cs : List Call) (c : Call)
    (must : (d.calls cs).MustEnd c) : EndsUnlessUnheard d cs c := by
  have falls := call_falls (calls_patient h cs) must
  rw [← calls_snoc] at falls
  refine ⟨falls.over_iff, falls.attentive, fun hover later c' e he => ?_⟩
  exact (call_late (calls_patient h _) (calls_terminated hover later) c' e he).not_runs

/-- A fault that the client hears of. -/
theorem scripted_endsUnlessUnheard :
    (scripted [] ⟨[], [.error (.runtime "fault" none)]⟩).Fresh ∧
      ((scripted [] ⟨[], [.error (.runtime "fault" none)]⟩).calls
        [.request 0 0 ⟨1, .configurationDone⟩]).MustEnd (.request 10 10 (.plainLaunch 2)) ∧
      EndsUnlessUnheard (scripted [] ⟨[], [.error (.runtime "fault" none)]⟩)
        [.request 0 0 ⟨1, .configurationDone⟩] (.request 10 10 (.plainLaunch 2)) :=
  have hfresh := scripted_fresh [] ⟨[], [.error (.runtime "fault" none)]⟩
  have must : ((scripted [] ⟨[], [.error (.runtime "fault" none)]⟩).calls
      [.request 0 0 ⟨1, .configurationDone⟩]).MustEnd (.request 10 10 (.plainLaunch 2)) :=
    .engine (.inr (.inr (.inr (.inl (.inr ⟨.runtime "fault" none, rfl⟩)))))
  ⟨hfresh, must, calls_endsUnlessUnheard hfresh _ _ must⟩

def unheardFault : Debugger (.scripted [2]) :=
  (scripted [2] ⟨[], [.error (.runtime "fault" none)]⟩).calls
    [.request 0 0 ⟨1, .configurationDone⟩, .request 10 10 (.plainLaunch 2)]

/-- A fault that the client does not hear of leaves the session running, and the next request runs
the program again. -/
theorem unheardFault_runs_on :
    .engine (.eval .continue []) ∈ unheardFault.world.trace ∧ unheardFault.phase = .running ∧
      .engine (.eval .continue []) ∈ unheardFault.effects (.request 20 20 ⟨3, .continue⟩) := by
  decide +kernel

end Debugger

end QuantumDebug
