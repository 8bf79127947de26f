import QuantumDebug.Proofs.Footprint
import QuantumDebug.Session.Handle

/-!
The moves that a session is made of, whatever the engine, the panel and the client are like: how it
ends, steps and runs its shots. Every way a move can go is a constructor, which names the effects in
their order and the session that comes of them. A message that does not arrive ends the move where
it stands, and only a client that is not attentive misses one.
-/

namespace QuantumDebug

variable {S : Surroundings}

/-- Messages sent one after another, up to the first that does not arrive. -/
inductive Sent (S : Surroundings) : List Message → List Effect → Bool → Prop where
  | all (ms : List Message) : Sent S ms (ms.map (.message · true)) true
  | cut (hS : ¬ S.Attentive) (ms : List Message) (m : Message) (rest : List Message) :
      Sent S (ms ++ m :: rest) (ms.map (.message · true) ++ [.message m false]) false

lemma Sent.cons {ms : List Message} {es : List Effect} {ok : Bool} (h : Sent S ms es ok)
    (m : Message) : Sent S (m :: ms) (.message m true :: es) ok := by
  cases h with
  | all => exact .all (m :: ms)
  | cut hS ms m' rest => exact .cut hS (m :: ms) m' rest

lemma Sent.eq_map {ms : List Message} {es : List Effect} (h : Sent S ms es true) :
    es = ms.map (.message · true) := by
  cases h with
  | all => rfl

lemma Sent.ok {ms : List Message} {es : List Effect} {ok : Bool} (h : Sent S ms es ok)
    (hS : S.Attentive) : ok = true := by
  cases h with
  | all => rfl
  | cut h => exact absurd hS h

lemma Sent.mem {ms : List Message} {es : List Effect} {ok : Bool} (sent : Sent S ms es ok)
    {e : Effect} (he : e ∈ es) : ∃ m ∈ ms, ∃ delivered, e = .message m delivered := by
  cases sent with
  | all =>
    obtain ⟨m, hm, rfl⟩ := List.mem_map.mp he
    exact ⟨m, hm, true, rfl⟩
  | cut _ ms m rest =>
    rcases List.mem_append.mp he with he | he
    · obtain ⟨m', hm, rfl⟩ := List.mem_map.mp he
      exact ⟨m', List.mem_append_left _ hm, true, rfl⟩
    · obtain rfl := List.mem_singleton.mp he
      exact ⟨m, by simp, false, rfl⟩

lemma Sent.forall_mem {ms : List Message} {es : List Effect} {ok : Bool} {P : Effect → Prop}
    (sent : Sent S ms es ok) (h : ∀ m ∈ ms, ∀ delivered, P (.message m delivered)) :
    ∀ e ∈ es, P e := by
  intro e he
  obtain ⟨m, hm, delivered, rfl⟩ := sent.mem he
  exact h m hm delivered

lemma Sent.not_runs {ms : List Message} {es : List Effect} {ok : Bool} (sent : Sent S ms es ok) :
    ∀ e ∈ es, ¬ e.Runs :=
  sent.forall_mem fun _ _ _ => id

lemma Sent.replies {events : List Event} {es : List Effect} {ok : Bool}
    (sent : Sent S (events.map .event) es ok) : replies es = [] := by
  rw [QuantumDebug.replies, List.filterMap_eq_nil_iff]
  refine sent.forall_mem fun m hm delivered => ?_
  obtain ⟨e, -, rfl⟩ := List.mem_map.mp hm
  rfl

namespace Debugger

def play (d : Debugger S) (es : List Effect) : Debugger S :=
  { d with world := d.world.playAll es }

@[simp] lemma play_nil (d : Debugger S) : d.play [] = d := rfl

lemma play_append (d : Debugger S) (es fs : List Effect) :
    d.play (es ++ fs) = (d.play es).play fs := by
  simp [play, World.playAll_append]

@[simp] lemma play_world (d : Debugger S) (es : List Effect) :
    (d.play es).world = d.world.playAll es := rfl
@[simp] lemma play_program (d : Debugger S) (es : List Effect) :
    (d.play es).program = d.program := rfl
@[simp] lemma play_phase (d : Debugger S) (es : List Effect) : (d.play es).phase = d.phase := rfl
@[simp] lemma play_configured (d : Debugger S) (es : List Effect) :
    (d.play es).configured = d.configured := rfl
@[simp] lemma play_pending (d : Debugger S) (es : List Effect) :
    (d.play es).pending = d.pending := rfl
@[simp] lemma play_timeout (d : Debugger S) (es : List Effect) :
    (d.play es).timeout = d.timeout := rfl

/-- How a call ends whose last message arrived or did not. -/
def arrival : Bool → Except SessionError Unit
  | true => .ok ()
  | false => .error .unreachable

/-- How a call ends that fails for a reason of its own once its last message has arrived. -/
def failure (e : SessionError) : Bool → Except SessionError Unit
  | true => .error e
  | false => .error .unreachable

@[simp] lemma andThen_true (d : Debugger S) (f : Debugger S → Handled S) :
    Handled.andThen (arrival true, d) f = f d := rfl

@[simp] lemma andThen_false (d : Debugger S) (f : Debugger S → Handled S) :
    Handled.andThen (arrival false, d) f = (.error .unreachable, d) := rfl

@[simp] lemma failWith_arrival (d : Debugger S) (e : SessionError) (ok : Bool) :
    Handled.failWith (arrival ok, d) e = (failure e ok, d) := by
  cases ok <;> rfl

/-- A message arrives, or it does not and the client is not an attentive one. -/
lemma send_arrival (d : Debugger S) (m : Message) :
    d.send m = (arrival true, d.play [.message m true]) ∨
      ¬ S.Attentive ∧ d.send m = (arrival false, d.play [.message m false]) := by
  simp only [send, World.send_eq]
  rcases h : (S.client.deliver m d.world.client).1 with _ | _
  · exact .inr ⟨fun hS => by simp [hS m d.world.client] at h, rfl⟩
  · exact .inl rfl

lemma send_heard (hS : S.Attentive) (d : Debugger S) (m : Message) :
    d.send m = (arrival true, d.play [.message m true]) := by
  rcases d.send_arrival m with h | ⟨hA, -⟩
  · exact h
  · exact absurd hS hA

lemma send_ok (d : Debugger S) (m : Message) :
    ∃ ok, (S.Attentive → ok = true) ∧ d.send m = (arrival ok, d.play [.message m ok]) := by
  rcases d.send_arrival m with h | ⟨hS, h⟩
  · exact ⟨true, fun _ => rfl, h⟩
  · exact ⟨false, fun hA => absurd hA hS, h⟩

lemma tellAll_sent (d : Debugger S) (events : List Event) :
    ∃ es ok, Sent S (events.map .event) es ok ∧ d.tellAll events = (arrival ok, d.play es) := by
  induction events generalizing d with
  | nil => exact ⟨[], true, .all [], rfl⟩
  | cons e events ih =>
    rcases d.send_arrival (.event e) with h | ⟨hS, h⟩
    · obtain ⟨es, ok, sent, heq⟩ := ih (d.play [.message (.event e) true])
      refine ⟨.message (.event e) true :: es, ok, sent.cons _, ?_⟩
      rw [tellAll, tell, h, andThen_true, heq]
      rfl
    · refine ⟨[.message (.event e) false], false, .cut hS [] _ _, ?_⟩
      rw [tellAll, tell, h, andThen_false]
      rfl

/-! ### The end -/

/-- Ending a session, once. -/
inductive Ends (message : String) (code : Int) (d : Debugger S) :
    List Effect → Handled S → Prop where
  | past (h : d.phase = .terminated) : Ends message code d [] d.done
  | closes {es : List Effect} {ok : Bool} (h : d.phase ≠ .terminated)
      (sent : Sent S ((closingEvents message code).map .event) es ok) :
      Ends message code d (.telemetry (.sessionEnd code) :: es)
        (arrival ok, (d.closed code).play es)

lemma endSession_ends (d : Debugger S) (message : String) (code : Int) :
    ∃ es, Ends message code d es (d.endSession message code) := by
  unfold endSession
  split
  · exact ⟨[], .past ‹_›⟩
  · obtain ⟨es, ok, sent, heq⟩ := (d.closed code).tellAll_sent (closingEvents message code)
    rw [heq]
    exact ⟨_, .closes ‹_› sent⟩

/-- Ending a session after a last message that says why. -/
inductive EndsAfter (m : Message) (message : String) (code : Int) (d : Debugger S) :
    List Effect → Handled S → Prop where
  | heard {es : List Effect} {h : Handled S}
      (ends : Ends message code (d.play [.message m true]) es h) :
      EndsAfter m message code d (.message m true :: es) h
  | unheard (hS : ¬ S.Attentive) :
      EndsAfter m message code d [.message m false]
        (.error .unreachable, d.play [.message m false])

lemma send_endsAfter (d : Debugger S) (m : Message) (message : String) (code : Int) :
    ∃ es, EndsAfter m message code d es ((d.send m).andThen (·.endSession message code)) := by
  rcases d.send_arrival m with h | ⟨hS, h⟩
  · obtain ⟨es, ends⟩ := (d.play [.message m true]).endSession_ends message code
    exact ⟨_, by rw [h]; exact .heard ends⟩
  · exact ⟨_, by rw [h]; exact .unheard hS⟩

/-- What the client is told of a fault in the engine. -/
def fault (e : EngineError) : Message := .event (.output .stderr e.render)

/-! ### Running -/

def worked (d : Debugger S) (p : Program) (v : Visualization) (es : List Effect) : Debugger S :=
  ({ d with program := p, view := v, inspector := d.inspector.reset } : Debugger S).play es

def question (d : Debugger S) (action : StepAction) : Effect :=
  .engine (.eval action d.program.breakpoints.armedIds)

def outcome (d : Debugger S) (action : StepAction) : StepOutcome :=
  d.world.outcome action d.program.breakpoints.armedIds

/-- A step of a running program, and no step of any other. -/
inductive Steps (action : StepAction) (d : Debugger S) : List Effect → Handled S → Prop where
  | idle (h : d.phase ≠ .running) : Steps action d [] d.done
  | stops {v : Visualization} {es : List Effect} {e : Event} {ok : Bool} (h : d.phase = .running)
      (tail : ∀ e ∈ es, e.Aftermath) (stopped : (d.outcome action).stoppedEvent? = some e)
      (hok : S.Attentive → ok = true) :
      Steps action d (d.question action :: es ++ [.message (.event e) ok])
        (arrival ok,
          (d.worked d.program v (d.question action :: es)).play [.message (.event e) ok])
  | completes {v : Visualization} {es fs : List Effect} {h' : Handled S} (h : d.phase = .running)
      (tail : ∀ e ∈ es, e.Aftermath) (completed : d.outcome action = .completed)
      (ends : Ends "program completed" 0 (d.worked d.program v (d.question action :: es)) fs h') :
      Steps action d (d.question action :: es ++ fs) h'
  | fails {v : Visualization} {es fs : List Effect} {e : EngineError} {h' : Handled S}
      (h : d.phase = .running) (tail : ∀ e ∈ es, e.Aftermath)
      (failed : d.outcome action = .failed e)
      (ends : EndsAfter (fault e) "ending session due to error" 1
        (d.worked d.program v (d.question action :: es)) fs h') :
      Steps action d (d.question action :: es ++ fs) h'

lemma step_steps (d : Debugger S) (action : StepAction) :
    ∃ es, Steps action d es (d.step action) := by
  by_cases h : d.phase = .running
  · obtain ⟨es, tail, hw⟩ := runStep_leads action d.program.breakpoints.armedIds d.view d.world
    have hout := runStep_outcome action d.program.breakpoints.armedIds d.view d.world
    rw [step, if_pos h]
    rcases hr : runStep action d.program.breakpoints.armedIds d.view d.world
      with ⟨outcome, v, w⟩
    rw [hr] at hw hout
    have hd : ({ d with inspector := d.inspector.reset, view := v, world := w } : Debugger S) =
        d.worked d.program v (d.question action :: es) := by
      simp only at hw
      rw [hw]
      rfl
    dsimp only at hout ⊢
    rw [hd]
    cases outcome with
    | failed e =>
      obtain ⟨fs, ends⟩ := (d.worked d.program v (d.question action :: es)).send_endsAfter
        (fault e) "ending session due to error" 1
      exact ⟨_, .fails h tail hout.symm ends⟩
    | completed =>
      obtain ⟨fs, ends⟩ := (d.worked d.program v (d.question action :: es)).endSession_ends
        "program completed" 0
      exact ⟨_, .completes h tail hout.symm ends⟩
    | breakpointHit id =>
      obtain ⟨ok, hok, heq⟩ := (d.worked d.program v (d.question action :: es)).send_ok
        (.event (.stopped .breakpoint (some [id])))
      dsimp only [tell]
      rw [heq]
      exact ⟨_, .stops h tail (by rw [outcome, ← hout]; rfl) hok⟩
    | progressed =>
      obtain ⟨ok, hok, heq⟩ := (d.worked d.program v (d.question action :: es)).send_ok
        (.event (.stopped .step none))
      dsimp only [tell]
      rw [heq]
      exact ⟨_, .stops h tail (by rw [outcome, ← hout]; rfl) hok⟩
  · rw [step, if_neg h]
    exact ⟨[], .idle h⟩

/-- All shots of a program, which always are the end of the session. -/
inductive Shoots (d : Debugger S) : List Effect → Handled S → Prop where
  | finishes {p : Program} {v : Visualization} {es fs : List Effect} {how : ShotsOutcome}
      {h : Handled S} (work : ∀ e ∈ es, e.Work) (config : p.config = d.program.config)
      (good : how.failure = none) (ends : Ends how.message how.exitCode (d.worked p v es) fs h) :
      Shoots d (es ++ fs) h
  | fails {p : Program} {v : Visualization} {es fs : List Effect} {e : EngineError}
      {h : Handled S} (work : ∀ e ∈ es, e.Work) (config : p.config = d.program.config)
      (ends : EndsAfter (fault e) "ending session due to error" 1 (d.worked p v es) fs h) :
      Shoots d (es ++ fs) h

lemma runAllShots_shoots (d : Debugger S) : ∃ es, Shoots d es d.runAllShots := by
  have hkeeps := runShotsLeft_keeps (max d.program.config.shotCount 1)
    (max d.program.config.shotCount 1) d.program d.view d.world
  rw [runAllShots, runShots]
  rcases hr : runShotsLeft Program.reload (max d.program.config.shotCount 1)
    (max d.program.config.shotCount 1) d.program d.view d.world with ⟨how, p, v, w⟩
  rw [hr] at hkeeps
  obtain ⟨config, es, work, hw⟩ := hkeeps
  have hd : ({ d with inspector := d.inspector.reset, program := p, view := v, world := w } :
      Debugger S) = d.worked p v es := by
    simp only at hw
    rw [hw]
    rfl
  dsimp only
  rw [hd]
  cases how with
  | failed shot e =>
    obtain ⟨fs, ends⟩ := (d.worked p v es).send_endsAfter (fault e)
      "ending session due to error" 1
    exact ⟨_, .fails work config ends⟩
  | completed =>
    obtain ⟨fs, ends⟩ := (d.worked p v es).endSession_ends ShotsOutcome.completed.message
      ShotsOutcome.completed.exitCode
    exact ⟨_, .finishes work config rfl ends⟩
  | incomplete shot =>
    obtain ⟨fs, ends⟩ := (d.worked p v es).endSession_ends (ShotsOutcome.incomplete shot).message
      (ShotsOutcome.incomplete shot).exitCode
    exact ⟨_, .finishes work config rfl ends⟩

/-- Setting a launched program going. -/
inductive Proceeds (d : Debugger S) : List Effect → Handled S → Prop where
  | shots {es : List Effect} {h : Handled S} (noDebug : d.program.config.noDebug = true)
      (shoots : Shoots d es h) : Proceeds d es h
  | step {action : StepAction} {es : List Effect} {h : Handled S}
      (debug : d.program.config.noDebug = false) (steps : Steps action d es h) : Proceeds d es h

lemma run_proceeds (d : Debugger S) : ∃ es, Proceeds d es d.run := by
  unfold run
  split
  · obtain ⟨es, shoots⟩ := d.runAllShots_shoots
    exact ⟨es, .shots ‹_› shoots⟩
  · obtain ⟨es, steps⟩ := d.step_steps (if d.program.config.stopOnEntry then .next else .continue)
    exact ⟨es, .step (Bool.eq_false_iff.mpr ‹_›) steps⟩

/-! ### Moves that leave the program alone -/

section Program

variable {message : String} {code : Int} {m : Message} {action : StepAction} {d : Debugger S}
  {es : List Effect} {h : Handled S}

lemma Ends.program (ends : Ends message code d es h) : h.2.program = d.program := by
  cases ends <;> rfl

lemma EndsAfter.program (ends : EndsAfter m message code d es h) : h.2.program = d.program := by
  cases ends with
  | heard ends => exact ends.program
  | unheard => rfl

lemma Steps.program (steps : Steps action d es h) : h.2.program = d.program := by
  cases steps with
  | idle => rfl
  | stops => rfl
  | completes _ _ _ ends => exact ends.program
  | fails _ _ _ ends => exact ends.program

end Program

end Debugger

end QuantumDebug
