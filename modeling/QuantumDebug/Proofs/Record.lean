import Mathlib.Tactic.Lemma
import QuantumDebug.Surroundings

/-!
The trace as a full account of what was done. It says what has become of the engine, the panel and
the client, so that a world is known once its beginning and its trace are.
-/

namespace QuantumDebug

def Engine.after {σ : Type} (E : Engine σ) : EngineCall → σ → σ
  | .loadProgram config, s => (E.loadProgram config s).2
  | .breakpoints source, s => (E.breakpoints source s).2
  | .eval action armed, s => (E.eval action armed s).2
  | .stackFrames, s => (E.stackFrames s).2
  | .localVariables, s => (E.localVariables s).2
  | .quantumState, s => (E.quantumState s).2
  | .circuit, s => (E.circuit s).2
  | .terminate, s => E.terminate s

namespace World

variable {S : Surroundings}

def play (w : World S) : Effect → World S
  | .engine call =>
    ({ w with engine := S.engine.after call w.engine } : World S).note (.engine call)
  | .telemetry t => w.note (.telemetry t)
  | .panel u ok => ({ w with panel := (S.panel.update u w.panel).2 } : World S).note (.panel u ok)
  | .message m ok =>
    ({ w with client := (S.client.deliver m w.client).2 } : World S).note (.message m ok)

def playAll (w : World S) (es : List Effect) : World S := es.foldl play w

@[simp] lemma playAll_nil (w : World S) : w.playAll [] = w := rfl

@[simp] lemma playAll_cons (w : World S) (e : Effect) (es : List Effect) :
    w.playAll (e :: es) = (w.play e).playAll es := rfl

lemma playAll_append (w : World S) (es fs : List Effect) :
    w.playAll (es ++ fs) = (w.playAll es).playAll fs := by
  simp [playAll, List.foldl_append]

@[simp] lemma trace_play (w : World S) (e : Effect) : (w.play e).trace = w.trace ++ [e] := by
  cases e <;> rfl

@[simp] lemma trace_playAll (w : World S) (es : List Effect) :
    (w.playAll es).trace = w.trace ++ es := by
  induction es generalizing w with
  | nil => simp
  | cons e es ih => simp [ih]

/-! ### Everything done to a world is played -/

lemma loadProgram_eq (w : World S) (config : RunConfiguration) :
    w.loadProgram config =
      ((S.engine.loadProgram config w.engine).1, w.play (.engine (.loadProgram config))) := rfl

lemma breakpoints_eq (w : World S) (source : Url) :
    w.breakpoints source =
      ((S.engine.breakpoints source w.engine).1, w.play (.engine (.breakpoints source))) := rfl

lemma eval_eq (w : World S) (action : StepAction) (armed : List Int) :
    w.eval action armed =
      ((S.engine.eval action armed w.engine).1, w.play (.engine (.eval action armed))) := rfl

lemma stackFrames_eq (w : World S) :
    w.stackFrames = ((S.engine.stackFrames w.engine).1, w.play (.engine .stackFrames)) := rfl

lemma localVariables_eq (w : World S) :
    w.localVariables =
      ((S.engine.localVariables w.engine).1, w.play (.engine .localVariables)) := rfl

lemma quantumState_eq (w : World S) :
    w.quantumState = ((S.engine.quantumState w.engine).1, w.play (.engine .quantumState)) := rfl

lemma circuit_eq (w : World S) :
    w.circuit = ((S.engine.circuit w.engine).1, w.play (.engine .circuit)) := rfl

lemma terminate_eq (w : World S) : w.terminate = w.play (.engine .terminate) := rfl

lemma record_eq (w : World S) (t : Telemetry) : w.record t = w.play (.telemetry t) := rfl

lemma updatePanel_eq (w : World S) (u : PanelUpdate) :
    w.updatePanel u =
      ((S.panel.update u w.panel).1, w.play (.panel u (S.panel.update u w.panel).1)) := rfl

lemma send_eq (w : World S) (m : Message) :
    w.send m =
      ((S.client.deliver m w.client).1, w.play (.message m (S.client.deliver m w.client).1)) := rfl

lemma output_eq (w : World S) (category : OutputCategory) (text : String) :
    ∃ ok, w.output category text = w.play (.message (.event (.output category text)) ok) :=
  ⟨_, rfl⟩

/-! ### Worlds that come of one another -/

/-- One world comes of another by effects of one kind. -/
def Leads (P : Effect → Prop) (w w' : World S) : Prop := ∃ es, (∀ e ∈ es, P e) ∧ w' = w.playAll es

variable {P Q : Effect → Prop} {w w₁ w₂ : World S}

lemma Leads.refl (w : World S) : Leads P w w := ⟨[], by simp, rfl⟩

lemma Leads.play {e : Effect} (h : P e) (w : World S) : Leads P w (w.play e) :=
  ⟨[e], by simpa using h, rfl⟩

lemma Leads.trans (h₁ : Leads P w w₁) (h₂ : Leads P w₁ w₂) : Leads P w w₂ := by
  obtain ⟨es, hes, rfl⟩ := h₁
  obtain ⟨fs, hfs, rfl⟩ := h₂
  refine ⟨es ++ fs, fun e he => ?_, (playAll_append w es fs).symm⟩
  rcases List.mem_append.mp he with he | he
  · exact hes e he
  · exact hfs e he

lemma Leads.mono (hPQ : ∀ e, P e → Q e) (h : Leads P w w₁) : Leads Q w w₁ := by
  obtain ⟨es, hes, rfl⟩ := h
  exact ⟨es, fun e he => hPQ e (hes e he), rfl⟩

end World

/-! ### Kinds of effects -/

namespace Effect

/-- Done aside: nothing is run, loaded or ended, and the client is told nothing. -/
@[simp] def Aside : Effect → Prop
  | .engine (.eval _ _) => False
  | .engine (.loadProgram _) => False
  | .engine .terminate => False
  | .telemetry (.sessionStart _ _) => False
  | .telemetry (.sessionEnd _) => False
  | .message _ _ => False
  | _ => True

/-- Done after a run of the program, or aside: the client sees output at most. -/
@[simp] def Aftermath : Effect → Prop
  | .message (.event (.output _ _)) _ => True
  | e => e.Aside

@[simp] def Runs : Effect → Prop
  | .engine (.eval _ _) => True
  | .engine (.loadProgram _) => True
  | _ => False

/-- Done while the program is at work. -/
def Work (e : Effect) : Prop := e.Runs ∨ e.Aftermath

/-- Belongs to the end of a session. -/
@[simp] def Closing : Effect → Prop
  | .telemetry (.sessionEnd _) => True
  | .message (.event .terminated) _ => True
  | .message (.event (.exited _)) _ => True
  | _ => False

/-- The response that an effect sends. -/
@[simp] def reply? : Effect → Option Response
  | .message (.response r) _ => some r
  | _ => none

lemma Aside.aftermath {e : Effect} (h : e.Aside) : e.Aftermath := by
  unfold Aftermath
  split <;> simp_all

lemma Aftermath.work {e : Effect} (h : e.Aftermath) : e.Work := .inr h

lemma Aside.work {e : Effect} (h : e.Aside) : e.Work := h.aftermath.work

lemma Aftermath.not_runs {e : Effect} (h : e.Aftermath) : ¬ e.Runs := by
  rcases e with call | t | _ | _
  · cases call <;> simp at h ⊢
  all_goals simp

lemma not_runs_of_aside {es : List Effect} (h : ∀ e ∈ es, e.Aside) : ∀ e ∈ es, ¬ e.Runs :=
  fun e he => (h e he).aftermath.not_runs

lemma Work.not_closing {e : Effect} (h : e.Work) : ¬ e.Closing := by
  rcases e with call | t | _ | m
  · simp
  · cases t <;> simp [Work] at h ⊢
  · simp
  · rcases m with r | e
    · simp
    · cases e <;> simp [Work] at h ⊢

lemma Work.reply? {e : Effect} (h : e.Work) : e.reply? = none := by
  rcases e with _ | _ | _ | m
  · rfl
  · rfl
  · rfl
  · cases m <;> simp [Work] at h ⊢

end Effect

def replies (es : List Effect) : List Response := es.filterMap Effect.reply?

@[simp] lemma replies_nil : replies [] = [] := rfl

@[simp] lemma replies_append (es fs : List Effect) :
    replies (es ++ fs) = replies es ++ replies fs := List.filterMap_append

@[simp] lemma replies_response (r : Response) (ok : Bool) (es : List Effect) :
    replies (.message (.response r) ok :: es) = r :: replies es := rfl

@[simp] lemma replies_event (e : Event) (ok : Bool) (es : List Effect) :
    replies (.message (.event e) ok :: es) = replies es := rfl

@[simp] lemma replies_telemetry (t : Telemetry) (es : List Effect) :
    replies (.telemetry t :: es) = replies es := rfl

@[simp] lemma replies_engine (c : EngineCall) (es : List Effect) :
    replies (.engine c :: es) = replies es := rfl

lemma replies_work {es : List Effect} (h : ∀ e ∈ es, e.Work) : replies es = [] := by
  rw [replies, List.filterMap_eq_nil_iff]
  exact fun e he => (h e he).reply?

end QuantumDebug
