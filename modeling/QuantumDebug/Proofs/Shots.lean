import Mathlib.Data.List.Basic
import QuantumDebug.Proofs.Footprint

/-!
The course of the shots of a program. Shots that come to their end are reported and followed by a
load, until one is the last: because all are done, or because it stops, fails or is followed by a
load that fails. What is done on the way is told by its landmarks, and where the way ends by what
the engine has answered.
-/

namespace QuantumDebug

open World

variable {S : Surroundings}

/-! ### Landmarks and answers -/

/-- Whether an effect stands out among others. Looks at the engine and at the panel do not, and
neither does what the program itself writes. -/
def Effect.landmark : Effect → Bool
  | .engine (.eval _ _) => true
  | .engine (.loadProgram _) => true
  | .engine .terminate => true
  | .engine _ => false
  | .telemetry (.quantumStateCaptured _) => false
  | .telemetry _ => true
  | .panel _ _ => false
  | .message (.event (.output .stdout _)) _ => false
  | .message _ _ => true

def Effect.Quiet (e : Effect) : Prop := e.landmark = false

lemma Effect.Aside.quiet {e : Effect} (h : e.Aside) : e.Quiet := by
  rcases e with call | t | _ | m
  · cases call <;> simp [Quiet, landmark] at h ⊢
  · cases t <;> simp [Quiet, landmark] at h ⊢
  · rfl
  · simp at h

def landmarks (es : List Effect) : List Effect := es.filter Effect.landmark

/-- What the engine answers when it is asked to run or to load: how the run ends, or what stands in
the way of the load. -/
inductive Answer where
  | ran (outcome : StepOutcome)
  | loaded (failure : Option EngineError)
deriving DecidableEq

namespace World

def loadFailure (w : World S) (config : RunConfiguration) : Option EngineError :=
  match (S.engine.loadProgram config w.engine).1 with
  | .ok _ => none
  | .error e => some e

def answer? (w : World S) : Effect → Option Answer
  | .engine (.eval action armed) => some (.ran (w.outcome action armed))
  | .engine (.loadProgram config) => some (.loaded (w.loadFailure config))
  | _ => none

def answers (w : World S) : List Effect → List Answer
  | [] => []
  | e :: es => (w.answer? e).toList ++ (w.play e).answers es

lemma answers_append (w : World S) (es fs : List Effect) :
    w.answers (es ++ fs) = w.answers es ++ (w.playAll es).answers fs := by
  induction es generalizing w with
  | nil => rfl
  | cons e es ih => rw [List.cons_append, answers, ih, answers, playAll_cons, List.append_assoc]

lemma answer?_of_quiet {e : Effect} (h : e.Quiet) (w : World S) : w.answer? e = none := by
  rcases e with call | _ | _ | _
  · cases call <;> first | rfl | simp [Effect.Quiet, Effect.landmark] at h
  all_goals rfl

/-! ### Ways from one world to another -/

/-- One world comes of another by effects with these landmarks, which are answered so. -/
def Passes (w : World S) (marks : List Effect) (answers : List Answer) (w' : World S) : Prop :=
  ∃ es, w' = w.playAll es ∧ landmarks es = marks ∧ w.answers es = answers

variable {w w₁ w₂ : World S} {ms ns : List Effect} {as bs : List Answer}

lemma Passes.trans (h₁ : w.Passes ms as w₁) (h₂ : w₁.Passes ns bs w₂) :
    w.Passes (ms ++ ns) (as ++ bs) w₂ := by
  obtain ⟨es, rfl, rfl, rfl⟩ := h₁
  obtain ⟨fs, rfl, rfl, rfl⟩ := h₂
  exact ⟨es ++ fs, (playAll_append _ _ _).symm, List.filter_append _ _, answers_append _ _ _⟩

lemma Passes.landmark {e : Effect} (h : e.landmark = true) (w : World S) :
    w.Passes [e] (w.answer? e).toList (w.play e) :=
  ⟨[e], rfl, by simp [landmarks, h], List.append_nil _⟩

lemma Leads.passes (h : w.Leads Effect.Quiet w₁) : w.Passes [] [] w₁ := by
  obtain ⟨es, quiet, rfl⟩ := h
  refine ⟨es, rfl, by simpa [landmarks, Effect.Quiet] using quiet, ?_⟩
  induction es generalizing w with
  | nil => rfl
  | cons e es ih =>
    obtain ⟨first, rest⟩ := List.forall_mem_cons.mp quiet
    rw [answers, answer?_of_quiet first, ih rest]
    rfl

/-! ### Parts of a shot -/

lemma runStep_passes (action : StepAction) (armed : List Int) (v : Visualization) (w : World S) :
    w.Passes [.engine (.eval action armed)] [.ran (w.outcome action armed)]
      (runStep action armed v w).2.2 := by
  have asked : w.Passes [.engine (.eval action armed)] [.ran (w.outcome action armed)]
      (w.play (.engine (.eval action armed))) := .landmark rfl w
  have quiet : (w.play (.engine (.eval action armed))).Leads Effect.Quiet
      (runStep action armed v w).2.2 := by
    simp only [runStep, eval_eq]
    exact (World.forward_leads _ _ fun _ _ => rfl).trans
      ((Visualization.update_leads _ _ _).mono fun _ => Effect.Aside.quiet)
  exact asked.trans quiet.passes

lemma output_heard (hA : S.Attentive) (w : World S) (category : OutputCategory) (text : String) :
    w.output category text = w.play (.message (.event (.output category text)) true) := by
  show w.play (.message (.event (.output category text)) (S.client.deliver _ w.client).1) = _
  rw [hA]

lemma output_passes (hA : S.Attentive) (w : World S) (text : String) :
    w.Passes [.message (.event (.output .console text)) true] [] (w.output .console text) := by
  rw [output_heard hA]
  exact .landmark rfl w

lemma load_passes (p : Program) (w : World S) :
    w.Passes [.engine (.loadProgram p.config)] [.loaded (w.loadFailure p.config)]
      (p.load w).2.2 := by
  have asked : w.Passes [.engine (.loadProgram p.config)] [.loaded (w.loadFailure p.config)]
      (w.play (.engine (.loadProgram p.config))) := .landmark rfl w
  have quiet := (p.load_surveys w).mono fun _ he => he.aside.quiet
  exact asked.trans quiet.passes

lemma loadFailure_eq (p : Program) (w : World S) :
    w.loadFailure p.config = match (p.load w).1 with
      | .ok _ => none
      | .error e => some e := by
  rcases h : p.verdict w with e | urls
  · rw [Program.load_error h]
    simp only [Program.verdict] at h
    simp only [loadFailure, h]
  · rw [Program.load_ok h]
    simp only [Program.verdict] at h
    simp only [loadFailure, h]

end World

/-! ### Shots -/

def shotQuestion : Effect := .engine (.eval .continue [])

/-- The report that a shot has come to its end, as the client hears it. -/
def shotReport (total shot : Nat) : Effect :=
  .message (.event (.output .console (finishedShot shot total))) true

def fullShot (config : RunConfiguration) (total shot : Nat) : List Effect :=
  [shotQuestion, shotReport total shot, .engine (.loadProgram config)]

/-- Shots that come to their end, so many of them after those that are done. -/
def fullShots (config : RunConfiguration) (total done count : Nat) : List Effect :=
  (List.range' (done + 1) count).flatMap (fullShot config total)

/-- What the engine answers to shots that come to their end and to the loads after them. -/
def fullAnswers (count : Nat) : List Answer :=
  (List.replicate count [Answer.ran .completed, .loaded none]).flatten

lemma fullShots_succ (config : RunConfiguration) (total done count : Nat) :
    fullShots config total done (count + 1) =
      fullShot config total (done + 1) ++ fullShots config total (done + 1) count := rfl

lemma fullAnswers_succ (count : Nat) :
    fullAnswers (count + 1) = [.ran .completed, .loaded none] ++ fullAnswers count := rfl

/-- Why a shot is the last. -/
inductive LastShot where
  /-- It comes to its end, and there is no other after it. -/
  | completes
  /-- It stops before its end. -/
  | stops (outcome : StepOutcome)
  | faults (error : EngineError)
  /-- It comes to its end, but then the program does not load. -/
  | unloads (error : EngineError)

namespace LastShot

/-- Whether a shot with a number can be the last of all for this reason. -/
def Fits (total shot : Nat) : LastShot → Prop
  | completes => shot = total
  | stops outcome => shot ≤ total ∧ (outcome = .progressed ∨ ∃ id, outcome = .breakpointHit id)
  | faults _ => shot ≤ total
  | unloads _ => shot < total

def answers : LastShot → List Answer
  | completes => [.ran .completed]
  | stops outcome => [.ran outcome]
  | faults e => [.ran (.failed e)]
  | unloads e => [.ran .completed, .loaded (some e)]

/-- What is done. A shot is reported if it comes to its end. -/
def marks (config : RunConfiguration) (total shot : Nat) : LastShot → List Effect
  | completes => [shotQuestion, shotReport total shot]
  | stops _ => [shotQuestion]
  | faults _ => [shotQuestion]
  | unloads _ => fullShot config total shot

def outcome (shot : Nat) : LastShot → ShotsOutcome
  | completes => .completed
  | stops _ => .incomplete shot
  | faults e => .failed shot e
  | unloads e => .failed shot e

end LastShot

/-- What becomes of the shots that are left after some are done: a number of them come to their end
and are followed by a load, and then one is the last. -/
structure ShotsCourse (config : RunConfiguration) (total done : Nat) (w w' : World S)
    (how : ShotsOutcome) (count : Nat) (last : LastShot) : Prop where
  fits : last.Fits total (done + count + 1)
  outcome : how = last.outcome (done + count + 1)
  passes : w.Passes
    (fullShots config total done count ++ last.marks config total (done + count + 1))
    (fullAnswers count ++ last.answers) w'

lemma ShotsCourse.cons {config : RunConfiguration} {total done count : Nat} {w w₁ w' : World S}
    {how : ShotsOutcome} {last : LastShot}
    (first : w.Passes (fullShot config total (done + 1)) [.ran .completed, .loaded none] w₁)
    (rest : ShotsCourse config total (done + 1) w₁ w' how count last) :
    ShotsCourse config total done w w' how (count + 1) last := by
  have hshot : done + 1 + count + 1 = done + (count + 1) + 1 := by omega
  obtain ⟨fits, outcome, passes⟩ := rest
  rw [hshot] at fits outcome passes
  refine ⟨fits, outcome, ?_⟩
  rw [fullShots_succ, fullAnswers_succ, List.append_assoc, List.append_assoc]
  exact first.trans passes

section Shots

variable (left done : Nat) (p : Program) (v : Visualization) (w : World S)

/-- A shot is the last, or it comes to its end and the others are left after a load. -/
lemma runShotsLeft_step (hA : S.Attentive) :
    (∃ last, ShotsCourse p.config (done + (left + 1)) done w
      (runShotsLeft Program.reload (done + (left + 1)) (left + 1) p v w).2.2.2
      (runShotsLeft Program.reload (done + (left + 1)) (left + 1) p v w).1 0 last) ∨
    left ≠ 0 ∧ ∃ q v' w', q.config = p.config ∧
      w.Passes (fullShot p.config (done + (left + 1)) (done + 1)) [.ran .completed, .loaded none]
        w' ∧
      runShotsLeft Program.reload (done + (left + 1)) (left + 1) p v w =
        runShotsLeft Program.reload (done + (left + 1)) left q v' w' := by
  have hshot : done + (left + 1) - left = done + 1 := by omega
  have hle : done + 1 ≤ done + (left + 1) := by omega
  have asked := runStep_passes .continue [] v w
  have hout := runStep_outcome .continue [] v w
  rw [runShotsLeft, hshot]
  rcases hr : runStep .continue [] v w with ⟨outcome, v', w₁⟩
  rw [hr] at asked hout
  rw [← hout] at asked
  cases outcome with
  | failed e => exact .inl ⟨.faults e, hle, rfl, asked⟩
  | breakpointHit id => exact .inl ⟨.stops (.breakpointHit id), ⟨hle, .inr ⟨id, rfl⟩⟩, rfl, asked⟩
  | progressed => exact .inl ⟨.stops .progressed, ⟨hle, .inl rfl⟩, rfl, asked⟩
  | completed =>
    let w₂ := w₁.output .console (finishedShot (done + 1) (done + (left + 1)))
    have reported : w.Passes [shotQuestion, shotReport (done + (left + 1)) (done + 1)]
        [.ran .completed] w₂ := asked.trans (output_passes hA _ _)
    dsimp only
    by_cases hlast : left = 0
    · rw [if_pos hlast]
      exact .inl ⟨.completes, by simp [LastShot.Fits, hlast], rfl, reported⟩
    · rw [if_neg hlast]
      -- the report is out before the program is loaded anew, whatever comes of the load
      have loaded := reported.trans (load_passes p w₂)
      have hconfig := (p.load_keeps w₂).1
      rw [loadFailure_eq] at loaded
      simp only [Program.reload]
      rcases hl : p.load w₂ with ⟨answer, q, w₃⟩
      rw [hl] at loaded hconfig
      cases answer with
      | error e =>
        have hlt : done + 1 < done + (left + 1) := by omega
        exact .inl ⟨.unloads e, hlt, rfl, loaded⟩
      | ok bs => exact .inr ⟨hlast, q, v', w₃, hconfig, loaded, rfl⟩

/-- The shots that are left take one of the courses. -/
theorem runShotsLeft_course (hA : S.Attentive) :
    ∃ count last, ShotsCourse p.config (done + (left + 1)) done w
      (runShotsLeft Program.reload (done + (left + 1)) (left + 1) p v w).2.2.2
      (runShotsLeft Program.reload (done + (left + 1)) (left + 1) p v w).1 count last := by
  induction left generalizing done p v w with
  | zero =>
    rcases runShotsLeft_step 0 done p v w hA with ⟨last, course⟩ | ⟨hne, -⟩
    · exact ⟨0, last, course⟩
    · exact absurd rfl hne
  | succ left ih =>
    -- a shot that is not the last comes before the course of the others
    rcases runShotsLeft_step (left + 1) done p v w hA with
      ⟨last, course⟩ | ⟨-, q, v', w', hconfig, first, heq⟩
    · exact ⟨0, last, course⟩
    · obtain ⟨count, last, rest⟩ := ih (done + 1) q v' w'
      have htotal : done + 1 + (left + 1) = done + (left + 1 + 1) := by omega
      rw [htotal, hconfig] at rest
      rw [heq]
      exact ⟨count + 1, last, rest.cons first⟩

theorem runShots_course (hA : S.Attentive) {shots : Nat} (hshots : 1 ≤ shots) :
    ∃ count last, ShotsCourse p.config shots 0 w
      (runShots Program.reload shots p v w).2.2.2
      (runShots Program.reload shots p v w).1 count last := by
  obtain ⟨left, rfl⟩ : ∃ left, shots = left + 1 := ⟨shots - 1, by omega⟩
  have course := runShotsLeft_course left 0 p v w hA
  rw [Nat.zero_add] at course
  rw [runShots, Nat.max_eq_left hshots]
  exact course

end Shots

end QuantumDebug
