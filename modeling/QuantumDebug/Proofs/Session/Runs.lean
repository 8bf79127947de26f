import QuantumDebug.Proofs.Session.Calls

/-!
Runs of a session: calls made one after another, in any order and at any times. Each call adds its
effects to the trace, and the effects tell all that the call does to the world.
-/

namespace QuantumDebug

variable {S : Surroundings}

lemma snoc_eq_append_cons {α : Type} {xs ys zs : List α} {x z : α} :
    xs ++ [z] = ys ++ x :: zs ↔
      (xs = ys ∧ z = x ∧ zs = []) ∨ ∃ ws, zs = ws ++ [z] ∧ xs = ys ++ x :: ws := by
  constructor
  · intro heq
    rcases List.eq_nil_or_concat zs with rfl | ⟨ws, last, rfl⟩
    · obtain ⟨hxs, hlast⟩ := List.append_inj' heq rfl
      exact .inl ⟨hxs, List.singleton_inj.mp hlast, rfl⟩
    · rw [List.concat_eq_append, ← List.cons_append, ← List.append_assoc] at heq
      obtain ⟨hxs, hlast⟩ := List.append_inj' heq rfl
      obtain rfl := List.singleton_inj.mp hlast
      exact .inr ⟨ws, List.concat_eq_append, hxs⟩
  · rintro (⟨rfl, rfl, rfl⟩ | ⟨ws, rfl, rfl⟩)
    · rfl
    · simp

/-- Something has come in a run and nothing of another kind since. What comes is known together with
what has come before it. -/
def Since {α : Type} (comes spoils : List α → α → Prop) (xs : List α) : Prop :=
  ∃ before x after, xs = before ++ x :: after ∧ comes before x ∧
    ∀ between y rest, after = between ++ y :: rest → ¬ spoils (before ++ x :: between) y

section Since

variable {α : Type} {comes spoils : List α → α → Prop}

@[simp] lemma not_since_nil : ¬ Since comes spoils [] := by
  rintro ⟨before, x, after, heq, -⟩
  simp at heq

lemma since_snoc {xs : List α} {x : α} :
    Since comes spoils (xs ++ [x]) ↔ comes xs x ∨ Since comes spoils xs ∧ ¬ spoils xs x := by
  constructor
  · rintro ⟨before, y, after, heq, hcomes, hsince⟩
    obtain ⟨rfl, rfl, -⟩ | ⟨after, rfl, rfl⟩ := snoc_eq_append_cons.mp heq
    · exact .inl hcomes
    · refine .inr ⟨⟨before, y, after, rfl, hcomes, ?_⟩, hsince after x [] rfl⟩
      rintro between z rest rfl
      exact hsince between z (rest ++ [x]) (by simp)
  · rintro (hcomes | ⟨⟨before, y, after, rfl, hcomes, hsince⟩, hlast⟩)
    · exact ⟨xs, x, [], rfl, hcomes, by simp⟩
    · refine ⟨before, y, after ++ [x], by simp, hcomes, ?_⟩
      intro between z rest heq
      obtain ⟨rfl, rfl, -⟩ | ⟨rest, -, rfl⟩ := snoc_eq_append_cons.mp heq
      · exact hlast
      · exact hsince between z rest rfl

end Since

/-- A call of a session: a request that comes at one time and whose launch is looked at once more at
another, or a look at the clock while a launch waits. -/
inductive Call where
  | request (now later : Nat) (request : Request)
  | resume (now : Nat)
deriving DecidableEq, Inhabited

namespace Call

def request? : Call → Option Request
  | .request _ _ r => some r
  | .resume _ => none

def Asks (c : Call) (command : Command) : Prop := c.request?.map Request.command = some command

instance (c : Call) (command : Command) : Decidable (c.Asks command) :=
  inferInstanceAs (Decidable (_ = _))

end Call

namespace Debugger

def call (d : Debugger S) : Call → Handled S
  | .request now later r => d.handle now r later
  | .resume now => d.resume now

def effects (d : Debugger S) (c : Call) : List Effect :=
  (d.call c).2.world.trace.drop d.world.trace.length

def calls (d : Debugger S) (cs : List Call) : Debugger S := cs.foldl (fun d c => (d.call c).2) d

/-- A session that has not begun, before anything has been done. -/
def Fresh (d : Debugger S) : Prop :=
  ∃ (w : World S) (profile : String) (timeout : Nat), w.trace = [] ∧ d = start w profile timeout

section Fresh

variable {d : Debugger S}

lemma Fresh.trace (h : d.Fresh) : d.world.trace = [] := by
  obtain ⟨w, profile, timeout, hw, rfl⟩ := h
  exact hw

lemma Fresh.phase (h : d.Fresh) : d.phase = .uninitialized := by
  obtain ⟨w, profile, timeout, -, rfl⟩ := h
  rfl

lemma Fresh.configured (h : d.Fresh) : d.configured = false := by
  obtain ⟨w, profile, timeout, -, rfl⟩ := h
  rfl

lemma Fresh.pending (h : d.Fresh) : d.pending = none := by
  obtain ⟨w, profile, timeout, -, rfl⟩ := h
  rfl

end Fresh

@[simp] lemma calls_nil (d : Debugger S) : d.calls [] = d := rfl

lemma calls_snoc (d : Debugger S) (cs : List Call) (c : Call) :
    d.calls (cs ++ [c]) = ((d.calls cs).call c).2 := by
  simp [calls, List.foldl_append]

lemma calls_append (d : Debugger S) (cs later : List Call) :
    d.calls (cs ++ later) = (d.calls cs).calls later := by
  simp [calls, List.foldl_append]

/-! ### The effects of a move account for the world -/

lemma Ends.world {message : String} {code : Int} {d : Debugger S} {es : List Effect}
    {h : Handled S} (ends : Ends message code d es h) : h.2.world = d.world.playAll es := by
  cases ends <;> rfl

lemma EndsAfter.world {m : Message} {message : String} {code : Int} {d : Debugger S}
    {es : List Effect} {h : Handled S} (ends : EndsAfter m message code d es h) :
    h.2.world = d.world.playAll es := by
  cases ends with
  | heard ends => exact ends.world
  | unheard => rfl

lemma Steps.world {action : StepAction} {d : Debugger S} {es : List Effect} {h : Handled S}
    (steps : Steps action d es h) : h.2.world = d.world.playAll es := by
  cases steps with
  | idle => rfl
  | stops => rw [World.playAll_append]; rfl
  | completes _ _ _ ends => rw [World.playAll_append]; exact ends.world
  | fails _ _ _ ends => rw [World.playAll_append]; exact ends.world

lemma Shoots.world {d : Debugger S} {es : List Effect} {h : Handled S} (shoots : Shoots d es h) :
    h.2.world = d.world.playAll es := by
  cases shoots with
  | finishes _ _ _ ends => rw [World.playAll_append]; exact ends.world
  | fails _ _ ends => rw [World.playAll_append]; exact ends.world

lemma Proceeds.world {d : Debugger S} {es : List Effect} {h : Handled S}
    (proceeds : Proceeds d es h) : h.2.world = d.world.playAll es := by
  cases proceeds with
  | shots _ shoots => exact shoots.world
  | step _ steps => exact steps.world

lemma Resumes.world {now : Nat} {d : Debugger S} {es : List Effect} {h : Handled S}
    (resumes : Resumes now d es h) : h.2.world = d.world.playAll es := by
  cases resumes with
  | waits => rfl
  | unheard => rfl
  | goes _ proceeds => exact proceeds.world

lemma Handles.world {now later : Nat} {r : Request} {d : Debugger S} {es : List Effect}
    {h : Handled S} (handles : Handles now later r d es h) : h.2.world = d.world.playAll es := by
  cases handles with
  | looks => rfl
  | greets => rfl
  | refuses => rfl
  | unheard => rfl
  | configures _ resumes => exact resumes.world
  | steps _ steps => exact steps.world
  | loadFails _ _ _ _ _ ends => exact ends.world
  | loses => rfl
  | launches _ _ _ _ _ _ resumes =>
    rw [resumes.world, await_world, launching_world]
    simp only [World.playAll_cons, World.playAll_append]
  | terminates _ ends => exact ends.world
  | disconnects => rfl

/-- What a session can do for a call. -/
inductive Moves (d : Debugger S) : Call → List Effect → Handled S → Prop where
  | request {now later : Nat} {r : Request} {es : List Effect} {h : Handled S}
      (handles : Handles now later r d es h) : Moves d (.request now later r) es h
  | resume {now : Nat} {es : List Effect} {h : Handled S} (resumes : Resumes now d es h) :
      Moves d (.resume now) es h

lemma Moves.world {d : Debugger S} {c : Call} {es : List Effect} {h : Handled S}
    (moves : Moves d c es h) : h.2.world = d.world.playAll es := by
  cases moves with
  | request handles => exact handles.world
  | resume resumes => exact resumes.world

lemma effects_of_world {d : Debugger S} {c : Call} {es : List Effect}
    (h : (d.call c).2.world = d.world.playAll es) : d.effects c = es := by
  simp [effects, h]

lemma call_responds {d d' : Debugger S} {c : Call} {r : Request} {body : ResponseBody}
    {es : List Effect} (hcall : d.call c = d'.respond r body)
    (hworld : d'.world = d.world.playAll es) :
    ∃ ok, (S.Attentive → ok = true) ∧
      d.call c = (arrival ok, d'.play [r.answer (.success body) ok]) ∧
      d.effects c = es ++ [r.answer (.success body) ok] := by
  obtain ⟨ok, hok, heq⟩ := d'.send_ok (.response (r.success body))
  rw [respond, heq] at hcall
  refine ⟨ok, hok, hcall, effects_of_world ?_⟩
  rw [hcall, play_world, hworld, World.playAll_append]
  rfl

/-- Every call is one of the moves, and its effects are those that the move names. -/
theorem call_moves (d : Debugger S) (c : Call) : d.Moves c (d.effects c) (d.call c) := by
  have hmoves : ∃ es, d.Moves c es (d.call c) := by
    cases c with
    | request now later r =>
      obtain ⟨es, handles⟩ := d.handle_handles now later r
      exact ⟨es, .request handles⟩
    | resume now =>
      obtain ⟨es, resumes⟩ := d.resume_resumes now
      exact ⟨es, .resume resumes⟩
  obtain ⟨es, moves⟩ := hmoves
  rw [effects_of_world moves.world]
  exact moves

/-- The world after a call is the world before it with the effects of the call played. -/
theorem world_call (d : Debugger S) (c : Call) :
    (d.call c).2.world = d.world.playAll (d.effects c) :=
  (d.call_moves c).world

lemma trace_call (d : Debugger S) (c : Call) :
    (d.call c).2.world.trace = d.world.trace ++ d.effects c := by
  rw [world_call, World.trace_playAll]

lemma trace_calls_snoc (d : Debugger S) (cs : List Call) (c : Call) :
    (d.calls (cs ++ [c])).world.trace = (d.calls cs).world.trace ++ (d.calls cs).effects c := by
  rw [calls_snoc, trace_call]

end Debugger

end QuantumDebug
