import QuantumDebug.Proofs.Serving
import QuantumDebug.Proofs.Session.Lifecycle

/-!
The goodbye in the loop that serves a session. A request to disconnect always stops the engine and
is the end of the session. It is the end of the loop as well if the client hears the answer. If it
does not, the loop goes on with whatever wakes it next, although nothing is run in it any more.
-/

namespace QuantumDebug

open World

variable {S : Surroundings}

namespace Debugger

/-! ### One request -/

/-- Whether the client would hear the answer to a request to disconnect. -/
def hears (d : Debugger S) (r : Request) : Bool :=
  (S.client.deliver (.response (r.success .disconnect)) d.world.client).1

/-- What is done about a request to disconnect. -/
def leaving (d : Debugger S) (r : Request) : List Effect :=
  [.engine .terminate, r.answer (.success .disconnect) (d.hears r)]

def left (d : Debugger S) (r : Request) : Debugger S :=
  { d.play (d.leaving r) with pending := none, phase := .terminated }

section Request

variable {d : Debugger S} {t : Moment} {r : Request}

lemma hears_of_attentive (hA : S.Attentive) (d : Debugger S) (r : Request) : d.hears r = true :=
  hA _ _

/-- A request to disconnect is answered with a goodbye, or with the news that the client has missed
the answer. -/
lemma disconnect_eq (d : Debugger S) (r : Request) :
    d.disconnect r = (failure .shutdown (d.hears r), d.left r) := by
  let stopped : Debugger S :=
    { d.play [.engine .terminate] with pending := none, phase := .terminated }
  have hstop : d.disconnect r = (stopped.respond r .disconnect).failWith .shutdown := by
    rw [disconnect, advance, advance_terminated]
    rfl
  have hsend : stopped.respond r .disconnect = (arrival (d.hears r), d.left r) := by
    have hheard : (S.client.deliver (.response (r.success .disconnect)) stopped.world.client).1 =
        d.hears r := rfl
    rw [respond, send, World.send_eq, left, leaving, Request.answer, hheard]
    cases d.hears r <;> rfl
  rw [hstop, hsend, failWith_arrival]

lemma handle_disconnect (command : r.command = .disconnect) (now later : Nat) :
    d.handle now r later = (failure .shutdown (d.hears r), d.left r) := by
  simp only [handle, command, disconnect_eq]

lemma failure_eq_iff (e : SessionError) (he : e ≠ .unreachable) (ok : Bool) :
    failure e ok = .error e ↔ ok = true := by
  cases ok
  · simpa [failure] using he.symm
  · simp [failure]

lemma turn_disconnect (command : r.command = .disconnect) :
    d.turn t (.request r) = (!d.hears r, d.left r) := by
  rw [turn_request, handle_disconnect command]
  cases d.hears r <;> simp [failure]

lemma turnEffects_disconnect (command : r.command = .disconnect) :
    d.turnEffects t (.request r) = d.leaving r := by
  rw [turnEffects, turn_disconnect command]
  simp [left]

end Request

/-! ### Turns of any client -/

section Turns

variable {d : Debugger S} {t : Moment} {i : Incoming} {s s' : List (Moment × Incoming)}

lemma serve_append (goesOn : (d.serve s).1 = true) :
    d.serve (s ++ s') = (d.serve s).2.serve s' ∧
      d.turns (s ++ s') = d.turns s ++ (d.serve s).2.turns s' := by
  induction s generalizing d with
  | nil => exact ⟨rfl, rfl⟩
  | cons x s ih =>
    obtain ⟨t, i⟩ := x
    rw [serve_cons] at goesOn
    split at goesOn
    · rename_i hturn
      obtain ⟨hserve, hturns⟩ := ih goesOn
      simp only [List.cons_append, serve_cons, turns, if_pos hturn, hserve, hturns, and_self]
    · simp at goesOn

lemma turns_late (hd : Patient d) (hover : d.phase = .terminated) (s : List (Moment × Incoming)) :
    ∀ turn ∈ d.turns s, ∀ e ∈ turn.effects, ¬ e.Runs := by
  induction s generalizing d with
  | nil => simp [turns]
  | cons x s ih =>
    obtain ⟨t, i⟩ := x
    have first : (∀ e ∈ d.turnEffects t i, ¬ e.Runs) ∧ Patient (d.turn t i).2 ∧
        (d.turn t i).2.phase = .terminated := by
      rcases hc : i.call? t with _ | c
      · obtain ⟨es, hes, heq⟩ := turn_uncalled hc d
        refine ⟨?_, heq ▸ hd, heq ▸ hover⟩
        rw [turnEffects, heq, play_world, trace_playAll, List.drop_left]
        exact hes
      · rw [turnEffects_call hc, turn_call hc]
        exact ⟨fun e he => (call_late hd hover c e he).not_runs, call_patient hd c,
          call_terminated hover c⟩
    obtain ⟨heffects, hpatient, hphase⟩ := first
    rw [turns]
    refine List.forall_mem_cons.mpr ⟨heffects, ?_⟩
    split
    · exact ih hpatient hphase
    · simp

end Turns

/-! ### The loop -/

/-- What comes of a request to disconnect in the loop, after it has dealt with other things. -/
structure Leaves (d : Debugger S) (woken : List (Moment × Incoming)) (t : Moment) (r : Request) :
    Prop where
  /-- The engine is asked to stop and then the client is answered, whatever the client hears. -/
  effects : (d.serve woken).2.turnEffects t (.request r) = (d.serve woken).2.leaving r
  /-- The request reports a goodbye just if the client hears the answer. -/
  reports_iff : ((d.serve woken).2.handle t.now r t.later).1 = .error .shutdown ↔
    (d.serve woken).2.hears r = true
  /-- The loop ends with this turn if the client hears the answer, and it goes on if not. -/
  turns : ∀ rest, d.turns (woken ++ (t, .request r) :: rest) =
    d.turns woken ++ ⟨t, .request r, (d.serve woken).2.leaving r⟩ ::
      if (d.serve woken).2.hears r then [] else ((d.serve woken).2.left r).turns rest
  serve : ∀ rest, d.serve (woken ++ (t, .request r) :: rest) =
    if (d.serve woken).2.hears r then (false, (d.serve woken).2.left r)
    else ((d.serve woken).2.left r).serve rest
  /-- So it is the last request to be handled, whatever wakes the loop, just if the client hears the
  answer. -/
  last_iff : (∀ rest, Turn.requests (d.turns (woken ++ (t, .request r) :: rest)) =
      Turn.requests (d.turns woken) ++ [r]) ↔ (d.serve woken).2.hears r = true
  /-- An attentive client hears it. -/
  attentive : S.Attentive → (d.serve woken).2.hears r = true
  /-- In any case the engine has been asked to stop. -/
  stopped : ∀ rest, .engine .terminate ∈
    (d.serve (woken ++ (t, .request r) :: rest)).2.world.trace
  /-- In any case the session is over, and whatever else the loop does runs and loads no program. -/
  ended : ((d.serve woken).2.left r).phase = .terminated ∧
    ∀ rest, ∀ turn ∈ ((d.serve woken).2.left r).turns rest, ∀ e ∈ turn.effects, ¬ e.Runs

/-- **A request to disconnect ends the loop just if the client hears the answer**, and it stops the
engine and ends the session in any case. -/
theorem serve_leaves (d : Debugger S) {woken : List (Moment × Incoming)}
    (goesOn : (d.serve woken).1 = true) (t : Moment) {r : Request}
    (command : r.command = .disconnect) : Leaves d woken t r := by
  have hserve (rest : List (Moment × Incoming)) : d.serve (woken ++ (t, .request r) :: rest) =
      if (d.serve woken).2.hears r then (false, (d.serve woken).2.left r)
      else ((d.serve woken).2.left r).serve rest := by
    rw [(serve_append goesOn).1, serve_cons, turn_disconnect command]
    cases (d.serve woken).2.hears r <;> rfl
  have hturns (rest : List (Moment × Incoming)) : d.turns (woken ++ (t, .request r) :: rest) =
      d.turns woken ++ ⟨t, .request r, (d.serve woken).2.leaving r⟩ ::
        if (d.serve woken).2.hears r then [] else ((d.serve woken).2.left r).turns rest := by
    rw [(serve_append goesOn).2, Debugger.turns, turnEffects_disconnect command,
      turn_disconnect command]
    cases (d.serve woken).2.hears r <;> rfl
  have hrequests (rest : List (Moment × Incoming)) :
      Turn.requests (d.turns (woken ++ (t, .request r) :: rest)) =
        Turn.requests (d.turns woken) ++ r :: Turn.requests
          (if (d.serve woken).2.hears r then [] else ((d.serve woken).2.left r).turns rest) := by
    rw [hturns, Turn.requests, List.filterMap_append]
    rfl
  have hpatient : Patient ((d.serve woken).2.left r) := .of_none rfl
  exact {
    effects := turnEffects_disconnect command
    reports_iff := by
      rw [handle_disconnect command]
      exact failure_eq_iff _ (by simp) _
    turns := hturns
    serve := hserve
    last_iff := by
      constructor
      · intro hlast
        by_contra hdeaf
        -- one request more would be handled
        have hmore := hlast [(t, .request ⟨0, .threads⟩)]
        rw [hrequests, if_neg hdeaf] at hmore
        simp [Debugger.turns, Turn.requests, Incoming.request?] at hmore
      · intro hheard rest
        rw [hrequests, if_pos hheard]
        rfl
    attentive := fun hA => hears_of_attentive hA _ r
    stopped := fun rest => by
      have hleft : .engine .terminate ∈ ((d.serve woken).2.left r).world.trace := by
        simp [left, leaving]
      rw [hserve]
      split
      · exact hleft
      · rw [trace_serve]
        exact List.mem_append_left _ hleft
    ended := ⟨rfl, turns_late hpatient rfl⟩ }

/-- A session whose client hears two messages and none after them. -/
def goesDeaf : Debugger (.scripted [2, 3, 4]) := scripted [2, 3, 4] ⟨[], []⟩

def lateRequests : List (Moment × Incoming) :=
  [(⟨0, 0⟩, .request .plainGreeting), (⟨1, 1⟩, .request ⟨2, .disconnect⟩),
    (⟨2, 2⟩, .request ⟨3, .terminate⟩), (⟨3, 3⟩, .request ⟨4, .threads⟩)]

theorem goesDeaf_leaves :
    (goesDeaf.serve (lateRequests.take 1)).1 = true ∧
      Leaves goesDeaf (lateRequests.take 1) ⟨1, 1⟩ ⟨2, .disconnect⟩ ∧
      (goesDeaf.serve (lateRequests.take 1)).2.hears ⟨2, .disconnect⟩ = false := by
  have goesOn : (goesDeaf.serve (lateRequests.take 1)).1 = true := by decide +kernel
  exact ⟨goesOn, serve_leaves goesDeaf goesOn ⟨1, 1⟩ rfl, by decide +kernel⟩

/-- A client that is gone when it disconnects: the request reports no goodbye, and the loop handles
the two requests after it. -/
theorem goesDeaf_served_on :
    ((goesDeaf.serve (lateRequests.take 1)).2.handle 1 ⟨2, .disconnect⟩).1 =
        .error .unreachable ∧
      (Turn.requests (goesDeaf.turns lateRequests)).map Request.seq = [1, 2, 3, 4] ∧
      (goesDeaf.serve lateRequests).1 = true := by
  decide +kernel

end Debugger

end QuantumDebug
