import QuantumDebug.Proofs.Session.Configuration
import QuantumDebug.Proofs.Session.Retelling
import QuantumDebug.Proofs.Session.Scripted
import QuantumDebug.Server

/-!
The loop that serves a session does nothing but make its calls. Whatever order the requests, the log
records, the ends of both and the deadline of a launch come in, the session fares as if the calls
had been made directly, and the log records are told on the side.
-/

namespace QuantumDebug

open World

variable {S : Surroundings}

namespace Debugger

/-! ### The goodbye is the one error that counts -/

section Arrives

variable {message : String} {code : Int} {m : Message} {action : StepAction} {now later : Nat}
  {r : Request} {d : Debugger S} {es : List Effect} {h : Handled S}

lemma Ends.arrives (ends : Ends message code d es h) : ∃ ok, h.1 = arrival ok := by
  cases ends with
  | past => exact ⟨true, rfl⟩
  | closes => exact ⟨_, rfl⟩

lemma EndsAfter.arrives (ends : EndsAfter m message code d es h) : ∃ ok, h.1 = arrival ok := by
  cases ends with
  | heard ends => exact ends.arrives
  | unheard => exact ⟨false, rfl⟩

lemma Steps.arrives (steps : Steps action d es h) : ∃ ok, h.1 = arrival ok := by
  cases steps with
  | idle => exact ⟨true, rfl⟩
  | stops => exact ⟨_, rfl⟩
  | completes _ _ _ ends => exact ends.arrives
  | fails _ _ _ ends => exact ends.arrives

lemma Proceeds.arrives (proceeds : Proceeds d es h) : ∃ ok, h.1 = arrival ok := by
  cases proceeds with
  | shots _ shoots =>
    cases shoots with
    | finishes _ _ _ ends => exact ends.arrives
    | fails _ _ ends => exact ends.arrives
  | step _ steps => exact steps.arrives

lemma Resumes.arrives (resumes : Resumes now d es h) : ∃ ok, h.1 = arrival ok := by
  cases resumes with
  | waits => exact ⟨true, rfl⟩
  | unheard => exact ⟨false, rfl⟩
  | goes _ proceeds => exact proceeds.arrives

lemma arrival_ne (ok : Bool) (e : SessionError) (he : e ≠ .unreachable) :
    arrival ok ≠ .error e := by
  cases ok
  · simpa [arrival] using he.symm
  · simp [arrival]

lemma launchConfiguration_ne_shutdown (noDebug : Option Bool) (data : Option Json) :
    launchConfiguration noDebug data ≠ .error .shutdown := by
  unfold launchConfiguration
  split
  · simp
  · split <;> simp

lemma Refuses.ne_shutdown {e : SessionError} {text : String} (refuses : Refuses d r e text) :
    e ≠ .shutdown := by
  cases refuses with
  | @launch noDebug data _ _ h =>
    rintro rfl
    unfold accepted? at h
    split at h
    · simp at h
    · exact launchConfiguration_ne_shutdown noDebug data h
  | unsupported => simp

lemma Handles.shutdown_iff (hA : S.Attentive) (handles : Handles now later r d es h) :
    h.1 = .error .shutdown ↔ r.command = .disconnect := by
  have arrives (command : r.command ≠ .disconnect) (hok : ∃ ok, h.1 = arrival ok) :
      h.1 = .error .shutdown ↔ r.command = .disconnect := by
    obtain ⟨ok, hok⟩ := hok
    rw [hok]
    exact iff_of_false (arrival_ne ok _ (by simp)) command
  cases handles with
  | looks command => exact arrives (Command.neutral_of_looks command).disconnect ⟨_, rfl⟩
  | greets command => exact arrives (by simp [command]) ⟨_, rfl⟩
  | refuses refuses hok =>
    refine iff_of_false ?_ (by cases refuses <;> simp [*])
    rw [hok hA, failure]
    simpa using refuses.ne_shutdown
  | unheard _ hS => exact absurd hA hS
  | configures command resumes => exact arrives (by simp [command]) resumes.arrives
  | steps command steps =>
    exact arrives (Command.neutral_of_step command).disconnect steps.arrives
  | loadFails command _ _ _ _ ends => exact arrives (by simp [command]) ends.arrives
  | loses _ _ _ _ _ hS => exact absurd hA hS
  | launches command _ _ _ _ _ resumes => exact arrives (by simp [command]) resumes.arrives
  | terminates command ends => exact arrives (by simp [command]) ends.arrives
  | disconnects command hok => exact iff_of_true (by rw [hok hA]; rfl) command

lemma handle_shutdown_iff (hA : S.Attentive) (d : Debugger S) (now later : Nat) (r : Request) :
    (d.handle now r later).1 = .error .shutdown ↔ r.command = .disconnect := by
  obtain ⟨es, handles⟩ := d.handle_handles now later r
  exact handles.shutdown_iff hA

end Arrives

end Debugger

/-! ### What the loop is woken by -/

namespace Incoming

def call? (t : Moment) : Incoming → Option Call
  | .request r => some (.request t.now t.later r)
  | .launchDeadline => some (.resume t.now)
  | _ => none

def request? : Incoming → Option Request
  | .request r => some r
  | _ => none

def isLog : Incoming → Bool
  | .log _ => true
  | _ => false

/-- Whether the loop ends with it. -/
def ends : Incoming → Bool
  | .request r => decide (r.command = .disconnect)
  | .requestsClosed => true
  | _ => false

end Incoming

/-- The items up to the first with a property, and with it. -/
def untilFirst {α : Type} (p : α → Bool) : List α → List α
  | [] => []
  | a :: as => a :: if p a then [] else untilFirst p as

/-- The requests up to the first goodbye, and with it. -/
def untilDisconnect (rs : List Request) : List Request :=
  untilFirst (fun r => decide (r.command = .disconnect)) rs

/-- What the sources of the loop can wake it with: the requests in their order and, once all have
come, that there are no more; the log records likewise; and a deadline at any time. -/
inductive Feeds : List Request → List String → Bool → List (Moment × Incoming) → Prop where
  | waits (rs : List Request) (logs : List String) (logging : Bool) : Feeds rs logs logging []
  | request {rs : List Request} {logs : List String} {logging : Bool}
      {s : List (Moment × Incoming)} (t : Moment) (r : Request) (h : Feeds rs logs logging s) :
      Feeds (r :: rs) logs logging ((t, .request r) :: s)
  | requestsClosed {logs : List String} {logging : Bool} {s : List (Moment × Incoming)}
      (t : Moment) (h : Feeds [] logs logging s) : Feeds [] logs logging ((t, .requestsClosed) :: s)
  | log {rs : List Request} {logs : List String} {s : List (Moment × Incoming)} (t : Moment)
      (record : String) (h : Feeds rs logs true s) :
      Feeds rs (record :: logs) true ((t, .log record) :: s)
  | logsClosed {rs : List Request} {s : List (Moment × Incoming)} (t : Moment)
      (h : Feeds rs [] false s) : Feeds rs [] true ((t, .logsClosed) :: s)
  | launchDeadline {rs : List Request} {logs : List String} {logging : Bool}
      {s : List (Moment × Incoming)} (t : Moment) (h : Feeds rs logs logging s) :
      Feeds rs logs logging ((t, .launchDeadline) :: s)

/-- A turn of the loop: what it was woken by, when, and what it did. -/
structure Turn where
  moment : Moment
  incoming : Incoming
  effects : List Effect
deriving DecidableEq

namespace Turn

def waking (turn : Turn) : Moment × Incoming := (turn.moment, turn.incoming)

def call? (turn : Turn) : Option Call := turn.incoming.call? turn.moment

def calls (turns : List Turn) : List Call := turns.filterMap call?

def requests (turns : List Turn) : List Request := turns.filterMap (·.incoming.request?)

/-- What is done in turns, those that deal with log records left out. -/
def unlogged (turns : List Turn) : List Effect :=
  (turns.filter (!·.incoming.isLog)).flatMap effects

lemma calls_cons (turn : Turn) (turns : List Turn) :
    calls (turn :: turns) = turn.call?.toList ++ calls turns := by
  unfold calls
  rw [List.filterMap_cons]
  cases turn.call? <;> rfl

lemma unlogged_cons (turn : Turn) (turns : List Turn) :
    unlogged (turn :: turns) = unlogged [turn] ++ unlogged turns := by
  show unlogged ([turn] ++ turns) = _
  rw [unlogged, List.filter_append, List.flatMap_append]
  rfl

end Turn

namespace Debugger

variable {d d' : Debugger S} {t : Moment} {i : Incoming}

def turnEffects (d : Debugger S) (t : Moment) (i : Incoming) : List Effect :=
  (d.turn t i).2.world.trace.drop d.world.trace.length

def turns (d : Debugger S) : List (Moment × Incoming) → List Turn
  | [] => []
  | (t, i) :: rest =>
    ⟨t, i, d.turnEffects t i⟩ :: if (d.turn t i).1 then (d.turn t i).2.turns rest else []

lemma serve_cons (d : Debugger S) (t : Moment) (i : Incoming) (s : List (Moment × Incoming)) :
    d.serve ((t, i) :: s) =
      if (d.turn t i).1 then (d.turn t i).2.serve s else (false, (d.turn t i).2) := by
  rw [serve]
  rcases d.turn t i with ⟨going, d'⟩
  cases going <;> rfl

/-! ### One turn -/

lemma turn_request (d : Debugger S) (t : Moment) (r : Request) :
    d.turn t (.request r) =
      (decide ((d.handle t.now r t.later).1 ≠ .error .shutdown), (d.handle t.now r t.later).2) := by
  rw [turn]
  rcases d.handle t.now r t.later with ⟨answer, d'⟩
  rcases answer with e | u
  · cases e <;> rfl
  · rfl

lemma turn_call {c : Call} (hc : i.call? t = some c) (d : Debugger S) :
    (d.turn t i).2 = (d.call c).2 := by
  cases i <;> simp only [Incoming.call?, reduceCtorEq, Option.some.injEq] at hc
  · subst hc
    rw [turn_request]
    rfl
  · subst hc
    rfl

lemma turnEffects_call {c : Call} (hc : i.call? t = some c) (d : Debugger S) :
    d.turnEffects t i = d.effects c := by
  rw [turnEffects, turn_call hc, effects]

lemma turn_log (hA : S.Attentive) (d : Debugger S) (t : Moment) (record : String) :
    d.turn t (.log record) = (true, d.play
      (if d.traceEnabled then [.message (.event (.output .console record)) true] else [])) := by
  rw [turn]
  split
  · rw [World.output, World.send_eq, hA]
    rfl
  · rfl

lemma turn_still (hA : S.Attentive) (hi : i.call? t = none) (d : Debugger S) :
    d.Matches (d.turn t i).2 := by
  cases i with
  | request => simp [Incoming.call?] at hi
  | launchDeadline => simp [Incoming.call?] at hi
  | requestsClosed => exact .refl d
  | logsClosed => exact .refl d
  | log record =>
    rw [turn_log hA]
    dsimp only
    split
    · exact .message d _ _
    · exact .refl d

lemma turn_goesOn (hA : S.Attentive) (d : Debugger S) (t : Moment) (i : Incoming) :
    (d.turn t i).1 = !i.ends := by
  cases i with
  | request r =>
    rw [turn_request]
    simp [Incoming.ends, handle_shutdown_iff hA]
  | requestsClosed => rfl
  | log => rfl
  | logsClosed => rfl
  | launchDeadline => rfl

lemma turn_uncalled (hi : i.call? t = none) (d : Debugger S) :
    ∃ es, (∀ e ∈ es, ¬ e.Runs) ∧ (d.turn t i).2 = d.play es := by
  cases i with
  | request => simp [Incoming.call?] at hi
  | launchDeadline => simp [Incoming.call?] at hi
  | requestsClosed => exact ⟨[], by simp, rfl⟩
  | logsClosed => exact ⟨[], by simp, rfl⟩
  | log record =>
    obtain ⟨ok, hw⟩ := World.output_eq d.world .console record
    rw [turn]
    split
    · exact ⟨[.message (.event (.output .console record)) ok], by simp, by rw [hw]; rfl⟩
    · exact ⟨[], by simp, rfl⟩

lemma trace_turn (d : Debugger S) (t : Moment) (i : Incoming) :
    (d.turn t i).2.world.trace = d.world.trace ++ d.turnEffects t i := by
  have grows : ∃ es, (d.turn t i).2.world.trace = d.world.trace ++ es := by
    rcases hc : i.call? t with _ | c
    · obtain ⟨es, -, heq⟩ := turn_uncalled hc d
      exact ⟨es, by rw [heq, play_world, trace_playAll]⟩
    · exact ⟨_, by rw [turn_call hc, trace_call]⟩
  obtain ⟨es, hes⟩ := grows
  simp [turnEffects, hes]

/-! ### The loop -/

lemma turns_waking (hA : S.Attentive) (d : Debugger S) (s : List (Moment × Incoming)) :
    (d.turns s).map Turn.waking = untilFirst (·.2.ends) s := by
  induction s generalizing d with
  | nil => rfl
  | cons x s ih =>
    obtain ⟨t, i⟩ := x
    rw [turns, untilFirst, turn_goesOn hA]
    cases i.ends
    · exact congrArg ((t, i) :: ·) (ih _)
    · rfl

lemma serve_goesOn (hA : S.Attentive) (d : Debugger S) (s : List (Moment × Incoming)) :
    (d.serve s).1 = !s.any (·.2.ends) := by
  induction s generalizing d with
  | nil => rfl
  | cons x s ih =>
    obtain ⟨t, i⟩ := x
    rw [serve_cons, turn_goesOn hA]
    rcases h : i.ends
    · simpa [h] using ih _
    · simp [h]

lemma trace_serve (d : Debugger S) (s : List (Moment × Incoming)) :
    (d.serve s).2.world.trace = d.world.trace ++ (d.turns s).flatMap Turn.effects := by
  induction s generalizing d with
  | nil => simp [serve, turns]
  | cons x s ih =>
    obtain ⟨t, i⟩ := x
    rw [serve_cons, turns]
    split
    · rw [ih, trace_turn, List.flatMap_cons, List.append_assoc]
    · rw [trace_turn]
      simp

lemma unlogged_still {turn : Turn}
    (hturn : turn.effects = d.turnEffects turn.moment turn.incoming) (hc : turn.call? = none) :
    Turn.unlogged [turn] = [] := by
  obtain ⟨t, i, es⟩ := turn
  cases i with
  | request => simp [Turn.call?, Incoming.call?] at hc
  | launchDeadline => simp [Turn.call?, Incoming.call?] at hc
  | log => rfl
  | requestsClosed =>
    simpa [Turn.unlogged, Incoming.isLog, turnEffects, Debugger.turn] using hturn
  | logsClosed => simpa [Turn.unlogged, Incoming.isLog, turnEffects, Debugger.turn] using hturn

lemma unlogged_call {turn : Turn} {c : Call} (hc : turn.call? = some c) :
    Turn.unlogged [turn] = turn.effects := by
  obtain ⟨t, i, es⟩ := turn
  cases i <;> simp [Turn.call?, Incoming.call?, Turn.unlogged, Incoming.isLog] at hc ⊢

lemma turn_matches (hA : S.Attentive) (h : d'.Matches d) {turn : Turn}
    (hturn : turn.effects = d.turnEffects turn.moment turn.incoming) :
    (d'.calls turn.call?.toList).Matches (d.turn turn.moment turn.incoming).2 ∧
      (d'.calls turn.call?.toList).world.trace = d'.world.trace ++ Turn.unlogged [turn] := by
  rcases hc : turn.call? with _ | c
  · rw [unlogged_still hturn hc]
    exact ⟨h.trans (turn_still hA hc d), (List.append_nil _).symm⟩
  · obtain ⟨-, heffects, hd⟩ := h.call hA c
    rw [unlogged_call hc, hturn, turn_call hc, turnEffects_call hc, heffects]
    exact ⟨hd, trace_call d' c⟩

/-- **The loop and the calls made directly go the same way**: they leave matching sessions, and the
calls do what is done in the turns but for the log records. -/
theorem serve_matches (hA : S.Attentive) (h : d'.Matches d) (s : List (Moment × Incoming)) :
    (d'.calls (Turn.calls (d.turns s))).Matches (d.serve s).2 ∧
      (d'.calls (Turn.calls (d.turns s))).world.trace =
        d'.world.trace ++ Turn.unlogged (d.turns s) := by
  induction s generalizing d d' with
  | nil => exact ⟨h, (List.append_nil _).symm⟩
  | cons x s ih =>
    obtain ⟨t, i⟩ := x
    let turn : Turn := ⟨t, i, d.turnEffects t i⟩
    obtain ⟨hturn, htrace⟩ :=
      turn_matches hA h (show turn.effects = d.turnEffects turn.moment turn.incoming from rfl)
    rw [serve_cons, turns, Turn.calls_cons, Turn.unlogged_cons, calls_append, ← List.append_assoc,
      ← htrace]
    split
    · exact ih hturn
    · exact ⟨hturn, (List.append_nil _).symm⟩

/-- What a turn does is what it does in the session that the turns before it leave, and these turns
are all of the loop if it is woken by nothing else. -/
lemma turns_split {s : List (Moment × Incoming)} {before after : List Turn} {turn : Turn}
    (h : d.turns s = before ++ turn :: after) :
    d.turns (before.map Turn.waking) = before ∧
      turn.effects =
        (d.serve (before.map Turn.waking)).2.turnEffects turn.moment turn.incoming ∧
      (d.serve ((before ++ [turn]).map Turn.waking)).2 =
        ((d.serve (before.map Turn.waking)).2.turn turn.moment turn.incoming).2 := by
  induction before generalizing d s with
  | nil =>
    cases s with
    | nil => simp [turns] at h
    | cons x s =>
      obtain ⟨t, i⟩ := x
      obtain ⟨rfl, -⟩ := List.cons.inj h
      refine ⟨rfl, rfl, ?_⟩
      rw [List.nil_append, List.map_singleton, Turn.waking, serve_cons]
      split <;> rfl
  | cons first before ih =>
    cases s with
    | nil => simp [turns] at h
    | cons x s =>
      obtain ⟨t, i⟩ := x
      obtain ⟨rfl, hrest⟩ := List.cons.inj h
      split at hrest
      · rename_i hgoes
        obtain ⟨hbefore, heffects, hserve⟩ := ih hrest
        simp only [List.cons_append, List.map_cons, Turn.waking, serve_cons, turns, if_pos hgoes]
        exact ⟨congrArg _ hbefore, heffects, hserve⟩
      · simp at hrest

end Debugger

/-! ### The order of requests -/

lemma untilFirst_cons {α : Type} (p : α → Bool) (a : α) (as : List α) :
    untilFirst p (a :: as) = a :: if p a then [] else untilFirst p as := rfl

/-- The requests among what the loop is woken by come in their order, and the loop does not end
before the first goodbye or the last request. -/
lemma Feeds.requests {rs : List Request} {logs : List String} {logging : Bool}
    {s : List (Moment × Incoming)} (h : Feeds rs logs logging s) :
    (untilFirst (·.2.ends) s).filterMap (·.2.request?) <+: untilDisconnect rs ∧
      (s.any (·.2.ends) = true →
        (untilFirst (·.2.ends) s).filterMap (·.2.request?) = untilDisconnect rs) := by
  induction h with
  | waits => exact ⟨List.nil_prefix, fun h => absurd h (by simp)⟩
  | request t r _ ih =>
    have hends : ((t, Incoming.request r) : Moment × Incoming).2.ends =
      decide (r.command = .disconnect) := rfl
    have hrequests (rest : List (Moment × Incoming)) :
        ((t, .request r) :: rest).filterMap (·.2.request?) =
          r :: rest.filterMap (·.2.request?) := rfl
    rw [untilFirst_cons, untilDisconnect, untilFirst_cons, List.any_cons, hends, hrequests]
    cases hr : decide (r.command = .disconnect)
    · obtain ⟨horder, hall⟩ := ih
      exact ⟨List.cons_prefix_cons.mpr ⟨rfl, horder⟩, fun h => congrArg (r :: ·) (hall h)⟩
    · exact ⟨List.prefix_refl _, fun _ => rfl⟩
  | requestsClosed => exact ⟨List.nil_prefix, fun _ => rfl⟩
  | log => exact ‹_ ∧ _›
  | logsClosed => exact ‹_ ∧ _›
  | launchDeadline => exact ‹_ ∧ _›

namespace Debugger

/-! ### The result -/

/-- What becomes of a session in the loop. -/
structure Served (d : Debugger S) (rs : List Request) (s : List (Moment × Incoming)) : Prop where
  /-- All that the loop does is done in its turns. -/
  trace : (d.serve s).2.world.trace = d.world.trace ++ (d.turns s).flatMap Turn.effects
  /-- Log records left aside, it is what the calls do when they are made directly in the order of
  the turns. -/
  direct : (d.calls (Turn.calls (d.turns s))).world.trace =
    d.world.trace ++ Turn.unlogged (d.turns s)
  /-- The session is left as the calls leave it. -/
  state : (d.calls (Turn.calls (d.turns s))).Matches (d.serve s).2
  /-- Requests are handled in their order and not beyond the first goodbye. -/
  order : Turn.requests (d.turns s) <+: untilDisconnect rs
  /-- When the loop has ended all of these have been handled. -/
  complete : (d.serve s).1 = false → Turn.requests (d.turns s) = untilDisconnect rs
  /-- Nothing ends the loop but a goodbye or the end of the requests. -/
  ends_iff : (d.serve s).1 = false ↔ ∃ x ∈ s, x.2.ends = true
  /-- Until it ends the loop deals with everything that wakes it. -/
  waking : (d.turns s).map Turn.waking = untilFirst (·.2.ends) s
  /-- A log record is written as one output if trace is in force and the session is not over, and
  not at all otherwise. -/
  logs : ∀ before turn after record, d.turns s = before ++ turn :: after →
    turn.incoming = .log record →
      turn.effects =
        if (d.calls (Turn.calls before)).program.config.traceVerbose = true ∧
          (d.calls (Turn.calls before)).phase ≠ .terminated
        then [.message (.event (.output .console record)) true] else []
  /-- Trace is in force if the launch that has been taken up asks for it. -/
  traced : ∀ (d₀ : Debugger S) earlier, d₀.Fresh → d = d₀.calls earlier → ∀ cs,
    ((d.calls cs).program.config.traceVerbose = true ↔
      ∃ config, d₀.TakesUp (earlier ++ cs) config ∧ config.traceVerbose = true)
  /-- Log records and their end leave the session as it is. -/
  still : ∀ before turn after, d.turns s = before ++ turn :: after → turn.call? = none →
    (d.serve (before.map Turn.waking)).2.Matches
      (d.serve ((before ++ [turn]).map Turn.waking)).2

/-- **The loop does for a session what the calls do directly**, in whatever order its sources wake
it. -/
theorem serve_refines (hA : S.Attentive) (d : Debugger S) {rs : List Request} {logs : List String}
    {s : List (Moment × Incoming)} (h : Feeds rs logs true s) : Served d rs s := by
  obtain ⟨state, direct⟩ := serve_matches hA (.refl d) s
  obtain ⟨horder, hall⟩ := h.requests
  have hrequests : Turn.requests (d.turns s) =
      (untilFirst (·.2.ends) s).filterMap (·.2.request?) := by
    rw [← turns_waking hA d, List.filterMap_map]
    rfl
  have hends : (d.serve s).1 = false ↔ s.any (·.2.ends) = true := by
    rw [serve_goesOn hA, Bool.not_eq_false']
  exact {
    trace := trace_serve d s
    direct := direct
    state := state
    order := hrequests ▸ horder
    complete := fun hover => hrequests.trans (hall (hends.mp hover))
    ends_iff := hends.trans List.any_eq_true
    waking := turns_waking hA d s
    logs := fun before turn after record hturns hrecord => by
      obtain ⟨hbefore, heffects, -⟩ := turns_split hturns
      obtain ⟨hmatches, -⟩ := serve_matches hA (.refl d) (before.map Turn.waking)
      rw [hbefore] at hmatches
      rw [heffects, hrecord, turnEffects, turn_log hA, play_world, trace_playAll,
        List.drop_left, traceEnabled, hmatches.program, hmatches.phase]
      simp
    traced := fun d₀ earlier hfresh hd cs => by
      rw [hd, ← calls_append]
      exact traceVerbose_iff hA hfresh _
    still := fun before turn after hturns hcall => by
      rw [(turns_split hturns).2.2]
      exact turn_still hA hcall _ }

/-- A session whose first run stops somewhere. -/
def stopsSomewhere : Debugger (.scripted []) := scripted [] ⟨[], [.ok .progressed]⟩

/-- A log record before the launch and one after it, the deadline, and a goodbye before the last
request. -/
def busyDay : List (Moment × Incoming) :=
  [(⟨0, 0⟩, .log "early"), (⟨1, 5⟩, .request (.tracedLaunch 1)), (⟨6, 6⟩, .log "late"),
    (⟨1001, 1001⟩, .launchDeadline), (⟨1002, 1002⟩, .logsClosed),
    (⟨1003, 1003⟩, .request ⟨2, .disconnect⟩), (⟨1004, 1004⟩, .request ⟨3, .threads⟩)]

theorem stopsSomewhere_served :
    (Surroundings.scripted []).Attentive ∧
      Feeds [.tracedLaunch 1, ⟨2, .disconnect⟩, ⟨3, .threads⟩] ["early", "late"] true busyDay ∧
      Served stopsSomewhere [.tracedLaunch 1, ⟨2, .disconnect⟩, ⟨3, .threads⟩] busyDay ∧
      (stopsSomewhere.serve busyDay).1 = false ∧
      (stopsSomewhere.turns busyDay).length = 6 ∧
      .message (.event (.output .console "early")) true ∉
        (stopsSomewhere.serve busyDay).2.world.trace ∧
      .message (.event (.output .console "late")) true ∈
        (stopsSomewhere.serve busyDay).2.world.trace := by
  have hA := (Surroundings.scripted_attentive_iff []).mpr rfl
  have hfeeds : Feeds [.tracedLaunch 1, ⟨2, .disconnect⟩, ⟨3, .threads⟩] ["early", "late"] true
      busyDay :=
    .log _ _ (.request _ _ (.log _ _ (.launchDeadline _ (.logsClosed _ (.request _ _ (.request _ _
      (.waits _ _ _)))))))
  exact ⟨hA, hfeeds, serve_refines hA stopsSomewhere hfeeds, by decide +kernel, by decide +kernel,
    by decide +kernel, by decide +kernel⟩

end Debugger

end QuantumDebug
