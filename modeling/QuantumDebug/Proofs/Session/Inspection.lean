import QuantumDebug.Proofs.Session.Answers
import QuantumDebug.Proofs.Session.Outline

/-!
Looking around is nobody else's business. A client may ask for threads, for the stack, for places to
stop and for variables as often as it likes, as long as it does not look into the circuit: with an
engine that does not mind being asked, whatever else it asks for comes to the same.
-/

namespace QuantumDebug

open World

variable {S : Surroundings}

/-! ### Requests that peek -/

/-- Whether a request looks around: it gives out no scopes and names no breakpoints that count. -/
def Command.peeks : Command → Bool
  | .breakpointLocations _ _ => true
  | .setExceptionBreakpoints => true
  | .setFunctionBreakpoints => true
  | .threads => true
  | .stackTrace => true
  | .variables _ => true
  | _ => false

lemma Command.looks_of_peeks {c : Command} (h : c.peeks = true) : c.looks = true := by
  cases c <;> simp_all [peeks, looks]

lemma World.leads_asked (w : World S) (call : EngineCall) (h : call.queries = true) :
    w.Leads Effect.Glances (w.play (.engine call)) :=
  .play (e := .engine call) h w

lemma Inspector.lookInto_glances (i : Inspector) {reference : Int}
    (h : i.scope? reference ≠ some .circuit) (v : Visualization) (w : World S) :
    (i.lookInto reference v w).2.1 = v ∧
      w.Leads Effect.Glances (i.lookInto reference v w).2.2 := by
  unfold Inspector.lookInto
  split
  · exact ⟨rfl, .refl w⟩
  · exact ⟨rfl, w.leads_asked .localVariables rfl⟩
  · have asked := w.leads_asked .quantumState rfl
    simp only [Inspector.quantumState, quantumState_eq]
    cases (S.engine.quantumState w.engine).1 with
    | ok entries =>
      exact ⟨trivial, asked.trans (.play (e := .telemetry (.quantumStateCaptured _)) trivial _)⟩
    | error e => exact ⟨trivial, asked⟩
  · exact absurd ‹_› h

namespace Debugger

variable {R : S.EngineState → S.EngineState → Prop} {d d' : Debugger S}

/-- Whether a call peeks: it looks around, and not into the circuit. -/
def peeks (d : Debugger S) (c : Call) : Bool :=
  (c.request?.map Request.command).any Command.peeks && !d.opens c

lemma Resembles.glanced (discreet : S.engine.Discreet R) {p : Program} {w : World S}
    (hp : d.program.Resembles p) (told : d.view.enabled = true ∨ p.config = d.program.config)
    (glances : d.world.Leads Effect.Glances w) :
    d.Resembles R { d with program := p, world := w } := by
  obtain ⟨hengine, hpanel⟩ := discreet.glances glances
  exact { refl discreet d with engine := hengine, panel := hpanel, program := hp, told := told }

lemma Resembles.looked (discreet : S.engine.Discreet R) {reference : Int}
    (h : d.inspector.scope? reference ≠ some .circuit) :
    d.Resembles R (d.looked reference) ∧
      d.world.Leads Effect.Glances (d.looked reference).world := by
  obtain ⟨hview, glances⟩ := d.inspector.lookInto_glances h d.view d.world
  rw [Debugger.looked, rememberView_eq, hview]
  refine ⟨.glanced discreet ⟨?_, rfl, rfl, rfl, rfl⟩ ?_ glances, glances⟩
  · show d.program.config.Agrees (if d.view.enabled then _ else _)
    split
    · exact ⟨rfl, rfl, rfl, rfl, rfl, rfl⟩
    · exact .refl _
  · cases hshown : d.view.enabled with
    | true => exact .inl rfl
    | false => exact .inr rfl

lemma begun_peeks (discreet : S.engine.Discreet R) (d : Debugger S) {c : Command}
    (peeks : c.peeks = true)
    (closed : ∀ reference, c = .variables reference →
      d.inspector.scope? reference ≠ some .circuit) :
    d.Resembles R (d.begun c) ∧ d.world.Leads Effect.Glances (d.begun c).world := by
  cases c with
  | breakpointLocations source requested =>
    have glances := (d.consulted_surveys source requested).mono fun _ he => he.glances
    refine ⟨?_, glances⟩
    rw [begun, consulted_eq]
    exact .glanced discreet ⟨.refl _, rfl, consulted_coords d source requested, rfl, rfl⟩
      (.inr rfl) glances
  | stackTrace =>
    have glances := d.world.leads_asked .stackFrames rfl
    exact ⟨.glanced discreet ⟨.refl _, rfl, rfl, rfl, rfl⟩ (.inr rfl) glances, glances⟩
  | «variables» reference => exact Resembles.looked discreet (closed reference rfl)
  | setExceptionBreakpoints => exact ⟨.refl discreet d, .refl _⟩
  | setFunctionBreakpoints => exact ⟨.refl discreet d, .refl _⟩
  | threads => exact ⟨.refl discreet d, .refl _⟩
  | _ => simp [Command.peeks] at peeks

/-- A call that peeks is answered, and nothing else comes of it. -/
structure Peeked (d : Debugger S) (c : Call) : Prop where
  result : (d.call c).1 = .ok ()
  phase : (d.call c).2.phase = d.phase
  effects : ∃ r body es, c.request? = some r ∧ (∀ e ∈ es, e.Glances) ∧
    d.effects c = es ++ [r.answer (.success body) true]

/-- A call that peeks leaves a session much the same. -/
theorem call_peeked (hA : S.Attentive) (discreet : S.engine.Discreet R) {c : Call}
    (h : d.peeks c = true) : Peeked d c ∧ d.Resembles R (d.call c).2 := by
  obtain ⟨hpeeks, hcloses⟩ := Bool.and_eq_true_iff.mp h
  cases c with
  | resume now => simp [Call.request?] at hpeeks
  | request now later r =>
    have peeks : r.command.peeks = true := by simpa [Call.request?] using hpeeks
    have closed (reference : Int) (command : r.command = .variables reference) :
        d.inspector.scope? reference ≠ some .circuit := by
      simpa [opens, Call.request?, command] using hcloses
    obtain ⟨body, hcall, -⟩ := d.handle_looks now later (Command.looks_of_peeks peeks)
    obtain ⟨hbegun, glances⟩ := d.begun_peeks discreet peeks closed
    obtain ⟨heq, es, hes, heffects⟩ := call_of_respond (c := .request now later r) hA hcall glances
    rw [heq]
    refine ⟨⟨by rw [heq], by rw [heq]; exact hbegun.phase, r, body, es, rfl, hes, heffects⟩, ?_⟩
    exact { hbegun with engine := hbegun.engine, panel := hbegun.panel }

end Debugger

/-! ### Calls put in between -/

/-- A call of a run: one of its own, or one that has been put in between. -/
inductive Entry where
  | own (c : Call)
  | inserted (c : Call)
deriving DecidableEq

namespace Entry

def call : Entry → Call
  | own c => c
  | inserted c => c

def own? : Entry → Option Call
  | own c => some c
  | inserted _ => none

end Entry

/-- What an effect asks the engine to do, as far as it counts. -/
def Effect.order? : Effect → Option EngineCall
  | .engine (.loadProgram c) => some (.loadProgram { c with visualizationEnabled := false })
  | .engine (.eval action armed) => some (.eval action armed)
  | .engine .terminate => some .terminate
  | _ => none

/-- All that the engine is asked to do: what it is to load, apart from whether circuits are shown,
how it is to run, and when it is to stop. -/
def orders (es : List Effect) : List EngineCall := es.filterMap Effect.order?

lemma orders_append (es fs : List Effect) : orders (es ++ fs) = orders es ++ orders fs :=
  List.filterMap_append

lemma orders_outline (es : List Effect) : orders (outline es) = orders es := by
  rw [orders, orders, outline, List.filterMap_filterMap]
  congr 1
  funext e
  rcases e with call | _ | _ | _
  · cases call <;> rfl
  all_goals rfl

lemma Effect.Glances.order? {e : Effect} (h : e.Glances) : e.order? = none := by
  rcases e with call | _ | _ | _
  · cases call <;> first | rfl | simp [Effect.Glances, EngineCall.queries] at h
  all_goals rfl

namespace Debugger

/-- Whatever has been put in between peeks. -/
def peeking (d : Debugger S) : List Entry → Bool
  | [] => true
  | .own c :: ts => (d.call c).2.peeking ts
  | .inserted c :: ts => d.peeks c && (d.call c).2.peeking ts

def courses (d : Debugger S) : List Call → List Account
  | [] => []
  | c :: cs => d.course c :: (d.call c).2.courses cs

/-- What counts of the calls that a run has of its own. -/
def ownCourses (d : Debugger S) : List Entry → List Account
  | [] => []
  | .own c :: ts => d.course c :: (d.call c).2.ownCourses ts
  | .inserted c :: ts => (d.call c).2.ownCourses ts

/-- What has been put into a run makes no difference to it. -/
structure Transparent (d : Debugger S) (ts : List Entry) : Prop where
  /-- Its own calls end as they would without, do the same in the same order, and leave the session
  as far on. -/
  own : d.ownCourses ts = d.courses (ts.filterMap Entry.own?)
  /-- All in all, the engine is asked to do the same. -/
  orders : orders (d.along effects (ts.map Entry.call)) =
    orders (d.along effects (ts.filterMap Entry.own?))
  /-- What has been put in is answered, and nothing else comes of it. -/
  inserted : ∀ before c after, ts = before ++ .inserted c :: after →
    Peeked (d.calls (before.map Entry.call)) c

section Runs

variable {R : S.EngineState → S.EngineState → Prop} {d d' : Debugger S} {ts : List Entry}

/-- A session with calls put in between keeps resembling the session without them. -/
lemma Resembles.ownCourses (hA : S.Attentive) (discreet : S.engine.Discreet R)
    (h : d.Resembles R d') (knows : d.Remembers) (knows' : d'.Remembers)
    (peeking : d'.peeking ts = true) :
    d'.ownCourses ts = d.courses (ts.filterMap Entry.own?) := by
  -- a call of the run's own is made on both sides, one put in only where it has been put in
  induction ts generalizing d d' with
  | nil => rfl
  | cons t ts ih =>
    cases t with
    | own c =>
      obtain ⟨hcourse, h⟩ := h.call hA discreet knows knows' c
      show d'.course c :: _ = d.course c :: _
      rw [hcourse, ih h (call_remembers discreet.toSettled knows c)
        (call_remembers discreet.toSettled knows' c) peeking]
    | inserted c =>
      obtain ⟨hpeeks, peeking⟩ := Bool.and_eq_true_iff.mp peeking
      obtain ⟨-, hsame⟩ := call_peeked hA discreet hpeeks
      exact ih (h.trans discreet hsame) knows (call_remembers discreet.toSettled knows' c) peeking

lemma peeks_of_peeking (peeking : d.peeking ts = true) {before : List Entry} {c : Call}
    {after : List Entry} (split : ts = before ++ .inserted c :: after) :
    (d.calls (before.map Entry.call)).peeks c = true := by
  subst split
  induction before generalizing d with
  | nil => exact (Bool.and_eq_true_iff.mp peeking).1
  | cons t before ih =>
    cases t with
    | own c => exact ih (d := (d.call c).2) peeking
    | inserted c => exact ih (d := (d.call c).2) (Bool.and_eq_true_iff.mp peeking).2

lemma orders_courses (d : Debugger S) (cs : List Call) :
    orders (d.along effects cs) = (d.courses cs).flatMap fun a => orders a.effects := by
  induction cs generalizing d with
  | nil => rfl
  | cons c cs ih =>
    rw [along, orders_append, ih, courses, List.flatMap_cons, course, orders_outline]

lemma Peeked.orders {c : Call} (h : Peeked d c) : orders (d.effects c) = [] := by
  obtain ⟨r, body, es, -, hes, heffects⟩ := h.effects
  rw [heffects, QuantumDebug.orders, List.filterMap_eq_nil_iff]
  intro e he
  rcases List.mem_append.mp he with he | he
  · exact (hes e he).order?
  · rw [List.mem_singleton.mp he]
    rfl

lemma orders_ownCourses (hA : S.Attentive) (discreet : S.engine.Discreet R)
    (peeking : d.peeking ts = true) :
    orders (d.along effects (ts.map Entry.call)) =
      (d.ownCourses ts).flatMap fun a => orders a.effects := by
  induction ts generalizing d with
  | nil => rfl
  | cons t ts ih =>
    rw [List.map_cons, along, orders_append]
    cases t with
    | own c =>
      rw [Debugger.ownCourses, List.flatMap_cons, course, orders_outline, Entry.call]
      rw [ih peeking]
    | inserted c =>
      obtain ⟨hpeeks, peeking⟩ := Bool.and_eq_true_iff.mp peeking
      rw [Entry.call, (call_peeked hA discreet hpeeks).1.orders, List.nil_append, ih peeking]
      rfl

/-- **Looking around makes no difference**, whatever is asked for besides. -/
theorem peeking_transparent (hA : S.Attentive) (discreet : S.engine.Discreet R) (h : d.Fresh)
    (peeking : d.peeking ts = true) : Transparent d ts := by
  have hown : d.ownCourses ts = d.courses (ts.filterMap Entry.own?) :=
    (Resembles.refl discreet d).ownCourses hA discreet h.remembers h.remembers peeking
  refine ⟨hown, ?_, fun before c after split => ?_⟩
  · rw [orders_ownCourses hA discreet peeking, hown, orders_courses]
  · exact (call_peeked hA discreet (peeks_of_peeking peeking split)).1

end Runs

lemma surveyed_discreet (places : String → Except EngineError (List EngineBreakpoint)) :
    (Engine.surveyed places).Discreet Eq where
  kept _ call _ _ := by cases call <;> rfl
  named s source source' h := by
    show places source'.text = places source.text
    rw [h]
  equivalence := eq_equivalence
  queried s call h := by cases call <;> first | rfl | simp [EngineCall.queries] at h
  answers h := by rw [h]
  loadProgram h _ _ _ := by subst h; exact ⟨rfl, rfl⟩
  eval h _ _ := by subst h; exact ⟨rfl, rfl⟩
  terminate h := congrArg _ h

/-- A look into the circuit, a launch, and a run of the program that is stepped through. Between
them the client asks for places to stop, for the stack, and for scopes that have never been. -/
def browsing : List Entry :=
  [.own (.request 0 0 ⟨1, .scopes⟩), .own (.request 1 1 ⟨2, .variables 3⟩),
    .own (.request 2 2 (.plainLaunch 3)), .inserted (.request 3 3 ⟨4, .variables 9⟩),
    .inserted (.request 4 4 (placesOn 5 "/main.qs" 7)),
    .own (.request 5 5 ⟨6, .configurationDone⟩), .inserted (.request 6 6 ⟨7, .stackTrace⟩),
    .own (.request 7 7 (.breakAt 8 "/main.qs" 7)), .own (.request 8 8 ⟨9, .next⟩)]

/-- The session keeps more with the requests put in than without them. -/
theorem browsing_transparent :
    let d := onFiles [.ok .progressed]
    let own := browsing.filterMap Entry.own?
    (Surroundings.surveyed filePlaces).Attentive ∧ (Engine.surveyed filePlaces).Discreet Eq ∧
      d.Fresh ∧ d.peeking browsing = true ∧ Transparent d browsing ∧
      (d.calls (browsing.map Entry.call)).program.config ≠ (d.calls own).program.config ∧
      (d.calls own).phase = .terminated := by
  have hA := Surroundings.surveyed_attentive filePlaces
  have discreet := surveyed_discreet filePlaces
  have hfresh : (onFiles [.ok .progressed]).Fresh := surveyed_fresh _ _
  have peeking : (onFiles [.ok .progressed]).peeking browsing = true := by decide +kernel
  exact ⟨hA, discreet, hfresh, peeking, peeking_transparent hA discreet hfresh peeking,
    by decide +kernel, by decide +kernel⟩

end Debugger

/-! ### Engines that mind -/

/-- Queries do not change what an engine has to answer to queries. -/
def Engine.Composed {σ : Type} (E : Engine σ) : Prop :=
  ∀ s {call : EngineCall}, call.queries = true → E.answers (E.after call s) = E.answers s

/-- An engine that can stop on a line as long as there is more in its script, and nowhere then. -/
def Engine.drifting : Engine Script :=
  { Engine.scripted with
    breakpoints := fun _ s => (.ok (if s.evals.isEmpty then [] else [⟨1, ⟨4, 8⟩, ⟨4, 20⟩⟩]), s) }

/-- An engine that loses its place in the script when it is asked for the stack. -/
def Engine.distracted : Engine Script :=
  { Engine.scripted with stackFrames := fun s => (.ok [], { s with evals := s.evals.tail }) }

/-- An engine that loads nothing if circuits are to be shown. -/
def Engine.shy : Engine Script :=
  { Engine.scripted with
    loadProgram := fun c s =>
      (if c.visualizationEnabled then .error .exited else .ok [.localFile "/main.qs"], s) }

def Surroundings.around (E : Engine Script) : Surroundings where
  EngineState := Script
  PanelState := Unit
  ClientState := Unit
  engine := E
  panel := .absent
  client := .attentive

namespace Debugger

def around (E : Engine Script) (script : Script) : Debugger (.around E) :=
  .start ⟨script, (), (), []⟩ "" 1000

/-- Queries do not change what an engine has to answer to queries, and still the calls that a run has
of its own come to something else with those that have been put in. -/
structure Notices (E : Engine Script) (script : Script) (ts : List Entry) : Prop where
  composed : E.Composed
  attentive : (Surroundings.around E).Attentive
  fresh : (around E script).Fresh
  peeking : (around E script).peeking ts = true
  noticed : (around E script).ownCourses ts ≠ (around E script).courses (ts.filterMap Entry.own?)

lemma notices_of_effects {E : Engine Script} {script : Script} {ts : List Entry}
    (composed : E.Composed) (peeking : (around E script).peeking ts = true)
    (differ : ((around E script).ownCourses ts).map Account.effects ≠
      ((around E script).courses (ts.filterMap Entry.own?)).map Account.effects) :
    Notices E script ts where
  composed := composed
  attentive _ _ := rfl
  fresh := ⟨_, _, _, rfl, rfl⟩
  peeking := peeking
  noticed heq := differ (congrArg _ heq)

/-- A launch, places to stop that are asked for while it waits, and a breakpoint after the first
run. -/
def surveysEarly : List Entry :=
  [.own (.request 0 0 (.plainLaunch 1)), .inserted (.request 1 1 (placesOn 2 "/main.qs" 5)),
    .own (.request 2 2 ⟨3, .configurationDone⟩), .own (.request 3 3 (.breakAt 4 "/main.qs" 5))]

def tracesEarly : List Entry :=
  [.own (.request 0 0 (.plainLaunch 1)), .inserted (.request 1 1 ⟨2, .stackTrace⟩),
    .own (.request 2 2 ⟨3, .configurationDone⟩)]

/-- A look into the circuit, a launch of two shots, and a scope that has never been and is asked for
while the launch waits. -/
def looksEarly : List Entry :=
  [.own (.request 0 0 ⟨1, .scopes⟩), .own (.request 1 1 ⟨2, .variables 3⟩),
    .own (.request 2 2 (.shotsLaunch 3 2)), .inserted (.request 3 3 ⟨4, .variables 9⟩),
    .own (.request 4 4 ⟨5, .configurationDone⟩)]

/-- **Looking around can be noticed** with an engine that has other places to stop after a run, with
one that runs differently after a query, and with one that minds whether circuits are shown. -/
theorem peeking_noticed :
    Notices .drifting ⟨[.ok [.localFile "/main.qs"]], [.ok .progressed]⟩ surveysEarly ∧
      Notices .distracted ⟨[], [.ok .progressed]⟩ tracesEarly ∧
      Notices .shy ⟨[], []⟩ looksEarly := by
  have drifts : Engine.drifting.Composed := by
    intro s call h
    cases call <;> first | rfl | simp [EngineCall.queries] at h
  have distracts : Engine.distracted.Composed := fun _ _ _ => rfl
  have shies : Engine.shy.Composed := fun _ _ _ => rfl
  refine ⟨notices_of_effects drifts ?_ ?_, notices_of_effects distracts ?_ ?_,
    notices_of_effects shies ?_ ?_⟩
  all_goals decide +kernel

end Debugger

end QuantumDebug
