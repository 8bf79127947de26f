import QuantumDebug.Proofs.Session.Retelling
import QuantumDebug.Proofs.Session.Scripted

/-!
Where a client begins to count is its own business. Two runs of a session whose clients count lines
and columns from different places and otherwise ask for the same keep in step: every call ends in
the same way and asks the engine the same, and only the lines and columns that the client is told
differ, by as much as the clients do.
-/

namespace QuantumDebug

variable {S : Surroundings} {o : Offset}

def Effect.question? : Effect → Option EngineCall
  | .engine call => some call
  | _ => none

lemma filterMap_question?_shift (o : Offset) (es : List Effect) :
    (es.map (Effect.shift o)).filterMap Effect.question? = es.filterMap Effect.question? := by
  have hshift : Effect.question? ∘ Effect.shift o = Effect.question? := by
    funext e
    cases e <;> rfl
  rw [List.filterMap_map, hshift]

namespace Call

def shift (o : Offset) : Call → Call
  | .request now later r => .request now later (r.shift o)
  | .resume now => .resume now

def greeting (now later : Nat) (seq : Int) (lines columns types : Option Bool) : Call :=
  .request now later ⟨seq, .initializeSession lines columns types⟩

def Greets (c : Call) : Prop :=
  ∃ lines columns types, c.Asks (.initializeSession lines columns types)

end Call

lemma World.Retold.trace_shift {w w' : World S} (h : Retold o [] [] w w') :
    w'.trace = w.trace.map (Effect.shift o) := by
  obtain ⟨es, ht, ht'⟩ := h.trace
  rw [ht, ht', List.nil_append, List.nil_append]

/-- The likeness of sessions whose clients begin to count at different places. -/
abbrev Likeness.counting (S : Surroundings) (o : Offset) : Likeness S S :=
  .retelling o [] [] Eq rfl

namespace Debugger

/-! ### One call -/

/-- A call and its counterpart for a client that counts further on do the same. -/
structure Corresponds (o : Offset) (d d' : Debugger S) (c c' : Call) : Prop where
  /-- Both end in the same way. -/
  result : (d'.call c').1 = (d.call c).1
  /-- The engine is asked the same, with the same ids to stop at. -/
  asked : (d'.effects c').filterMap Effect.question? = (d.effects c).filterMap Effect.question?
  /-- All that is done is the same, lines and columns in messages aside. -/
  effects : d'.effects c' = (d.effects c).map (Effect.shift o)
  /-- Both sessions have come as far. -/
  phase : (d'.call c').2.phase = (d.call c).2.phase

section Corresponds

variable {d d' : Debugger S} {c c' : Call}

lemma corresponds_of_results (before : d'.world.trace = d.world.trace.map (Effect.shift o))
    (h : (Likeness.counting S o).Results (d.call c) (d'.call c')) : d.Corresponds o d' c c' := by
  obtain ⟨hresult, hd⟩ := h
  have after := hd.world.trace_shift
  have heffects : d'.effects c' = (d.effects c).map (Effect.shift o) := by
    rw [trace_call, trace_call, before, List.map_append] at after
    exact List.append_cancel_left after
  exact ⟨hresult, by rw [heffects, filterMap_question?_shift], heffects, hd.phase⟩

/-- What a client asks for after it has been greeted corresponds and leaves the sessions alike. -/
lemma call_corresponds (h : (Likeness.counting S o).Alike d d') (noGreeting : ¬ c.Greets) :
    d.Corresponds o d' c (c.shift o) ∧
      (Likeness.counting S o).Alike (d.call c).2 (d'.call (c.shift o)).2 := by
  have hcalls : (Likeness.counting S o).Calls c (c.shift o) := by
    cases c with
    | request now later r =>
      refine .request now later ⟨rfl, fun lines columns types command => ?_⟩
      exact absurd ⟨lines, columns, types, congrArg some command⟩ noGreeting
    | resume now => exact .resume now
  have hresults := h.call (fun _ _ => Eq.symm) hcalls
  exact ⟨corresponds_of_results h.world.trace_shift hresults, hresults.2⟩

end Corresponds

/-! ### The greeting -/

section Greeting

variable {d : Debugger S} {lines columns lines' columns' : Option Bool}

lemma Fresh.greeted_alike (h : d.Fresh) (follows : S.client.Follows o d.world.client d.world.client)
    (between : o.Between (.ofClient lines columns) (.ofClient lines' columns'))
    (types : Option Bool) :
    (Likeness.counting S o).Alike (d.greeted lines columns types)
      (d.greeted lines' columns' types) := by
  obtain ⟨w, profile, timeout, htrace, rfl⟩ := h
  exact
    { world := ⟨rfl, rfl, follows, [], htrace, htrace⟩
      program := ⟨rfl, rfl, Resolver.shifts_fresh between, rfl, rfl⟩
      view := rfl
      inspector := rfl
      phase := rfl
      coords := between
      configured := rfl
      pending := .none
      timeout := rfl }

lemma Fresh.greeting_corresponds (h : d.Fresh)
    (follows : S.client.Follows o d.world.client d.world.client)
    (between : o.Between (.ofClient lines columns) (.ofClient lines' columns'))
    (now later : Nat) (seq : Int) (types : Option Bool) :
    let c := Call.greeting now later seq lines columns types
    let c' := Call.greeting now later seq lines' columns' types
    d.Corresponds o d c c' ∧ (Likeness.counting S o).Alike (d.call c).2 (d.call c').2 := by
  intro c c'
  have hresults : (Likeness.counting S o).Results (d.call c) (d.call c') :=
    (h.greeted_alike follows between types).welcome rfl
  exact ⟨corresponds_of_results (by rw [h.trace]; rfl) hresults, hresults.2⟩

end Greeting

/-! ### A whole session -/

/-- Two runs keep in step if the calls correspond, one after another. -/
inductive InStep (o : Offset) : Debugger S → Debugger S → List Call → List Call → Prop where
  | nil (d d' : Debugger S) : InStep o d d' [] []
  | cons {d d' : Debugger S} {c c' : Call} {cs cs' : List Call}
      (corresponds : d.Corresponds o d' c c') (rest : InStep o (d.call c).2 (d'.call c').2 cs cs') :
      InStep o d d' (c :: cs) (c' :: cs')

lemma calls_inStep {d d' : Debugger S} (h : (Likeness.counting S o).Alike d d') {cs : List Call}
    (noGreeting : ∀ c ∈ cs, ¬ c.Greets) : InStep o d d' cs (cs.map (Call.shift o)) := by
  induction cs generalizing d d' with
  | nil => exact .nil d d'
  | cons c cs ih =>
    obtain ⟨corresponds, hd⟩ := call_corresponds h (noGreeting c List.mem_cons_self)
    exact .cons corresponds (ih hd fun c hc => noGreeting c (List.mem_cons_of_mem _ hc))

/-- **Where a client begins to count makes no difference.** Greeted once, at the start, by one of two
clients, and then asked the same as that client counts, a session keeps in step with itself greeted
by the other, if the same messages reach both. -/
theorem greeted_inStep {d : Debugger S} (h : d.Fresh) {lines columns lines' columns' : Option Bool}
    (between : o.Between (.ofClient lines columns) (.ofClient lines' columns'))
    (follows : S.client.Follows o d.world.client d.world.client)
    (now later : Nat) (seq : Int) (types : Option Bool) {cs : List Call}
    (noGreeting : ∀ c ∈ cs, ¬ c.Greets) :
    InStep o d d (.greeting now later seq lines columns types :: cs)
      (.greeting now later seq lines' columns' types :: cs.map (Call.shift o)) := by
  obtain ⟨corresponds, hd⟩ := h.greeting_corresponds follows between now later seq types
  exact .cons corresponds (calls_inStep hd noGreeting)

end Debugger

/-- An engine that knows where it can stop and stands in a line of a file, no panel, and a client
that misses no message. -/
def Surroundings.standing : Surroundings where
  EngineState := Script
  PanelState := Unit
  ClientState := Unit
  engine :=
    { Engine.surveyed filePlaces with
      stackFrames := fun s => (.ok [⟨"Main", "file:///main.qs", ⟨⟨2, 4⟩, ⟨2, 12⟩⟩⟩], s) }
  panel := .absent
  client := .attentive

namespace Debugger

def standing : Debugger .standing :=
  .start ⟨⟨[.ok [.localFile "/main.qs"]], [.ok (.breakpointHit 2)]⟩, (), (), []⟩ "" 1000

/-- A breakpoint on the third line, a launch, a look for places in the seventh line, a run to the
breakpoint and a look at the stack, for a client that counts from one. -/
def stopsAndLooks : List Call :=
  [.request 1 1 (.breakAt 2 "/main.qs" 3), .request 2 2 (.plainLaunch 3),
    .request 3 3 ⟨4, .breakpointLocations { Source.unnamed with path := some "/main.qs" }
      ⟨7, some 1, some 8, none⟩⟩,
    .resume 1002, .request 1003 1003 ⟨5, .stackTrace⟩]

def mainFile : Source := { Source.unnamed with name := some "main.qs", path := some "/main.qs" }

/-- The session for a client that counts from one and for a client that counts from nought. -/
theorem standing_inStep :
    let fromOne := .greeting 0 0 1 none none none :: stopsAndLooks
    let fromNought := .greeting 0 0 1 (some false) (some false) none ::
      stopsAndLooks.map (Call.shift ⟨-1, -1⟩)
    standing.Fresh ∧
      Offset.Between ⟨-1, -1⟩ (.ofClient none none) (.ofClient (some false) (some false)) ∧
      Surroundings.standing.client.Follows ⟨-1, -1⟩ () () ∧
      (∀ c ∈ stopsAndLooks, ¬ c.Greets) ∧
      InStep ⟨-1, -1⟩ standing standing fromOne fromNought ∧
      .engine (.eval .continue [2]) ∈ (standing.calls fromNought).world.trace ∧
      .message (.response ⟨5, .success (.stackTrace
        [⟨1, "Main", some mainFile, 3, 5, some 3, some 13⟩, entryFrame])⟩) true ∈
          (standing.calls fromOne).world.trace ∧
      .message (.response ⟨5, .success (.stackTrace
        [⟨1, "Main", some mainFile, 2, 4, some 2, some 12⟩, entryFrame])⟩) true ∈
          (standing.calls fromNought).world.trace := by
  have hfresh : standing.Fresh := ⟨_, _, _, rfl, rfl⟩
  have between : Offset.Between ⟨-1, -1⟩ (.ofClient none none)
      (.ofClient (some false) (some false)) := rfl
  have attentive : Surroundings.standing.Attentive := fun _ _ => rfl
  have noGreeting : ∀ c ∈ stopsAndLooks, ¬ c.Greets := by
    simp [stopsAndLooks, Call.Greets, Call.Asks, Call.request?, Request.breakAt,
      Request.plainLaunch]
  exact ⟨hfresh, between, attentive.follows _ _, noGreeting,
    greeted_inStep hfresh between (attentive.follows _ _) 0 0 1 none noGreeting, by decide +kernel,
    by decide +kernel, by decide +kernel⟩

end Debugger

end QuantumDebug
