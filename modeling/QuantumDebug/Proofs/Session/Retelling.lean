import QuantumDebug.Proofs.Session.Likeness

/-!
What a session does is independent of what has been done before, as far as it is only told: of the
trace, and of what the client has made of the messages, if the same messages reach it. It is
independent, too, of where the client begins to count.
-/

namespace QuantumDebug

open World

variable {S : Surroundings} {o : Offset}

/-! ### Clients -/

section Client

variable {γ : Type} {C : Client γ} {c c' : γ}

/-- Which of some messages reach a client, sent one after another. -/
def Client.verdicts (C : Client γ) (c : γ) : List Message → List Bool
  | [] => []
  | m :: ms => (C.deliver m c).1 :: C.verdicts (C.deliver m c).2 ms

/-- Whatever is sent, from one state of a client on the same messages reach it as from the other,
where all lines and columns are counted further on. -/
def Client.Follows (C : Client γ) (o : Offset) (c c' : γ) : Prop :=
  ∀ ms, C.verdicts c' (ms.map (Message.shift o)) = C.verdicts c ms

lemma Client.Follows.deliver (h : C.Follows o c c') (m : Message) :
    Same (C.Follows o) (C.deliver m c) (C.deliver (m.shift o) c') :=
  ⟨(List.cons.inj (h [m])).1, fun ms => (List.cons.inj (h (m :: ms))).2⟩

lemma Surroundings.Attentive.follows (hA : S.Attentive) (c c' : S.ClientState) :
    S.client.Follows o c c' := by
  have hall (ms : List Message) (c : S.ClientState) :
      S.client.verdicts c ms = List.replicate ms.length true := by
    induction ms generalizing c with
    | nil => rfl
    | cons m ms ih => rw [Client.verdicts, hA, ih, List.length_cons, List.replicate_succ]
  intro ms
  rw [hall, hall, List.length_map]

end Client

/-! ### Worlds -/

/-- Worlds with the same engine and the same panel, whose traces have grown by the same effects
since they were others, as their clients count. -/
structure World.Retold (o : Offset) (t t' : List Effect) (w w' : World S) : Prop where
  engine : w'.engine = w.engine
  panel : w'.panel = w.panel
  client : S.client.Follows o w.client w'.client
  trace : ∃ es, w.trace = t ++ es ∧ w'.trace = t' ++ es.map (Effect.shift o)

namespace World.Retold

variable {t t' : List Effect} {w w' : World S}

lemma play (h : Retold o t t' w w') (e : Effect) :
    Retold o t t' (w.play e) (w'.play (e.shift o)) where
  engine := by cases e <;> simp [World.play, note, Effect.shift, h.engine]
  panel := by cases e <;> simp [World.play, note, Effect.shift, h.panel]
  client := by
    cases e with
    | message m ok => exact (h.client.deliver m).2
    | _ => exact h.client
  trace := by
    obtain ⟨es, ht, ht'⟩ := h.trace
    exact ⟨es ++ [e], by rw [trace_play, ht, List.append_assoc],
      by rw [trace_play, ht', List.map_append, List.append_assoc]; rfl⟩

lemma asked {α : Type} (h : Retold o t t' w w') (answer : S.EngineState → α) (e : Effect) :
    Same (Retold o t t') (answer w.engine, w.play e) (answer w'.engine, w'.play (e.shift o)) :=
  ⟨congrArg answer h.engine, h.play e⟩

lemma send (h : Retold o t t' w w') (m : Message) :
    Same (Retold o t t') (w.send m) (w'.send (m.shift o)) := by
  have hok := (h.client.deliver m).1
  rw [send_eq, send_eq, hok]
  exact ⟨rfl, h.play (.message m _)⟩

lemma update (h : Retold o t t' w w') (v : Visualization) (failure : Option EngineError) :
    Same (Retold o t t') (v.update failure w) (v.update failure w') := by
  have hwanted : v.wanted w' = v.wanted w := by rw [Visualization.wanted, h.panel]; rfl
  have hasked := h.play (.engine .circuit)
  have hpanel : (w'.play (.engine .circuit)).panel = (w.play (.engine .circuit)).panel :=
    hasked.panel
  unfold Visualization.update
  rw [hwanted]
  split
  · simp only [circuit_eq, updatePanel_eq, h.engine, hpanel]
    exact ⟨rfl, hasked.play (.panel _ _)⟩
  · exact ⟨rfl, h⟩

end World.Retold

/-- The request of a client that counts further on, which is no greeting unless both count alike. -/
structure Request.Shifts (o : Offset) (r r' : Request) : Prop where
  eq : r' = r.shift o
  greeting : ∀ lines columns types, r.command = .initializeSession lines columns types → o = 0

lemma Request.shifts_zero {r r' : Request} : r.Shifts 0 r' ↔ r' = r := by
  constructor
  · intro h
    rw [h.eq, Request.shift_zero, id_eq]
  · rintro rfl
    exact ⟨by rw [Request.shift_zero, id_eq], fun _ _ _ _ => rfl⟩

/-- Sessions are alike that differ in their traces, in what the client has made of the messages, in
where it begins to count, and perhaps in what they know of the end of configuration. -/
def Likeness.retelling (o : Offset) (t t' : List Effect) (configured : Bool → Bool → Prop)
    (configured_true : configured true true) : Likeness S S where
  offset := o
  world := Retold o t t'
  config := Eq
  view := Eq
  configured := configured
  request := Request.Shifts o
  loadProgram hw c _ hc := by
    subst hc
    exact hw.asked (fun s => (S.engine.loadProgram c s).1) (.engine (.loadProgram c))
  breakpoints hw source :=
    hw.asked (fun s => (S.engine.breakpoints source s).1) (.engine (.breakpoints source))
  eval hw action armed :=
    hw.asked (fun s => (S.engine.eval action armed s).1) (.engine (.eval action armed))
  stackFrames hw := hw.asked (fun s => (S.engine.stackFrames s).1) (.engine .stackFrames)
  localVariables hw := hw.asked (fun s => (S.engine.localVariables s).1) (.engine .localVariables)
  quantumState hw := hw.asked (fun s => (S.engine.quantumState s).1) (.engine .quantumState)
  terminate hw := hw.play (.engine .terminate)
  record hw t := hw.play (.telemetry t)
  send hw m := hw.send m
  update hw _ _ hv failure := by
    subst hv
    obtain ⟨hview, hw⟩ := hw.update _ failure
    exact ⟨hview.symm, hw⟩
  config_refl _ := rfl
  agrees hc := hc ▸ .refl _
  enable hv := congrArg _ hv
  setProgram hv program := congrArg (·.setProgram program) hv
  shows hc _ _ hv := by rw [hc, hv]
  remembers hc _ _ hv := by rw [hc, hv]
  configured_true := configured_true
  seq hr := by rw [hr.eq]; rfl
  command hr := .inl ⟨by rw [hr.eq]; rfl, hr.greeting⟩

namespace Debugger

/-- The same session, apart from its trace and from what the client has made of the messages. -/
structure Matches (d d' : Debugger S) : Prop where
  engine : d'.world.engine = d.world.engine
  panel : d'.world.panel = d.world.panel
  program : d'.program = d.program
  view : d'.view = d.view
  inspector : d'.inspector = d.inspector
  phase : d'.phase = d.phase
  coords : d'.coords = d.coords
  configured : d'.configured = d.configured
  pending : d'.pending = d.pending
  timeout : d'.timeout = d.timeout

variable {d d' : Debugger S}

lemma Matches.refl (d : Debugger S) : d.Matches d :=
  ⟨rfl, rfl, rfl, rfl, rfl, rfl, rfl, rfl, rfl, rfl⟩

lemma Matches.symm (h : d.Matches d') : d'.Matches d :=
  ⟨h.engine.symm, h.panel.symm, h.program.symm, h.view.symm, h.inspector.symm, h.phase.symm,
    h.coords.symm, h.configured.symm, h.pending.symm, h.timeout.symm⟩

lemma Matches.trans {d₁ : Debugger S} (h : d.Matches d₁) (h' : d₁.Matches d') : d.Matches d' :=
  ⟨h'.engine.trans h.engine, h'.panel.trans h.panel, h'.program.trans h.program,
    h'.view.trans h.view, h'.inspector.trans h.inspector, h'.phase.trans h.phase,
    h'.coords.trans h.coords, h'.configured.trans h.configured, h'.pending.trans h.pending,
    h'.timeout.trans h.timeout⟩

lemma Matches.message (d : Debugger S) (m : Message) (ok : Bool) :
    d.Matches (d.play [.message m ok]) := ⟨rfl, rfl, rfl, rfl, rfl, rfl, rfl, rfl, rfl, rfl⟩

lemma Matches.alike (h : d.Matches d') (hA : S.Attentive) (configured : Bool → Bool → Prop)
    (htrue : configured true true) (done : Bool) (hdone : configured d.configured done) :
    (Likeness.retelling 0 d.world.trace d'.world.trace configured htrue).Alike d
      { d' with configured := done } where
  world := ⟨h.engine, h.panel, hA.follows _ _, [], by simp, by simp⟩
  program := by
    rw [h.program]
    exact ⟨rfl, rfl, Resolver.shifts_zero.mpr rfl,
      (congrFun BreakpointSet.shift_zero d.program.breakpoints).symm, rfl⟩
  view := h.view.symm
  inspector := h.inspector
  phase := h.phase
  coords := Offset.between_zero.mpr h.coords
  configured := hdone
  pending := by
    rw [h.pending]
    cases d.pending with
    | none => exact .none
    | some l => exact .some ⟨Request.shifts_zero.mpr rfl, rfl⟩
  timeout := h.timeout

lemma matches_of_alike {t t' : List Effect} {configured : Bool → Bool → Prop}
    {htrue : configured true true}
    (h : (Likeness.retelling 0 t t' configured htrue).Alike d d') :
    Matches { d with configured := d'.configured } d' where
  engine := h.world.engine
  panel := h.world.panel
  program := h.program.eq rfl h.program.config.symm
  view := h.view.symm
  inspector := h.inspector
  phase := h.phase
  coords := Offset.between_zero.mp h.coords
  configured := rfl
  pending := by
    have hpending := h.pending
    generalize d.pending = a at hpending
    generalize d'.pending = b at hpending
    cases hpending with
    | none => rfl
    | some hll => exact congrArg some (hll.eq (Request.shifts_zero.mp hll.request))
  timeout := h.timeout

/-- **Sessions that match do the same for every call and match after it.** -/
theorem Matches.call (hA : S.Attentive) (h : d.Matches d') (c : Call) :
    (d'.call c).1 = (d.call c).1 ∧ d'.effects c = d.effects c ∧
      (d.call c).2.Matches (d'.call c).2 := by
  have halike := h.alike hA Eq rfl d'.configured h.configured.symm
  have hcalls : (Likeness.retelling (S := S) 0 d.world.trace d'.world.trace Eq rfl).Calls c c := by
    cases c with
    | request now later r => exact .request now later (Request.shifts_zero.mpr rfl)
    | resume now => exact .resume now
  obtain ⟨hresult, hd⟩ := halike.call (fun _ _ => Eq.symm) hcalls
  have hconfigured : (d.call c).2.configured = (d'.call c).2.configured := hd.configured
  have hmatches := matches_of_alike hd
  rw [← hconfigured] at hmatches
  refine ⟨hresult, ?_, hmatches⟩
  obtain ⟨es, ht, ht'⟩ := hd.world.trace
  simp [effects, ht, ht']

end Debugger

end QuantumDebug
