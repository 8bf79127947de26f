import QuantumDebug.Proofs.Session.Circuits
import QuantumDebug.Proofs.Session.Memory
import QuantumDebug.Proofs.Session.Noninterference

/-!
What a session has been asked for in passing makes no difference to what it does. Two sessions may
have kept different places to stop, and one of them may have told its configuration of circuits that
the other only shows: if their engines cannot be told apart by what they answer, every call does the
same on both sides, but for the questions where the program can be stopped.
-/

namespace QuantumDebug

open World

variable {S : Surroundings}

/-! ### Engines -/

/-- An engine that does not mind being asked. Queries take it to states that cannot be told apart
from those before them: in states that are related it answers alike, whether a load is told that
circuits are shown or not, and stays in states that are related. -/
structure Engine.Discreet {σ : Type} (E : Engine σ) (R : σ → σ → Prop) : Prop
    extends E.Settled where
  equivalence : Equivalence R
  queried (s : σ) {call : EngineCall} (h : call.queries = true) : R s (E.after call s)
  answers {s t : σ} (h : R s t) : E.answers t = E.answers s
  loadProgram {s t : σ} (h : R s t) {c c' : RunConfiguration} (hc : c.Agrees c') :
    Same R (E.loadProgram c s) (E.loadProgram c' t)
  eval {s t : σ} (h : R s t) (action : StepAction) (armed : List Int) :
    Same R (E.eval action armed s) (E.eval action armed t)
  terminate {s t : σ} (h : R s t) : R (E.terminate s) (E.terminate t)

lemma Engine.Discreet.after {σ : Type} {E : Engine σ} {R : σ → σ → Prop} (discreet : E.Discreet R)
    {s t : σ} (h : R s t) {call : EngineCall} (hcall : call.queries = true) :
    R (E.after call s) (E.after call t) :=
  discreet.equivalence.trans (discreet.equivalence.symm (discreet.queried s hcall))
    (discreet.equivalence.trans h (discreet.queried t hcall))

/-- Done when a client looks around: the engine is asked, or it is recorded that it was. -/
def Effect.Glances : Effect → Prop
  | .engine call => call.queries = true
  | .telemetry (.quantumStateCaptured _) => True
  | _ => False

lemma Engine.Discreet.glances {R : S.EngineState → S.EngineState → Prop}
    (discreet : S.engine.Discreet R) {w w' : World S} (leads : w.Leads Effect.Glances w') :
    R w.engine w'.engine ∧ w'.panel = w.panel := by
  obtain ⟨es, hes, rfl⟩ := leads
  induction es generalizing w with
  | nil => exact ⟨discreet.equivalence.refl _, rfl⟩
  | cons e es ih =>
    obtain ⟨he, hes⟩ := List.forall_mem_cons.mp hes
    obtain ⟨hengine, hpanel⟩ := ih (w := w.play e) hes
    have hstep : R w.engine (w.play e).engine ∧ (w.play e).panel = w.panel := by
      cases e with
      | engine call => exact ⟨discreet.queried _ he, rfl⟩
      | telemetry t => exact ⟨discreet.equivalence.refl _, rfl⟩
      | panel => exact he.elim
      | message => exact he.elim
    exact ⟨discreet.equivalence.trans hstep.1 hengine, hpanel.trans hstep.2⟩

/-! ### Outlines -/

/-- What is left of an effect if it does not count when the engine is asked for places to stop, nor
what a load is told of circuits. -/
def Effect.outlined? : Effect → Option Effect
  | .engine (.breakpoints _) => none
  | .engine (.loadProgram c) =>
    some (.engine (.loadProgram { c with visualizationEnabled := false }))
  | e => some e

def outline (es : List Effect) : List Effect := es.filterMap Effect.outlined?

lemma outline_append (es fs : List Effect) : outline (es ++ fs) = outline es ++ outline fs :=
  List.filterMap_append

lemma RunConfiguration.Agrees.outlined {c c' : RunConfiguration} (h : c.Agrees c') :
    (Effect.engine (.loadProgram c')).outlined? = (Effect.engine (.loadProgram c)).outlined? :=
  h.shared

/-- Worlds with related engines and the same panel in which the same has been done since they were
others, as far as it counts. -/
structure World.Outlines (R : S.EngineState → S.EngineState → Prop) (t t' : List Effect)
    (w w' : World S) : Prop where
  engine : R w.engine w'.engine
  panel : w'.panel = w.panel
  trace : ∃ es es', w.trace = t ++ es ∧ w'.trace = t' ++ es' ∧ outline es' = outline es

namespace World.Outlines

variable {R : S.EngineState → S.EngineState → Prop} {t t' : List Effect} {w w' : World S}

lemma note (h : Outlines R t t' w w') {s s' : S.EngineState} (hengine : R s s') {e e' : Effect}
    (he : e'.outlined? = e.outlined?) :
    Outlines R t t' (({ w with engine := s } : World S).note e)
      (({ w' with engine := s' } : World S).note e') where
  engine := hengine
  panel := h.panel
  trace := by
    obtain ⟨es, es', ht, ht', hes⟩ := h.trace
    have hlast : outline [e'] = outline [e] := by
      simp only [outline, List.filterMap_cons, he]
    refine ⟨es ++ [e], es' ++ [e'], ?_, ?_, ?_⟩
    · simp [World.note, ht]
    · simp [World.note, ht']
    · rw [outline_append, outline_append, hes, hlast]

lemma ask (h : Outlines R t t' w w') {α : Type} {f f' : S.EngineState → α × S.EngineState}
    (hsame : Same R (f w.engine) (f' w'.engine)) {call call' : EngineCall}
    (hcall : (Effect.engine call').outlined? = (Effect.engine call).outlined?) :
    Same (Outlines R t t') (w.ask call f) (w'.ask call' f') :=
  ⟨hsame.1, h.note hsame.2 hcall⟩

lemma query (discreet : S.engine.Discreet R) (h : Outlines R t t' w w') {call : EngineCall}
    (hcall : call.queries = true) {α : Type} {f : S.EngineState → α × S.EngineState}
    (hafter : ∀ s, (f s).2 = S.engine.after call s) (hanswer : (f w'.engine).1 = (f w.engine).1) :
    Same (Outlines R t t') (w.ask call f) (w'.ask call f) := by
  refine h.ask ⟨hanswer, ?_⟩ rfl
  rw [hafter, hafter]
  exact discreet.after h.engine hcall

lemma send (hA : S.Attentive) (h : Outlines R t t' w w') (m : Message) :
    Same (Outlines R t t') (w.send m) (w'.send m) := by
  rw [send_eq, send_eq, hA, hA]
  have hnote := h.note h.engine (e := .message m true) rfl
  exact ⟨rfl, hnote.engine, hnote.panel, hnote.trace⟩

lemma updatePanel (h : Outlines R t t' w w') (u : PanelUpdate) :
    Same (Outlines R t t') (w.updatePanel u) (w'.updatePanel u) := by
  have hok : (S.panel.update u w'.panel).1 = (S.panel.update u w.panel).1 := by rw [h.panel]
  have hnote := h.note h.engine (e := .panel u (S.panel.update u w.panel).1) rfl
  rw [updatePanel_eq, updatePanel_eq, hok]
  exact ⟨rfl, h.engine, congrArg (fun p => (S.panel.update u p).2) h.panel, hnote.trace⟩

lemma update (discreet : S.engine.Discreet R) (h : Outlines R t t' w w') (v : Visualization)
    (failure : Option EngineError) :
    Same (Outlines R t t') (v.update failure w) (v.update failure w') := by
  have hwanted : v.wanted w' = v.wanted w := by rw [Visualization.wanted, h.panel]; rfl
  unfold Visualization.update
  rw [hwanted]
  split
  · have hasked : Same (Outlines R t t') w.circuit w'.circuit :=
      h.query discreet rfl (fun _ => rfl) (congrArg Answers.circuit (discreet.answers h.engine))
    obtain ⟨htaken, hw⟩ :=
      hasked.2.updatePanel (v.picture (w.circuit.1.toOption.getD .null) failure)
    dsimp only
    rw [hasked.1, htaken]
    exact ⟨rfl, hw⟩
  · exact ⟨rfl, h⟩

end World.Outlines

/-! ### Sessions -/

lemma Visualization.enable_eq {v : Visualization} (h : v.enabled = true) : v.enable = v := by
  cases v
  simp_all [Visualization.enable]

lemma RunConfiguration.Agrees.enabled {c c' : RunConfiguration} (h : c.Agrees c') :
    ({ c' with visualizationEnabled := true } : RunConfiguration) =
      { c with visualizationEnabled := true } := by
  obtain ⟨hprogram, hentry, hshots, hdebug, hstop, htrace⟩ := h
  cases c
  cases c'
  simp_all

/-- Sessions are alike that differ in what their traces say of places to stop and, if circuits have
been shown in both of them, in whether their configurations know of it. -/
def Likeness.outlining (hA : S.Attentive) {R : S.EngineState → S.EngineState → Prop}
    (discreet : S.engine.Discreet R) (shown : Prop) (t t' : List Effect) : Likeness S S where
  offset := 0
  world := Outlines R t t'
  config c c' := c.Agrees c' ∧ (shown ∨ c' = c)
  view v v' := v' = v ∧ (shown → v.enabled = true)
  configured := Eq
  request r r' := r' = r
  loadProgram hw _ _ hc := hw.ask (discreet.loadProgram hw.engine hc.1) hc.1.outlined
  breakpoints hw source :=
    hw.query discreet rfl (fun _ => rfl)
      (congrArg (Answers.breakpoints · source) (discreet.answers hw.engine))
  eval hw action armed := hw.ask (discreet.eval hw.engine action armed) rfl
  stackFrames hw :=
    hw.query discreet rfl (fun _ => rfl)
      (congrArg Answers.stackFrames (discreet.answers hw.engine))
  localVariables hw :=
    hw.query discreet rfl (fun _ => rfl)
      (congrArg Answers.localVariables (discreet.answers hw.engine))
  quantumState hw :=
    hw.query discreet rfl (fun _ => rfl)
      (congrArg Answers.quantumState (discreet.answers hw.engine))
  terminate hw := hw.note (discreet.terminate hw.engine) (e := .engine .terminate) rfl
  record hw t := hw.note hw.engine (e := .telemetry t) rfl
  send hw m := by
    rw [Message.shift_zero]
    exact hw.send hA m
  update {w w'} hw v v' hv failure := by
    obtain ⟨rfl, hshown⟩ := hv
    obtain ⟨hview, hw⟩ := hw.update discreet v' failure
    exact ⟨⟨hview, fun h => (v'.update_enabled failure w).trans (hshown h)⟩, hw⟩
  config_refl c := ⟨.refl c, .inr rfl⟩
  agrees hc := hc.1
  enable hv := ⟨congrArg _ hv.1, fun _ => rfl⟩
  setProgram hv program := ⟨congrArg (·.setProgram program) hv.1, hv.2⟩
  shows hc v v' hv := by
    obtain ⟨rfl, hshown⟩ := hv
    -- once circuits are shown, what a configuration says of them makes no difference
    rcases hc.2 with shown | rfl
    · rw [Visualization.enable_eq (hshown shown), ite_self, ite_self]
      exact ⟨rfl, hshown⟩
    · refine ⟨rfl, fun h => ?_⟩
      split
      · rfl
      · exact hshown h
  remembers hc v v' hv := by
    obtain ⟨rfl, -⟩ := hv
    split
    · exact ⟨⟨hc.1.program, hc.1.entryPoint, hc.1.shotCount, hc.1.noDebug, hc.1.stopOnEntry,
        hc.1.traceVerbose⟩, .inr hc.1.enabled⟩
    · exact hc
  configured_true := rfl
  seq hr := congrArg Request.seq hr
  command hr := .inl ⟨by rw [hr, Command.shift_zero, id_eq], fun _ _ _ _ => rfl⟩

/-- Programs that differ in what has been kept of places to stop and in whether their configurations
know of circuits. -/
structure Program.Resembles (p q : Program) : Prop where
  config : p.config.Agrees q.config
  sources : q.sources = p.sources
  coords : q.resolver.coords = p.resolver.coords
  breakpoints : q.breakpoints = p.breakpoints
  loaded : q.loaded = p.loaded

namespace Debugger

/-- Sessions that differ in their traces, in what has been kept of places to stop and, if circuits
have been shown in both of them, in whether their configurations know of it. -/
structure Resembles (R : S.EngineState → S.EngineState → Prop) (d d' : Debugger S) : Prop where
  engine : R d.world.engine d'.world.engine
  panel : d'.world.panel = d.world.panel
  program : d.program.Resembles d'.program
  told : d.view.enabled = true ∨ d'.program.config = d.program.config
  view : d'.view = d.view
  inspector : d'.inspector = d.inspector
  phase : d'.phase = d.phase
  coords : d'.coords = d.coords
  configured : d'.configured = d.configured
  pending : d'.pending = d.pending
  timeout : d'.timeout = d.timeout

variable {R : S.EngineState → S.EngineState → Prop} {d d' : Debugger S}

lemma Resembles.refl (discreet : S.engine.Discreet R) (d : Debugger S) : d.Resembles R d where
  engine := discreet.equivalence.refl _
  panel := rfl
  program := ⟨.refl _, rfl, rfl, rfl, rfl⟩
  told := .inr rfl
  view := rfl
  inspector := rfl
  phase := rfl
  coords := rfl
  configured := rfl
  pending := rfl
  timeout := rfl

lemma Resembles.trans (discreet : S.engine.Discreet R) {d₁ : Debugger S} (h : d.Resembles R d₁)
    (h' : d₁.Resembles R d') : d.Resembles R d' where
  engine := discreet.equivalence.trans h.engine h'.engine
  panel := h'.panel.trans h.panel
  program :=
    ⟨h.program.config.trans h'.program.config, h'.program.sources.trans h.program.sources,
      h'.program.coords.trans h.program.coords, h'.program.breakpoints.trans h.program.breakpoints,
      h'.program.loaded.trans h.program.loaded⟩
  told := by
    rcases h.told with shown | hconfig
    · exact .inl shown
    · rcases h'.told with shown | hconfig'
      · exact .inl (h.view ▸ shown)
      · exact .inr (hconfig'.trans hconfig)
  view := h'.view.trans h.view
  inspector := h'.inspector.trans h.inspector
  phase := h'.phase.trans h.phase
  coords := h'.coords.trans h.coords
  configured := h'.configured.trans h.configured
  pending := h'.pending.trans h.pending
  timeout := h'.timeout.trans h.timeout

/-- Sessions that resemble each other are alike as soon as the same places are kept in both. -/
lemma Resembles.alike (hA : S.Attentive) (discreet : S.engine.Discreet R) (h : d.Resembles R d') :
    (Likeness.outlining hA discreet (d.view.enabled = true) d.world.trace d'.world.trace).Alike
      (d.recached d'.program.resolver.cache) d' where
  world := ⟨h.engine, h.panel, [], [], by simp [recached], by simp, rfl⟩
  program :=
    { config := ⟨h.program.config, h.told⟩
      sources := h.program.sources
      resolver := Resolver.shifts_zero.mpr
        (congrArg (Resolver.mk d'.program.resolver.cache) h.program.coords)
      breakpoints := by
        rw [h.program.breakpoints]
        exact (congrFun BreakpointSet.shift_zero d.program.breakpoints).symm
      loaded := h.program.loaded }
  view := ⟨h.view, id⟩
  inspector := h.inspector
  phase := h.phase
  coords := Offset.between_zero.mpr h.coords
  configured := h.configured.symm
  pending := by
    rw [h.pending]
    show Option.Rel _ d.pending d.pending
    cases d.pending with
    | none => exact .none
    | some l => exact .some ⟨rfl, rfl⟩
  timeout := h.timeout

lemma resembles_of_alike {hA : S.Attentive} {discreet : S.engine.Discreet R} {shown : Prop}
    {t t' : List Effect} {k : Table (List Candidate)}
    (h : (Likeness.outlining hA discreet shown t t').Alike (d.recached k) d') :
    d.Resembles R d' where
  engine := h.world.engine
  panel := h.world.panel
  program :=
    { config := h.program.config.1
      sources := h.program.sources
      coords := by
        have hresolver : d'.program.resolver = (d.program.recached k).resolver :=
          Resolver.shifts_zero.mp h.program.resolver
        rw [hresolver, Program.recached]
      breakpoints :=
        h.program.breakpoints.trans (congrFun BreakpointSet.shift_zero d.program.breakpoints)
      loaded := h.program.loaded }
  told := h.program.config.2.imp_left h.view.2
  view := h.view.1
  inspector := h.inspector
  phase := h.phase
  coords := Offset.between_zero.mp h.coords
  configured := h.configured.symm
  pending := by
    have hpending := h.pending
    show d'.pending = (d.recached k).pending
    generalize (d.recached k).pending = a at hpending
    generalize d'.pending = b at hpending
    cases hpending with
    | none => rfl
    | some hll => exact congrArg some (hll.eq hll.request)
  timeout := h.timeout

/-! ### Calls -/

/-- What counts of a call: how it ends, what it does, and how far the session is after it. -/
def course (d : Debugger S) (c : Call) : Account :=
  ⟨(d.call c).1, outline (d.effects c), (d.call c).2.phase⟩

lemma Resembles.call_other (hA : S.Attentive) (discreet : S.engine.Discreet R)
    (h : d.Resembles R d') {c : Call}
    (hsets : ∀ source requested, ¬ c.Asks (.setBreakpoints source requested))
    (hlooks : ∀ source requested, ¬ c.Asks (.breakpointLocations source requested)) :
    d'.course c = d.course c ∧ (d.call c).2.Resembles R (d'.call c).2 := by
  -- the call does not mind what is kept, so both sides may as well have kept the same before it
  obtain ⟨k, hk⟩ := call_heedless c hsets hlooks d d'.program.resolver.cache
  have hcalls : (Likeness.outlining hA discreet (d.view.enabled = true) d.world.trace
      d'.world.trace).Calls c c := by
    cases c with
    | request now later r => exact .request now later rfl
    | resume now => exact .resume now
  obtain ⟨hresult, hd⟩ := (h.alike hA discreet).call (fun _ _ => Eq.symm) hcalls
  dsimp only at hk
  rw [hk] at hresult hd
  refine ⟨?_, resembles_of_alike hd⟩
  obtain ⟨es, es', ht, ht', hes⟩ := hd.world.trace
  have heffects : d.effects c = es :=
    List.append_cancel_left ((d.trace_call c).symm.trans ht)
  have heffects' : d'.effects c = es' :=
    List.append_cancel_left ((d'.trace_call c).symm.trans ht')
  have hphase : (d'.call c).2.phase = (d.call c).2.phase := hd.phase
  rw [course, course, hresult, heffects, heffects', hes, hphase]

end Debugger

/-! ### Requests that ask for places to stop -/

lemma Effect.Surveys.glances {e : Effect} (h : e.Surveys) : e.Glances := by
  obtain ⟨source, rfl⟩ := h
  rfl

lemma outline_surveys {es : List Effect} (h : ∀ e ∈ es, e.Surveys) : outline es = [] := by
  rw [outline, List.filterMap_eq_nil_iff]
  intro e he
  obtain ⟨source, rfl⟩ := h e he
  rfl

namespace Program

variable {R : S.EngineState → S.EngineState → Prop} {p q : Program} {w w' : World S}

lemma Resembles.load_eq (discreet : S.engine.Discreet R) (h : p.Resembles q)
    (hw : R w.engine w'.engine) (knows : p.resolver.Knows S.engine w.engine)
    (knows' : q.resolver.Knows S.engine w'.engine) (source : Url) :
    (q.resolver.load source w').1 = (p.resolver.load source w).1 := by
  rw [knows.load_eq, knows'.load_eq, h.coords, discreet.answers hw]

lemma Resembles.setBreakpoints (discreet : S.engine.Discreet R) (h : p.Resembles q)
    (hw : R w.engine w'.engine) (knows : p.resolver.Knows S.engine w.engine)
    (knows' : q.resolver.Knows S.engine w'.engine) (source : Source)
    (requested : List RequestedBreakpoint) :
    (q.setBreakpoints source requested w').1 = (p.setBreakpoints source requested w).1 ∧
      (p.setBreakpoints source requested w).2.1.Resembles
        (q.setBreakpoints source requested w').2.1 := by
  unfold Program.setBreakpoints
  rw [h.loaded, h.sources, h.breakpoints]
  split
  · split
    · rename_i url _
      have hmatched : (q.resolver.resolve url requested w').1 =
          (p.resolver.resolve url requested w).1 := by
        show Resolver.select q.resolver.coords requested (q.resolver.load url w').1 =
          Resolver.select p.resolver.coords requested (p.resolver.load url w).1
        rw [h.coords, h.load_eq discreet hw knows knows']
      refine ⟨hmatched, h.config, h.sources, ?_, ?_, h.loaded⟩
      · exact (Resolver.load_coords _ _ _).trans
          (h.coords.trans (Resolver.load_coords _ _ _).symm)
      · show q.breakpoints.replace url.text (q.resolver.resolve url requested w').1 = _
        rw [h.breakpoints, hmatched]
        rfl
    · exact ⟨rfl, h⟩
  · split
    · exact ⟨rfl, h.config, rfl, h.coords, rfl, rfl⟩
    · exact ⟨rfl, h⟩

end Program

namespace Debugger

variable {R : S.EngineState → S.EngineState → Prop} {d d' d₁ d₁' : Debugger S}

lemma Resembles.surveyed (discreet : S.engine.Discreet R) (h : d.Resembles R d')
    {p q : Program} {w w' : World S} (hp : p.Resembles q) (hconfig : p.config = d.program.config)
    (hconfig' : q.config = d'.program.config) (surveys : d.world.Leads Effect.Surveys w)
    (surveys' : d'.world.Leads Effect.Surveys w') :
    ({ d with program := p, world := w } : Debugger S).Resembles R
      { d' with program := q, world := w' } := by
  obtain ⟨hengine, hpanel⟩ := discreet.glances (surveys.mono fun _ he => he.glances)
  obtain ⟨hengine', hpanel'⟩ := discreet.glances (surveys'.mono fun _ he => he.glances)
  exact { h with
    engine := discreet.equivalence.trans (discreet.equivalence.symm hengine)
      (discreet.equivalence.trans h.engine hengine')
    panel := hpanel'.trans (h.panel.trans hpanel.symm)
    program := hp
    told := by
      rw [hconfig, hconfig']
      exact h.told }

lemma call_of_respond (hA : S.Attentive) {c : Call} {r : Request} {body : ResponseBody}
    {P : Effect → Prop} (hcall : d.call c = d₁.respond r body)
    (leads : d.world.Leads P d₁.world) :
    d.call c = (.ok (), d₁.play [r.answer (.success body) true]) ∧
      ∃ es, (∀ e ∈ es, P e) ∧ d.effects c = es ++ [r.answer (.success body) true] := by
  obtain ⟨es, hes, hw⟩ := leads
  obtain ⟨ok, hok, heq, heffects⟩ := call_responds hcall hw
  obtain rfl := hok hA
  exact ⟨heq, es, hes, heffects⟩

lemma Resembles.answered (hA : S.Attentive) (h : d₁.Resembles R d₁') {c : Call} {r : Request}
    {body : ResponseBody} (hcall : d.call c = d₁.respond r body)
    (hcall' : d'.call c = d₁'.respond r body) (surveys : d.world.Leads Effect.Surveys d₁.world)
    (surveys' : d'.world.Leads Effect.Surveys d₁'.world) :
    d'.course c = d.course c ∧ (d.call c).2.Resembles R (d'.call c).2 := by
  obtain ⟨heq, es, hes, heffects⟩ := call_of_respond hA hcall surveys
  obtain ⟨heq', es', hes', heffects'⟩ := call_of_respond hA hcall' surveys'
  constructor
  · rw [course, course, heffects, heffects', outline_append, outline_append, outline_surveys hes,
      outline_surveys hes', heq, heq', play_phase, play_phase, h.phase]
  · rw [heq, heq']
    exact { h with engine := h.engine, panel := h.panel }

lemma consulted_coords (d : Debugger S) (source : Source) (requested : RequestedBreakpoint) :
    (d.consulted source requested).program.resolver.coords = d.program.resolver.coords := by
  unfold consulted
  split
  · split
    · exact Resolver.load_coords _ _ _
    · rfl
  · rfl

lemma Resembles.consulted (discreet : S.engine.Discreet R) (h : d.Resembles R d')
    (source : Source) (requested : RequestedBreakpoint) :
    (d.consulted source requested).Resembles R (d'.consulted source requested) := by
  rw [d.consulted_eq source requested, d'.consulted_eq source requested]
  refine h.surveyed discreet ?_ rfl rfl (d.consulted_surveys source requested)
    (d'.consulted_surveys source requested)
  refine { h.program with coords := ?_ }
  show (d'.consulted source requested).program.resolver.coords =
    (d.consulted source requested).program.resolver.coords
  rw [consulted_coords, consulted_coords, h.program.coords]

lemma Resembles.locations (discreet : S.engine.Discreet R) (h : d.Resembles R d')
    (knows : d.Remembers) (knows' : d'.Remembers) (source : Source)
    (requested : RequestedBreakpoint) :
    d'.locations source requested = d.locations source requested := by
  unfold Debugger.locations
  rw [h.program.sources, h.program.loaded]
  cases d.program.sources.resolveSource source with
  | none => rfl
  | some url =>
    have hplaces : (d'.program.resolver.query url requested d'.world).1 =
        (d.program.resolver.query url requested d.world).1 := by
      show ((d'.program.resolver.load url d'.world).1.filter
          (requested.accepts d'.program.resolver.coords)).map Candidate.clientRange =
        ((d.program.resolver.load url d.world).1.filter
          (requested.accepts d.program.resolver.coords)).map Candidate.clientRange
      rw [h.program.coords, h.program.load_eq discreet h.engine knows knows']
    dsimp only
    rw [hplaces]

lemma Resembles.setBreakpoints (hA : S.Attentive) (discreet : S.engine.Discreet R)
    (h : d.Resembles R d') (knows : d.Remembers) (knows' : d'.Remembers) (now later : Nat)
    {r : Request} {source : Source} {requested : List RequestedBreakpoint}
    (command : r.command = .setBreakpoints source requested) :
    d'.course (.request now later r) = d.course (.request now later r) ∧
      (d.call (.request now later r)).2.Resembles R (d'.call (.request now later r)).2 := by
  obtain ⟨hmatched, hp⟩ := h.program.setBreakpoints discreet h.engine knows knows' source requested
  have harmed : (d.armed source requested).Resembles R (d'.armed source requested) :=
    h.surveyed discreet hp (d.program.setBreakpoints_keeps source requested d.world).1
      (d'.program.setBreakpoints_keeps source requested d'.world).1
      (d.armed_surveys source requested) (d'.armed_surveys source requested)
  have hcall' := d'.call_setBreakpoints now later command
  rw [hmatched] at hcall'
  exact harmed.answered hA (d.call_setBreakpoints now later command) hcall' (d.armed_surveys _ _)
    (d'.armed_surveys _ _)

lemma Resembles.breakpointLocations (hA : S.Attentive) (discreet : S.engine.Discreet R)
    (h : d.Resembles R d') (knows : d.Remembers) (knows' : d'.Remembers) (now later : Nat)
    {r : Request} {source : Source} {requested : RequestedBreakpoint}
    (command : r.command = .breakpointLocations source requested) :
    d'.course (.request now later r) = d.course (.request now later r) ∧
      (d.call (.request now later r)).2.Resembles R (d'.call (.request now later r)).2 := by
  have hcall' := d'.call_breakpointLocations now later command
  rw [h.locations discreet knows knows'] at hcall'
  exact (h.consulted discreet source requested).answered hA
    (d.call_breakpointLocations now later command) hcall' (d.consulted_surveys _ _)
    (d'.consulted_surveys _ _)

/-- **Sessions that resemble each other do the same for every call**, if what they have kept of
places to stop is true, and resemble each other after it. -/
theorem Resembles.call (hA : S.Attentive) (discreet : S.engine.Discreet R)
    (h : d.Resembles R d') (knows : d.Remembers) (knows' : d'.Remembers) (c : Call) :
    d'.course c = d.course c ∧ (d.call c).2.Resembles R (d'.call c).2 := by
  cases c with
  | resume now =>
    exact h.call_other hA discreet (by simp [Call.Asks, Call.request?])
      (by simp [Call.Asks, Call.request?])
  | request now later r =>
    cases command : r.command with
    | setBreakpoints source requested =>
      exact h.setBreakpoints hA discreet knows knows' now later command
    | breakpointLocations source requested =>
      exact h.breakpointLocations hA discreet knows knows' now later command
    | _ =>
      exact h.call_other hA discreet (by simp [Call.Asks, Call.request?, command])
        (by simp [Call.Asks, Call.request?, command])

end Debugger

end QuantumDebug
