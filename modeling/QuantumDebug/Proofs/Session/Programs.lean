import QuantumDebug.Proofs.Arming
import QuantumDebug.Proofs.Session.Replies

/-!
What becomes of the program of a session. A launch loads it and arms all that has been asked for,
the shots load it anew, and a request to set breakpoints arms them or keeps them for later. Any
other call leaves its sources and its breakpoints alone.
-/

namespace QuantumDebug

open World

variable {S : Surroundings}

namespace Program

/-! ### One call -/

def setBreakpoints (p : Program) (source : Source) (requested : List RequestedBreakpoint)
    (w : World S) : List Candidate × Program × World S :=
  if p.loaded then
    match p.sources.resolveSource source with
    | some url => p.arm url requested w
    | none => ([], p, w)
  else
    match source.path with
    | some path => ([], { p with breakpoints := p.breakpoints.defer path requested }, w)
    | none => ([], p, w)

section SetBreakpoints

variable {p : Program} {source : Source} {url : Url} {path : String}
  {requested : List RequestedBreakpoint}

lemma setBreakpoints_named (loaded : p.loaded = true)
    (named : p.sources.resolveSource source = some url) (w : World S) :
    p.setBreakpoints source requested w = p.arm url requested w := by
  rw [setBreakpoints, if_pos loaded, named]

lemma setBreakpoints_unnamed (loaded : p.loaded = true)
    (unnamed : p.sources.resolveSource source = none) (w : World S) :
    p.setBreakpoints source requested w = ([], p, w) := by
  rw [setBreakpoints, if_pos loaded, unnamed]

lemma setBreakpoints_kept (unloaded : p.loaded = false) (hpath : source.path = some path)
    (w : World S) :
    p.setBreakpoints source requested w =
      ([], { p with breakpoints := p.breakpoints.defer path requested }, w) := by
  rw [setBreakpoints, if_neg (by simp [unloaded]), hpath]

lemma setBreakpoints_pathless (unloaded : p.loaded = false) (hpath : source.path = none)
    (w : World S) : p.setBreakpoints source requested w = ([], p, w) := by
  rw [setBreakpoints, if_neg (by simp [unloaded]), hpath]

lemma setBreakpoints_surveys (p : Program) (source : Source) (requested : List RequestedBreakpoint)
    (w : World S) : w.Leads Effect.Surveys (p.setBreakpoints source requested w).2.2 := by
  unfold setBreakpoints
  split
  · split
    · exact p.resolver.load_surveys _ w
    · exact .refl w
  · split <;> exact .refl w

end SetBreakpoints

variable (S) in
/-- A program that is set going is loaded anew, again and again, for shots only. -/
def Reruns (p q : Program) : Prop := q = p ∨ p.config.noDebug = true ∧ Reloads S p q

/-- What a call that does not load the program can make of it. -/
inductive Adjusts (p : Program) (w : World S) (c : Call) : Program → Prop where
  | keeps (other : ∀ source requested, ¬ c.Asks (.setBreakpoints source requested)) :
      Adjusts p w c p
  | greets {lines columns types : Option Bool}
      (asks : c.Asks (.initializeSession lines columns types)) :
      Adjusts p w c { p with resolver := .fresh (.ofClient lines columns) }
  | looks {source : Source} {requested : RequestedBreakpoint} (url : Url)
      (asks : c.Asks (.breakpointLocations source requested)) :
      Adjusts p w c { p with resolver := (p.resolver.load url w).2.1 }
  | shows {reference : Int} (asks : c.Asks (.variables reference)) :
      Adjusts p w c { p with config := { p.config with visualizationEnabled := true } }
  | sets {source : Source} {requested : List RequestedBreakpoint}
      (asks : c.Asks (.setBreakpoints source requested)) :
      Adjusts p w c (p.setBreakpoints source requested w).2.1

end Program

namespace Debugger

/-! ### Parts of a call -/

section Parts

variable {d : Debugger S}

lemma andThen_program {h : Handled S} {f : Debugger S → Handled S}
    (hf : ∀ d, (f d).2.program = d.program) : (h.andThen f).2.program = h.2.program := by
  obtain ⟨answer, d⟩ := h
  cases answer with
  | ok => exact hf d
  | error => rfl

lemma send_program (d : Debugger S) (m : Message) : (d.send m).2.program = d.program := by
  obtain ⟨ok, -, heq⟩ := d.send_ok m
  rw [heq, play_program]

lemma endSession_program (d : Debugger S) (message : String) (code : Int) :
    (d.endSession message code).2.program = d.program := by
  obtain ⟨es, ends⟩ := d.endSession_ends message code
  exact ends.program

lemma step_program (d : Debugger S) (action : StepAction) :
    (d.step action).2.program = d.program := by
  obtain ⟨es, steps⟩ := d.step_steps action
  exact steps.program

lemma tell_program (d : Debugger S) (e : Event) : (d.tell e).2.program = d.program :=
  d.send_program _

lemma respond_program (d : Debugger S) (r : Request) (body : ResponseBody) :
    (d.respond r body).2.program = d.program := d.send_program _

lemma refuse_program (d : Debugger S) (r : Request) (message : String) :
    (d.refuse r message).2.program = d.program := d.send_program _

lemma failWith_program (h : Handled S) (e : SessionError) :
    (h.failWith e).2.program = h.2.program :=
  andThen_program fun _ => rfl

lemma runAllShots_reloads (d : Debugger S) :
    Program.Reloads S d.program d.runAllShots.2.program := by
  have reloads := runShotsLeft_reloads (max d.program.config.shotCount 1)
    (max d.program.config.shotCount 1) d.program d.view d.world
  rw [runAllShots, runShots]
  rcases hr : runShotsLeft Program.reload (max d.program.config.shotCount 1)
    (max d.program.config.shotCount 1) d.program d.view d.world with ⟨how, p, v, w⟩
  rw [hr] at reloads
  dsimp only
  rw [andThen_program fun d => d.endSession_program _ _]
  cases how with
  | completed => exact reloads
  | incomplete => exact reloads
  | failed shot e => exact (tell_program _ (.output .stderr e.render)).symm ▸ reloads

lemma run_reruns (d : Debugger S) : Program.Reruns S d.program d.run.2.program := by
  unfold run
  split
  · exact .inr ⟨‹_›, d.runAllShots_reloads⟩
  · exact .inl (d.step_program _)

lemma resume_reruns (d : Debugger S) (now : Nat) :
    Program.Reruns S d.program (d.resume now).2.program := by
  unfold resume
  split
  · exact .inl rfl
  · rename_i l _
    split
    · rcases ({ d with pending := none } : Debugger S).send_arrival
        (.response (l.request.success .launch)) with heq | ⟨-, heq⟩
      · rw [respond, heq, andThen_true]
        exact run_reruns _
      · rw [respond, heq, andThen_false]
        exact .inl rfl
    · exact .inl rfl

end Parts

/-! ### Launches -/

def loadedBy (d : Debugger S) (config : RunConfiguration) : Program :=
  (({ d.program with config := config } : Program).load (d.world.play (taken config))).2.1

/-- What a call can make of the program of a session. -/
inductive Alters (d : Debugger S) (c : Call) : Program → Prop where
  | adjusts {q : Program} (adjusts : d.program.Adjusts d.world c q) : Alters d c q
  | goes {q : Program} (other : ∀ source requested, ¬ c.Asks (.setBreakpoints source requested))
      (waits : d.pending ≠ none) (reruns : Program.Reruns S d.program q) : Alters d c q
  | launches {noDebug : Option Bool} {data : Option Json} {config : RunConfiguration}
      {q : Program} (asks : c.Asks (.launch noDebug data))
      (accepted : d.accepted? noDebug data = .ok config)
      (reruns : Program.Reruns S (d.loadedBy config) q) : Alters d c q

section Alters

variable {d : Debugger S} {now later : Nat} {r : Request}

lemma launchWith_reruns (d : Debugger S) (now later : Nat) (r : Request)
    (config : RunConfiguration) :
    Program.Reruns S (d.loadedBy config) (d.launchWith now later r config).2.program := by
  rcases hl : (d.configure config).program.load (d.configure config).world with ⟨answer, p, w⟩
  have hp : d.loadedBy config = p := congrArg (fun l => l.2.1) hl
  rw [hp, launchWith, hl]
  cases answer with
  | error e =>
    refine .inl ?_
    rw [andThen_program fun d => d.endSession_program _ _]
    exact refuse_program _ _ _
  | ok bs =>
    obtain ⟨es, ok, -, heq⟩ :=
      ({ d.configure config with program := p, world := w } : Debugger S).tellAll_sent
        (bs.map .breakpoint)
    dsimp only
    rw [heq]
    cases ok with
    | true =>
      rw [andThen_true]
      exact resume_reruns _ later
    | false => exact .inl rfl

def armed (d : Debugger S) (source : Source) (requested : List RequestedBreakpoint) :
    Debugger S :=
  let set := d.program.setBreakpoints source requested d.world
  { d with program := set.2.1, world := set.2.2 }

lemma armed_surveys (d : Debugger S) (source : Source) (requested : List RequestedBreakpoint) :
    d.world.Leads Effect.Surveys (d.armed source requested).world :=
  d.program.setBreakpoints_surveys source requested d.world

lemma setBreakpoints_eq (d : Debugger S) (r : Request) (source : Source)
    (requested : List RequestedBreakpoint) :
    d.setBreakpoints r source requested = (d.armed source requested).respond r (.setBreakpoints
      ((d.program.setBreakpoints source requested d.world).1.map (·.toBreakpoint source))) := by
  unfold setBreakpoints armed Program.setBreakpoints
  by_cases loaded : d.program.loaded = true
  · rw [if_pos loaded, if_pos loaded]
    cases d.program.sources.resolveSource source <;> rfl
  · rw [if_neg loaded, if_neg loaded]
    cases source.path <;> rfl

lemma call_setBreakpoints (d : Debugger S) (now later : Nat) {r : Request} {source : Source}
    {requested : List RequestedBreakpoint}
    (command : r.command = .setBreakpoints source requested) :
    d.call (.request now later r) = (d.armed source requested).respond r (.setBreakpoints
      ((d.program.setBreakpoints source requested d.world).1.map (·.toBreakpoint source))) := by
  simp only [Debugger.call, Debugger.handle, command]
  exact d.setBreakpoints_eq r source requested

lemma breakpointLocations_adjusts {source : Source} {requested : RequestedBreakpoint}
    (command : r.command = .breakpointLocations source requested) :
    d.program.Adjusts d.world (.request now later r)
      (d.breakpointLocations r source requested).2.program := by
  have keeps : d.program.Adjusts d.world (.request now later r) d.program :=
    .keeps (by simp [Call.Asks, Call.request?, command])
  unfold breakpointLocations
  split
  · rename_i url _
    split
    · rw [respond_program]
      exact .looks url (congrArg some command)
    · rw [respond_program]
      exact keeps
  · rw [respond_program]
    exact keeps

lemma lookInto_adjusts {reference : Int} (command : r.command = .variables reference) :
    d.program.Adjusts d.world (.request now later r) (d.lookInto r reference).2.program := by
  unfold lookInto
  rcases d.inspector.lookInto reference d.view d.world with ⟨vars, v, w⟩
  dsimp only [rememberView]
  rw [respond_program]
  split
  · exact .shows (congrArg some command)
  · exact .keeps (by simp [Call.Asks, Call.request?, command])

lemma launch_alters {noDebug : Option Bool} {data : Option Json}
    (command : r.command = .launch noDebug data) :
    Alters d (.request now later r) (d.launch now later r noDebug data).2.program := by
  have asks : (Call.request now later r).Asks (.launch noDebug data) := congrArg some command
  have keeps {e : SessionError} {text : String} :
      Alters d (.request now later r) ((d.refuse r text).failWith e).2.program := by
    rw [failWith_program, refuse_program]
    exact .adjusts (.keeps (by simp [Call.Asks, Call.request?, command]))
  unfold launch
  split
  · exact keeps
  · split
    · exact keeps
    · rename_i hphase _ config hconfig
      exact .launches asks (by rw [accepted?, if_neg hphase, hconfig])
        (d.launchWith_reruns now later r config)

lemma configurationDone_alters (command : r.command = .configurationDone) :
    Alters d (.request now later r) (d.configurationDone now r).2.program := by
  have keeps : Alters d (.request now later r) d.program :=
    .adjusts (.keeps (by simp [Call.Asks, Call.request?, command]))
  rcases d.send_arrival (.response (r.success .configurationDone)) with heq | ⟨-, heq⟩
  · rw [configurationDone, respond, heq, andThen_true]
    let d' : Debugger S :=
      { d.play [.message (.response (r.success .configurationDone)) true] with configured := true }
    show Alters d _ (d'.resume now).2.program
    by_cases waits : d.pending = none
    · have hdone : d'.call (.resume now) = d'.done := resume_eq_done (by simp [due, d', waits])
      rw [show d'.resume now = d'.done from hdone]
      exact keeps
    · exact .goes (by simp [Call.Asks, Call.request?, command]) waits (d'.resume_reruns now)
  · rw [configurationDone, respond, heq, andThen_false]
    exact keeps

/-- Every call makes of the program one of the things named above. -/
theorem call_alters (d : Debugger S) (c : Call) : Alters d c (d.call c).2.program := by
  cases c with
  | resume now =>
    by_cases waits : d.pending = none
    · rw [resume_eq_done (by simp [due, waits])]
      exact .adjusts (.keeps (by simp [Call.Asks, Call.request?]))
    · exact .goes (by simp [Call.Asks, Call.request?]) waits (d.resume_reruns now)
  | request now later r =>
    have keeps (other : ∀ source requested, r.command ≠ .setBreakpoints source requested) :
        Alters d (.request now later r) d.program :=
      .adjusts (.keeps (by simpa [Call.Asks, Call.request?] using other))
    have steps {body : ResponseBody} {action : StepAction}
        (other : ∀ source requested, r.command ≠ .setBreakpoints source requested) :
        Alters d (.request now later r) (d.respondAndStep r body action).2.program := by
      rw [respondAndStep, andThen_program fun d => d.step_program _, respond_program]
      exact keeps other
    have responds (body : ResponseBody)
        (other : ∀ source requested, r.command ≠ .setBreakpoints source requested) :
        Alters d (.request now later r) (d.respond r body).2.program := by
      rw [respond_program]
      exact keeps other
    show Alters d _ (d.handle now r later).2.program
    unfold handle
    split <;> rename_i command
    · rw [greet, andThen_program fun d => d.tell_program _, respond_program]
      exact .adjusts (.greets (congrArg some command))
    · exact launch_alters command
    · exact configurationDone_alters command
    · rw [setBreakpoints_eq, respond_program]
      exact .adjusts (.sets (congrArg some command))
    · exact .adjusts (breakpointLocations_adjusts command)
    · exact responds _ (by simp [command])
    · exact responds _ (by simp [command])
    · exact responds _ (by simp [command])
    · rw [stackTrace]
      dsimp only
      rw [respond_program]
      exact keeps (by simp [command])
    · rw [scopes]
      dsimp only
      rw [respond_program]
      exact keeps (by simp [command])
    · exact .adjusts (lookInto_adjusts command)
    · exact steps (by simp [command])
    · exact steps (by simp [command])
    · exact steps (by simp [command])
    · exact steps (by simp [command])
    · rw [terminate, andThen_program fun d => d.endSession_program _ _, respond_program]
      exact keeps (by simp [command])
    · rw [disconnect, failWith_program, respond_program]
      exact keeps (by simp [command])
    · rw [failWith_program, refuse_program]
      exact keeps (by simp [command])

end Alters

/-! ### What holds of every program -/

lemma shots_of_accepted {d : Debugger S} {noDebug : Option Bool} {data : Option Json}
    {config : RunConfiguration} (accepted : d.accepted? noDebug data = .ok config) :
    1 ≤ config.shotCount := by
  unfold accepted? at accepted
  split at accepted
  · simp at accepted
  · unfold launchConfiguration at accepted
    split at accepted
    · simp at accepted
    · split at accepted
      · obtain rfl := Except.ok.inj accepted
        exact Nat.le_max_right _ _
      · simp at accepted

lemma reloads_induction {P : Program → Prop} {p q : Program} (reloads : Program.Reloads S p q)
    (hp : P p) (loads : ∀ p (w : World S), P p → P (p.load w).2.1) : P q := by
  induction reloads with
  | refl => exact hp
  | load _ w ih => exact loads _ w ih

/-- What calls, launches and loads do not change of a program holds in every session. -/
theorem calls_program {P : Program → Prop} {d : Debugger S} (start : P d.program)
    (adjusts : ∀ {p q : Program} {w : World S} {c : Call}, P p → p.Adjusts w c q → P q)
    (configures : ∀ {p : Program} {config : RunConfiguration}, P p → 1 ≤ config.shotCount →
      P { p with config := config })
    (loads : ∀ p (w : World S), P p → P (p.load w).2.1) (cs : List Call) :
    P (d.calls cs).program := by
  have reruns {p q : Program} (hp : P p) (h : Program.Reruns S p q) : P q := by
    rcases h with rfl | ⟨-, reloads⟩
    · exact hp
    · exact reloads_induction reloads hp loads
  induction cs using List.reverseRecOn with
  | nil => exact start
  | append_singleton cs c ih =>
    rw [calls_snoc]
    cases (d.calls cs).call_alters c with
    | adjusts h => exact adjusts ih h
    | goes _ _ h => exact reruns ih h
    | launches _ accepted h =>
      exact reruns (loads _ _ (configures ih (shots_of_accepted accepted))) h

lemma Fresh.program {d : Debugger S} (h : d.Fresh) : d.program = .unloaded := by
  obtain ⟨w, profile, timeout, -, rfl⟩ := h
  rfl

end Debugger

namespace Program

variable {p q : Program} {w : World S} {c : Call}

lemma Orderly.setBreakpoints (h : p.Orderly) (source : Source)
    (requested : List RequestedBreakpoint) (w : World S) :
    (p.setBreakpoints source requested w).2.1.Orderly := by
  unfold Program.setBreakpoints
  split
  · split
    · exact h.arm _ _ _
    · exact h
  · split
    · exact ⟨h.armed, h.deferred.insert _ _, h.cache⟩
    · exact h

lemma Orderly.adjusts (h : p.Orderly) (adjusts : p.Adjusts w c q) : q.Orderly := by
  cases adjusts with
  | keeps => exact h
  | greets => exact ⟨h.armed, h.deferred, Table.sorted_empty⟩
  | looks url => exact ⟨h.armed, h.deferred, Resolver.sorted_load h.cache url w⟩
  | shows => exact ⟨h.armed, h.deferred, h.cache⟩
  | sets => exact h.setBreakpoints _ _ w

section Lasting

variable {P : Resolver → Prop}

lemma setBreakpoints_lasting (lasting : Resolver.Lasting S P) (hp : P p.resolver)
    (source : Source) (requested : List RequestedBreakpoint) (w : World S) :
    P (p.setBreakpoints source requested w).2.1.resolver := by
  unfold setBreakpoints
  split
  · split
    · exact lasting.load hp _ w
    · exact hp
  · split <;> exact hp

lemma Adjusts.lasting (adjusts : p.Adjusts w c q) (lasting : Resolver.Lasting S P)
    (hp : P p.resolver) : P q.resolver := by
  cases adjusts with
  | keeps => exact hp
  | greets => exact lasting.fresh _
  | looks url => exact lasting.load hp url w
  | shows => exact hp
  | sets => exact setBreakpoints_lasting lasting hp _ _ w

lemma Adjusts.agrees {places : String → Except EngineError (List EngineBreakpoint)}
    (adjusts : p.Adjusts w c q) (hS : S.Steady places) (hp : p.resolver.Agrees places) :
    q.resolver.Agrees places :=
  adjusts.lasting (Resolver.agrees_lasting hS) hp

end Lasting

lemma setBreakpoints_keeps (p : Program) (source : Source) (requested : List RequestedBreakpoint)
    (w : World S) :
    (p.setBreakpoints source requested w).2.1.config = p.config ∧
      (p.setBreakpoints source requested w).2.1.sources = p.sources ∧
      (p.setBreakpoints source requested w).2.1.loaded = p.loaded ∧
      (p.setBreakpoints source requested w).2.1.resolver.coords = p.resolver.coords := by
  unfold setBreakpoints
  split
  · split
    · exact ⟨rfl, rfl, rfl, Resolver.load_coords _ _ _⟩
    · exact ⟨rfl, rfl, rfl, rfl⟩
  · split <;> exact ⟨rfl, rfl, rfl, rfl⟩

/-- What a call keeps of a program that it does not load. -/
structure Adjusted (p q : Program) : Prop where
  shots : q.config.shotCount = p.config.shotCount
  noDebug : q.config.noDebug = p.config.noDebug
  sources : q.sources = p.sources
  loaded : q.loaded = p.loaded

lemma Adjusts.adjusted (adjusts : p.Adjusts w c q) : Adjusted p q := by
  cases adjusts with
  | keeps => exact ⟨rfl, rfl, rfl, rfl⟩
  | greets => exact ⟨rfl, rfl, rfl, rfl⟩
  | looks => exact ⟨rfl, rfl, rfl, rfl⟩
  | shows => exact ⟨rfl, rfl, rfl, rfl⟩
  | sets =>
    obtain ⟨config, sources, loaded, -⟩ := p.setBreakpoints_keeps _ _ w
    exact ⟨by rw [config], by rw [config], sources, loaded⟩

end Program

namespace Debugger

variable {d : Debugger S}

lemma calls_orderly (h : d.Fresh) (cs : List Call) : (d.calls cs).program.Orderly := by
  refine calls_program (P := Program.Orderly) ?_ (fun hp adjusts => hp.adjusts adjusts)
    (fun hp _ => ⟨hp.armed, hp.deferred, hp.cache⟩) (fun _ w hp => hp.load w) cs
  rw [h.program]
  exact ⟨Table.sorted_empty, Table.sorted_empty, Table.sorted_empty⟩

lemma calls_resolver {P : Resolver → Prop} (lasting : Resolver.Lasting S P) (h : d.Fresh)
    (cs : List Call) : P (d.calls cs).program.resolver := by
  refine calls_program (P := fun p => P p.resolver) ?_
    (fun hp adjusts => adjusts.lasting lasting hp) (fun hp _ => hp)
    (fun p w _ => Program.load_lasting lasting p w) cs
  rw [h.program]
  exact lasting.fresh _

lemma calls_agrees {places : String → Except EngineError (List EngineBreakpoint)}
    (hS : S.Steady places) (h : d.Fresh) (cs : List Call) :
    (d.calls cs).program.resolver.Agrees places :=
  calls_resolver (Resolver.agrees_lasting hS) h cs

lemma calls_shots (h : d.Fresh) (cs : List Call) :
    1 ≤ (d.calls cs).program.config.shotCount := by
  refine calls_program (P := fun p => 1 ≤ p.config.shotCount) ?_
    (fun hp adjusts => adjusts.adjusted.shots ▸ hp) (fun _ hconfig => hconfig)
    (fun p w hp => (p.load_keeps w).1 ▸ hp) cs
  rw [h.program]
  exact Nat.le_refl 1

end Debugger

end QuantumDebug
