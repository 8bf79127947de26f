import QuantumDebug.Proofs.Session.Launch
import QuantumDebug.Proofs.Session.Programs

/-!
The load of a program in the life of a session with an attentive client. Before it requests to set
breakpoints are kept, and the last one for each path counts. The load announces and arms what they
match. After it nothing but such requests changes what is armed, and every run is told just that.
-/

namespace QuantumDebug

open World

variable {S : Surroundings}

/-! ### What the client is told of breakpoints -/

@[simp] def Effect.announced? : Effect → Option Breakpoint
  | .message (.event (.breakpoint b)) _ => some b
  | _ => none

def announced (es : List Effect) : List Breakpoint := es.filterMap Effect.announced?

def Response.breakpoints (r : Response) : List Breakpoint :=
  match r.reply with
  | .success (.setBreakpoints bs) => bs
  | _ => []

def shown (es : List Effect) : List Breakpoint := (replies es).flatMap Response.breakpoints

/-- What requests to set breakpoints keep for later, by the path of their source. -/
def Call.asked (c : Call) : List (String × List RequestedBreakpoint) :=
  match c.request?.map Request.command with
  | some (.setBreakpoints source requested) => source.path.toList.map (·, requested)
  | _ => []

lemma Call.asked_of_other {c : Call}
    (other : ∀ source requested, ¬ c.Asks (.setBreakpoints source requested)) : c.asked = [] := by
  unfold asked
  split
  · rename_i source requested hc
    exact absurd hc (other source requested)
  · rfl

lemma Call.asked_of_asks {c : Call} {source : Source} {requested : List RequestedBreakpoint}
    (asks : c.Asks (.setBreakpoints source requested)) :
    c.asked = source.path.toList.map (·, requested) := by
  rw [asked, show c.request?.map Request.command = _ from asks]

lemma Call.Asks.other {c : Call} {command : Command} (asks : c.Asks command)
    (h : ∀ source requested, command ≠ .setBreakpoints source requested)
    (source : Source) (requested : List RequestedBreakpoint) :
    ¬ c.Asks (.setBreakpoints source requested) :=
  fun asks' => h source requested (Option.some.inj (asks.symm.trans asks'))

namespace Debugger

/-! ### Requests to set breakpoints -/

section Sets

variable {d : Debugger S} {c : Call} {source : Source} {requested : List RequestedBreakpoint}

lemma call_sets (d : Debugger S) (asks : c.Asks (.setBreakpoints source requested)) :
    ∃ (r : Request) (es : List Effect) (ok : Bool), (∀ e ∈ es, e.Aside) ∧
      (d.program.setBreakpoints source requested d.world).2.2 = d.world.playAll es ∧
      d.call c = (arrival ok,
        ({ d with program := (d.program.setBreakpoints source requested d.world).2.1 } :
          Debugger S).play (es ++ [r.answer (.success (.setBreakpoints
            ((d.program.setBreakpoints source requested d.world).1.map
              (·.toBreakpoint source)))) ok])) := by
  cases c with
  | resume now => simp [Call.Asks, Call.request?] at asks
  | request now later r =>
    have command : r.command = .setBreakpoints source requested := Option.some.inj asks
    obtain ⟨es, surveys, hw⟩ := d.armed_surveys source requested
    obtain ⟨ok, -, hcall, -⟩ := call_responds (d.call_setBreakpoints now later command) hw
    have harmed : d.armed source requested = ({ d with
        program := (d.program.setBreakpoints source requested d.world).2.1 } :
          Debugger S).play es := by
      show ({ d with program := _, world := (d.armed source requested).world } : Debugger S) = _
      rw [hw]
      rfl
    rw [harmed, ← play_append] at hcall
    exact ⟨r, es, ok, fun e he => (surveys e he).aside, hw, hcall⟩

lemma call_sets_program (d : Debugger S) (asks : c.Asks (.setBreakpoints source requested)) :
    (d.call c).2.program = (d.program.setBreakpoints source requested d.world).2.1 := by
  obtain ⟨r, es, ok, -, -, hcall⟩ := call_sets d asks
  rw [hcall, play_program]

lemma shown_call_sets (d : Debugger S) (asks : c.Asks (.setBreakpoints source requested)) :
    shown (d.effects c) =
      (d.program.setBreakpoints source requested d.world).1.map (·.toBreakpoint source) := by
  obtain ⟨r, es, ok, aside, -, hcall⟩ := call_sets d asks
  have heffects : d.effects c = es ++ [r.answer (.success (.setBreakpoints
      ((d.program.setBreakpoints source requested d.world).1.map (·.toBreakpoint source)))) ok] :=
    effects_of_world (by rw [hcall]; rfl)
  rw [heffects, shown, replies_append, replies_work fun e he => (aside e he).work]
  simp [Request.answer, Response.breakpoints]

end Sets

/-! ### The launch -/

/-- A request is a launch that is taken up, and its program loads. -/
structure Launches (d : Debugger S) (r : Request) (config : RunConfiguration)
    (urls : List Url) : Prop where
  accepted : ∃ noDebug data, r.command = .launch noDebug data ∧
    d.accepted? noDebug data = .ok config
  answered : (S.engine.loadProgram config d.world.engine).1 = .ok urls

section Launch

variable {d : Debugger S} {r : Request} {config : RunConfiguration} {urls : List Url}

lemma loads_iff : d.loads r = true ↔ ∃ config urls, d.Launches r config urls := by
  constructor
  · intro h
    obtain ⟨noDebug, data, command⟩ := command_of_loads h
    simp only [loads, command] at h
    split at h
    · rename_i config accepted
      cases answered : (S.engine.loadProgram config d.world.engine).1 with
      | ok urls => exact ⟨config, urls, ⟨noDebug, data, command, accepted⟩, answered⟩
      | error e => simp [answered, Except.toBool] at h
    · simp at h
  · rintro ⟨config, urls, ⟨noDebug, data, command, accepted⟩, answered⟩
    exact loads_eq_true command accepted answered

/-- The session after a load, all that it has armed having been announced. -/
def announcing (d : Debugger S) (config : RunConfiguration) (p : Program) (es : List Effect) :
    Debugger S :=
  d.launching config p (.engine (.loadProgram config) :: (es ++
    (p.announcements d.program.breakpoints.deferred.entries).map
      fun b => .message (.event (.breakpoint b)) true))

/-- A launch whose program loads: first the load, then what it has armed, and then the launch waits
or goes ahead. -/
structure Loading (d : Debugger S) (now later : Nat) (r : Request) (config : RunConfiguration)
    (p : Program) (es fs : List Effect) : Prop where
  aside : ∀ e ∈ es, e.Aside
  reruns : Program.Reruns S p (d.call (.request now later r)).2.program
  goesOn : d.call (.request now later r) = ((d.announcing config p es).await now r).resume later
  resumes : Resumes later ((d.announcing config p es).await now r) fs
    (d.call (.request now later r))

lemma call_launches (h : d.Launches r config urls) (now later : Nat)
    (heard : S.Attentive ∨
      d.pending = none ∧ (d.call (.request now later r)).2.pending ≠ none) :
    ∃ es fs, Loading d now later r config (d.loadedBy config) es fs ∧
      Program.LoadedFrom { d.program with config := config } urls (d.loadedBy config) := by
  obtain ⟨⟨noDebug, data, command, accepted⟩, answered⟩ := h
  obtain ⟨p, es, hload, loaded, surveys⟩ := Program.load_loadedFrom
    (p := (d.configure config).program) (w := (d.configure config).world) answered
  have hp : d.loadedBy config = p := congrArg (fun l => l.2.1) hload
  obtain ⟨fs, resumes⟩ := ((d.announcing config p es).await now r).resume_resumes later
  have hcall : d.call (.request now later r) = d.launchWith now later r config := by
    have hphase := accepted_phase accepted
    rw [accepted?, if_neg hphase] at accepted
    simp only [call, handle, command, launch, if_neg hphase, accepted]
  have reruns := d.launchWith_reruns now later r config
  rw [← hcall] at reruns
  have hlaunch : d.launchWith now later r config =
      ((d.launching config p (.engine (.loadProgram config) :: es)).tellAll
        ((p.announcements d.program.breakpoints.deferred.entries).map .breakpoint)).andThen
          fun d => (d.await now r).resume later := by
    rw [launchWith, hload]
    rfl
  obtain ⟨gs, ok, sent, htell⟩ := (d.launching config p
    (.engine (.loadProgram config) :: es)).tellAll_sent
      ((p.announcements d.program.breakpoints.deferred.entries).map .breakpoint)
  rw [hlaunch, htell] at hcall
  -- a client that misses an announcement leaves no launch waiting
  have hok : ok = true := by
    rcases heard with hS | ⟨hnone, hwaits⟩
    · exact sent.ok hS
    · cases ok with
      | true => rfl
      | false =>
        rw [hcall, andThen_false, play_pending, launching_pending] at hwaits
        exact absurd hnone hwaits
  subst hok
  obtain rfl := sent.eq_map
  have hd' : (d.launching config p (.engine (.loadProgram config) :: es)).play
      ((((p.announcements d.program.breakpoints.deferred.entries).map Event.breakpoint).map
        Message.event).map (.message · true)) = d.announcing config p es := by
    rw [launching, ← play_append, List.map_map, List.map_map]
    rfl
  rw [andThen_true, hd'] at hcall
  refine ⟨es, fs, ⟨fun e he => (surveys e he).aside, reruns, ?_, ?_⟩, hp ▸ loaded⟩
  · rw [hcall, hp]
  · rw [hcall, hp]
    exact resumes

lemma Loading.effects {now later : Nat} {p : Program} {es fs : List Effect}
    (h : Loading d now later r config p es fs) :
    d.effects (.request now later r) =
      taken config :: .engine (.loadProgram config) :: (es ++
        (p.announcements d.program.breakpoints.deferred.entries).map
          (fun b => .message (.event (.breakpoint b)) true) ++ fs) := by
  refine effects_of_world ?_
  rw [h.resumes.world, await_world, announcing, launching_world]
  simp only [playAll_cons, playAll_append]

end Launch

/-! ### Before the launch -/

section Before

variable {d : Debugger S}

lemma Handles.accepted (hS : S.Attentive) {now later : Nat} {r : Request} {es : List Effect}
    {h : Handled S} (handles : Handles now later r d es h) {noDebug : Option Bool}
    {data : Option Json} {config : RunConfiguration} (command : r.command = .launch noDebug data)
    (accepted : d.accepted? noDebug data = .ok config) : .awaitingConfiguration ≤ h.2.phase := by
  cases handles with
  | refuses refuses => cases refuses <;> simp_all
  | loadFails _ _ _ _ _ ends => exact ends.terminated hS ▸ Phase.le_terminated _
  | loses _ _ _ _ _ hA => exact absurd hS hA
  | launches _ _ _ _ _ _ resumes =>
    exact Phase.le_trans (Phase.le_advance_right _ _) resumes.onward.phase
  | _ => simp_all [Command.looks, Command.step?]

/-- A program that is not loaded yet: it has no sources and nothing is armed, and of the requests
for a path the last one is kept. -/
structure Unloaded (p : Program) (asked : List (String × List RequestedBreakpoint)) : Prop where
  loaded : p.loaded = false
  sources : p.sources = .empty
  breakpoints : p.breakpoints = ⟨.empty, Table.empty.insertAll asked⟩

lemma Unloaded.adjusts {p q : Program} {asked : List (String × List RequestedBreakpoint)}
    {w : World S} {c : Call} (h : Unloaded p asked) (adjusts : p.Adjusts w c q) :
    Unloaded q (asked ++ c.asked) := by
  have kept (other : ∀ source requested, ¬ c.Asks (.setBreakpoints source requested)) :
      asked ++ c.asked = asked := by
    rw [Call.asked_of_other other, List.append_nil]
  cases adjusts with
  | keeps other => exact (kept other).symm ▸ h
  | greets asks =>
    rw [kept (asks.other (by simp))]
    exact ⟨h.loaded, h.sources, h.breakpoints⟩
  | looks _ asks =>
    rw [kept (asks.other (by simp))]
    exact ⟨h.loaded, h.sources, h.breakpoints⟩
  | shows asks =>
    rw [kept (asks.other (by simp))]
    exact ⟨h.loaded, h.sources, h.breakpoints⟩
  | @sets source requested asks =>
    have hasked := Call.asked_of_asks asks
    cases hpath : source.path with
    | none =>
      rw [Program.setBreakpoints_pathless h.loaded hpath, hasked, hpath]
      simpa using h
    | some path =>
      rw [Program.setBreakpoints_kept h.loaded hpath, hasked, hpath]
      refine ⟨h.loaded, h.sources, ?_⟩
      simp [BreakpointSet.defer, h.breakpoints, Table.insertAll_append]

/-- Before its launch a session only keeps what the client asks for. -/
theorem calls_unloaded (hS : S.Attentive) (h : d.Fresh) (cs : List Call)
    (hphase : ¬ .awaitingConfiguration ≤ (d.calls cs).phase) :
    Unloaded (d.calls cs).program (cs.flatMap Call.asked) := by
  induction cs using List.reverseRecOn with
  | nil =>
    rw [calls_nil, h.program]
    exact ⟨rfl, rfl, rfl⟩
  | append_singleton cs c ih =>
    rw [calls_snoc] at hphase ⊢
    have hearly : ¬ .awaitingConfiguration ≤ (d.calls cs).phase :=
      fun hle => hphase (Phase.le_trans hle ((d.calls cs).phase_le_call c))
    rw [List.flatMap_append, List.flatMap_singleton]
    cases (d.calls cs).call_alters c with
    | adjusts adjusts => exact (ih hearly).adjusts adjusts
    | goes _ waits =>
      have hawait := (calls_patient h cs waits).1
      exact absurd (hawait ▸ Phase.le_refl _) hearly
    | launches asks accepted =>
      cases (d.calls cs).call_moves c with
      | resume => simp [Call.Asks, Call.request?] at asks
      | request handles =>
        exact absurd (handles.accepted hS (Option.some.inj asks) accepted) hphase

end Before

/-! ### Calls that do not load the program anew -/

/-- Calls made one after another, none of which loads the program anew. -/
inductive Keeps (d : Debugger S) : List Call → Prop where
  | nil : Keeps d []
  | snoc {cs : List Call} {c : Call} (keeps : Keeps d cs)
      (adjusts : (d.calls cs).program.Adjusts (d.calls cs).world c
        ((d.calls cs).call c).2.program) : Keeps d (cs ++ [c])

section Keeps

variable {d : Debugger S} {cs : List Call}

lemma Keeps.sources (keeps : Keeps d cs) : (d.calls cs).program.sources = d.program.sources := by
  induction keeps with
  | nil => rfl
  | snoc _ adjusts ih => rw [calls_snoc, adjusts.adjusted.sources, ih]

lemma Keeps.loaded (keeps : Keeps d cs) : (d.calls cs).program.loaded = d.program.loaded := by
  induction keeps with
  | nil => rfl
  | snoc _ adjusts ih => rw [calls_snoc, adjusts.adjusted.loaded, ih]

lemma Keeps.orderly (keeps : Keeps d cs) (hd : d.program.Orderly) :
    (d.calls cs).program.Orderly := by
  induction keeps with
  | nil => exact hd
  | snoc _ adjusts ih =>
    rw [calls_snoc]
    exact ih.adjusts adjusts

lemma Keeps.agrees {places : String → Except EngineError (List EngineBreakpoint)}
    (keeps : Keeps d cs) (hS : S.Steady places) (hd : d.program.resolver.Agrees places) :
    (d.calls cs).program.resolver.Agrees places := by
  induction keeps with
  | nil => exact hd
  | snoc _ adjusts ih =>
    rw [calls_snoc]
    exact adjusts.agrees hS ih

lemma adjusts_of_sets (d : Debugger S) {c : Call} {source : Source}
    {requested : List RequestedBreakpoint} (asks : c.Asks (.setBreakpoints source requested)) :
    d.program.Adjusts d.world c (d.call c).2.program := by
  rw [call_sets_program d asks]
  exact .sets asks

lemma Keeps.of_sets (d : Debugger S)
    (hcs : ∀ c ∈ cs, ∃ source requested, c.Asks (.setBreakpoints source requested)) :
    Keeps d cs := by
  induction cs using List.reverseRecOn with
  | nil => exact .nil
  | append_singleton cs c ih =>
    obtain ⟨source, requested, asks⟩ := hcs c (by simp)
    exact .snoc (ih fun c hc => hcs c (List.mem_append_left _ hc)) (adjusts_of_sets _ asks)

lemma Keeps.unloaded {asked : List (String × List RequestedBreakpoint)} (keeps : Keeps d cs)
    (hd : Unloaded d.program asked) :
    Unloaded (d.calls cs).program (asked ++ cs.flatMap Call.asked) := by
  induction keeps with
  | nil => simpa using hd
  | snoc _ adjusts ih =>
    rw [calls_snoc, List.flatMap_append, List.flatMap_singleton, ← List.append_assoc]
    exact ih.adjusts adjusts

end Keeps

/-! ### After a launch for debugging -/

/-- A session whose program has been loaded to be debugged. -/
structure Debugging (d : Debugger S) : Prop where
  launched : .awaitingConfiguration ≤ d.phase
  debug : d.program.config.noDebug = false
  loaded : d.program.loaded = true

section After

variable {d : Debugger S}

lemma Debugging.adjusts (hd : Debugging d) (c : Call) :
    d.program.Adjusts d.world c (d.call c).2.program := by
  cases d.call_alters c with
  | adjusts adjusts => exact adjusts
  | goes other _ reruns =>
    rcases reruns with heq | ⟨noDebug, -⟩
    · rw [heq]
      exact .keeps other
    · exact absurd (hd.debug.symm.trans noDebug) (by simp)
  | launches _ accepted => exact absurd hd.launched (accepted_phase accepted)

lemma Debugging.call (hd : Debugging d) (c : Call) : Debugging (d.call c).2 := by
  have adjusted := (hd.adjusts c).adjusted
  exact ⟨Phase.le_trans hd.launched (d.phase_le_call c), adjusted.noDebug.trans hd.debug,
    adjusted.loaded.trans hd.loaded⟩

lemma Debugging.calls (hd : Debugging d) (cs : List Call) : Debugging (d.calls cs) := by
  induction cs using List.reverseRecOn with
  | nil => exact hd
  | append_singleton cs c ih =>
    rw [calls_snoc]
    exact ih.call c

lemma Debugging.keeps (hd : Debugging d) (cs : List Call) : Keeps d cs := by
  induction cs using List.reverseRecOn with
  | nil => exact .nil
  | append_singleton cs c ih => exact .snoc ih ((hd.calls cs).adjusts c)

/-! ### Runs in a session that debugs -/

variable {action : StepAction} {ids : List Int} {es : List Effect} {h : Handled S}

lemma Steps.eval_ids {a : StepAction} (steps : Steps a d es h)
    (he : .engine (.eval action ids) ∈ es) : ids = d.program.breakpoints.armedIds := by
  have question {gs : List Effect} (hgs : ∀ e ∈ gs, ¬ e.Runs)
      (he : .engine (.eval action ids) ∈ d.question a :: gs) :
      ids = d.program.breakpoints.armedIds := by
    rcases List.mem_cons.mp he with heq | he
    · simp only [Debugger.question, Effect.engine.injEq, EngineCall.eval.injEq] at heq
      exact heq.2
    · exact absurd trivial (hgs _ he)
  cases steps with
  | idle => simp at he
  | stops _ tail =>
    refine question (List.forall_mem_append.mpr ⟨fun e he => (tail e he).not_runs, ?_⟩) he
    exact List.forall_mem_singleton.mpr id
  | completes _ tail _ ends =>
    exact question (List.forall_mem_append.mpr
      ⟨fun e he => (tail e he).not_runs, ends.not_runs⟩) he
  | fails _ tail _ ends =>
    exact question (List.forall_mem_append.mpr
      ⟨fun e he => (tail e he).not_runs, ends.not_runs⟩) he

lemma Resumes.eval_ids {now : Nat} (resumes : Resumes now d es h)
    (debug : d.program.config.noDebug = false) (he : .engine (.eval action ids) ∈ es) :
    ids = d.program.breakpoints.armedIds := by
  cases resumes with
  | waits => simp at he
  | unheard => simp [PendingLaunch.ack, Request.answer] at he
  | goes _ proceeds =>
    cases proceeds with
    | shots noDebug => exact absurd (debug.symm.trans noDebug) (by simp)
    | step _ steps =>
      rcases List.mem_cons.mp he with heq | he
      · simp [PendingLaunch.ack, Request.answer] at heq
      · exact steps.eval_ids he

lemma Resumes.program {now : Nat} (resumes : Resumes now d es h)
    (debug : d.program.config.noDebug = false) : h.2.program = d.program := by
  cases resumes with
  | waits => rfl
  | unheard => rfl
  | goes _ proceeds =>
    cases proceeds with
    | shots noDebug => exact absurd (debug.symm.trans noDebug) (by simp)
    | step _ steps => exact steps.program

lemma Handles.eval_ids {now later : Nat} {r : Request} (handles : Handles now later r d es h)
    (hd : Debugging d) (he : .engine (.eval action ids) ∈ es) :
    ids = d.program.breakpoints.armedIds := by
  have runs {P : Prop} (hes : ∀ e ∈ es, ¬ e.Runs) : P := absurd trivial (hes _ he)
  cases handles with
  | looks _ aside =>
    exact runs (List.forall_mem_append.mpr
      ⟨Effect.not_runs_of_aside aside, List.forall_mem_singleton.mpr id⟩)
  | greets _ sent => exact runs sent.not_runs
  | refuses => exact runs (List.forall_mem_singleton.mpr id)
  | unheard => exact runs (List.forall_mem_singleton.mpr id)
  | configures _ resumes =>
    rcases List.mem_cons.mp he with heq | he
    · simp [Request.answer] at heq
    · exact resumes.eval_ids hd.debug he
  | steps _ steps =>
    rcases List.mem_cons.mp he with heq | he
    · simp [Request.answer] at heq
    · exact steps.eval_ids he
  | loadFails _ accepted => exact absurd hd.launched (accepted_phase accepted)
  | loses _ accepted => exact absurd hd.launched (accepted_phase accepted)
  | launches _ accepted => exact absurd hd.launched (accepted_phase accepted)
  | terminates _ ends => exact runs (List.forall_mem_cons.mpr ⟨id, ends.not_runs⟩)
  | disconnects => exact runs (by simp [Request.answer])

lemma Debugging.eval_ids (hd : Debugging d) {c : Call}
    (he : .engine (.eval action ids) ∈ d.effects c) : ids = d.program.breakpoints.armedIds := by
  cases d.call_moves c with
  | request handles => exact handles.eval_ids hd he
  | resume resumes => exact resumes.eval_ids hd.debug he

/-- A launch for debugging leaves the program as it has been loaded, also if it goes ahead at once,
and the first run is told what the load has armed. -/
lemma Loading.debugs {now later : Nat} {r : Request} {config : RunConfiguration} {p : Program}
    {fs : List Effect} (hload : Loading d now later r config p es fs)
    (debug : p.config.noDebug = false) (loaded : p.loaded = true) :
    (d.call (.request now later r)).2.program = p ∧
      Debugging (d.call (.request now later r)).2 ∧
      ∀ action ids, .engine (.eval action ids) ∈ d.effects (.request now later r) →
        ids = p.breakpoints.armedIds := by
  have hprogram := hload.resumes.program debug
  rw [await_program, announcing, launching_program] at hprogram
  refine ⟨hprogram, ⟨?_, by rw [hprogram, debug], by rw [hprogram, loaded]⟩,
    fun action ids he => ?_⟩
  · exact Phase.le_trans (Phase.le_advance_right _ _) hload.resumes.onward.phase
  · rw [hload.effects] at he
    have haside : .engine (.eval action ids) ∉ es := fun he => hload.aside _ he
    simp only [taken, List.mem_cons, List.mem_append, List.mem_map, haside, reduceCtorEq,
      Effect.engine.injEq, false_or, and_false, exists_false] at he
    exact hload.resumes.eval_ids debug he

end After

end Debugger

end QuantumDebug
