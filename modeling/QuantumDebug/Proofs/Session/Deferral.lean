import QuantumDebug.Proofs.Session.Announcements
import QuantumDebug.Proofs.Session.Armed

/-!
Requests to set breakpoints made before a launch and after it. If every source is asked for under
one path and the engine is steady, the program is the same in the end, and the client is told of the
same breakpoints: announced in the one case, and in the other in answer to the last request for each
source.
-/

namespace QuantumDebug

open World

variable {S : Surroundings}

def Call.command? (c : Call) : Option Command := c.request?.map Request.command

/-- Whether a call sets breakpoints in a source that a registry knows. -/
def Call.names (c : Call) (r : SourceRegistry) : Bool :=
  match c.command? with
  | some (.setBreakpoints source _) => (r.resolveSource source).isSome
  | _ => false

lemma Call.names_of_asks {c : Call} {source : Source} {requested : List RequestedBreakpoint}
    (asks : c.Asks (.setBreakpoints source requested)) (r : SourceRegistry) :
    c.names r = (r.resolveSource source).isSome := by
  rw [names, show c.command? = _ from asks]

lemma Call.names_of_other {c : Call}
    (other : ∀ source requested, ¬ c.Asks (.setBreakpoints source requested))
    (r : SourceRegistry) : c.names r = false := by
  unfold names
  split
  · rename_i source requested hc
    exact absurd hc (other source requested)
  · rfl

lemma Call.named_asked (c : Call) (r : SourceRegistry) :
    Program.named r c.asked = if c.names r then c.asked else [] := by
  by_cases hsets : ∃ source requested, c.Asks (.setBreakpoints source requested)
  · obtain ⟨source, requested, asks⟩ := hsets
    rw [asked_of_asks asks, names_of_asks asks, SourceRegistry.resolveSource]
    cases source.path with
    | none => rfl
    | some path => cases hurl : r.resolve path <;> simp [Program.named, hurl]
  · have other (source : Source) (requested : List RequestedBreakpoint) :
        ¬ c.Asks (.setBreakpoints source requested) := fun asks => hsets ⟨source, requested, asks⟩
    rw [asked_of_other other, names_of_other other]
    rfl

lemma flatMap_asked_filter (cs : List Call) (r : SourceRegistry) :
    (cs.filter (·.names r)).flatMap Call.asked = Program.named r (cs.flatMap Call.asked) := by
  induction cs with
  | nil => rfl
  | cons c cs ih =>
    have hcons : Program.named r ((c :: cs).flatMap Call.asked) =
        Program.named r c.asked ++ Program.named r (cs.flatMap Call.asked) := List.filter_append ..
    rw [hcons, ← ih, c.named_asked]
    cases hnames : c.names r <;> simp [hnames]

def Breakpoint.place (b : Breakpoint) :
    Option Int × Option Int × Option Int × Option Int × Option Int :=
  (b.id, b.line, b.column, b.endLine, b.endColumn)

def Candidate.place (c : Candidate) :
    Option Int × Option Int × Option Int × Option Int × Option Int :=
  (some c.id, some c.clientRange.line, some c.clientRange.column, some c.clientRange.endLine,
    some c.clientRange.endColumn)

def AllSet (cs : List Call) : Prop :=
  ∀ c ∈ cs, ∃ source requested, c.Asks (.setBreakpoints source requested)

section AllSet

variable {cs cs' : List Call} {c : Call}

lemma AllSet.init (h : AllSet (cs ++ [c])) : AllSet cs :=
  fun c' hc' => h c' (List.mem_append_left _ hc')

lemma AllSet.filter (h : AllSet cs) (f : Call → Bool) : AllSet (cs.filter f) :=
  fun c hc => h c (List.mem_filter.mp hc).1

lemma AllSet.of_same (h : AllSet cs) (same : cs'.map Call.command? = cs.map Call.command?) :
    AllSet cs' := by
  intro c' hc'
  obtain ⟨c, hc, hcommand⟩ := List.mem_map.mp (same ▸ List.mem_map.mpr ⟨c', hc', rfl⟩)
  obtain ⟨source, requested, asks⟩ := h c hc
  exact ⟨source, requested, hcommand.symm.trans asks⟩

lemma flatMap_asked_of_same (same : cs'.map Call.command? = cs.map Call.command?) :
    cs'.flatMap Call.asked = cs.flatMap Call.asked := by
  let asked? : Option Command → List (String × List RequestedBreakpoint)
    | some (.setBreakpoints source requested) => source.path.toList.map (·, requested)
    | _ => []
  have hasked (cs : List Call) : cs.flatMap Call.asked = (cs.map Call.command?).flatMap asked? := by
    rw [List.flatMap_map]
    rfl
  rw [hasked, hasked, same]

end AllSet

namespace Program

variable {places : String → Except EngineError (List EngineBreakpoint)}

lemma setBreakpoints_steady {p : Program} (hS : S.Steady places) (loaded : p.loaded = true)
    (agrees : p.resolver.Agrees places) (ordered : p.Orderly) (source : Source)
    (requested : List RequestedBreakpoint) (w : World S) :
    (p.setBreakpoints source requested w).2.1 =
      p.armedAll places (source.path.toList.map (·, requested)) := by
  cases hpath : source.path with
  | none =>
    have hsource : p.sources.resolveSource source = none := by
      simp [SourceRegistry.resolveSource, hpath]
    rw [setBreakpoints_unnamed loaded hsource]
    rfl
  | some path =>
    have hresolve : p.sources.resolveSource source = p.sources.resolve path := by
      simp [SourceRegistry.resolveSource, hpath]
    show _ = p.armedAll places [(path, requested)]
    cases hurl : p.sources.resolve path with
    | none =>
      rw [setBreakpoints_unnamed loaded (hresolve.trans hurl), armedAll_cons_none hurl,
        armedAll_nil]
    | some url =>
      rw [setBreakpoints_named loaded (hresolve.trans hurl), armedAll_cons_some hurl, armedAll_nil]
      exact arm_steady agrees hS ordered.cache url requested w

end Program

namespace Debugger

variable {d : Debugger S} {places : String → Except EngineError (List EngineBreakpoint)}
  {sets : List Call} {now later : Nat} {r : Request} {config : RunConfiguration} {urls : List Url}

/-! ### Requests before the load -/

/-- One session has come of another by requests that are kept for later. -/
structure Prepared (d d' : Debugger S) : Prop where
  phase : d'.phase = d.phase
  pending : d'.pending = d.pending
  configured : d'.configured = d.configured
  timeout : d'.timeout = d.timeout
  engine : d'.world.engine = d.world.engine
  program : d'.program = { d.program with
    breakpoints := ⟨d.program.breakpoints.armed, d'.program.breakpoints.deferred⟩ }

lemma Prepared.refl (d : Debugger S) : Prepared d d := ⟨rfl, rfl, rfl, rfl, rfl, rfl⟩

lemma Prepared.trans {d₁ d₂ : Debugger S} (h₁ : Prepared d d₁) (h₂ : Prepared d₁ d₂) :
    Prepared d d₂ where
  phase := h₂.phase.trans h₁.phase
  pending := h₂.pending.trans h₁.pending
  configured := h₂.configured.trans h₁.configured
  timeout := h₂.timeout.trans h₁.timeout
  engine := h₂.engine.trans h₁.engine
  program := by
    rw [h₂.program, h₁.program]

lemma Prepared.loaded {d' : Debugger S} (h : Prepared d d') :
    d'.program.loaded = d.program.loaded := by
  rw [h.program]

lemma call_prepared (unloaded : d.program.loaded = false) {c : Call} {source : Source}
    {requested : List RequestedBreakpoint} (asks : c.Asks (.setBreakpoints source requested)) :
    Prepared d (d.call c).2 := by
  obtain ⟨r, es, ok, -, hw, hcall⟩ := call_sets d asks
  have hkept : (d.program.setBreakpoints source requested d.world).2.2 = d.world ∧
      ∃ deferred, (d.program.setBreakpoints source requested d.world).2.1 =
        { d.program with breakpoints := ⟨d.program.breakpoints.armed, deferred⟩ } := by
    cases hpath : source.path with
    | none =>
      rw [Program.setBreakpoints_pathless unloaded hpath]
      exact ⟨rfl, d.program.breakpoints.deferred, rfl⟩
    | some path =>
      rw [Program.setBreakpoints_kept unloaded hpath]
      exact ⟨rfl, d.program.breakpoints.deferred.insert path requested, rfl⟩
  obtain ⟨hworld, deferred, hprogram⟩ := hkept
  rw [hworld] at hw
  rw [hcall]
  refine ⟨rfl, rfl, rfl, rfl, ?_, ?_⟩
  · rw [play_world, playAll_append]
    show (d.world.playAll es).engine = d.world.engine
    rw [← hw]
  · rw [play_program]
    dsimp only
    rw [hprogram]

lemma calls_prepared (unloaded : d.program.loaded = false) (hsets : AllSet sets) :
    Prepared d (d.calls sets) := by
  induction sets using List.reverseRecOn with
  | nil => exact .refl d
  | append_singleton sets c ih =>
    obtain ⟨source, requested, asks⟩ := hsets c (by simp)
    have before := ih hsets.init
    rw [calls_snoc]
    exact before.trans (call_prepared (before.loaded.trans unloaded) asks)

lemma Prepared.launches {d' : Debugger S} (h : Prepared d d')
    (launches : d.Launches r config urls) : d'.Launches r config urls := by
  obtain ⟨⟨noDebug, data, command, accepted⟩, answered⟩ := launches
  refine ⟨⟨noDebug, data, command, ?_⟩, ?_⟩
  · rw [accepted?, h.phase]
    exact accepted
  · rw [h.engine]
    exact answered

/-! ### A launch that goes on waiting -/

/-- A launch whose deadline has not passed, in a session that has not been configured. -/
def MustWait (d : Debugger S) (now later : Nat) : Prop :=
  ¬ (d.configured = true ∨ now + d.timeout ≤ later)

lemma Prepared.mustWait {d' : Debugger S} (h : Prepared d d') :
    d'.MustWait now later ↔ d.MustWait now later := by
  rw [MustWait, MustWait, h.configured, h.timeout]

lemma Handles.waits {es : List Effect} {h : Handled S} (handles : Handles now later r d es h)
    (hnone : d.pending = none) (hwaits : h.2.pending ≠ none) :
    (∃ config urls, d.Launches r config urls) ∧ d.MustWait now later := by
  cases handles with
  | looks => exact absurd hnone hwaits
  | greets => exact absurd hnone hwaits
  | refuses => exact absurd hnone hwaits
  | unheard => exact absurd hnone hwaits
  | configures _ resumes => exact absurd (resumes.onward.pending hnone) hwaits
  | steps _ steps => exact absurd (steps.onward.pending hnone) hwaits
  | loadFails _ _ _ _ _ ends => exact absurd (ends.onward.pending hnone) hwaits
  | loses => exact absurd hnone hwaits
  | terminates _ ends => exact absurd (ends.onward.pending hnone) hwaits
  | disconnects => exact absurd rfl hwaits
  | launches command accepted answered _ _ _ resumes =>
    refine ⟨⟨_, _, ⟨_, _, command, accepted⟩, answered⟩, fun hgo => ?_⟩
    rcases resumes.settles with hsettled | ⟨hdue, -, -⟩
    · exact hwaits hsettled
    · rw [due_await, launching_configured, launching_timeout] at hdue
      simp [hgo] at hdue

lemma call_waits (hnone : d.pending = none)
    (hwaits : (d.call (.request now later r)).2.pending ≠ none) :
    (∃ config urls, d.Launches r config urls) ∧ d.MustWait now later := by
  have moves := d.call_moves (.request now later r)
  generalize d.effects (.request now later r) = es at moves
  cases moves with
  | request handles => exact handles.waits hnone hwaits

lemma Loading.waits {p : Program} {es fs : List Effect}
    (h : Loading d now later r config p es fs) (hwait : d.MustWait now later) :
    (d.call (.request now later r)).2.program = p := by
  have hdue : ((d.announcing config p es).await now r).due later = none := by
    rw [due_await, announcing, launching_configured, launching_timeout]
    exact if_neg hwait
  obtain ⟨-, heq⟩ := h.resumes.idle hdue
  rw [heq]
  rfl

/-! ### The two runs -/

def readied (d : Debugger S) (config : RunConfiguration) (urls : List Url) : Program :=
  ({ d.program with config := config } : Program).ready urls

lemma Prepared.readied {d' : Debugger S} (h : Prepared d d') :
    d'.readied config urls = d.readied config urls := by
  rw [Debugger.readied, h.program]
  rfl

lemma loadedBy_steady (hS : S.Steady places) (ordered : d.program.Orderly)
    (launches : d.Launches r config urls) :
    d.loadedBy config =
      (d.readied config urls).armedAll places d.program.breakpoints.deferred.entries := by
  have ordered' : ({ d.program with config := config } : Program).Orderly :=
    ⟨ordered.armed, ordered.deferred, ordered.cache⟩
  exact Program.load_steady hS ordered' launches.answered

/-- A program that has been loaded with nothing armed in it, and that nothing has been asked of. -/
structure Bare (places : String → Except EngineError (List EngineBreakpoint)) (p : Program) :
    Prop where
  loaded : p.loaded = true
  armed : p.breakpoints.armed = .empty
  agrees : p.resolver.Agrees places
  orderly : p.Orderly

lemma Unloaded.bare (hd : Unloaded d.program []) : Bare places (d.readied config urls) where
  loaded := rfl
  armed := congrArg BreakpointSet.armed hd.breakpoints
  agrees := .clear _
  orderly := by
    refine ⟨?_, Table.sorted_empty, Table.sorted_empty⟩
    show d.program.breakpoints.armed.Sorted
    rw [hd.breakpoints]
    exact Table.sorted_empty

/-- What a launch makes of the requests that have been kept for it. -/
structure Deferred (places : String → Except EngineError (List EngineBreakpoint))
    (d : Debugger S) (launch : Call) (base : Program)
    (asked : List (String × List RequestedBreakpoint)) : Prop where
  program : (d.call launch).2.program = base.armedAll places (Program.waiting asked)
  announced : announced (d.effects launch) =
    (base.armedAll places (Program.waiting asked)).announcements (Program.waiting asked)
  armed : (base.armedAll places (Program.waiting asked)).breakpoints.armed =
    Table.empty.insertAll
      ((base.armedAll places (Program.waiting asked)).armings (Program.waiting asked))

lemma launches_deferred (hS : S.Steady places) (hd : Unloaded d.program [])
    (ordered : d.program.Orderly) (hnone : d.pending = none)
    (launches : d.Launches r config urls) (hwait : d.MustWait now later) (hsets : AllSet sets)
    (heard : S.Attentive ∨ ((d.calls sets).call (.request now later r)).2.pending ≠ none) :
    Deferred places (d.calls sets) (.request now later r) (d.readied config urls)
      (sets.flatMap Call.asked) := by
  have prepared := calls_prepared hd.loaded hsets
  have keeps := Keeps.of_sets d hsets
  have unloaded := keeps.unloaded hd
  have hpending : (d.calls sets).pending = none := prepared.pending.trans hnone
  have launches' := prepared.launches launches
  obtain ⟨es, fs, hload, loaded⟩ := call_launches launches' now later
    (heard.imp id fun hwaits => ⟨hpending, hwaits⟩)
  have hprogram := hload.waits (prepared.mustWait.mpr hwait)
  have hsteady := loadedBy_steady hS (keeps.orderly ordered) launches'
  obtain ⟨pre, post, heffects, hpre, hpost⟩ := hload.stretch
  have harmed := congrArg BreakpointSet.armed loaded.breakpoints
  dsimp only at harmed
  rw [unloaded.breakpoints] at hsteady heffects harmed
  have hbase : (d.calls sets).loadedBy config = (d.readied config urls).armedAll places
      (Program.waiting (sets.flatMap Call.asked)) := hsteady.trans (congrArg
    (Program.armedAll places · (Program.waiting (sets.flatMap Call.asked))) prepared.readied)
  rw [hbase] at hprogram heffects harmed
  refine ⟨hprogram, ?_, harmed⟩
  rw [heffects, announced_stretch (fun e he => (hpre e he).1) hpost]
  rfl

lemma calls_sets_armed (hS : S.Steady places) (bare : Bare places d.program)
    (hsets : AllSet sets) :
    (d.calls sets).program = d.program.armedAll places (sets.flatMap Call.asked) := by
  induction sets using List.reverseRecOn with
  | nil => rfl
  | append_singleton sets c ih =>
    obtain ⟨source, requested, asks⟩ := hsets c (by simp)
    have keeps := Keeps.of_sets d hsets.init
    rw [calls_snoc, call_sets_program _ asks, Program.setBreakpoints_steady hS
      (keeps.loaded.trans bare.loaded) (keeps.agrees hS bare.agrees) (keeps.orderly bare.orderly),
      ih hsets.init, List.flatMap_append, List.flatMap_singleton, Program.armedAll_append,
      Call.asked_of_asks asks]

lemma calls_sets_pending (d : Debugger S) (hsets : AllSet sets) :
    (d.calls sets).pending = d.pending := by
  induction sets using List.reverseRecOn with
  | nil => rfl
  | append_singleton sets c ih =>
    obtain ⟨source, requested, asks⟩ := hsets c (by simp)
    obtain ⟨r, es, ok, -, -, hcall⟩ := call_sets (d.calls sets) asks
    rw [calls_snoc, hcall, play_pending]
    exact ih hsets.init

/-! ### The result -/

/-- The places of the breakpoints that the client was told last of a source. -/
def placesTold (d : Debugger S) (cs : List Call) (key : String) :
    List (Option Int × Option Int × Option Int × Option Int × Option Int) :=
  match (d.along told cs).reverse.lookup key with
  | some bs => bs.map Breakpoint.place
  | none => []

def placesAnnounced (d : Debugger S) (c : Call) :
    List (Option Int × Option Int × Option Int × Option Int × Option Int) :=
  (announced (d.effects c)).map Breakpoint.place

/-- Requests make no difference by coming before a launch and not after it. -/
structure Defers (d : Debugger S) (sets : List Call) (launch launch' : Call) (sets' : List Call) :
    Prop where
  /-- The program is the same in the end, with all that is armed and its order. -/
  program : (d.calls (sets ++ [launch])).program = (d.calls (launch' :: sets')).program
  /-- The one launch announces what the client is told after the other in answer to the last request
  for each source. -/
  announced : ∃ xs, InOrder ((d.call launch').2.placesTold sets') xs ∧
    ((d.calls sets).placesAnnounced launch).Perm xs
  /-- A request that names no source changes nothing after the launch, and is told of nothing. -/
  unnamed : ∀ before c after, sets' = before ++ c :: after →
    c.names (d.call launch').2.program.sources = false →
    (d.calls (launch' :: before ++ [c])).program = (d.calls (launch' :: before)).program ∧
      shown ((d.calls (launch' :: before)).effects c) = []
  /-- Before the launch such requests make no difference by being made at all, unless the client
  then misses something. -/
  dropped : ∀ kept, kept = sets.filter (·.names (d.call launch').2.program.sources) →
    S.Attentive ∨ (d.calls (kept ++ [launch])).pending ≠ none →
    (d.calls (kept ++ [launch])).program = (d.calls (sets ++ [launch])).program ∧
      QuantumDebug.announced ((d.calls kept).effects launch) =
        QuantumDebug.announced ((d.calls sets).effects launch)

section Result

variable {sets' : List Call} {launch launch' : Call} {base : Program}

lemma calls_cons (d : Debugger S) (c : Call) (cs : List Call) :
    d.calls (c :: cs) = (d.call c).2.calls cs := rfl

lemma calls_sets_told (bare : Bare places d.program) (hsets : AllSet sets) :
    InOrder (d.placesTold sets)
      ((d.calls sets).program.breakpoints.armed.values.flatten.map Candidate.place) := by
  have keeps := Keeps.of_sets d hsets
  have hview (cs : List Candidate) (source : Source) :
      (cs.map (·.toBreakpoint source)).map Breakpoint.place = cs.map Candidate.place := by
    rw [List.map_map]
    rfl
  have horder := (calls_tells bare.loaded keeps).inOrder (List.map Candidate.place)
    (List.map Breakpoint.place) (keeps.orderly bare.orderly).armed hview
  have hflat : (d.calls sets).program.breakpoints.armed.values.flatMap (List.map Candidate.place) =
      (d.calls sets).program.breakpoints.armed.values.flatten.map Candidate.place := by
    rw [List.map_flatten, List.flatMap_def]
  have htold : lastTold (List.map Candidate.place) (List.map Breakpoint.place)
      d.program.breakpoints.armed (d.along told sets) = d.placesTold sets := by
    funext key
    rw [lastTold, placesTold, bare.armed]
    rfl
  rw [hflat, htold] at horder
  exact horder

lemma calls_sets_unnamed (loaded : d.program.loaded = true) {before : List Call} {c : Call}
    (hbefore : AllSet before) {source : Source} {requested : List RequestedBreakpoint}
    (asks : c.Asks (.setBreakpoints source requested))
    (hnames : c.names d.program.sources = false) :
    ((d.calls before).call c).2.program = (d.calls before).program ∧
      shown ((d.calls before).effects c) = [] := by
  have keeps := Keeps.of_sets d hbefore
  have unnamed : (d.calls before).program.sources.resolveSource source = none := by
    rw [Call.names_of_asks asks] at hnames
    rw [keeps.sources]
    simpa using hnames
  have hnothing : (d.calls before).program.setBreakpoints source requested
      (d.calls before).world = ([], (d.calls before).program, (d.calls before).world) :=
    Program.setBreakpoints_unnamed (keeps.loaded.trans loaded) unnamed _
  rw [call_sets_program _ asks, shown_call_sets _ asks, hnothing]
  exact ⟨rfl, rfl⟩

/-- A launch makes the same of requests whether those that name no source have been made or not. -/
lemma Deferred.of_named {d' : Debugger S} {base : Program}
    {asked : List (String × List RequestedBreakpoint)} {launch : Call}
    (h : Deferred places d launch base asked)
    (h' : Deferred places d' launch base (Program.named base.sources asked)) :
    (d'.call launch).2.program = (d.call launch).2.program ∧
      QuantumDebug.announced (d'.effects launch) = QuantumDebug.announced (d.effects launch) := by
  have hlocated := base.located_waiting_named asked
  have harmed : base.armedAll places (Program.waiting (Program.named base.sources asked)) =
      base.armedAll places (Program.waiting asked) := Program.armedAll_congr hlocated
  constructor
  · rw [h'.program, h.program, harmed]
  · rw [h'.announced, h.announced, harmed]
    exact congrArg (List.flatMap _) hlocated

lemma Deferred.perm {base : Program} {asked : List (String × List RequestedBreakpoint)}
    {launch : Call} (h : Deferred places d launch base asked)
    (once : base.sources.NamesOnce asked) :
    (d.placesAnnounced launch).Perm
      ((d.call launch).2.program.breakpoints.armed.values.flatten.map Candidate.place) := by
  have hview (c : Candidate) (source : Source) :
      (some ∘ Breakpoint.place) (c.toBreakpoint source) = some c.place := rfl
  have hperm := Program.announcements_perm (p := base.armedAll places (Program.waiting asked))
    once hview
  rw [placesAnnounced, h.announced, h.program, h.armed, ← List.filterMap_eq_map]
  exact hperm

lemma Unloaded.defers (hS : S.Steady places) (hd : Unloaded d.program [])
    (ordered : d.program.Orderly) (hnone : d.pending = none) (hsets : AllSet sets)
    {now' later' : Nat} {r' : Request} {sets' : List Call}
    (same : sets'.map Call.command? = sets.map Call.command?) (command : r'.command = r.command)
    (waits : (d.calls (sets ++ [.request now later r])).pending ≠ none)
    (waits' : (d.calls (.request now' later' r' :: sets')).pending ≠ none)
    (once : (d.call (.request now' later' r')).2.program.sources.NamesOnce
      (sets.flatMap Call.asked)) :
    Defers d sets (.request now later r) (.request now' later' r') sets' := by
  let launch : Call := .request now later r
  let launch' : Call := .request now' later' r'
  let asked := sets.flatMap Call.asked
  have hsets' : AllSet sets' := hsets.of_same same
  -- both launches load the same program and have to wait
  have first' : (d.call launch').2.pending ≠ none := by
    rw [calls_cons, calls_sets_pending _ hsets'] at waits'
    exact waits'
  obtain ⟨⟨config, urls, launches'⟩, hwait'⟩ := call_waits hnone first'
  have launches : d.Launches r config urls := by
    obtain ⟨noDebug, data, hcommand, accepted⟩ := launches'.accepted
    exact ⟨⟨noDebug, data, command ▸ hcommand, accepted⟩, launches'.answered⟩
  have prepared := calls_prepared hd.loaded hsets
  rw [calls_snoc] at waits
  have hwait : d.MustWait now later :=
    prepared.mustWait.mp (call_waits (prepared.pending.trans hnone) waits).2
  let base := d.readied config urls
  have bare : Bare places base := hd.bare
  have early : Deferred places (d.calls sets) launch base asked :=
    launches_deferred hS hd ordered hnone launches hwait hsets (.inr waits)
  have none_set : AllSet [] := by simp [AllSet]
  have late : (d.call launch').2.program = base :=
    (launches_deferred hS hd ordered hnone launches' hwait' none_set (.inr first')).program
  have bare' : Bare places (d.call launch').2.program := late ▸ bare
  have once' : base.sources.NamesOnce asked := late ▸ once
  have same : (d.calls (sets ++ [launch])).program = (d.calls (launch' :: sets')).program := by
    calc
      (d.calls (sets ++ [launch])).program
      _ = base.armedAll places (Program.waiting asked) := by rw [calls_snoc, early.program]
      _ = base.armedAll places asked := bare.orderly.armedAll_waiting once'
      _ = (d.calls (launch' :: sets')).program := by
        rw [calls_cons, calls_sets_armed hS bare' hsets', late, flatMap_asked_of_same same]
  refine ⟨same, ⟨_, calls_sets_told bare' hsets', ?_⟩, ?_, ?_⟩
  · rw [← calls_cons, ← same, calls_snoc]
    exact early.perm once'
  · rintro before c after rfl hnames
    obtain ⟨source, requested, asks⟩ := hsets' c (by simp)
    rw [calls_snoc]
    exact calls_sets_unnamed bare'.loaded (fun c hc => hsets' c (List.mem_append_left _ hc)) asks
      hnames
  · rintro kept rfl heard
    rw [late] at heard ⊢
    rw [calls_snoc] at heard
    have early' := launches_deferred hS hd ordered hnone launches hwait (hsets.filter _) heard
    rw [flatMap_asked_filter] at early'
    rw [calls_snoc, calls_snoc]
    exact early.of_named early'

lemma Handles.greeted {es : List Effect} {h : Handled S} {lines columns types : Option Bool}
    (handles : Handles now later r d es h)
    (command : r.command = .initializeSession lines columns types) : h.2.pending = d.pending := by
  cases handles with
  | greets => rfl
  | refuses refuses => cases refuses <;> simp_all
  | unheard => rfl
  | _ => simp_all [Command.looks, Command.step?]

lemma call_greeted {c : Call} {lines columns types : Option Bool}
    (asks : c.Asks (.initializeSession lines columns types)) :
    (d.call c).2.pending = d.pending := by
  cases d.call_moves c with
  | resume => simp [Call.Asks, Call.request?] at asks
  | request handles => exact handles.greeted (Option.some.inj asks)

lemma Fresh.unloaded (h : d.Fresh) {c : Call} {lines columns types : Option Bool}
    (asks : c.Asks (.initializeSession lines columns types)) :
    Unloaded (d.call c).2.program [] := by
  have start : Unloaded d.program [] := by
    rw [h.program]
    exact ⟨rfl, rfl, rfl⟩
  cases d.call_alters c with
  | adjusts adjusts =>
    have greeted := start.adjusts adjusts
    rw [Call.asked_of_other (asks.other (by simp))] at greeted
    exact greeted
  | goes _ waits => exact absurd h.pending waits
  | launches asks' => exact absurd (Option.some.inj (asks.symm.trans asks')) (by simp)

/-- **Requests to set breakpoints can come before the launch or after it**, whatever the client
misses, so long as the launch goes on waiting. -/
theorem greeted_defers (hS : S.Steady places) (h : d.Fresh) {init : Call}
    {lines columns types : Option Bool}
    (greets : init.Asks (.initializeSession lines columns types))
    (hsets : AllSet sets) (same : sets'.map Call.command? = sets.map Call.command?)
    {now' later' : Nat} {r' : Request} (command : r'.command = r.command)
    (waits : (d.calls (init :: sets ++ [.request now later r])).pending ≠ none)
    (waits' : (d.calls (init :: .request now' later' r' :: sets')).pending ≠ none)
    (once : (d.calls [init, .request now' later' r']).program.sources.NamesOnce
      (sets.flatMap Call.asked)) :
    Defers (d.call init).2 sets (.request now later r) (.request now' later' r') sets' := by
  have hnone : (d.call init).2.pending = none := (call_greeted greets).trans h.pending
  exact (h.unloaded greets).defers hS (calls_orderly h [init]) hnone hsets same command waits waits'
    once

/-- Breakpoints in two files, in one of them twice, and in a file that the program has not. -/
def breaksIn (seq now : Nat) : List Call :=
  [.request now now (.breakAt seq "/main.qs" 7),
    .request (now + 1) (now + 1) (.breakAt (seq + 1) "/none.qs" 1),
    .request (now + 2) (now + 2) (.breakAt (seq + 2) "/lib.qs" 5),
    .request (now + 3) (now + 3) (.breakAt (seq + 3) "/main.qs" 3)]

theorem breaksIn_defers :
    (Surroundings.surveyed filePlaces).Steady filePlaces ∧ (onFiles []).Fresh ∧
      AllSet (breaksIn 2 10) ∧
      ((onFiles []).calls (.request 0 0 .plainGreeting :: breaksIn 2 10 ++
        [.request 20 20 (.plainLaunch 6)])).pending ≠ none ∧
      ((onFiles []).calls (.request 0 0 .plainGreeting :: .request 5 5 (.plainLaunch 2) ::
        breaksIn 3 10)).pending ≠ none ∧
      ((onFiles []).calls [.request 0 0 .plainGreeting,
        .request 5 5 (.plainLaunch 2)]).program.sources.NamesOnce
          ((breaksIn 2 10).flatMap Call.asked) ∧
      Defers ((onFiles []).call (.request 0 0 .plainGreeting)).2 (breaksIn 2 10)
        (.request 20 20 (.plainLaunch 6)) (.request 5 5 (.plainLaunch 2)) (breaksIn 3 10) ∧
      ((onFiles []).calls (.request 0 0 .plainGreeting :: breaksIn 2 10 ++
        [.request 20 20 (.plainLaunch 6)])).program.breakpoints.armedIds = [1, 2] := by
  have hS := Surroundings.surveyed_steady filePlaces
  have hfresh : (onFiles []).Fresh := surveyed_fresh _ _
  have hsets : AllSet (breaksIn 2 10) := by
    intro c hc
    simp only [breaksIn, List.mem_cons, List.not_mem_nil, or_false] at hc
    rcases hc with rfl | rfl | rfl | rfl <;> exact ⟨_, _, rfl⟩
  have waits : ((onFiles []).calls (.request 0 0 .plainGreeting :: breaksIn 2 10 ++
      [.request 20 20 (.plainLaunch 6)])).pending ≠ none := by decide +kernel
  have waits' : ((onFiles []).calls (.request 0 0 .plainGreeting ::
      .request 5 5 (.plainLaunch 2) :: breaksIn 3 10)).pending ≠ none := by decide +kernel
  have once : ((onFiles []).calls [.request 0 0 .plainGreeting,
      .request 5 5 (.plainLaunch 2)]).program.sources.NamesOnce
        ((breaksIn 2 10).flatMap Call.asked) := by decide +kernel
  have greets : (Call.request 0 0 .plainGreeting).Asks (.initializeSession none none none) := rfl
  have same : (breaksIn 3 10).map Call.command? = (breaksIn 2 10).map Call.command? := rfl
  have command : (Request.plainLaunch 2).command = (Request.plainLaunch 6).command := rfl
  have defers := greeted_defers hS hfresh greets hsets same command waits waits' once
  exact ⟨hS, hfresh, hsets, waits, waits', once, defers, by decide +kernel⟩

end Result

end Debugger

end QuantumDebug
