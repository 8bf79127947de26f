import QuantumDebug.Proofs.Session.Answers
import QuantumDebug.Proofs.Session.Loading
import QuantumDebug.Proofs.Session.Scripted

/-!
What is armed while a program is debugged. Every run is told the ids that the client has been told
last for each source, so that a request replaces what an earlier one for its source has armed and
leaves all other sources alone.
-/

namespace QuantumDebug

variable {S : Surroundings}

namespace Debugger

/-! ### Requests and the sources that they name -/

/-- A request sets breakpoints in a source that the program has. -/
def Sets (d : Debugger S) (c : Call) (key : String) : Prop :=
  ∃ source requested url, c.Asks (.setBreakpoints source requested) ∧
    d.program.sources.resolveSource source = some url ∧ url.text = key

def told (d : Debugger S) (c : Call) : List (String × List Breakpoint) :=
  match c.request?.map Request.command with
  | some (.setBreakpoints source _) =>
    (d.program.sources.resolveSource source).toList.map fun url =>
      (url.text, shown (d.effects c))
  | _ => []

section Told

variable {d : Debugger S} {c : Call} {source : Source} {requested : List RequestedBreakpoint}
  {url : Url}

lemma told_of_other (other : ∀ source requested, ¬ c.Asks (.setBreakpoints source requested)) :
    d.told c = [] := by
  unfold told
  split
  · rename_i source requested hc
    exact absurd hc (other source requested)
  · rfl

lemma told_of_unnamed (asks : c.Asks (.setBreakpoints source requested))
    (unnamed : d.program.sources.resolveSource source = none) : d.told c = [] := by
  rw [told, show c.request?.map Request.command = _ from asks]
  simp [unnamed]

lemma told_of_named (asks : c.Asks (.setBreakpoints source requested))
    (named : d.program.sources.resolveSource source = some url) :
    d.told c = [(url.text, shown (d.effects c))] := by
  rw [told, show c.request?.map Request.command = _ from asks]
  simp [named]

end Told

/-! ### One call -/

/-- What a call arms while a program is debugged: nothing new, or what it tells the client in place
of what was armed in the source that it names. -/
inductive Arms (d : Debugger S) (c : Call) (armed : Table (List Candidate)) : Prop where
  | keeps (told : d.told c = []) (kept : armed = d.program.breakpoints.armed)
  | sets {key : String} {cs : List Candidate} {source : Source}
      (told : d.told c = [(key, cs.map (·.toBreakpoint source))])
      (replaced : armed = d.program.breakpoints.armed.insert key cs)

lemma call_arms {d : Debugger S} {c : Call} (loaded : d.program.loaded = true)
    (adjusts : d.program.Adjusts d.world c (d.call c).2.program) :
    Arms d c (d.call c).2.program.breakpoints.armed := by
  generalize (d.call c).2.program = q at adjusts ⊢
  cases adjusts with
  | keeps other => exact .keeps (told_of_other other) rfl
  | greets asks => exact .keeps (told_of_other (asks.other (by simp))) rfl
  | looks _ asks => exact .keeps (told_of_other (asks.other (by simp))) rfl
  | shows asks => exact .keeps (told_of_other (asks.other (by simp))) rfl
  | @sets source requested asks =>
    cases hsource : d.program.sources.resolveSource source with
    | none =>
      rw [Program.setBreakpoints_unnamed loaded hsource]
      exact .keeps (told_of_unnamed asks hsource) rfl
    | some url =>
      have hshown := shown_call_sets d asks
      rw [Program.setBreakpoints_named loaded hsource] at hshown ⊢
      have htold : d.told c = [(url.text,
          (d.program.arm url requested d.world).1.map (·.toBreakpoint source))] := by
        rw [told_of_named asks hsource, hshown]
      exact .sets htold (congrArg BreakpointSet.armed (Program.arm_breakpoints _ _ _ _))

/-! ### Runs of calls -/

/-- What is armed in each source is what the client was told last of it, and where it was told
nothing it is what was armed at first. -/
def Tells (first armed : Table (List Candidate)) (told : List (String × List Breakpoint)) : Prop :=
  ∀ key, match told.reverse.lookup key with
    | some bs => ∃ cs source, armed.get? key = some cs ∧ bs = cs.map (·.toBreakpoint source)
    | none => armed.get? key = first.get? key

lemma Tells.insert {first armed : Table (List Candidate)} {told : List (String × List Breakpoint)}
    (h : Tells first armed told) (key : String) (cs : List Candidate) (source : Source) :
    Tells first (armed.insert key cs) (told ++ [(key, cs.map (·.toBreakpoint source))]) := by
  intro other
  rw [List.reverse_append, List.reverse_singleton, List.singleton_append, Table.get?_insert]
  by_cases hkey : other = key
  · subst hkey
    rw [List.lookup_cons_self, if_pos rfl]
    exact ⟨cs, source, rfl, rfl⟩
  · have hne : (other == key) = false := by simpa using hkey
    rw [List.lookup_cons, hne, if_neg hkey]
    exact h other

theorem calls_tells {d : Debugger S} (loaded : d.program.loaded = true)
    {cs : List Call} (keeps : Keeps d cs) :
    Tells d.program.breakpoints.armed (d.calls cs).program.breakpoints.armed (d.along told cs) := by
  induction keeps with
  | nil => exact fun key => rfl
  | @snoc cs c keeps adjusts ih =>
    rw [calls_snoc, along_snoc]
    cases call_arms (keeps.loaded.trans loaded) adjusts with
    | keeps told kept =>
      rw [told, kept, List.append_nil]
      exact ih
    | sets told replaced =>
      rw [told, replaced]
      exact ih.insert _ _ _

section Views

variable {β : Type} {first armed : Table (List Candidate)} {ts : List (String × List Breakpoint)}
  (f : List Candidate → List β) (g : List Breakpoint → List β)

/-- What the client was told last of a source, or what was armed there at first, in some view. -/
def lastTold (first : Table (List Candidate)) (ts : List (String × List Breakpoint))
    (key : String) : List β :=
  match ts.reverse.lookup key with
  | some bs => g bs
  | none => ((first.get? key).map f).getD []

/-- Seen in a way in which the client's breakpoints show what the engine's do, all that is armed is
what the client was told last of each source. -/
lemma Tells.inOrder (h : Tells first armed ts) (harmed : armed.Sorted)
    (hfg : ∀ cs source, g (cs.map (·.toBreakpoint source)) = f cs) :
    InOrder (lastTold f g first ts) (armed.values.flatMap f) := by
  have hview : lastTold f g first ts = fun key => ((armed.get? key).map f).getD [] := by
    funext key
    have hkey := h key
    unfold lastTold
    cases hlookup : ts.reverse.lookup key with
    | none =>
      simp only [hlookup] at hkey
      rw [hkey]
    | some bs =>
      simp only [hlookup] at hkey
      obtain ⟨cs, source, harmed, rfl⟩ := hkey
      rw [harmed]
      exact hfg cs source
  rw [hview]
  exact harmed.inOrder f

end Views

/-! ### A steady engine -/

section Steady

variable {places : String → Except EngineError (List EngineBreakpoint)}

/-- A session that debugs a program and keeps what a steady engine has named. -/
structure Watched (places : String → Except EngineError (List EngineBreakpoint))
    (d : Debugger S) : Prop extends Debugging d where
  agrees : d.program.resolver.Agrees places
  orderly : d.program.Orderly

lemma Watched.calls (hS : S.Steady places) {d : Debugger S} (hd : Watched places d)
    (cs : List Call) : Watched places (d.calls cs) := by
  have keeps := hd.toDebugging.keeps cs
  exact ⟨hd.toDebugging.calls cs, keeps.agrees hS hd.agrees, keeps.orderly hd.orderly⟩

lemma Debugging.sets_calls {d : Debugger S} (hd : Debugging d) (cs : List Call) {c : Call}
    {key : String} : (d.calls cs).Sets c key ↔ d.Sets c key := by
  rw [Sets, Sets, (hd.keeps cs).sources]

/-- A request arms what it wants in a source and is told of it. -/
structure Obeys (places : String → Except EngineError (List EngineBreakpoint)) (d : Debugger S)
    (c : Call) (key : String) (source : Source) (requested : List RequestedBreakpoint) : Prop where
  program : (d.call c).2.program = d.program.armedWith places key requested
  shown : shown (d.effects c) = (Program.wanted d.program.resolver.coords (places key)
    requested).map (·.toBreakpoint source)

lemma Watched.obeys (hS : S.Steady places) {d : Debugger S}
    (hd : Watched places d) {c : Call} {source : Source} {requested : List RequestedBreakpoint}
    {url : Url} (asks : c.Asks (.setBreakpoints source requested))
    (named : d.program.sources.resolveSource source = some url) :
    Obeys places d c url.text source requested := by
  have harm : d.program.setBreakpoints source requested d.world =
      d.program.arm url requested d.world := Program.setBreakpoints_named hd.loaded named d.world
  constructor
  · rw [call_sets_program d asks, harm]
    exact Program.arm_steady hd.agrees hS hd.orderly.cache url requested d.world
  · rw [shown_call_sets d asks, harm, Program.arm_wanted hd.agrees hS]

/-- What a request wants in a source has been matched and is armed. -/
structure Has (places : String → Except EngineError (List EngineBreakpoint)) (p : Program)
    (key : String) (requested : List RequestedBreakpoint) (matched : List Candidate) : Prop where
  wants : Program.wanted p.resolver.coords (places key) requested = matched
  armed : p.breakpoints.armed.get? key = some matched
  kept : ∃ cs, p.resolver.cache.get? key = some cs

lemma has_armedWith (p : Program) (key : String) (requested : List RequestedBreakpoint) :
    Has places (p.armedWith places key requested) key requested
      (Program.wanted p.resolver.coords (places key) requested) where
  wants := rfl
  armed := by simp [Program.armedWith, BreakpointSet.replace]
  kept := ⟨Resolver.candidates p.resolver.coords (places key), by simp [Program.armedWith]⟩

section Has

variable {key : String} {requested : List RequestedBreakpoint} {matched : List Candidate}

lemma Has.armedWith_eq {p : Program} (h : Has places p key requested matched)
    (hagrees : p.resolver.Agrees places) (hp : p.Orderly) :
    p.armedWith places key requested = p := by
  obtain ⟨cs, hcs⟩ := h.kept
  have hcache := hp.cache.insert_of_get? (hagrees key cs hcs ▸ hcs)
  have harmed := hp.armed.insert_of_get? h.armed
  rw [Program.armedWith, BreakpointSet.replace, hcache, h.wants, harmed]

lemma Has.call {d : Debugger S} (hd : Debugging d) (h : Has places d.program key requested matched)
    {c : Call} (other : ¬ d.Sets c key)
    (noGreeting : ∀ lines columns types, ¬ c.Asks (.initializeSession lines columns types)) :
    Has places (d.call c).2.program key requested matched := by
  have adjusts := hd.adjusts c
  generalize (d.call c).2.program = q at adjusts ⊢
  obtain ⟨wants, armed, cs, kept⟩ := h
  cases adjusts with
  | keeps => exact ⟨wants, armed, cs, kept⟩
  | greets asks => exact absurd asks (noGreeting _ _ _)
  | looks url =>
    refine ⟨?_, armed, cs, Resolver.get?_load_of_some kept url d.world⟩
    rw [Resolver.load_coords]
    exact wants
  | shows => exact ⟨wants, armed, cs, kept⟩
  | @sets source requested' asks =>
    cases hsource : d.program.sources.resolveSource source with
    | none =>
      rw [Program.setBreakpoints_unnamed hd.loaded hsource]
      exact ⟨wants, armed, cs, kept⟩
    | some url =>
      have hne : key ≠ url.text := fun heq =>
        other ⟨source, requested', url, asks, hsource, heq.symm⟩
      rw [Program.setBreakpoints_named hd.loaded hsource]
      refine ⟨?_, ?_, cs, Resolver.get?_load_of_some kept url d.world⟩
      · rw [(d.program.arm_extends url requested' d.world).coords]
        exact wants
      · rw [Program.arm_breakpoints, BreakpointSet.replace, Table.get?_insert, if_neg hne]
        exact armed

lemma Has.calls {d : Debugger S} (hd : Debugging d)
    (h : Has places d.program key requested matched) {cs : List Call}
    (other : ∀ c ∈ cs, ¬ d.Sets c key)
    (noGreeting : ∀ c ∈ cs, ∀ lines columns types,
      ¬ c.Asks (.initializeSession lines columns types)) :
    Has places (d.calls cs).program key requested matched := by
  induction cs using List.reverseRecOn with
  | nil => exact h
  | append_singleton cs c ih =>
    have before := ih (fun c hc => other c (List.mem_append_left _ hc))
      fun c hc => noGreeting c (List.mem_append_left _ hc)
    have hlast : c ∈ cs ++ [c] := by simp
    rw [calls_snoc]
    refine before.call (hd.calls cs) ?_ (noGreeting c hlast)
    rw [hd.sets_calls]
    exact other c hlast

end Has

end Steady

/-! ### The result -/

def armedIn (d : Debugger S) (key : String) : List Int :=
  ((d.program.breakpoints.armed.get? key).map (List.map Candidate.id)).getD []

def shownIds (d : Debugger S) (c : Call) : List Int :=
  (shown (d.effects c)).filterMap Breakpoint.id

/-- The ids that the client was told last for a source, or those armed there at first. -/
def toldIds (d : Debugger S) (cs : List Call) (key : String) : List Int :=
  match (d.along told cs).reverse.lookup key with
  | some bs => bs.filterMap Breakpoint.id
  | none => d.armedIn key

/-- What is armed in a session from the launch of its program on. -/
structure ArmsAsTold (d : Debugger S) : Prop where
  /-- Every run is told, source by source in the order of their URLs, what the client was told last
  of the source, or what the load has armed in it. -/
  runs : ∀ cs c action ids, .engine (.eval action ids) ∈ (d.calls cs).effects c →
    InOrder (d.toldIds cs) ids
  /-- The sources stay those that have been loaded. -/
  sources : ∀ cs, (d.calls cs).program.sources = d.program.sources
  /-- A request replaces what is armed in its source by what it is told, and leaves every other
  source alone. -/
  replaces : ∀ cs c key, d.Sets c key →
    (d.calls (cs ++ [c])).armedIn key = (d.calls cs).shownIds c ∧
      ∀ other, other ≠ key → (d.calls (cs ++ [c])).armedIn other = (d.calls cs).armedIn other
  /-- Requests for different sources can be made in any order, and each is told the same. -/
  commutes : ∀ cs a b key key', d.Sets a key → d.Sets b key' → key ≠ key' →
    (d.calls (cs ++ [a] ++ [b])).program = (d.calls (cs ++ [b] ++ [a])).program ∧
      (d.calls (cs ++ [b])).shownIds a = (d.calls cs).shownIds a ∧
      (d.calls (cs ++ [a])).shownIds b = (d.calls cs).shownIds b
  /-- A request that is made again changes nothing, unless its source or the client's way to count
  has been set meanwhile. -/
  repeats : ∀ cs c mid c' key, d.Sets c key →
    c'.request?.map Request.command = c.request?.map Request.command →
    (∀ m ∈ mid, ¬ d.Sets m key) →
    (∀ m ∈ mid, ∀ lines columns types, ¬ m.Asks (.initializeSession lines columns types)) →
    (d.calls (cs ++ [c] ++ mid ++ [c'])).program = (d.calls (cs ++ [c] ++ mid)).program ∧
      (d.calls (cs ++ [c] ++ mid)).shownIds c' = (d.calls cs).shownIds c
  /-- A request that names no source of the program changes nothing, and is told of nothing. -/
  unnamed : ∀ cs c source requested, c.Asks (.setBreakpoints source requested) →
    d.program.sources.resolveSource source = none →
    (d.calls (cs ++ [c])).program = (d.calls cs).program ∧ (d.calls cs).shownIds c = []

section Result

variable {places : String → Except EngineError (List EngineBreakpoint)} {d : Debugger S}

lemma filterMap_id_toBreakpoint (cs : List Candidate) (source : Source) :
    (cs.map (·.toBreakpoint source)).filterMap Breakpoint.id = cs.map Candidate.id := by
  rw [List.filterMap_map, ← List.filterMap_eq_map]
  rfl

lemma armedIds_eq (b : BreakpointSet) :
    b.armedIds = b.armed.values.flatMap (List.map Candidate.id) := by
  rw [BreakpointSet.armedIds, List.map_flatten, List.flatMap_def]

lemma calls_toldIds (hd : Watched places d) (hS : S.Steady places)
    (cs : List Call) : InOrder (d.toldIds cs) (d.calls cs).program.breakpoints.armedIds := by
  rw [armedIds_eq]
  exact (calls_tells hd.loaded (hd.toDebugging.keeps cs)).inOrder (List.map Candidate.id)
    (List.filterMap Breakpoint.id) (hd.calls hS cs).orderly.armed filterMap_id_toBreakpoint

lemma Obeys.shownIds_eq {c : Call} {key : String} {source : Source}
    {requested : List RequestedBreakpoint} (h : Obeys places d c key source requested) :
    d.shownIds c = (Program.wanted d.program.resolver.coords (places key) requested).map
      Candidate.id := by
  rw [shownIds, h.shown, filterMap_id_toBreakpoint]

lemma Obeys.armedIn_eq {c : Call} {key : String} {source : Source}
    {requested : List RequestedBreakpoint} (h : Obeys places d c key source requested)
    (other : String) :
    (d.call c).2.armedIn other = if other = key then d.shownIds c else d.armedIn other := by
  rw [armedIn, h.program, Program.armedWith, BreakpointSet.replace, Table.get?_insert,
    h.shownIds_eq]
  split <;> rfl

lemma Watched.commutes (hS : S.Steady places) (hd : Watched places d)
    {a b : Call} {key key' : String} (ha : d.Sets a key) (hb : d.Sets b key') (hne : key ≠ key') :
    ((d.call a).2.call b).2.program = ((d.call b).2.call a).2.program ∧
      (d.call b).2.shownIds a = d.shownIds a ∧ (d.call a).2.shownIds b = d.shownIds b := by
  obtain ⟨source, requested, url, asks, named, rfl⟩ := ha
  obtain ⟨source', requested', url', asks', named', rfl⟩ := hb
  have after (c : Call) : Watched places (d.call c).2 ∧
      (d.call c).2.program.sources = d.program.sources :=
    ⟨hd.calls hS [c], (hd.toDebugging.keeps [c]).sources⟩
  have first := hd.obeys hS asks named
  have first' := hd.obeys hS asks' named'
  have second := (after b).1.obeys hS asks ((after b).2 ▸ named)
  have second' := (after a).1.obeys hS asks' ((after a).2 ▸ named')
  refine ⟨?_, ?_, ?_⟩
  · rw [second'.program, second.program, first.program, first'.program]
    exact hd.orderly.armedWith_comm hne requested requested'
  · rw [second.shownIds_eq, first.shownIds_eq, first'.program]
    rfl
  · rw [second'.shownIds_eq, first'.shownIds_eq, first.program]
    rfl

lemma Watched.repeats (hS : S.Steady places) (hd : Watched places d)
    {c c' : Call} {mid : List Call} {key : String} (sets : d.Sets c key)
    (same : c'.request?.map Request.command = c.request?.map Request.command)
    (other : ∀ m ∈ mid, ¬ d.Sets m key)
    (noGreeting : ∀ m ∈ mid, ∀ lines columns types,
      ¬ m.Asks (.initializeSession lines columns types)) :
    (((d.call c).2.calls mid).call c').2.program = ((d.call c).2.calls mid).program ∧
      ((d.call c).2.calls mid).shownIds c' = d.shownIds c := by
  obtain ⟨source, requested, url, asks, named, rfl⟩ := sets
  have hc : Watched places (d.call c).2 := hd.calls hS [c]
  have hsources : (d.call c).2.program.sources = d.program.sources :=
    (hd.toDebugging.keeps [c]).sources
  have hmid := hc.calls hS mid
  have first := hd.obeys hS asks named
  have named' : ((d.call c).2.calls mid).program.sources.resolveSource source = some url := by
    rw [(hc.toDebugging.keeps mid).sources, hsources, named]
  have again := hmid.obeys hS (same.trans asks : c'.Asks (.setBreakpoints source requested)) named'
  have has : Has places ((d.call c).2.calls mid).program url.text requested
      (Program.wanted d.program.resolver.coords (places url.text) requested) := by
    refine Has.calls hc.toDebugging ?_ (fun m hm => ?_) noGreeting
    · rw [first.program]
      exact has_armedWith _ _ _
    · rw [Sets, hsources]
      exact other m hm
  constructor
  · rw [again.program, has.armedWith_eq hmid.agrees hmid.orderly]
  · rw [again.shownIds_eq, has.wants, first.shownIds_eq]

lemma Watched.armsAsTold (hS : S.Steady places) (hd : Watched places d) :
    ArmsAsTold d where
  runs cs c action ids he := by
    rw [(hd.toDebugging.calls cs).eval_ids he]
    exact calls_toldIds hd hS cs
  sources cs := (hd.toDebugging.keeps cs).sources
  replaces cs c key sets := by
    obtain ⟨source, requested, url, asks, named, rfl⟩ := (hd.toDebugging.sets_calls cs).mpr sets
    have obeys := (hd.calls hS cs).obeys hS asks named
    rw [calls_snoc]
    refine ⟨?_, fun other hne => ?_⟩
    · rw [obeys.armedIn_eq, if_pos rfl]
    · rw [obeys.armedIn_eq, if_neg hne]
  commutes cs a b key key' ha hb hne := by
    have sets {c : Call} {key : String} (h : d.Sets c key) : (d.calls cs).Sets c key :=
      (hd.toDebugging.sets_calls cs).mpr h
    simp only [calls_snoc]
    exact (hd.calls hS cs).commutes hS (sets ha) (sets hb) hne
  repeats cs c mid c' key sets same other noGreeting := by
    have hsets {c : Call} : (d.calls cs).Sets c key ↔ d.Sets c key := hd.toDebugging.sets_calls cs
    rw [calls_snoc, calls_append, calls_snoc]
    exact (hd.calls hS cs).repeats hS (hsets.mpr sets) same
      (fun m hm => fun h => other m hm (hsets.mp h)) noGreeting
  unnamed cs c source requested asks unnamed := by
    have hcs := hd.toDebugging.calls cs
    have unnamed' : (d.calls cs).program.sources.resolveSource source = none := by
      rw [(hd.toDebugging.keeps cs).sources, unnamed]
    have hnothing : (d.calls cs).program.setBreakpoints source requested (d.calls cs).world =
        ([], (d.calls cs).program, (d.calls cs).world) :=
      Program.setBreakpoints_unnamed hcs.loaded unnamed' _
    constructor
    · rw [calls_snoc, call_sets_program _ asks, hnothing]
    · rw [shownIds, shown_call_sets _ asks, hnothing]
      rfl

/-- **Every run is told the breakpoints that the client was told last**, from the load of a launch
for debugging on. -/
theorem launch_armsAsTold (hA : S.Attentive) (hS : S.Steady places) (h : d.Fresh)
    (before : List Call) (now later : Nat) {r : Request} {config : RunConfiguration}
    {urls : List Url} (launches : (d.calls before).Launches r config urls)
    (debug : config.noDebug = false) :
    (d.calls (before ++ [.request now later r])).program = (d.calls before).loadedBy config ∧
      (∀ action ids,
        .engine (.eval action ids) ∈ (d.calls before).effects (.request now later r) →
        InOrder (d.calls (before ++ [.request now later r])).armedIn ids) ∧
      ArmsAsTold (d.calls (before ++ [.request now later r])) := by
  obtain ⟨es, fs, hload, loaded⟩ := call_launches launches now later (.inl hA)
  have hdebug : ((d.calls before).loadedBy config).config.noDebug = false := by
    rw [loaded.config, debug]
  obtain ⟨hprogram, debugging, heval⟩ := hload.debugs hdebug loaded.loaded
  rw [← calls_snoc] at hprogram debugging
  have watched : Watched places (d.calls (before ++ [.request now later r])) :=
    ⟨debugging, calls_agrees hS h _, calls_orderly h _⟩
  refine ⟨hprogram, fun action ids he => ?_, watched.armsAsTold hS⟩
  rw [heval action ids he, ← hprogram]
  exact calls_toldIds watched hS []

/-- Breakpoints in two files, one of them under two names, before and after the launch. -/
theorem onFiles_armsAsTold :
    (Surroundings.surveyed filePlaces).Attentive ∧
      (Surroundings.surveyed filePlaces).Steady filePlaces ∧
      (onFiles [.ok (.breakpointHit 2)]).Fresh ∧
      ((onFiles [.ok (.breakpointHit 2)]).calls [.request 0 0 (.breakAt 1 "/main.qs" 7)]).Launches
        (.plainLaunch 2) .plain [.localFile "/main.qs", .localFile "/lib.qs"] ∧
      RunConfiguration.plain.noDebug = false ∧
      ArmsAsTold ((onFiles [.ok (.breakpointHit 2)]).calls
        [.request 0 0 (.breakAt 1 "/main.qs" 7), .request 10 10 (.plainLaunch 2)]) ∧
      .engine (.eval .continue [1, 2]) ∈ ((onFiles [.ok (.breakpointHit 2)]).calls
        [.request 0 0 (.breakAt 1 "/main.qs" 7), .request 10 10 (.plainLaunch 2),
          .request 20 20 (.breakAt 3 "/lib.qs" 5),
          .request 30 30 (.breakAt 4 "file:///main.qs" 3)]).effects
        (.request 40 40 ⟨5, .configurationDone⟩) :=
  have hA := Surroundings.surveyed_attentive filePlaces
  have hS := Surroundings.surveyed_steady filePlaces
  have hfresh : (onFiles [.ok (.breakpointHit 2)]).Fresh := surveyed_fresh _ _
  have launches : ((onFiles [.ok (.breakpointHit 2)]).calls
      [.request 0 0 (.breakAt 1 "/main.qs" 7)]).Launches (.plainLaunch 2) .plain
        [.localFile "/main.qs", .localFile "/lib.qs"] :=
    ⟨⟨none, _, rfl, rfl⟩, rfl⟩
  ⟨hA, hS, hfresh, launches, rfl, (launch_armsAsTold hA hS hfresh _ 10 10 launches rfl).2.2,
    by decide +kernel⟩

end Result

end Debugger

end QuantumDebug
