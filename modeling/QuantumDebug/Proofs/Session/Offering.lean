import QuantumDebug.Proofs.Matching
import QuantumDebug.Proofs.Session.Recall

/-!
Places that a client has been offered. What it is told of a place is enough to set a breakpoint
there: a request for the line and the column arms every candidate that starts at the place and no
other, for all that the numbers have gone to the client and back.
-/

namespace QuantumDebug

variable {S : Surroundings}

/-! ### One place -/

def Candidate.location (c : Candidate) : BreakpointLocation := c.clientRange.toLocation

def BreakpointLocation.toRequested (l : BreakpointLocation) : RequestedBreakpoint :=
  ⟨l.line, l.column, none, none⟩

lemma Range.mem_single {p q : Position} : p ≤ q ∧ q ≤ p ↔ q = p := by
  rw [Position.le_iff default, Position.le_iff default]
  constructor
  · rintro ⟨hle, hge⟩
    obtain ⟨hline, hcolumn⟩ := Prod.mk.inj (toLex.injective (le_antisymm hge hle))
    cases p
    cases q
    exact congrArg₂ Position.mk (toClient_inj.mp hline) (toClient_inj.mp hcolumn)
  · rintro rfl
    exact ⟨le_refl _, le_refl _⟩

/-- A request for the location of a place matches what starts where the place does: the line and the
column that the client sends are those that it was sent. -/
lemma accepts_location (coords : Coordinates) (place b : EngineBreakpoint) :
    (Candidate.ofEngine coords place).location.toRequested.accepts coords (.ofEngine coords b) =
      decide (b.range.first = place.range.first) := by
  let requested := (Candidate.ofEngine coords place).location.toRequested
  have htarget : requested.target coords = some ⟨place.range.first, place.range.first⟩ :=
    congrArg (fun p => some (Range.mk p p)) (coords.position_toClient place.range.first)
  rw [Bool.eq_iff_iff, decide_eq_true_iff, RequestedBreakpoint.accepts_iff_of_target htarget]
  dsimp only
  rw [Range.mem_single]
  refine ⟨And.right, fun same => ⟨?_, same⟩⟩
  rw [same]
  rfl

namespace Resolver

variable {coords : Coordinates} {answer : Except EngineError (List EngineBreakpoint)}
  {place : Candidate}

/-- The candidates behind the engine's answer that start where one of them does. -/
def startingWith (coords : Coordinates) (answer : Except EngineError (List EngineBreakpoint))
    (place : Candidate) : List Candidate :=
  (candidates coords answer).filter fun c => c.range.first = place.range.first

lemma select_location (h : place ∈ candidates coords answer) :
    select coords [place.location.toRequested] (candidates coords answer) =
      startingWith coords answer place := by
  cases answer with
  | error e => simp [candidates] at h
  | ok bs =>
    obtain ⟨b, -, rfl⟩ := List.mem_map.mp h
    rw [select, List.flatMap_singleton]
    refine List.filter_congr fun c hc => ?_
    obtain ⟨b', -, rfl⟩ := List.mem_map.mp hc
    exact accepts_location coords b b'

lemma mem_startingWith (h : place ∈ candidates coords answer) :
    place ∈ startingWith coords answer place :=
  List.mem_filter.mpr ⟨h, decide_eq_true rfl⟩

lemma told_startingWith (h : place ∈ candidates coords answer) (source : Source) {b : Breakpoint}
    (hb : b ∈ (startingWith coords answer place).map (·.toBreakpoint source)) :
    b.verified = true ∧ b.line = some place.location.line ∧ b.column = place.location.column := by
  obtain ⟨c, hc, rfl⟩ := List.mem_map.mp hb
  obtain ⟨hmem, hsame⟩ := List.mem_filter.mp hc
  have hstart : c.clientRange.line = place.clientRange.line ∧
      c.clientRange.column = place.clientRange.column := by
    rw [mem_candidates hmem, mem_candidates h]
    simp only [Coordinates.rangeToClient, of_decide_eq_true hsame, and_self]
  exact ⟨rfl, congrArg some hstart.1, congrArg some hstart.2⟩

end Resolver

/-! ### Sessions -/

namespace Debugger

variable {d : Debugger S} {places : String → Except EngineError (List EngineBreakpoint)}
  {r : Request} {source : Source} {url : Url}

/-- A breakpoint is set where a candidate in a source starts. -/
structure Grants (places : String → Except EngineError (List EngineBreakpoint)) (d : Debugger S)
    (c : Call) (r : Request) (source : Source) (url : Url) (place : Candidate) : Prop where
  /-- The client is told of all candidates that start there and of no others. -/
  answer : ∃ es ok, (∀ e ∈ es, e.Surveys) ∧
    d.effects c = es ++ [r.answer (.success (.setBreakpoints
      ((Resolver.startingWith d.coords (places url.text) place).map (·.toBreakpoint source)))) ok]
  /-- They are armed in the source in place of what was armed there. -/
  armed : (d.call c).2.program.breakpoints = d.program.breakpoints.replace url.text
    (Resolver.startingWith d.coords (places url.text) place)
  mem : place ∈ Resolver.startingWith d.coords (places url.text) place
  /-- All of them are verified and have the line and the column that were offered. -/
  told : ∀ b ∈ (Resolver.startingWith d.coords (places url.text) place).map (·.toBreakpoint source),
    b.verified = true ∧ b.line = some place.location.line ∧ b.column = place.location.column

lemma call_grants (hS : S.Steady places) (agrees : d.program.resolver.Agrees places)
    (base : d.program.resolver.coords = d.coords) (loaded : d.program.loaded = true)
    (named : d.program.sources.resolveSource source = some url) {place : Candidate}
    (known : place ∈ Resolver.candidates d.coords (places url.text)) (now later : Nat)
    (command : r.command = .setBreakpoints source [place.location.toRequested]) :
    Grants places d (.request now later r) r source url place := by
  have harm : d.program.setBreakpoints source [place.location.toRequested] d.world =
      d.program.arm url [place.location.toRequested] d.world :=
    Program.setBreakpoints_named loaded named d.world
  have hfound : (d.program.arm url [place.location.toRequested] d.world).1 =
      Resolver.startingWith d.coords (places url.text) place := by
    rw [Program.arm_wanted agrees hS, Program.wanted, base, Resolver.select_location known]
  have hcall := d.call_setBreakpoints now later command
  obtain ⟨es, surveys, hworld⟩ := d.armed_surveys source [place.location.toRequested]
  obtain ⟨ok, -, hnext, heffects⟩ := call_responds hcall hworld
  rw [harm, hfound] at heffects
  refine ⟨⟨es, ok, surveys, heffects⟩, ?_, Resolver.mem_startingWith known,
    fun b => Resolver.told_startingWith known source⟩
  rw [hnext, play_program, armed, harm, Program.arm_breakpoints, hfound]

/-- A session still has its program and counts as it did. -/
structure Still (d d' : Debugger S) : Prop where
  loaded : d'.program.loaded = true
  coords : d'.coords = d.coords

/-- What a client is offered of a source, and what comes of it. -/
structure Offers (places : String → Except EngineError (List EngineBreakpoint)) (d : Debugger S)
    (c : Call) (r : Request) (requested : RequestedBreakpoint) (url : Url) : Prop where
  /-- The client is told of the candidates that would be armed for the request, in their order. -/
  answer : ∃ es ok, (∀ e ∈ es, e.Surveys) ∧
    d.effects c = es ++ [r.answer (.success (.breakpointLocations
      ((d.program.resolver.resolve url [requested] d.world).1.map Candidate.location))) ok]
  still : d.Still (d.call c).2
  sources : (d.call c).2.program.sources = d.program.sources
  /-- A request for one of the locations, be it the next or a later one, sets a breakpoint there, as
  long as the session still has the program and the source goes by some name. -/
  granted : ∀ place ∈ (d.program.resolver.resolve url [requested] d.world).1,
    ∀ between, d.Still ((d.call c).2.calls between) → ∀ now later r' source',
      ((d.call c).2.calls between).program.sources.resolveSource source' = some url →
      r'.command = .setBreakpoints source' [place.location.toRequested] →
      Grants places ((d.call c).2.calls between) (.request now later r') r' source' url place

lemma locations_eq (loaded : d.program.loaded = true)
    (named : d.program.sources.resolveSource source = some url) (requested : RequestedBreakpoint) :
    d.locations source requested =
      (d.program.resolver.resolve url [requested] d.world).1.map Candidate.location := by
  have hresolve : (d.program.resolver.resolve url [requested] d.world).1 =
      (d.program.resolver.load url d.world).1.filter
        (requested.accepts d.program.resolver.coords) :=
    List.flatMap_singleton _ _
  rw [locations, named, hresolve]
  dsimp only
  rw [if_pos loaded, Resolver.query]
  exact List.map_map

lemma consulted_still (loaded : d.program.loaded = true) (source : Source)
    (requested : RequestedBreakpoint) :
    d.Still (d.consulted source requested) ∧
      (d.consulted source requested).program.sources = d.program.sources := by
  rw [consulted_eq]
  exact ⟨⟨loaded, rfl⟩, rfl⟩

/-- **What is offered can be had.** The locations that a client is offered are those of the
candidates that its request would arm, and a request for one of them arms all that starts there. -/
theorem calls_offers (hS : S.Steady places) (h : d.Fresh) (cs : List Call)
    (loaded : (d.calls cs).program.loaded = true)
    (named : (d.calls cs).program.sources.resolveSource source = some url)
    {requested : RequestedBreakpoint} (command : r.command = .breakpointLocations source requested)
    (now later : Nat) :
    Offers places (d.calls cs) (.request now later r) r requested url := by
  have hcall := (d.calls cs).call_breakpointLocations now later command
  obtain ⟨es, surveys, hworld⟩ := (d.calls cs).consulted_surveys source requested
  obtain ⟨ok, -, hnext, heffects⟩ := call_responds hcall hworld
  obtain ⟨⟨loaded', coords⟩, sources⟩ := consulted_still loaded source requested
  rw [locations_eq loaded named] at heffects
  refine ⟨⟨es, ok, surveys, heffects⟩, ?_, ?_, ?_⟩
  · rw [hnext]
    exact ⟨loaded', coords⟩
  · rw [hnext]
    exact sources
  · intro place hplace between still now' later' r' source' named' command'
    have hknown : place ∈ ((d.calls cs).program.resolver.load url (d.calls cs).world).1 := by
      obtain ⟨q, -, hq⟩ := List.mem_flatMap.mp hplace
      exact (List.mem_filter.mp hq).1
    rw [(calls_agrees hS h cs).load_eq hS, calls_base h, ← still.coords] at hknown
    have hlater : ((d.calls cs).call (.request now later r)).2.calls between =
        d.calls (cs ++ [.request now later r] ++ between) := by
      rw [calls_append, calls_snoc]
    rw [hlater] at still named' hknown ⊢
    exact call_grants hS (calls_agrees hS h _) (calls_base h _) still.loaded named' hknown now'
      later' command'

/-- A session whose program has two places at the start of a line and one at its utmost end. -/
def farOff : Debugger (.surveyed fun _ => .ok Resolver.farPlaces) :=
  surveyed _ ⟨[.ok [.localFile "/main.qs"]], []⟩

/-- The places of the line are asked for, and a breakpoint is set at the last of them. -/
theorem farOff_offers :
    let cs : List Call := [.request 0 0 .plainGreeting, .request 1 1 (.plainLaunch 2)]
    let asks := placesOn 3 "/main.qs" 3
    let main : Source := { Source.unnamed with path := some "/main.qs" }
    let last : Candidate := ⟨2, ⟨⟨2, 0xFFFFFFFF⟩, ⟨3, 0⟩⟩, ⟨3, 4294967296, 4, 1⟩⟩
    farOff.Fresh ∧ (Surroundings.surveyed fun _ => .ok Resolver.farPlaces).Steady
        (fun _ => .ok Resolver.farPlaces) ∧
      Offers (fun _ => .ok Resolver.farPlaces) (farOff.calls cs) (.request 2 2 asks) asks
        (.onLine 3) (.localFile "/main.qs") ∧
      (farOff.calls cs).locations main (.onLine 3) =
        [⟨3, some 5, some 3, some 13⟩, ⟨3, some 4294967296, some 4, some 1⟩,
          ⟨3, some 5, some 3, some 13⟩] ∧
      (farOff.calls (cs ++ [.request 2 2 asks])).effects
          (.request 3 3 ⟨4, .setBreakpoints main [.atColumn 3 4294967296]⟩) =
        [.message (.response ⟨4, .success (.setBreakpoints [last.toBreakpoint main])⟩) true] := by
  intro cs asks main last
  have steady := Surroundings.surveyed_steady fun _ => .ok Resolver.farPlaces
  have hfresh : farOff.Fresh := surveyed_fresh _ _
  have loaded : (farOff.calls cs).program.loaded = true := by decide +kernel
  have named : (farOff.calls cs).program.sources.resolveSource main =
      some (.localFile "/main.qs") := by decide +kernel
  exact ⟨hfresh, steady, calls_offers steady hfresh cs loaded named rfl 2 2, by decide +kernel,
    by decide +kernel⟩

end Debugger

end QuantumDebug
