import QuantumDebug.Proofs.Session.Parts
import QuantumDebug.Proofs.Session.Scripted

/-!
The memory of a session for places to stop, which does not show. A resolver answers as if it asked
the engine every time, as long as the engine gives the same answer every time, and yet the engine is
asked for a source once until everything is forgotten. A session counts as its client does in what
it has kept: whatever changes the client's base forgets all that was counted from another.
-/

namespace QuantumDebug

open World

variable {S : Surroundings}

namespace Resolver

/-! ### Uses -/

/-- A use of a resolver. -/
inductive Use where
  | resolve (source : Url) (requested : List RequestedBreakpoint)
  | query (source : Url) (requested : RequestedBreakpoint)
  | clear
  | setCoordinates (coords : Coordinates)

namespace Use

def source? : Use → Option Url
  | .resolve source _ => some source
  | .query source _ => some source
  | _ => none

/-- Whether a use forgets all that was kept. -/
def clears : Use → Bool
  | .clear => true
  | .setCoordinates _ => true
  | _ => false

lemma source?_of_not_clears {u : Use} (h : u.clears = false) : ∃ source, u.source? = some source := by
  cases u <;> simp [clears, source?] at h ⊢

def sources (us : List Use) : List String := us.filterMap fun u => u.source?.map Url.text

end Use

/-- What comes of a use. -/
inductive Answer where
  | candidates (cs : List Candidate)
  | places (ranges : List ClientRange)
  | nothing
deriving DecidableEq

def step (r : Resolver) (w : World S) : Use → Answer × Resolver × World S
  | .resolve source requested =>
    let (cs, r, w) := r.resolve source requested w
    (.candidates cs, r, w)
  | .query source requested =>
    let (ranges, r, w) := r.query source requested w
    (.places ranges, r, w)
  | .clear => (.nothing, r.clear, w)
  | .setCoordinates coords => (.nothing, .setCoordinates coords, w)

def run (r : Resolver) (w : World S) : List Use → List Answer × Resolver × World S
  | [] => ([], r, w)
  | u :: us =>
    let (answer, r, w) := r.step w u
    let (answers, r, w) := r.run w us
    (answer :: answers, r, w)

lemma run_append (r : Resolver) (w : World S) (us later : List Use) :
    (r.run w (us ++ later)).2 = ((r.run w us).2.1.run (r.run w us).2.2 later).2 := by
  induction us generalizing r w with
  | nil => rfl
  | cons u us ih => exact ih _ _

lemma step_load {u : Use} {source : Url} (h : u.source? = some source) (r : Resolver)
    (w : World S) : (r.step w u).2 = (r.load source w).2 := by
  cases u with
  | resolve source' requested => obtain rfl := Option.some.inj h; rfl
  | query source' requested => obtain rfl := Option.some.inj h; rfl
  | clear => simp [Use.source?] at h
  | setCoordinates coords => simp [Use.source?] at h

/-! ### A resolver without a memory -/

/-- The candidates of a source by an engine that is asked for them every time. -/
def ask (coords : Coordinates) (source : Url) (w : World S) : List Candidate × World S :=
  let (answer, w) := w.breakpoints source
  ((answer.toOption.getD []).map (Candidate.ofEngine coords), w)

/-- A resolver at its work that keeps nothing but the client's base. -/
def plainStep (coords : Coordinates) (w : World S) : Use → Answer × Coordinates × World S
  | .resolve source requested =>
    let (cs, w) := ask coords source w
    (.candidates (select coords requested cs), coords, w)
  | .query source requested =>
    let (cs, w) := ask coords source w
    (.places ((cs.filter (requested.accepts coords)).map Candidate.clientRange), coords, w)
  | .clear => (.nothing, coords, w)
  | .setCoordinates coords => (.nothing, coords, w)

def plainRun (coords : Coordinates) (w : World S) : List Use → List Answer × Coordinates × World S
  | [] => ([], coords, w)
  | u :: us =>
    let (answer, coords, w) := plainStep coords w u
    let (answers, coords, w) := plainRun coords w us
    (answer :: answers, coords, w)

section Steady

variable {places : String → Except EngineError (List EngineBreakpoint)} {r : Resolver}

lemma ask_eq (hS : S.Steady places) (coords : Coordinates) (source : Url) (w : World S) :
    (ask coords source w).1 = candidates coords (places source.text) := by
  have hanswer : (w.breakpoints source).1 = places source.text := hS source w.engine
  simp only [ask, hanswer]
  cases places source.text <;> rfl

lemma Agrees.step (hr : r.Agrees places) (hS : S.Steady places) (w w' : World S) (u : Use) :
    (r.step w u).1 = (plainStep r.coords w' u).1 ∧
      (r.step w u).2.1.coords = (plainStep r.coords w' u).2.1 ∧
      (r.step w u).2.1.Agrees places := by
  have same (source : Url) : (r.load source w).1 = (ask r.coords source w').1 := by
    rw [hr.load_eq hS, ask_eq hS]
  cases u with
  | resolve source requested =>
    refine ⟨?_, load_coords r source w, hr.load hS source w⟩
    exact congrArg (fun cs => Answer.candidates (select r.coords requested cs)) (same source)
  | query source requested =>
    refine ⟨?_, load_coords r source w, hr.load hS source w⟩
    exact congrArg (fun cs => Answer.places
      ((cs.filter (requested.accepts r.coords)).map Candidate.clientRange)) (same source)
  | clear => exact ⟨rfl, rfl, .clear r⟩
  | setCoordinates coords => exact ⟨rfl, rfl, .fresh coords⟩

lemma Agrees.run (hr : r.Agrees places) (hS : S.Steady places) (w w' : World S) (us : List Use) :
    (r.run w us).1 = (plainRun r.coords w' us).1 := by
  induction us generalizing r w w' with
  | nil => rfl
  | cons u us ih =>
    obtain ⟨hanswer, hcoords, hnext⟩ := hr.step hS w w' u
    have hrest := ih hnext (r.step w u).2.2 (plainStep r.coords w' u).2.2
    rw [hcoords] at hrest
    exact congrArg₂ List.cons hanswer hrest

end Steady

/-! ### Questions to the engine -/

/-- The texts of the sources that the engine is asked for. -/
def surveys (es : List Effect) : List String :=
  es.filterMap fun
    | .engine (.breakpoints source) => some source.text
    | _ => none

/-- All that is done for some uses of a resolver is that the engine is asked, once for each source
that they ask about. -/
structure AsksOnce (us : List Use) (es : List Effect) : Prop where
  only : ∀ e ∈ es, e.Surveys
  once : (surveys es).Nodup
  each : ∀ text, text ∈ surveys es ↔ text ∈ Use.sources us

/-- Nothing is kept after some uses: the last of them forgets everything, or there are none and
nothing was kept before. -/
def Bare (r : Resolver) (us : List Use) : Prop :=
  match us.getLast? with
  | some u => u.clears = true
  | none => r.cache = .empty

lemma Bare.cache {r : Resolver} {us : List Use} (h : r.Bare us) (w : World S) :
    (r.run w us).2.1.cache = .empty := by
  induction us using List.reverseRecOn with
  | nil => exact h
  | append_singleton us u =>
    rw [Bare, List.getLast?_concat] at h
    rw [run_append]
    cases u with
    | clear => rfl
    | setCoordinates coords => rfl
    | _ => simp [Use.clears] at h

/-- As long as nothing is forgotten, the engine is asked once for each source that is not kept. -/
lemma run_surveys (r : Resolver) (w : World S) {us : List Use} (h : ∀ u ∈ us, u.clears = false) :
    ∃ es, (r.run w us).2.2 = w.playAll es ∧ (∀ e ∈ es, e.Surveys) ∧ (surveys es).Nodup ∧
      ∀ text, text ∈ surveys es ↔ text ∈ Use.sources us ∧ r.cache.get? text = none := by
  induction us generalizing r w with
  | nil => exact ⟨[], rfl, by simp, .nil, by simp [surveys, Use.sources]⟩
  | cons u us ih =>
    obtain ⟨hu, hus⟩ := List.forall_mem_cons.mp h
    obtain ⟨source, hsource⟩ := Use.source?_of_not_clears hu
    have hsources (text : String) :
        text ∈ Use.sources (u :: us) ↔ text = source.text ∨ text ∈ Use.sources us := by
      simp [Use.sources, hsource]
    have hstep : (r.run w (u :: us)).2 =
        ((r.load source w).2.1.run (r.load source w).2.2 us).2 := by
      show ((r.step w u).2.1.run (r.step w u).2.2 us).2 = _
      rw [step_load hsource]
    rw [hstep]
    rcases hkept : r.cache.get? source.text with _ | cs
    · rw [load_unkept hkept]
      let cs := candidates r.coords (S.engine.breakpoints source w.engine).1
      obtain ⟨es, hworld, only, once, each⟩ :=
        ih { r with cache := r.cache.insert source.text cs } (w.play (.engine (.breakpoints source)))
          hus
      -- the source is kept from here on, and no other than before
      have hrest (text : String) : text ∈ surveys es ↔
          text ∈ Use.sources us ∧ text ≠ source.text ∧ r.cache.get? text = none := by
        rw [each, Table.get?_insert]
        by_cases htext : text = source.text <;> simp [htext]
      have hfirst : surveys (.engine (.breakpoints source) :: es) = source.text :: surveys es := rfl
      refine ⟨.engine (.breakpoints source) :: es, hworld,
        List.forall_mem_cons.mpr ⟨⟨source, rfl⟩, only⟩, ?_, fun text => ?_⟩
      · rw [hfirst]
        exact List.nodup_cons.mpr ⟨fun hagain => ((hrest _).mp hagain).2.1 rfl, once⟩
      · rw [hfirst, List.mem_cons, hrest, hsources]
        by_cases htext : text = source.text <;> simp [htext, hkept]
    · rw [load_kept hkept]
      obtain ⟨es, hworld, only, once, each⟩ := ih r w hus
      refine ⟨es, hworld, only, once, fun text => ?_⟩
      rw [each, hsources]
      by_cases htext : text = source.text <;> simp [htext, hkept]

lemma run_asksOnce (r : Resolver) (w : World S) {before stretch : List Use} (bare : r.Bare before)
    (h : ∀ u ∈ stretch, u.clears = false) :
    ∃ es, (r.run w (before ++ stretch)).2.2 = (r.run w before).2.2.playAll es ∧
      AsksOnce stretch es := by
  obtain ⟨es, hworld, only, once, each⟩ :=
    (r.run w before).2.1.run_surveys (r.run w before).2.2 h
  refine ⟨es, by rw [run_append, hworld], only, once, fun text => ?_⟩
  rw [each, bare.cache]
  simp

/-! ### What is kept in the client's base -/

/-- All candidates that are kept lie, for the client, where the client's base puts them. -/
def Translated (r : Resolver) : Prop :=
  ∀ source cs, r.cache.get? source = some cs → ∀ c ∈ cs,
    c.clientRange = r.coords.rangeToClient c.range

lemma mem_candidates {coords : Coordinates} {answer : Except EngineError (List EngineBreakpoint)}
    {c : Candidate} (h : c ∈ candidates coords answer) :
    c.clientRange = coords.rangeToClient c.range := by
  cases answer with
  | error e => simp [candidates] at h
  | ok bs =>
    obtain ⟨b, -, rfl⟩ := List.mem_map.mp h
    rfl

lemma translated_lasting : Lasting S Translated where
  fresh coords := by
    intro source cs h
    simp [fresh] at h
  load {r} hr source w := by
    rcases hkept : r.cache.get? source.text with _ | kept
    · rw [load_unkept hkept]
      intro text cs h
      rw [Table.get?_insert] at h
      split at h
      · obtain rfl := Option.some.inj h
        exact fun c hc => mem_candidates hc
      · exact hr text cs h
    · rw [load_kept hkept]
      exact hr

end Resolver

/-! ### Sessions -/

lemma Program.load_base (p : Program) (w : World S) :
    (p.load w).2.1.resolver.coords = p.resolver.coords := by
  rcases hv : p.verdict w with e | urls
  · rw [load_error hv]
    rfl
  · obtain ⟨q, es, heq, loaded, -⟩ := load_loadedFrom hv
    rw [heq, loaded.coords]

lemma Program.Reloads.base {p q : Program} (h : Program.Reloads S p q) :
    q.resolver.coords = p.resolver.coords := by
  induction h with
  | refl => rfl
  | load _ w ih => rw [Program.load_base, ih]

namespace Debugger

/-- A session counts as another does, and so does what it knows of places to stop. -/
def SameBase (d d' : Debugger S) : Prop :=
  d'.coords = d.coords ∧ d'.program.resolver.coords = d.program.resolver.coords

lemma sameBase_kept : Kept (S := S) SameBase where
  refl _ := ⟨rfl, rfl⟩
  trans h h' := ⟨h'.1.trans h.1, h'.2.trans h.2⟩
  send d m := by
    obtain ⟨ok, -, heq⟩ := d.send_ok m
    rw [heq]
    exact ⟨rfl, rfl⟩
  closed _ _ := ⟨rfl, rfl⟩
  ran _ _ := ⟨rfl, rfl⟩
  shot d := ⟨rfl, (runShotsLeft_reloads _ _ d.program d.view d.world).base⟩
  reloaded d := ⟨rfl, d.program.load_base d.world⟩
  noted _ _ _ _ := ⟨rfl, rfl⟩

lemma begun_base {d : Debugger S} (h : d.program.resolver.coords = d.coords) (c : Command) :
    (d.begun c).program.resolver.coords = (d.begun c).coords := by
  cases c with
  | initializeSession lines columns types => rfl
  | launch noDebug data =>
    dsimp only [begun]
    cases d.accepted? noDebug data with
    | ok config => exact h
    | error e => exact h
  | setBreakpoints source requested =>
    obtain ⟨-, -, -, hbase⟩ := d.program.setBreakpoints_keeps source requested d.world
    exact hbase.trans h
  | breakpointLocations source requested =>
    dsimp only [begun, consulted]
    split
    · split
      · exact (Resolver.load_coords _ _ _).trans h
      · exact h
    · exact h
  | «variables» reference =>
    dsimp only [begun]
    rw [looked, rememberView_eq]
    exact h
  | _ => exact h

lemma call_base {d : Debugger S} (h : d.program.resolver.coords = d.coords) (c : Call) :
    (d.call c).2.program.resolver.coords = (d.call c).2.coords := by
  cases c with
  | resume now =>
    obtain ⟨hown, hresolver⟩ := sameBase_kept.resume d now
    exact hresolver.trans (h.trans hown.symm)
  | request now later r =>
    obtain ⟨hown, hresolver⟩ := sameBase_kept.handle d now later r
    exact hresolver.trans ((begun_base h r.command).trans hown.symm)

lemma calls_base {d : Debugger S} (h : d.Fresh) (cs : List Call) :
    (d.calls cs).program.resolver.coords = (d.calls cs).coords := by
  induction cs using List.reverseRecOn with
  | nil =>
    obtain ⟨w, profile, timeout, -, rfl⟩ := h
    rfl
  | append_singleton cs c ih =>
    rw [calls_snoc]
    exact call_base ih c

/-- What a session keeps of places to stop does not show, and neither does what any resolver keeps. -/
structure Recalls (d : Debugger S) : Prop where
  /-- What is known of places to stop counts as the session does. -/
  base : d.program.resolver.coords = d.coords
  /-- All candidates that are kept lie where the client's present base puts them. -/
  translated : ∀ source cs, d.program.resolver.cache.get? source = some cs → ∀ c ∈ cs,
    c.clientRange = d.coords.rangeToClient c.range
  /-- If the engine always names the same places in a source, or always fails to, the answers to all
  uses are those of a resolver that keeps nothing but the client's base. -/
  answers : ∀ places, S.Steady places → ∀ (w w' : World S) us,
    (d.program.resolver.run w us).1 = (Resolver.plainRun d.coords w' us).1
  /-- So are those of a resolver which has just been made. -/
  answers_fresh : ∀ places, S.Steady places → ∀ coords (w w' : World S) us,
    ((Resolver.fresh coords).run w us).1 = (Resolver.plainRun coords w' us).1
  /-- From one use that forgets everything to the next, or from a time when nothing is kept, the
  engine is asked once for each source that is asked about, whatever it answers. -/
  asks : ∀ (r : Resolver) (w : World S) before stretch, r.Bare before →
    (∀ u ∈ stretch, u.clears = false) →
    ∃ es, (r.run w (before ++ stretch)).2.2 = (r.run w before).2.2.playAll es ∧
      Resolver.AsksOnce stretch es

/-- **What a session keeps of places to stop is always current and never shows.** -/
theorem calls_recalls {d : Debugger S} (h : d.Fresh) (cs : List Call) : Recalls (d.calls cs) := by
  have hbase := calls_base h cs
  have htranslated : (d.calls cs).program.resolver.Translated :=
    calls_resolver Resolver.translated_lasting h cs
  exact {
    base := hbase
    translated := hbase ▸ htranslated
    answers := fun places hS w w' us => hbase ▸ (calls_agrees hS h cs).run hS w w' us
    answers_fresh := fun places hS coords w w' us =>
      Resolver.Agrees.run (.fresh coords) hS w w' us
    asks := fun r w before stretch => r.run_asksOnce w }

/-- An engine that names no places in one of two files: it fails when it is asked. -/
def shyPlaces (source : String) : Except EngineError (List EngineBreakpoint) :=
  if source = "file:///lib.qs" then .error (.protocol "no such source") else filePlaces source

def shy : Debugger (.surveyed shyPlaces) :=
  surveyed shyPlaces ⟨[.ok [.localFile "/main.qs", .localFile "/lib.qs"]], []⟩

/-- A client that begins to count lines from nought in the middle of a session. -/
def recounting : List Call :=
  [.request 0 0 .plainGreeting, .request 1 1 (.breakAt 2 "/lib.qs" 5),
    .request 2 2 (.plainLaunch 3), .request 3 3 (placesOn 4 "/main.qs" 3),
    .request 4 4 ⟨5, .initializeSession (some false) none none⟩,
    .request 5 5 (placesOn 6 "/main.qs" 2)]

theorem shy_recalls :
    shy.Fresh ∧ Recalls (shy.calls recounting) ∧
      (Surroundings.surveyed shyPlaces).Steady shyPlaces ∧
      (shy.calls recounting).program.resolver =
        ⟨⟨[("file:///main.qs",
          [⟨2, ⟨⟨2, 4⟩, ⟨2, 12⟩⟩, ⟨2, 5, 2, 13⟩⟩, ⟨3, ⟨⟨6, 4⟩, ⟨6, 9⟩⟩, ⟨6, 5, 6, 10⟩⟩])]⟩,
        ⟨false, true⟩⟩ ∧
      Resolver.surveys ((Resolver.fresh default).run shy.world
        [.query (.localFile "/lib.qs") (.onLine 5), .resolve (.localFile "/lib.qs") [.onLine 5],
          .clear, .query (.localFile "/lib.qs") (.onLine 5)]).2.2.trace =
        ["file:///lib.qs", "file:///lib.qs"] :=
  ⟨surveyed_fresh _ _, calls_recalls (surveyed_fresh _ _) recounting,
    Surroundings.surveyed_steady _, by decide +kernel, by decide +kernel⟩

end Debugger

end QuantumDebug
