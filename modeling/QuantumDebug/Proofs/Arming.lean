import QuantumDebug.Proofs.Footprint
import QuantumDebug.Proofs.Table

/-!
Arming breakpoints. What requests match in a source depends on the candidates that the engine has
named for it, which are kept until the program is loaded anew. Loading a program arms the requests
that waited for it in the order of their paths, and announces what each of them matches; of two for
one source the later replaces the earlier.
-/

namespace QuantumDebug

open World

variable {S : Surroundings}

/-! ### Candidates -/

namespace Resolver

variable {places : String → Except EngineError (List EngineBreakpoint)}

lemma load_kept {r : Resolver} {source : Url} {cs : List Candidate}
    (h : r.cache.get? source.text = some cs) (w : World S) : r.load source w = (cs, r, w) := by
  simp only [load, h]

lemma load_unkept {r : Resolver} {source : Url} (h : r.cache.get? source.text = none)
    (w : World S) :
    r.load source w =
      let cs := candidates r.coords (S.engine.breakpoints source w.engine).1
      (cs, { r with cache := r.cache.insert source.text cs },
        w.play (.engine (.breakpoints source))) := by
  simp only [load, h]
  rfl

@[simp] lemma load_coords (r : Resolver) (source : Url) (w : World S) :
    (r.load source w).2.1.coords = r.coords := by
  unfold load
  split <;> rfl

lemma get?_load_self (r : Resolver) (source : Url) (w : World S) :
    (r.load source w).2.1.cache.get? source.text = some (r.load source w).1 := by
  unfold load
  split
  · assumption
  · simp

lemma get?_load_of_some {r : Resolver} {key : String} {cs : List Candidate}
    (h : r.cache.get? key = some cs) (source : Url) (w : World S) :
    (r.load source w).2.1.cache.get? key = some cs := by
  unfold load
  split
  · exact h
  · rename_i hnone
    have hkey : key ≠ source.text := by
      rintro rfl
      simp [hnone] at h
    simp [hkey, h]

lemma sorted_load {r : Resolver} (h : r.cache.Sorted) (source : Url) (w : World S) :
    (r.load source w).2.1.cache.Sorted := by
  unfold load
  split
  · exact h
  · exact h.insert _ _

/-- A property of a resolver that keeps nothing, which no question to the engine takes away. -/
structure Lasting (S : Surroundings) (P : Resolver → Prop) : Prop where
  fresh (coords : Coordinates) : P (fresh coords)
  load {r : Resolver} (h : P r) (source : Url) (w : World S) : P (r.load source w).2.1

/-- All candidates that are kept are those behind given places of the engine. -/
def Agrees (r : Resolver) (places : String → Except EngineError (List EngineBreakpoint)) : Prop :=
  ∀ key cs, r.cache.get? key = some cs → cs = candidates r.coords (places key)

lemma Agrees.fresh (coords : Coordinates) : (fresh coords).Agrees places := by
  intro key cs h
  simp [Resolver.fresh] at h

lemma Agrees.clear (r : Resolver) : r.clear.Agrees places := by
  intro key cs h
  simp [Resolver.clear] at h

end Resolver

/-- The engine always names the same places in a source, whatever has been done to it before. A
source is known by the text of its URL. -/
def Surroundings.Steady (S : Surroundings)
    (places : String → Except EngineError (List EngineBreakpoint)) : Prop :=
  ∀ source s, (S.engine.breakpoints source s).1 = places source.text

namespace Resolver

variable {places : String → Except EngineError (List EngineBreakpoint)}

lemma Agrees.load_eq {r : Resolver} (hr : r.Agrees places) (hS : S.Steady places) (source : Url)
    (w : World S) : (r.load source w).1 = candidates r.coords (places source.text) := by
  unfold Resolver.load
  split
  · exact hr _ _ ‹_›
  · rw [breakpoints_eq, hS]

lemma Agrees.load {r : Resolver} (hr : r.Agrees places) (hS : S.Steady places) (source : Url)
    (w : World S) : (r.load source w).2.1.Agrees places := by
  intro key cs h
  rw [load_coords]
  by_cases hkey : key = source.text
  · subst hkey
    rw [get?_load_self] at h
    rw [← Option.some.inj h, hr.load_eq hS]
  · unfold Resolver.load at h
    split at h
    · exact hr _ _ h
    · exact hr _ _ (by simpa [hkey] using h)

lemma agrees_lasting (hS : S.Steady places) : Lasting S (·.Agrees places) where
  fresh _ := .fresh _
  load h source w := h.load hS source w

lemma Agrees.load_insert {r : Resolver} (hr : r.Agrees places) (hS : S.Steady places)
    (hsorted : r.cache.Sorted) (source : Url) (w : World S) :
    (r.load source w).2.1 =
      { r with
        cache := r.cache.insert source.text (candidates r.coords (places source.text)) } := by
  have hcandidates := hr.load_eq hS source w
  cases hget : r.cache.get? source.text with
  | some cs =>
    rw [load_kept hget] at hcandidates ⊢
    rw [← hcandidates, hsorted.insert_of_get? hget]
  | none =>
    rw [load_unkept hget] at hcandidates ⊢
    rw [← hcandidates]

end Resolver

namespace Program

def matched (p : Program) (source : String) (requested : List RequestedBreakpoint) :
    List Candidate :=
  Resolver.select p.resolver.coords requested ((p.resolver.cache.get? source).getD [])

/-! ### One source -/

lemma arm_breakpoints (p : Program) (source : Url) (requested : List RequestedBreakpoint)
    (w : World S) :
    (p.arm source requested w).2.1.breakpoints =
      p.breakpoints.replace source.text (p.arm source requested w).1 := rfl

/-! ### Many sources -/

/-- One program has grown out of another that kept fewer candidates. -/
structure Extends (p q : Program) : Prop where
  sources : q.sources = p.sources
  coords : q.resolver.coords = p.resolver.coords
  cache : ∀ key cs, p.resolver.cache.get? key = some cs → q.resolver.cache.get? key = some cs

lemma Extends.refl (p : Program) : Extends p p := ⟨rfl, rfl, fun _ _ => id⟩

lemma Extends.trans {p q r : Program} (h₁ : Extends p q) (h₂ : Extends q r) : Extends p r :=
  ⟨h₂.sources.trans h₁.sources, h₂.coords.trans h₁.coords,
    fun key cs h => h₂.cache key cs (h₁.cache key cs h)⟩

lemma arm_extends (p : Program) (source : Url) (requested : List RequestedBreakpoint)
    (w : World S) : Extends p (p.arm source requested w).2.1 :=
  ⟨rfl, Resolver.load_coords _ _ _, fun _ _ h => Resolver.get?_load_of_some h _ _⟩

lemma armAll_extends (p : Program) (w : World S)
    (waiting : List (String × List RequestedBreakpoint)) :
    Extends p (p.armAll w waiting).2.1 := by
  induction waiting generalizing p w with
  | nil => exact .refl p
  | cons request rest ih =>
    unfold armAll
    split
    · exact ih p w
    · exact (p.arm_extends _ _ w).trans (ih _ _)

def located (p : Program) (waiting : List (String × List RequestedBreakpoint)) :
    List (Url × List RequestedBreakpoint) :=
  waiting.filterMap fun (path, requested) => (p.sources.resolve path).map (·, requested)

def armings (p : Program) (waiting : List (String × List RequestedBreakpoint)) :
    List (String × List Candidate) :=
  (p.located waiting).map fun (url, requested) => (url.text, p.matched url.text requested)

/-- What the client is told that the requests have armed. -/
def announcements (p : Program) (waiting : List (String × List RequestedBreakpoint)) :
    List Breakpoint :=
  (p.located waiting).flatMap fun (url, requested) =>
    (p.matched url.text requested).map (·.toBreakpoint (p.sources.clientSource url))

section Cons

variable {p : Program} {path : String} {url : Url} {requested : List RequestedBreakpoint}

lemma located_cons_none (h : p.sources.resolve path = none)
    (rest : List (String × List RequestedBreakpoint)) :
    p.located ((path, requested) :: rest) = p.located rest := by
  simp [located, h]

lemma located_cons_some (h : p.sources.resolve path = some url)
    (rest : List (String × List RequestedBreakpoint)) :
    p.located ((path, requested) :: rest) = (url, requested) :: p.located rest := by
  simp [located, h]

lemma armAll_cons_none (h : p.sources.resolve path = none) (w : World S)
    (rest : List (String × List RequestedBreakpoint)) :
    p.armAll w ((path, requested) :: rest) = p.armAll w rest := by
  rw [armAll, h]

lemma armAll_cons_some (h : p.sources.resolve path = some url) (w : World S)
    (rest : List (String × List RequestedBreakpoint)) :
    p.armAll w ((path, requested) :: rest) =
      let armed := p.arm url requested w
      let all := armed.2.1.armAll armed.2.2 rest
      (armed.1.map (·.toBreakpoint (p.sources.clientSource url)) ++ all.1, all.2) := by
  rw [armAll, h]

end Cons

lemma Extends.arm_eq {p q : Program} {source : Url} {requested : List RequestedBreakpoint}
    {w : World S} (h : Extends (p.arm source requested w).2.1 q) :
    (p.arm source requested w).1 = q.matched source.text requested := by
  have hkept := h.cache source.text _ (Resolver.get?_load_self p.resolver source w)
  have hcoords : q.resolver.coords = p.resolver.coords :=
    h.coords.trans (Resolver.load_coords p.resolver source w)
  rw [matched, hkept, Option.getD_some, hcoords]
  rfl

/-- Every request whose path names a source is announced with all that it matches, and what it
matches is armed in place of what is armed there. -/
lemma armAll_spec (p : Program) (w : World S)
    (waiting : List (String × List RequestedBreakpoint)) :
    (p.armAll w waiting).1 = (p.armAll w waiting).2.1.announcements waiting ∧
      (p.armAll w waiting).2.1.breakpoints =
        ⟨p.breakpoints.armed.insertAll ((p.armAll w waiting).2.1.armings waiting),
          p.breakpoints.deferred⟩ := by
  induction waiting generalizing p w with
  | nil => exact ⟨rfl, rfl⟩
  | cons request rest ih =>
    obtain ⟨path, requested⟩ := request
    cases hpath : p.sources.resolve path with
    | none =>
      have hpath' : (p.armAll w rest).2.1.sources.resolve path = none := by
        rw [(p.armAll_extends w rest).sources, hpath]
      rw [armAll_cons_none hpath, announcements, armings, located_cons_none hpath']
      exact ih p w
    | some url =>
      let armed := p.arm url requested w
      let all := armed.2.1.armAll armed.2.2 rest
      have hrest : Extends armed.2.1 all.2.1 := armAll_extends _ _ _
      have hsources : all.2.1.sources = p.sources := hrest.sources
      have hpath' : all.2.1.sources.resolve path = some url := by rw [hsources, hpath]
      have hfirst : armed.1 = all.2.1.matched url.text requested := hrest.arm_eq
      have harmings : all.2.1.armings ((path, requested) :: rest) =
          (url.text, armed.1) :: all.2.1.armings rest := by
        rw [armings, located_cons_some hpath', List.map_cons, hfirst, armings]
      have hannouncements : all.2.1.announcements ((path, requested) :: rest) =
          armed.1.map (·.toBreakpoint (p.sources.clientSource url)) ++
            all.2.1.announcements rest := by
        rw [announcements, located_cons_some hpath', List.flatMap_cons, hfirst, hsources,
          announcements, hsources]
      obtain ⟨hannounced, harmed⟩ := ih armed.2.1 armed.2.2
      rw [armAll_cons_some hpath]
      constructor
      · show armed.1.map _ ++ all.1 = all.2.1.announcements ((path, requested) :: rest)
        rw [hannouncements]
        exact congrArg _ hannounced
      · show all.2.1.breakpoints =
          ⟨p.breakpoints.armed.insertAll (all.2.1.armings ((path, requested) :: rest)),
            p.breakpoints.deferred⟩
        rw [harmings]
        exact harmed

/-! ### Tables in order -/

/-- The tables of a program are in order. -/
structure Orderly (p : Program) : Prop where
  armed : p.breakpoints.armed.Sorted
  deferred : p.breakpoints.deferred.Sorted
  cache : p.resolver.cache.Sorted

lemma Orderly.arm {p : Program} (h : p.Orderly) (source : Url)
    (requested : List RequestedBreakpoint) (w : World S) :
    (p.arm source requested w).2.1.Orderly :=
  ⟨h.armed.insert _ _, h.deferred, Resolver.sorted_load h.cache _ _⟩

lemma Orderly.armAll {p : Program} (h : p.Orderly) (w : World S)
    (waiting : List (String × List RequestedBreakpoint)) :
    (p.armAll w waiting).2.1.Orderly := by
  induction waiting generalizing p w with
  | nil => exact h
  | cons request rest ih =>
    unfold Program.armAll
    split
    · exact ih h w
    · exact ih (h.arm _ _ _) _

lemma Orderly.load {p : Program} (h : p.Orderly) (w : World S) : (p.load w).2.1.Orderly := by
  rcases hv : p.verdict w with e | urls
  · rw [load_error hv]
    exact ⟨h.armed, h.deferred, Table.sorted_empty⟩
  · have ready : (p.ready urls).Orderly := ⟨h.armed, Table.sorted_empty, Table.sorted_empty⟩
    rw [load_ok hv]
    exact ready.armAll _ _

/-! ### What lasts -/

section Lasting

variable {P : Resolver → Prop}

lemma armAll_lasting (lasting : Resolver.Lasting S P) {p : Program} (hp : P p.resolver)
    (w : World S) (waiting : List (String × List RequestedBreakpoint)) :
    P (p.armAll w waiting).2.1.resolver := by
  induction waiting generalizing p w with
  | nil => exact hp
  | cons request rest ih =>
    unfold Program.armAll
    split
    · exact ih hp w
    · exact ih (lasting.load hp _ w) _

lemma load_lasting (lasting : Resolver.Lasting S P) (p : Program) (w : World S) :
    P (p.load w).2.1.resolver := by
  have bare : P p.resolver.clear := lasting.fresh p.resolver.coords
  rcases hv : p.verdict w with e | urls
  · rw [load_error hv]
    exact bare
  · rw [load_ok hv]
    exact armAll_lasting lasting (p := p.ready urls) bare _ _

end Lasting

/-! ### Steady engines -/

section Steady

variable {places : String → Except EngineError (List EngineBreakpoint)}

def wanted (coords : Coordinates) (answer : Except EngineError (List EngineBreakpoint))
    (requested : List RequestedBreakpoint) : List Candidate :=
  Resolver.select coords requested (Resolver.candidates coords answer)

lemma arm_wanted {p : Program} (hp : p.resolver.Agrees places) (hS : S.Steady places)
    (source : Url) (requested : List RequestedBreakpoint) (w : World S) :
    (p.arm source requested w).1 = wanted p.resolver.coords (places source.text) requested := by
  rw [wanted, ← hp.load_eq hS source w]
  rfl

/-- The program with what requests match in a source armed there, by a steady engine. -/
def armedWith (places : String → Except EngineError (List EngineBreakpoint)) (p : Program)
    (source : String) (requested : List RequestedBreakpoint) : Program :=
  { p with
    resolver := { p.resolver with
      cache := p.resolver.cache.insert source
        (Resolver.candidates p.resolver.coords (places source)) }
    breakpoints := p.breakpoints.replace source
      (wanted p.resolver.coords (places source) requested) }

lemma arm_steady {p : Program} (hp : p.resolver.Agrees places) (hS : S.Steady places)
    (hsorted : p.resolver.cache.Sorted) (source : Url) (requested : List RequestedBreakpoint)
    (w : World S) : (p.arm source requested w).2.1 = p.armedWith places source.text requested := by
  have hresolver := hp.load_insert hS hsorted source w
  have hwanted := arm_wanted hp hS source requested w
  calc
    (p.arm source requested w).2.1
    _ = { p with
          resolver := (p.resolver.load source w).2.1
          breakpoints := p.breakpoints.replace source.text (p.arm source requested w).1 } := rfl
    _ = p.armedWith places source.text requested := by rw [hresolver, hwanted, armedWith]

lemma Orderly.armedWith_comm {p : Program} (hp : p.Orderly) {source source' : String}
    (hne : source ≠ source') (requested requested' : List RequestedBreakpoint) :
    (p.armedWith places source requested).armedWith places source' requested' =
      (p.armedWith places source' requested').armedWith places source requested := by
  simp only [armedWith, BreakpointSet.replace]
  rw [hp.cache.insert_comm hne, hp.armed.insert_comm hne]

end Steady

/-! ### Loading -/

/-- One program has come of another by loading it with given sources: the requests that were waiting
are armed, and none waits any more. -/
structure LoadedFrom (p : Program) (urls : List Url) (q : Program) : Prop where
  config : q.config = p.config
  loaded : q.loaded = true
  sources : q.sources = urls.foldl SourceRegistry.register .empty
  coords : q.resolver.coords = p.resolver.coords
  breakpoints : q.breakpoints =
    ⟨p.breakpoints.armed.insertAll (q.armings p.breakpoints.deferred.entries), .empty⟩

/-- A program that loads announces what the requests that were waiting for it match. -/
lemma load_loadedFrom {p : Program} {w : World S} {urls : List Url}
    (h : p.verdict w = .ok urls) :
    ∃ q es, p.load w =
        (.ok (q.announcements p.breakpoints.deferred.entries), q,
          (w.play (.engine (.loadProgram p.config))).playAll es) ∧
      LoadedFrom p urls q ∧ ∀ e ∈ es, e.Surveys := by
  let w' := w.play (.engine (.loadProgram p.config))
  let waiting := p.breakpoints.deferred.entries
  obtain ⟨es, surveys, hw⟩ := (p.ready urls).armAll_surveys w' waiting
  obtain ⟨config, loaded⟩ := (p.ready urls).armAll_keeps w' waiting
  have hgrown := (p.ready urls).armAll_extends w' waiting
  obtain ⟨hannounced, harmed⟩ := (p.ready urls).armAll_spec w' waiting
  refine ⟨((p.ready urls).armAll w' waiting).2.1, es, ?_,
    ⟨config, loaded, hgrown.sources, hgrown.coords, harmed⟩, surveys⟩
  rw [load_ok h, ← hw]
  exact congrArg (fun bs => (Except.ok bs, _)) hannounced

lemma load_breakpoints {p : Program} (h : p.breakpoints.deferred = .empty) (w : World S) :
    (p.load w).2.1.breakpoints = p.breakpoints := by
  rcases hv : p.verdict w with e | urls
  · rw [load_error hv]
  · obtain ⟨q, es, heq, loaded, -⟩ := load_loadedFrom hv
    rw [heq, loaded.breakpoints, h]
    exact congrArg (BreakpointSet.mk p.breakpoints.armed) h.symm

variable (S) in
/-- Programs that come of one another by being loaded again and again. -/
inductive Reloads (p : Program) : Program → Prop where
  | refl : Reloads p p
  | load {q : Program} (h : Reloads p q) (w : World S) : Reloads p (q.load w).2.1

lemma Reloads.trans {p q r : Program} (h : Reloads S p q) (h' : Reloads S q r) :
    Reloads S p r := by
  induction h' with
  | refl => exact h
  | load _ w ih => exact .load ih w

lemma Reloads.config {p q : Program} (h : Reloads S p q) : q.config = p.config := by
  induction h with
  | refl => rfl
  | load _ w ih => exact (load_keeps _ w).1.trans ih

lemma Reloads.breakpoints {p q : Program} (h : Reloads S p q)
    (hp : p.breakpoints.deferred = .empty) : q.breakpoints = p.breakpoints := by
  induction h with
  | refl => rfl
  | load _ w ih => rw [load_breakpoints (ih ▸ hp) w, ih]

end Program

lemma reloads_keptByShots :
    KeptByShots (S := S) fun s s' => Program.Reloads S s.1 s'.1 where
  refl _ := .refl
  trans := .trans
  run _ _ _ := .refl
  report _ _ _ _ := .refl
  load _ _ w := .load .refl w

lemma runShotsLeft_reloads (total left : Nat) (p : Program) (v : Visualization) (w : World S) :
    Program.Reloads S p (runShotsLeft Program.reload total left p v w).2.1 :=
  reloads_keptByShots.runShotsLeft total left p v w

end QuantumDebug
