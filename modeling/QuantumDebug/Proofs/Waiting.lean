import QuantumDebug.Proofs.Arming

/-!
Requests that wait for a program. They are kept by the path of their source, the last one for each
path, and are armed in the order of the paths. If every source is asked for under one path, what is
announced is what is armed, and that is what has been asked for last. Otherwise a request may be
announced whose place another takes.
-/

namespace QuantumDebug

open scoped List

/-- No two paths among requests name the same source. -/
def SourceRegistry.NamesOnce (r : SourceRegistry)
    (asked : List (String × List RequestedBreakpoint)) : Prop :=
  ∀ e ∈ asked, ∀ e' ∈ asked, ∀ url url', r.resolve e.1 = some url → r.resolve e'.1 = some url' →
    url.text = url'.text → e.1 = e'.1

instance (r : SourceRegistry) (asked : List (String × List RequestedBreakpoint)) :
    Decidable (r.NamesOnce asked) :=
  decidable_of_iff (∀ e ∈ asked, ∀ e' ∈ asked, (r.resolve e.1).isSome →
      (r.resolve e.1).map Url.text = (r.resolve e'.1).map Url.text → e.1 = e'.1) <| by
    constructor
    · intro h e he e' he' url url' hurl hurl' htext
      exact h e he e' he' (by simp [hurl]) (by simp [hurl, hurl', htext])
    · intro h e he e' he' hsome hmap
      obtain ⟨url, hurl⟩ := Option.isSome_iff_exists.mp hsome
      rw [hurl, Option.map_some, eq_comm, Option.map_eq_some_iff] at hmap
      obtain ⟨url', hurl', htext⟩ := hmap
      exact h e he e' he' url url' hurl hurl' htext.symm

namespace Program

/-- Requests by path as they wait: the last one for each path, in the order of the paths. -/
def waiting (asked : List (String × List RequestedBreakpoint)) :
    List (String × List RequestedBreakpoint) :=
  (Table.empty.insertAll asked).entries

section Waiting

variable {asked : List (String × List RequestedBreakpoint)}

lemma waiting_sorted (asked : List (String × List RequestedBreakpoint)) :
    (Table.empty.insertAll asked).Sorted := Table.sorted_empty.insertAll asked

lemma lookup_waiting (asked : List (String × List RequestedBreakpoint)) (path : String) :
    (waiting asked).reverse.lookup path = asked.reverse.lookup path := by
  rw [waiting, (waiting_sorted asked).lookup_reverse, Table.get?_insertAll, Table.get?_empty,
    Option.or_none]

lemma mem_of_mem_waiting {e : String × List RequestedBreakpoint} (he : e ∈ waiting asked) :
    e ∈ asked := by
  obtain ⟨path, requested⟩ := e
  have hget := (waiting_sorted asked).mem_iff.mp he
  rw [Table.get?_insertAll, Table.get?_empty, Option.or_none] at hget
  obtain ⟨pre, post, heq, -⟩ := List.lookup_eq_some_iff.mp hget
  exact List.mem_reverse.mp (heq ▸ by simp)

end Waiting

/-! ### Sources under one path -/

section Keyed

variable {β : Type} {p : Program} {f : String → List RequestedBreakpoint → β}
  {requests asked : List (String × List RequestedBreakpoint)}

/-- What belongs to requests in the sources that they name, one after another. -/
def keyed (p : Program) (f : String → List RequestedBreakpoint → β)
    (requests : List (String × List RequestedBreakpoint)) : List (String × β) :=
  (p.located requests).map fun (url, requested) => (url.text, f url.text requested)

lemma keyed_reverse (p : Program) (f : String → List RequestedBreakpoint → β)
    (requests : List (String × List RequestedBreakpoint)) :
    (p.keyed f requests).reverse = p.keyed f requests.reverse := by
  rw [keyed, keyed, located, located, List.filterMap_reverse, List.map_reverse]

lemma lookup_keyed_none {key : String}
    (h : ∀ e ∈ requests, ∀ url, p.sources.resolve e.1 = some url → url.text ≠ key) :
    (p.keyed f requests).lookup key = none := by
  rw [List.lookup_eq_none_iff]
  intro e he
  obtain ⟨⟨url, requested⟩, hlocated, rfl⟩ := List.mem_map.mp he
  obtain ⟨⟨path, requested'⟩, hmem, hsome⟩ := List.mem_filterMap.mp hlocated
  obtain ⟨url', hurl, heq⟩ := Option.map_eq_some_iff.mp hsome
  obtain ⟨rfl, rfl⟩ := Prod.mk.inj heq
  have hne : url'.text ≠ key := h _ hmem url' hurl
  exact bne_iff_ne.mpr hne.symm

/-- What belongs to a source is what belongs to the request under its only path. -/
lemma lookup_keyed {path : String} {url : Url} (hpath : p.sources.resolve path = some url)
    (honly : ∀ e ∈ requests, ∀ url', p.sources.resolve e.1 = some url' → url'.text = url.text →
      e.1 = path) :
    (p.keyed f requests).lookup url.text = (requests.lookup path).map (f url.text) := by
  induction requests with
  | nil => rfl
  | cons request rest ih =>
    obtain ⟨path', requested⟩ := request
    have hrest := ih fun e he => honly e (List.mem_cons_of_mem _ he)
    by_cases hsame : path = path'
    · subst hsame
      rw [keyed, located_cons_some hpath, List.map_cons, List.lookup_cons_self,
        List.lookup_cons_self, Option.map_some]
    · have hlookup : ((path', requested) :: rest).lookup path = rest.lookup path := by
        have hne : (path == path') = false := by simpa using hsame
        rw [List.lookup_cons, hne]
      rw [hlookup, ← hrest]
      cases hpath' : p.sources.resolve path' with
      | none => rw [keyed, located_cons_none hpath', keyed]
      | some url' =>
        have htext : (url.text == url'.text) = false := by
          have hne : url'.text ≠ url.text := fun heq =>
            hsame (honly _ List.mem_cons_self url' hpath' heq).symm
          exact beq_false_of_ne hne.symm
        rw [keyed, located_cons_some hpath', List.map_cons, List.lookup_cons, htext, keyed]

/-- If every source is asked for under one path, the request that counts for it is the last. -/
theorem lookup_keyed_waiting (h : p.sources.NamesOnce asked)
    (f : String → List RequestedBreakpoint → β) (key : String) :
    (p.keyed f (waiting asked)).reverse.lookup key = (p.keyed f asked).reverse.lookup key := by
  rw [keyed_reverse, keyed_reverse]
  by_cases hnamed : ∃ e ∈ asked, ∃ url, p.sources.resolve e.1 = some url ∧ url.text = key
  · obtain ⟨⟨path, requested⟩, hmem, url, hpath, rfl⟩ := hnamed
    have honly : ∀ e ∈ asked, ∀ url', p.sources.resolve e.1 = some url' →
        url'.text = url.text → e.1 = path :=
      fun e he url' hurl htext => h e he _ hmem url' url hurl hpath htext
    rw [lookup_keyed hpath fun e he => honly e (mem_of_mem_waiting (List.mem_reverse.mp he)),
      lookup_keyed hpath fun e he => honly e (List.mem_reverse.mp he), lookup_waiting]
  · have hnone : ∀ e ∈ asked, ∀ url, p.sources.resolve e.1 = some url → url.text ≠ key :=
      fun e he url hurl htext => hnamed ⟨e, he, url, hurl, htext⟩
    rw [lookup_keyed_none fun e he => hnone e (mem_of_mem_waiting (List.mem_reverse.mp he)),
      lookup_keyed_none fun e he => hnone e (List.mem_reverse.mp he)]

lemma insertAll_keyed_waiting (h : p.sources.NamesOnce asked)
    (f : String → List RequestedBreakpoint → β) {t : Table β} (ht : t.Sorted) :
    t.insertAll (p.keyed f (waiting asked)) = t.insertAll (p.keyed f asked) := by
  refine (ht.insertAll _).ext (ht.insertAll _) fun key => ?_
  rw [Table.get?_insertAll, Table.get?_insertAll, lookup_keyed_waiting h]

end Keyed

section Once

variable {p : Program} {asked : List (String × List RequestedBreakpoint)}

lemma pairwise_armings_waiting (h : p.sources.NamesOnce asked) :
    (p.armings (waiting asked)).Pairwise fun a b => a.1 ≠ b.1 := by
  rw [armings, List.pairwise_map, located, List.pairwise_filterMap]
  have hsorted : (waiting asked).Pairwise fun a b => a.1 < b.1 := waiting_sorted asked
  refine hsorted.imp_of_mem fun {a b} ha hb hlt e he e' he' htext => ?_
  obtain ⟨url, hurl, rfl⟩ := Option.map_eq_some_iff.mp he
  obtain ⟨url', hurl', rfl⟩ := Option.map_eq_some_iff.mp he'
  have hpath := h a (mem_of_mem_waiting ha) b (mem_of_mem_waiting hb) url url' hurl hurl' htext
  rw [hpath] at hlt
  exact String.lt_irrefl _ hlt

end Once

/-! ### Requests that name no source -/

def named (r : SourceRegistry) (requests : List (String × List RequestedBreakpoint)) :
    List (String × List RequestedBreakpoint) :=
  requests.filter fun e => (r.resolve e.1).isSome

lemma located_named (p : Program) (requests : List (String × List RequestedBreakpoint)) :
    p.located (named p.sources requests) = p.located requests := by
  rw [located, named, List.filterMap_filter, located]
  congr 1
  funext request
  obtain ⟨path, requested⟩ := request
  cases hpath : p.sources.resolve path <;> simp [hpath]

lemma located_waiting_named (p : Program) (asked : List (String × List RequestedBreakpoint)) :
    p.located (waiting (named p.sources asked)) = p.located (waiting asked) := by
  have hwaiting : waiting (named p.sources asked) = named p.sources (waiting asked) :=
    Table.insertAll_filter asked fun path => (p.sources.resolve path).isSome
  rw [hwaiting, located_named]

/-! ### A steady engine -/

section Steady

variable {S : Surroundings} {places : String → Except EngineError (List EngineBreakpoint)}
  {p : Program}

def armedAll (places : String → Except EngineError (List EngineBreakpoint)) (p : Program)
    (requests : List (String × List RequestedBreakpoint)) : Program :=
  { p with
    resolver := { p.resolver with
      cache := p.resolver.cache.insertAll
        (p.keyed (fun key _ => Resolver.candidates p.resolver.coords (places key)) requests) }
    breakpoints := { p.breakpoints with
      armed := p.breakpoints.armed.insertAll
        (p.keyed (fun key => wanted p.resolver.coords (places key)) requests) } }

lemma armedAll_nil (p : Program) : p.armedAll places [] = p := rfl

lemma armedAll_cons_none {path : String} (h : p.sources.resolve path = none)
    (requested : List RequestedBreakpoint) (rest : List (String × List RequestedBreakpoint)) :
    p.armedAll places ((path, requested) :: rest) = p.armedAll places rest := by
  rw [armedAll, armedAll, keyed, keyed, located_cons_none h]
  rfl

lemma armedAll_cons_some {path : String} {url : Url} (h : p.sources.resolve path = some url)
    (requested : List RequestedBreakpoint) (rest : List (String × List RequestedBreakpoint)) :
    p.armedAll places ((path, requested) :: rest) =
      (p.armedWith places url.text requested).armedAll places rest := by
  rw [armedAll, keyed, keyed, located_cons_some h]
  rfl

lemma armedAll_append (p : Program) (requests rest : List (String × List RequestedBreakpoint)) :
    p.armedAll places (requests ++ rest) = (p.armedAll places requests).armedAll places rest := by
  induction requests generalizing p with
  | nil => rfl
  | cons request requests ih =>
    obtain ⟨path, requested⟩ := request
    rw [List.cons_append]
    cases hpath : p.sources.resolve path with
    | none => rw [armedAll_cons_none hpath, armedAll_cons_none hpath, ih]
    | some url => rw [armedAll_cons_some hpath, armedAll_cons_some hpath, ih]

lemma armedAll_congr {requests requests' : List (String × List RequestedBreakpoint)}
    (h : p.located requests = p.located requests') :
    p.armedAll places requests = p.armedAll places requests' := by
  simp only [armedAll, keyed, h]

lemma armAll_steady (hS : S.Steady places) (hp : p.resolver.Agrees places) (ordered : p.Orderly)
    (w : World S) (requests : List (String × List RequestedBreakpoint)) :
    (p.armAll w requests).2.1 = p.armedAll places requests := by
  induction requests generalizing p w with
  | nil => rfl
  | cons request rest ih =>
    obtain ⟨path, requested⟩ := request
    cases hpath : p.sources.resolve path with
    | none =>
      rw [armAll_cons_none hpath, armedAll_cons_none hpath]
      exact ih hp ordered w
    | some url =>
      have hfirst := arm_steady hp hS ordered.cache url requested w
      have agrees := hp.load hS url w
      rw [armAll_cons_some hpath, armedAll_cons_some hpath, ← hfirst]
      exact ih agrees (ordered.arm url requested w) _

lemma load_steady (hS : S.Steady places) (ordered : p.Orderly) {w : World S} {urls : List Url}
    (h : p.verdict w = .ok urls) :
    (p.load w).2.1 = (p.ready urls).armedAll places p.breakpoints.deferred.entries := by
  have ready : (p.ready urls).Orderly := ⟨ordered.armed, Table.sorted_empty, Table.sorted_empty⟩
  rw [load_ok h]
  exact armAll_steady hS (Resolver.Agrees.clear _) ready _ _

/-- If every source is asked for under one path, it does not matter that requests wait. -/
theorem Orderly.armedAll_waiting (ordered : p.Orderly)
    {asked : List (String × List RequestedBreakpoint)} (h : p.sources.NamesOnce asked) :
    p.armedAll places (waiting asked) = p.armedAll places asked := by
  rw [armedAll, insertAll_keyed_waiting h _ ordered.cache,
    insertAll_keyed_waiting h _ ordered.armed, armedAll]

end Steady

/-! ### Announced and armed -/

section Announced

variable {β : Type} {f : Candidate → β} {g : Breakpoint → Option β}

lemma filterMap_announcements (hfg : ∀ c source, g (c.toBreakpoint source) = some (f c))
    (p : Program) (requests : List (String × List RequestedBreakpoint)) :
    (p.announcements requests).filterMap g =
      ((p.armings requests).flatMap Prod.snd).map f := by
  rw [announcements, armings, List.flatMap_map, List.map_flatMap, List.filterMap_flatMap]
  congr 1
  funext request
  obtain ⟨url, requested⟩ := request
  rw [List.filterMap_map, ← List.filterMap_eq_map]
  congr 1
  funext c
  exact hfg c _

/-- What is announced is just what is armed if and only if no request that matches anything gives
way to another. -/
theorem announcements_perm_iff (hfg : ∀ c source, g (c.toBreakpoint source) = some (f c))
    (p : Program) (requests : List (String × List RequestedBreakpoint)) :
    ((p.announcements requests).filterMap g).Perm
        ((Table.empty.insertAll (p.armings requests)).values.flatten.map f) ↔
      ∀ pre e post, p.armings requests = pre ++ e :: post → (∃ e' ∈ post, e'.1 = e.1) →
        e.2 = [] := by
  have hall : ((Table.empty.insertAll (p.armings requests)).values.flatten ++
      Table.empty.overwritten (p.armings requests)).Perm
        ((p.armings requests).flatMap Prod.snd) := Table.sorted_empty.perm_insertAll _
  rw [← Table.overwritten_eq_nil_iff, filterMap_announcements hfg]
  constructor
  · intro hperm
    have hlength := hall.length_eq
    have hlength' := hperm.length_eq
    rw [List.length_map, List.length_map] at hlength'
    rw [List.length_append, hlength', Nat.add_eq_left] at hlength
    exact List.eq_nil_of_length_eq_zero hlength
  · intro hnil
    rw [hnil, List.append_nil] at hall
    exact (hall.map f).symm

lemma announcements_perm {p : Program}
    {asked : List (String × List RequestedBreakpoint)} (h : p.sources.NamesOnce asked)
    (hfg : ∀ c source, g (c.toBreakpoint source) = some (f c)) :
    ((p.announcements (waiting asked)).filterMap g).Perm
      ((Table.empty.insertAll (p.armings (waiting asked))).values.flatten.map f) := by
  rw [announcements_perm_iff hfg]
  rintro pre e post heq ⟨e', he', hkey⟩
  have hpairwise := pairwise_armings_waiting h
  rw [heq, List.pairwise_append, List.pairwise_cons] at hpairwise
  exact absurd hkey.symm (hpairwise.2.1.1 e' he')

end Announced

end Program

end QuantumDebug
