import Mathlib.Data.List.Nodup
import Mathlib.Data.List.TakeDrop
import Mathlib.Data.List.TakeWhile
import QuantumDebug.Proofs.Session.Scripted

/-!
The names by which sources go between the client and the adapter. A file that has been registered
goes by its bare path until another file takes the path from it; every other source goes by the text
of its URL. Whatever name the client is given leads back to the source, and no two sources share a
name.
-/

namespace QuantumDebug

variable {S : Surroundings}

/-- A bare path: a text that starts with a slash. -/
def Flat (path : String) : Prop := path.toList.head? = some '/'

instance (path : String) : Decidable (Flat path) := inferInstanceAs (Decidable (_ = _))

namespace Url

/-! ### Texts of URLs -/

/-- The text of a URL reads as the URL itself. -/
def Canonical (u : Url) : Prop := parse u.text = .ok u

instance (u : Url) : Decidable u.Canonical := inferInstanceAs (Decidable (_ = _))

/-- The name of a scheme: a letter, then letters, digits and a few marks. -/
def IsSchemeName (s : List Char) : Prop :=
  ∃ c rest, s = c :: rest ∧ c.isAlpha = true ∧ ∀ x ∈ rest, isSchemeChar x = true

lemma isAlpha_bounds {c : Char} (h : c.isAlpha = true) : 65 ≤ c.toNat ∧ c.toNat ≤ 122 := by
  change (decide (c.val ≥ 65 ∧ c.val ≤ 90) || (decide (c.val ≥ 97) && decide (c.val ≤ 122))) = true
    at h
  have hval : c.toNat = c.val.toNat := rfl
  simp only [Bool.or_eq_true, Bool.and_eq_true, decide_eq_true_eq, ge_iff_le,
    UInt32.le_iff_toNat_le, UInt32.reduceToNat] at h
  omega

lemma toLower_of_not_isUpper {c : Char} (h : ¬c.isUpper = true) : c.toLower = c :=
  dif_neg fun hupper => h (decide_eq_true hupper)

lemma isLower_toLower {c : Char} (h : c.isUpper = true) : c.toLower.isLower = true := by
  have hbounds : c.val ≥ 'A'.val ∧ c.val ≤ 'Z'.val := of_decide_eq_true h
  have hlower : c.toLower.val = c.val + 32 := congrArg Char.val (dif_pos hbounds)
  change (decide (c.toLower.val ≥ 97) && decide (c.toLower.val ≤ 122)) = true
  rw [hlower]
  simp at *
  grind

lemma isSchemeChar_of_isAlpha {c : Char} (h : c.isAlpha = true) : isSchemeChar c = true := by
  simp [isSchemeChar, Char.isAlphanum, h]

lemma isAlpha_toLower {c : Char} (h : c.isAlpha = true) : c.toLower.isAlpha = true := by
  by_cases hupper : c.isUpper = true
  · exact Bool.or_eq_true_iff.mpr (.inr (isLower_toLower hupper))
  · rwa [toLower_of_not_isUpper hupper]

lemma isSchemeChar_toLower {c : Char} (h : isSchemeChar c = true) :
    isSchemeChar c.toLower = true := by
  by_cases hupper : c.isUpper = true
  · exact isSchemeChar_of_isAlpha (isAlpha_toLower (Bool.or_eq_true_iff.mpr (.inl hupper)))
  · rwa [toLower_of_not_isUpper hupper]

lemma IsSchemeName.toLower {s : List Char} (h : IsSchemeName s) :
    IsSchemeName (s.map Char.toLower) := by
  obtain ⟨c, rest, rfl, hc, hrest⟩ := h
  refine ⟨c.toLower, rest.map Char.toLower, rfl, isAlpha_toLower hc, fun x hx => ?_⟩
  obtain ⟨y, hy, rfl⟩ := List.mem_map.mp hx
  exact isSchemeChar_toLower (hrest y hy)

lemma IsSchemeName.forall_mem {s : List Char} (h : IsSchemeName s) :
    ∀ c ∈ s, isSchemeChar c = true := by
  obtain ⟨c, rest, rfl, hc, hrest⟩ := h
  exact List.forall_mem_cons.mpr ⟨isSchemeChar_of_isAlpha hc, hrest⟩

lemma IsSchemeName.colon_notMem {s : List Char} (h : IsSchemeName s) : ':' ∉ s := fun hmem =>
  absurd (h.forall_mem ':' hmem) (by decide)

lemma isSchemeName_of_splitScheme {s rest : List Char} {scheme : String}
    (h : splitScheme s = some (scheme, rest)) : IsSchemeName scheme.toList := by
  cases s with
  | nil => simp [splitScheme] at h
  | cons c s =>
    simp only [splitScheme, List.span_eq_takeWhile_dropWhile] at h
    split at h
    · rename_i hc
      split at h
      · rename_i name rest' heq
        obtain ⟨rfl, -⟩ := Prod.mk.inj (Option.some.inj h)
        obtain ⟨hname, -⟩ := Prod.mk.inj heq
        rw [List.takeWhile_cons_of_pos (isSchemeChar_of_isAlpha hc)] at hname
        subst hname
        rw [String.toList_ofList]
        exact .toLower ⟨c, _, rfl, hc, fun x hx => List.mem_takeWhile_imp hx⟩
      · simp at h
    · simp at h

lemma afterSlashes_scheme {scheme : String} {kind : SchemeKind} {s : List Char} {u : Url}
    (h : afterSlashes scheme kind s = .ok u) : u.scheme = scheme := by
  simp only [afterSlashes, bind, Except.bind, pure, Except.pure, throw, throwThe,
    MonadExceptOf.throw] at h
  repeat' split at h
  all_goals first | (obtain rfl := Except.ok.inj h; rfl) | simp at h

lemma parseFile_scheme {s : List Char} {u : Url} (h : parseFile s = .ok u) : u.scheme = "file" := by
  unfold parseFile at h
  repeat' split at h
  all_goals first | (obtain rfl := Except.ok.inj h; rfl) | simp at h

lemma parsePlain_scheme {scheme : String} {s : List Char} {u : Url}
    (h : parsePlain scheme s = .ok u) : u.scheme = scheme := by
  unfold parsePlain at h
  split at h
  · exact afterSlashes_scheme h
  · obtain rfl := Except.ok.inj h
    rfl
  · obtain rfl := Except.ok.inj h
    rfl

lemma splitScheme_of_parse {s : String} {u : Url} (h : parse s = .ok u) :
    ∃ rest, splitScheme (significant s.toList) = some (u.scheme, rest) := by
  unfold parse at h
  split at h
  · simp at h
  · rename_i scheme rest hsplit
    have hscheme : u.scheme = scheme := by
      split at h
      · rename_i hkind
        rw [parseFile_scheme h]
        unfold SchemeKind.ofName at hkind
        split at hkind
        · exact Eq.symm ‹_›
        · split at hkind <;> simp at hkind
      · exact afterSlashes_scheme h
      · exact parsePlain_scheme h
    exact ⟨rest, hscheme ▸ hsplit⟩

lemma Canonical.isSchemeName {u : Url} (h : u.Canonical) : IsSchemeName u.scheme.toList := by
  obtain ⟨rest, hsplit⟩ := splitScheme_of_parse h
  exact isSchemeName_of_splitScheme hsplit

lemma text_toList (u : Url) : ∃ rest, u.text.toList = u.scheme.toList ++ ':' :: rest := by
  simp only [text, String.toList_append, List.append_assoc]
  exact ⟨_, rfl⟩

lemma Canonical.not_flat {u : Url} (h : u.Canonical) : ¬ Flat u.text := by
  obtain ⟨rest, htext⟩ := u.text_toList
  obtain ⟨c, name, hname, hc, -⟩ := h.isSchemeName
  rw [Flat, htext, hname, List.cons_append, List.head?_cons]
  rintro ⟨⟩
  simp at hc

lemma canonical_inj {u v : Url} (hu : u.Canonical) (hv : v.Canonical) (h : u.text = v.text) :
    u = v := by
  unfold Canonical at hu hv
  rw [h, hv] at hu
  exact (Except.ok.inj hu).symm

end Url

/-! ### Texts that start with a scheme -/

lemma span_colon {name rest : List Char} (h : ':' ∉ name) :
    (name ++ ':' :: rest).span (· ≠ ':') = (name, ':' :: rest) := by
  have hname : ∀ c ∈ name, decide (c ≠ ':') = true := fun c hc =>
    decide_eq_true fun hcolon => h (hcolon ▸ hc)
  rw [List.span_eq_takeWhile_dropWhile, List.takeWhile_append_of_pos hname,
    List.dropWhile_append_of_pos hname]
  simp

namespace SourceRegistry

lemma hasScheme_iff (s : List Char) :
    hasScheme s = true ↔
      ∃ name rest, s = name ++ ':' :: rest ∧ Url.IsSchemeName name ∧ 1 < name.length := by
  constructor
  · intro h
    have hsplit : s = (s.span (· ≠ ':')).1 ++ (s.span (· ≠ ':')).2 := by
      simp [List.span_eq_takeWhile_dropWhile]
    unfold hasScheme at h
    split at h
    · rename_i c d r rest heq
      rw [heq] at hsplit
      obtain ⟨hc, hrest⟩ := Bool.and_eq_true_iff.mp h
      exact ⟨_, rest, hsplit, ⟨c, d :: r, rfl, hc, List.all_eq_true.mp hrest⟩, by simp⟩
    · simp at h
  · rintro ⟨name, rest, rfl, hname, hlong⟩
    have hspan : (name ++ ':' :: rest).span (· ≠ ':') = (name, ':' :: rest) :=
      span_colon hname.colon_notMem
    obtain ⟨c, tail, rfl, hc, htail⟩ := hname
    cases tail with
    | nil => simp at hlong
    | cons d r =>
      unfold hasScheme
      rw [hspan]
      exact Bool.and_eq_true_iff.mpr ⟨hc, List.all_eq_true.mpr htail⟩

lemma hasScheme_of_flat {path : String} (h : Flat path) : hasScheme path.toList = false := by
  rw [Bool.eq_false_iff, Ne, hasScheme_iff]
  rintro ⟨name, rest, heq, ⟨c, tail, rfl, hc, -⟩, -⟩
  rw [Flat, heq, List.cons_append, List.head?_cons] at h
  obtain rfl := Option.some.inj h
  simp at hc

lemma hasScheme_text {u : Url} (h : u.Canonical) (long : 1 < u.scheme.length) :
    hasScheme u.text.toList = true := by
  obtain ⟨rest, htext⟩ := u.text_toList
  exact (hasScheme_iff _).mpr ⟨_, rest, htext, h.isSchemeName, by
    rwa [String.length_toList]⟩

/-- What counts of a text that starts with a scheme starts with it too: nothing in front of the
colon is blank. -/
lemma significant_name {name : List Char} (h : Url.IsSchemeName name) (rest : List Char) :
    ∃ rest', Url.significant (name ++ ':' :: rest) = name ++ ':' :: rest' := by
  have hlead : Url.trimControls (name ++ ':' :: rest) = name ++ ':' :: rest := by
    obtain ⟨c, tail, rfl, hc, -⟩ := h
    refine List.dropWhile_cons_of_neg ?_
    have hbounds := Url.isAlpha_bounds hc
    simp only [decide_eq_true_eq]
    omega
  have htrail : Url.trimControls (name ++ ':' :: rest).reverse =
      Url.trimControls rest.reverse ++ ':' :: name.reverse := by
    have hreverse : (name ++ ':' :: rest).reverse = rest.reverse ++ ':' :: name.reverse := by simp
    rw [hreverse, Url.trimControls, Url.trimControls, List.dropWhile_append]
    split
    · rename_i hempty
      rw [List.isEmpty_iff.mp hempty]
      rfl
    · rfl
  have hname : name.filter (fun c => c ≠ '\t' ∧ c ≠ '\n' ∧ c ≠ '\r') = name := by
    refine List.filter_eq_self.mpr fun c hc => decide_eq_true ?_
    have hchar := h.forall_mem c hc
    refine ⟨?_, ?_, ?_⟩ <;> (rintro rfl; simp [Url.isSchemeChar] at hchar)
  refine ⟨(Url.trimControls rest.reverse).reverse.filter
    fun c => c ≠ '\t' ∧ c ≠ '\n' ∧ c ≠ '\r', ?_⟩
  rw [Url.significant, hlead, htrail, List.reverse_append, List.reverse_cons, List.reverse_reverse,
    List.append_assoc, List.filter_append, hname]
  rfl

lemma scheme_of_hasScheme {s : String} {u : Url} (h : hasScheme s.toList = true)
    (hparse : Url.parse s = .ok u) : 1 < u.scheme.length := by
  obtain ⟨name, rest, hs, hname, long⟩ := (hasScheme_iff _).mp h
  obtain ⟨rest', hsignificant⟩ := significant_name hname rest
  obtain ⟨rest'', hsplit⟩ := Url.splitScheme_of_parse hparse
  have hall := hname.forall_mem
  have hcolon : Url.isSchemeChar ':' = false := by decide
  have hspan : (name ++ ':' :: rest').span Url.isSchemeChar = (name, ':' :: rest') := by
    rw [List.span_eq_takeWhile_dropWhile, List.takeWhile_append_of_pos hall,
      List.dropWhile_append_of_pos hall]
    simp [hcolon]
  have hread : Url.splitScheme (name ++ ':' :: rest') =
      some (String.ofList (name.map Char.toLower), rest') := by
    obtain ⟨c, tail, rfl, hc, -⟩ := hname
    simp only [Url.splitScheme, List.cons_append, if_pos hc]
    rw [← List.cons_append, hspan]
    rfl
  rw [hs, hsignificant, hread] at hsplit
  obtain ⟨hscheme, -⟩ := Prod.mk.inj (Option.some.inj hsplit)
  rwa [← hscheme, ← String.length_toList, String.toList_ofList, List.length_map]

end SourceRegistry

/-! ### Paths of files -/

namespace Url

lemma splitAt_ne_nil (separator : Char) (s : List Char) : splitAt separator s ≠ [] := by
  unfold splitAt
  cases s with
  | nil => simp
  | cons c s =>
    rw [List.foldr_cons]
    split
    · simp
    · split <;> simp

lemma withDriveSlash_eq (bs : List UInt8) : ∃ slash, withDriveSlash bs = bs ++ slash := by
  unfold withDriveSlash
  split
  · split
    · exact ⟨[47], rfl⟩
    · exact ⟨[], (List.append_nil bs).symm⟩
  · exact ⟨[], (List.append_nil bs).symm⟩

lemma decodeLossy_slash (bs : List UInt8) : Flat (Text.Utf8.decodeLossy (47 :: bs)) := by
  have hslash : Text.Utf8.step none 47 = ([some '/'], none) := by decide
  rw [Flat, Text.Utf8.decodeLossy, String.toList_ofList, Text.Utf8.run, hslash]
  rfl

lemma toFilePath_flat {u : Url} {path : String} (h : u.toFilePath = some path) : Flat path := by
  unfold toFilePath at h
  dsimp only at h
  split at h
  · rename_i segments _ hsegments
    obtain rfl := Option.some.inj h
    obtain ⟨first, rest, rfl⟩ : ∃ first rest, segments = first :: rest := by
      refine List.exists_cons_of_ne_nil ?_
      unfold Url.segments at hsegments
      split at hsegments
      · obtain rfl := Option.some.inj hsegments
        exact splitAt_ne_nil _ _
      · simp at hsegments
    obtain ⟨slash, hslash⟩ := withDriveSlash_eq ((first :: rest).flatMap fun s => 47 :: decode s)
    rw [hslash, List.flatMap_cons, List.cons_append, List.cons_append]
    exact decodeLossy_slash _
  · simp at h

/-- The path by which a source goes once it has been registered: that of a local file. -/
def filePath? (u : Url) : Option String := if u.scheme = "file" then u.toFilePath else none

lemma filePath?_flat {u : Url} {path : String} (h : u.filePath? = some path) : Flat path := by
  unfold filePath? at h
  split at h
  · exact toFilePath_flat h
  · simp at h

end Url

namespace SourceRegistry

/-! ### Ties -/

/-- A registry ties each of its paths to one source only, and that source is a file with this
path. -/
structure Tidy (r : SourceRegistry) : Prop where
  paths : ∀ path url, (path, url) ∈ r.entries → url.filePath? = some path
  once : (r.entries.map Prod.fst).Nodup

lemma tidy_empty : empty.Tidy := ⟨by simp [empty], by simp [empty]⟩

section Tidy

variable {r : SourceRegistry} {path : String} {url : Url}

lemma Tidy.urlOf?_eq_some (h : r.Tidy) :
    r.urlOf? path = some url ↔ (path, url) ∈ r.entries := by
  unfold urlOf?
  constructor
  · intro hfound
    obtain ⟨⟨path', url'⟩, hfind, rfl⟩ := Option.map_eq_some_iff.mp hfound
    obtain rfl : path' = path := by simpa using List.find?_some hfind
    exact List.mem_of_find?_eq_some hfind
  · intro hmem
    cases hfind : r.entries.find? (·.1 = path) with
    | none => simpa using List.find?_eq_none.mp hfind _ hmem
    | some entry =>
      have hpath : entry.1 = path := by simpa using List.find?_some hfind
      have hsame : entry = (path, url) :=
        List.inj_on_of_nodup_map h.once (List.mem_of_find?_eq_some hfind) hmem hpath
      rw [hsame]
      rfl

lemma Tidy.pathOf?_eq_some (h : r.Tidy) :
    r.pathOf? url = some path ↔ (path, url) ∈ r.entries := by
  unfold pathOf?
  constructor
  · intro hfound
    obtain ⟨⟨path', url'⟩, hfind, rfl⟩ := Option.map_eq_some_iff.mp hfound
    obtain rfl : url' = url := by simpa using List.find?_some hfind
    exact List.mem_of_find?_eq_some hfind
  · intro hmem
    cases hfind : r.entries.find? (·.2 = url) with
    | none => simpa using List.find?_eq_none.mp hfind _ hmem
    | some entry =>
      -- a file has one path, so that no other entry holds it
      have hurl : entry.2 = url := by simpa using List.find?_some hfind
      have hpath := h.paths entry.1 entry.2 (List.mem_of_find?_eq_some hfind)
      rw [hurl, h.paths path url hmem] at hpath
      exact hpath.symm

lemma register_eq (r : SourceRegistry) (url : Url) :
    r.register url = match url.filePath? with
      | some path => r.insert path url
      | none => r := by
  unfold register Url.filePath?
  split <;> rfl

lemma Tidy.register (h : r.Tidy) (url : Url) : (r.register url).Tidy := by
  rw [register_eq]
  split
  · rename_i path hpath
    constructor
    · intro path' url' hmem
      rcases List.mem_append.mp hmem with hmem | hmem
      · exact h.paths path' url' (List.mem_filter.mp hmem).1
      · obtain ⟨rfl, rfl⟩ : path' = path ∧ url' = url := by simpa using hmem
        exact hpath
    · rw [insert, List.map_append, List.nodup_append]
      refine ⟨?_, by simp, ?_⟩
      · exact h.once.sublist (List.filter_sublist.map _)
      · intro other hother path' hpath'
        obtain ⟨entry, hentry, rfl⟩ := List.mem_map.mp hother
        obtain rfl : path' = path := by simpa using hpath'
        have hkept := (List.mem_filter.mp hentry).2
        simp only [decide_eq_true_eq] at hkept
        exact hkept.1
  · exact h

/-- What is tied to a path after another tie: no other path loses its file, since a file has but one
path. -/
lemma Tidy.mem_insert (h : r.Tidy) (hpath : url.filePath? = some path) (other : String)
    (found : Url) :
    (other, found) ∈ (r.insert path url).entries ↔
      if other = path then found = url else (other, found) ∈ r.entries := by
  have hmem : (other, found) ∈ (r.insert path url).entries ↔
      ((other, found) ∈ r.entries ∧ other ≠ path ∧ found ≠ url) ∨
        other = path ∧ found = url := by
    simp [insert, List.mem_append, List.mem_filter]
  rw [hmem]
  split
  · simp [*]
  · rename_i hother
    constructor
    · rintro (⟨hold, -⟩ | ⟨heq, -⟩)
      · exact hold
      · exact absurd heq hother
    · intro hold
      refine .inl ⟨hold, hother, ?_⟩
      rintro rfl
      have hsame := h.paths other found hold
      rw [hpath] at hsame
      exact hother (Option.some.inj hsame).symm

lemma Tidy.urlOf?_register (h : r.Tidy) (url : Url) (path : String) (found : Url) :
    (r.register url).urlOf? path = some found ↔
      if url.filePath? = some path then found = url else r.urlOf? path = some found := by
  rw [(h.register url).urlOf?_eq_some, h.urlOf?_eq_some, register_eq]
  cases hpath : url.filePath? with
  | none => simp
  | some path' =>
    rw [h.mem_insert hpath]
    simp [eq_comm]

/-! ### Names -/

lemma resolve_flat (r : SourceRegistry) (h : Flat path) : r.resolve path = r.urlOf? path := by
  unfold resolve
  rw [hasScheme_of_flat h]
  cases r.urlOf? path <;> rfl

def clientPath (r : SourceRegistry) (url : Url) : String := (r.pathOf? url).getD url.text

lemma clientPath_cases (r : SourceRegistry) (url : Url) :
    (∃ path, r.pathOf? url = some path ∧ r.clientPath url = path) ∨
      r.pathOf? url = none ∧ r.clientPath url = url.text := by
  unfold clientPath
  cases r.pathOf? url with
  | some path => exact .inl ⟨path, rfl, rfl⟩
  | none => exact .inr ⟨rfl, rfl⟩

lemma Tidy.flat_of_pathOf? (h : r.Tidy) (hpath : r.pathOf? url = some path) : Flat path :=
  Url.filePath?_flat (h.paths path url (h.pathOf?_eq_some.mp hpath))

lemma Tidy.pathOf?_iff (h : r.Tidy) : r.pathOf? url = some path ↔ r.urlOf? path = some url :=
  h.pathOf?_eq_some.trans h.urlOf?_eq_some.symm

lemma Tidy.resolve_tied (h : r.Tidy) (tied : r.pathOf? url = some path) :
    r.resolve (r.clientPath url) = some url := by
  rw [clientPath, tied, Option.getD_some, r.resolve_flat (h.flat_of_pathOf? tied)]
  exact h.pathOf?_iff.mp tied

lemma Tidy.resolve_text (h : r.Tidy) (canonical : url.Canonical) (long : 1 < url.scheme.length) :
    r.resolve url.text = some url := by
  have untied : r.urlOf? url.text = none := by
    rw [Option.eq_none_iff_forall_ne_some]
    intro found hfound
    exact canonical.not_flat (Url.filePath?_flat (h.paths _ _ (h.urlOf?_eq_some.mp hfound)))
  rw [resolve, untied]
  dsimp only
  rw [if_pos (hasScheme_text canonical long), canonical]
  rfl

lemma Tidy.resolve_clientPath (h : r.Tidy) (canonical : url.Canonical)
    (long : 1 < url.scheme.length) : r.resolve (r.clientPath url) = some url := by
  rcases r.clientPath_cases url with ⟨path, tied, -⟩ | ⟨-, htext⟩
  · exact h.resolve_tied tied
  · rw [htext, h.resolve_text canonical long]

lemma resolve_eq_some {name : String} :
    r.resolve name = some url ↔ r.urlOf? name = some url ∨
      r.urlOf? name = none ∧ hasScheme name.toList = true ∧ Url.parse name = .ok url := by
  unfold resolve
  cases r.urlOf? name with
  | some found => simp
  | none =>
    cases hasScheme name.toList with
    | false => simp
    | true => cases Url.parse name <;> simp [Except.toOption]

/-- The name leads back to no other sources than files that are tied to a path and URLs whose texts
read as themselves. -/
lemma Tidy.resolve_clientPath_iff (h : r.Tidy) (long : 1 < url.scheme.length) :
    r.resolve (r.clientPath url) = some url ↔
      url.Canonical ∨ (r.pathOf? url).isSome = true := by
  constructor
  · intro back
    rcases r.clientPath_cases url with ⟨path, tied, -⟩ | ⟨-, htext⟩
    · exact .inr (Option.isSome_of_eq_some tied)
    · rw [htext] at back
      rcases resolve_eq_some.mp back with found | ⟨-, -, canonical⟩
      · exact .inr (Option.isSome_of_eq_some (h.pathOf?_iff.mpr found))
      · exact .inl canonical
  · rintro (canonical | tied)
    · exact h.resolve_clientPath canonical long
    · obtain ⟨path, hpath⟩ := Option.isSome_iff_exists.mp tied
      exact h.resolve_tied hpath

lemma Tidy.clientPath_inj (h : r.Tidy) {url' : Url} (canonical : url.Canonical)
    (canonical' : url'.Canonical) (same : r.clientPath url = r.clientPath url') : url = url' := by
  rcases r.clientPath_cases url with ⟨path, tied, hpath⟩ | ⟨-, htext⟩ <;>
    rcases r.clientPath_cases url' with ⟨path', tied', hpath'⟩ | ⟨-, htext'⟩
  · rw [hpath, hpath'] at same
    subst same
    rw [h.pathOf?_iff] at tied tied'
    exact Option.some.inj (tied.symm.trans tied')
  · -- a bare path is the text of no URL
    rw [hpath, htext'] at same
    exact absurd (same ▸ h.flat_of_pathOf? tied) canonical'.not_flat
  · rw [htext, hpath'] at same
    exact absurd (same.symm ▸ h.flat_of_pathOf? tied') canonical.not_flat
  · rw [htext, htext'] at same
    exact Url.canonical_inj canonical canonical' same

lemma Tidy.scheme_of_resolve (h : r.Tidy) {name : String} (named : r.resolve name = some url) :
    1 < url.scheme.length := by
  rcases resolve_eq_some.mp named with found | ⟨-, hscheme, hparse⟩
  · have hpath := h.paths _ _ (h.urlOf?_eq_some.mp found)
    unfold Url.filePath? at hpath
    split at hpath
    · rename_i hfile
      rw [hfile]
      decide
    · simp at hpath
  · exact scheme_of_hasScheme hscheme hparse

end Tidy

/-! ### Uses -/

/-- A use of a registry: a source is registered, or all that is known is forgotten. -/
inductive Use where
  | register (url : Url)
  | clear
deriving DecidableEq

def step (r : SourceRegistry) : Use → SourceRegistry
  | .register url => r.register url
  | .clear => .empty

def run (us : List Use) : SourceRegistry := us.foldl step .empty

lemma run_snoc (us : List Use) (u : Use) : run (us ++ [u]) = (run us).step u := by
  simp [run, List.foldl_append]

lemma run_tidy (us : List Use) : (run us).Tidy := by
  induction us using List.reverseRecOn with
  | nil => exact tidy_empty
  | append_singleton us u ih =>
    rw [run_snoc]
    cases u with
    | register url => exact ih.register url
    | clear => exact tidy_empty

/-- Whether a use makes a path mean something else or nothing. -/
def Use.Overrides (path : String) : Use → Prop
  | .register url => url.filePath? = some path
  | .clear => True

/-- A source is the last that has been registered for a path since all was forgotten. -/
def Latest (us : List Use) (path : String) (url : Url) : Prop :=
  Since (fun _ u => u = .register url ∧ url.filePath? = some path) (fun _ u => u.Overrides path) us

lemma urlOf?_run (us : List Use) (path : String) (url : Url) :
    (run us).urlOf? path = some url ↔ Latest us path url := by
  induction us using List.reverseRecOn with
  | nil => exact iff_of_false (by simp [run, empty, urlOf?]) not_since_nil
  | append_singleton us u ih =>
    rw [run_snoc, Latest, since_snoc]
    change _ ↔ _ ∨ Latest us path url ∧ _
    rw [← ih]
    cases u with
    | register v =>
      have hnext := (run_tidy us).urlOf?_register v path url
      rw [step, hnext, Use.Overrides]
      split
      · rename_i hpath
        constructor
        · rintro rfl
          exact .inl ⟨rfl, hpath⟩
        · rintro (⟨heq, -⟩ | ⟨-, hne⟩)
          · exact (Use.register.inj heq).symm
          · exact absurd hpath hne
      · rename_i hpath
        constructor
        · exact fun hold => .inr ⟨hold, hpath⟩
        · rintro (⟨heq, hurl⟩ | ⟨hold, -⟩)
          · obtain rfl := Use.register.inj heq
            exact absurd hurl hpath
          · exact hold
    | clear =>
      refine iff_of_false (by simp [step, empty, urlOf?]) ?_
      rintro (⟨heq, -⟩ | ⟨-, hclear⟩)
      · simp at heq
      · exact hclear trivial

/-- How sources go by their names after some uses of a registry. -/
structure Identifies (us : List Use) : Prop where
  /-- A bare path names the source that was registered for it last, since all was forgotten, and
  nothing if there is none. -/
  flat : ∀ path, Flat path → ∀ url, (run us).resolve path = some url ↔ Latest us path url
  /-- The name that the client is given for a source leads back to it, whether it was registered,
  lost its path to another or was never heard of. -/
  back : ∀ url, url.Canonical → 1 < url.scheme.length →
    (run us).resolveSource ((run us).clientSource url) = some url
  /-- No two sources are given the same name. -/
  apart : ∀ url url', url.Canonical → url'.Canonical →
    ((run us).clientSource url).path = ((run us).clientSource url').path → url = url'
  /-- A source is given a bare path just if it was registered for it last. -/
  known : ∀ url path, url.Canonical → Flat path →
    (((run us).clientSource url).path = some path ↔ Latest us path url)

lemma run_known {us : List Use} {url : Url} {path : String} (canonical : url.Canonical)
    (flat : Flat path) :
    ((run us).clientSource url).path = some path ↔ Latest us path url := by
  have tidy := run_tidy us
  show some ((run us).clientPath url) = some path ↔ _
  rw [← urlOf?_run, ← tidy.pathOf?_iff, Option.some.injEq]
  rcases (run us).clientPath_cases url with ⟨path', tied, hpath⟩ | ⟨untied, htext⟩
  · rw [hpath, tied, Option.some.injEq]
  · rw [htext, untied]
    exact iff_of_false (fun heq => canonical.not_flat (heq ▸ flat)) (by simp)

lemma run_identifies (us : List Use) : Identifies us where
  flat path flat url := by rw [(run us).resolve_flat flat, urlOf?_run]
  back url canonical long := (run_tidy us).resolve_clientPath canonical long
  apart url url' canonical canonical' same :=
    (run_tidy us).clientPath_inj canonical canonical' (Option.some.inj same)
  known _ _ canonical flat := run_known canonical flat

/-! ### Loads -/

/-- A source is the last among others that has a path. -/
def LastFile (urls : List Url) (path : String) (url : Url) : Prop :=
  ∃ before after, urls = before ++ url :: after ∧ url.filePath? = some path ∧
    ∀ other ∈ after, other.filePath? ≠ some path

lemma latest_register {urls : List Url} {path : String} {url : Url} :
    Latest (urls.map .register) path url ↔ LastFile urls path url := by
  constructor
  · rintro ⟨before, _, after, heq, ⟨rfl, hpath⟩, since⟩
    obtain ⟨earlier, rest, rfl, -, hrest⟩ := List.map_eq_append_iff.mp heq
    obtain ⟨first, later, rfl, hfirst, rfl⟩ := List.map_eq_cons_iff.mp hrest
    obtain rfl := Use.register.inj hfirst
    refine ⟨earlier, later, rfl, hpath, fun other hother => ?_⟩
    obtain ⟨between, rest, rfl⟩ := List.append_of_mem hother
    exact since (between.map .register) (.register other) (rest.map .register) (by simp)
  · rintro ⟨before, after, rfl, hpath, since⟩
    refine ⟨before.map .register, .register url, after.map .register, by simp, ⟨rfl, hpath⟩, ?_⟩
    intro between y rest heq
    have hy : y ∈ after.map Use.register := by simp [heq]
    obtain ⟨other, hother, rfl⟩ := List.mem_map.mp hy
    exact since other hother

/-- A registry knows the files among sources and nothing else. -/
structure KnowsFiles (urls : List Url) (r : SourceRegistry) : Prop where
  /-- A bare path names the last of the sources that has it. -/
  flat : ∀ path, Flat path → ∀ url, r.resolve path = some url ↔ LastFile urls path url
  /-- A source is given a bare path just if it is the last of them that has it. -/
  known : ∀ url path, url.Canonical → Flat path →
    ((r.clientSource url).path = some path ↔ LastFile urls path url)

lemma run_knowsFiles (urls : List Url) : KnowsFiles urls (run (urls.map .register)) where
  flat path flat url := by rw [resolve_flat _ flat, urlOf?_run, latest_register]
  known url path canonical flat := by rw [run_known canonical flat, latest_register]

end SourceRegistry

lemma Program.load_sources {p : Program} {w : World S} {urls : List Url}
    (h : p.verdict w = .ok urls) :
    (p.load w).2.1.sources = SourceRegistry.run (urls.map .register) := by
  obtain ⟨q, es, heq, loaded, -⟩ := load_loadedFrom h
  rw [heq, loaded.sources, SourceRegistry.run, List.foldl_map]
  rfl

/-- **The names of sources lead back to them**, after any uses of a registry; and after a load that
succeeds, exactly the files that the engine has named go by bare paths. -/
theorem names_lead_back (us : List SourceRegistry.Use) (p : Program) (w : World S) :
    SourceRegistry.Identifies us ∧
      ∀ bs, (p.load w).1 = .ok bs → ∃ urls, p.verdict w = .ok urls ∧
        SourceRegistry.KnowsFiles urls (p.load w).2.1.sources := by
  refine ⟨SourceRegistry.run_identifies us, fun bs loads => ?_⟩
  rcases hv : p.verdict w with e | urls
  · rw [Program.load_error hv] at loads
    simp at loads
  · exact ⟨urls, rfl, Program.load_sources hv ▸ SourceRegistry.run_knowsFiles urls⟩

/-- A file whose name has a blank in it, and the same file with a query, which has the same path. -/
def blankName (query : Option String) : Url := { Url.localFile "/my%20main.qs" with query := query }

theorem blankName_leads_back :
    let us : List SourceRegistry.Use :=
      [.register (blankName none), .clear, .register (blankName none),
        .register (blankName (some "v2"))]
    let w := (Debugger.scripted [] ⟨[.ok [blankName none, blankName (some "v2")]], []⟩).world
    (SourceRegistry.Identifies us ∧ ∃ urls, Program.unloaded.verdict w = .ok urls ∧
        SourceRegistry.KnowsFiles urls (Program.unloaded.load w).2.1.sources) ∧
      (blankName none).Canonical ∧ (blankName (some "v2")).Canonical ∧
      ((SourceRegistry.run us).clientSource (blankName (some "v2"))).path = some "/my main.qs" ∧
      ((SourceRegistry.run us).clientSource (blankName none)).path =
        some "file:///my%20main.qs" := by
  intro us w
  have hload : (Program.unloaded.load w).1 = .ok [] := by decide +kernel
  obtain ⟨identifies, loads⟩ := names_lead_back us .unloaded w
  exact ⟨⟨identifies, loads [] hload⟩, by decide +kernel⟩

end QuantumDebug
