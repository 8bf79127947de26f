import Mathlib.Tactic.Lemma
import Mathlib.Tactic.SplitIfs
import QuantumDebug.Json.Parser

/-!
How deep a text may nest. The reader of JSON refuses what nests too deep and is the same otherwise:
a text that is read at all is read, to the same value, exactly by the readers that go deeper than
the value does.
-/

namespace QuantumDebug

namespace Json

mutual

/-- How many arrays and objects stand one inside another. -/
def nesting : Json → Nat
  | .arr xs => itemsNesting xs + 1
  | .obj ms => membersNesting ms + 1
  | _ => 0

def itemsNesting : List Json → Nat
  | [] => 0
  | x :: xs => max (nesting x) (itemsNesting xs)

def membersNesting : List (String × Json) → Nat
  | [] => 0
  | (_, v) :: ms => max (nesting v) (membersNesting ms)

end

/-! ### One level of a text -/

section Level

variable {fuel : Nat} {s rest : List Char}

lemma readValue_array (hs : skipBlank s = '[' :: rest) (hne : ∀ r, skipBlank rest ≠ ']' :: r)
    (depth : Nat) : readValue (fuel + 1) depth s = if depth ≤ 1 then none else
      (readItems fuel (depth - 1) (skipBlank rest)).map fun x => (.arr x.1, x.2) := by
  rw [readValue, hs]
  simp only

lemma readValue_noItems {r : List Char} (hs : skipBlank s = '[' :: rest)
    (hrest : skipBlank rest = ']' :: r) (depth : Nat) :
    readValue (fuel + 1) depth s = if depth ≤ 1 then none else some (.arr [], r) := by
  rw [readValue, hs]
  simp only [hrest]

lemma readValue_object (hs : skipBlank s = '\x7b' :: rest)
    (hne : ∀ r, skipBlank rest ≠ '\x7d' :: r) (depth : Nat) :
    readValue (fuel + 1) depth s = if depth ≤ 1 then none else
      (readMembers fuel (depth - 1) (skipBlank rest)).map fun x => (.obj x.1, x.2) := by
  rw [readValue, hs]
  simp only

lemma readValue_noMembers {r : List Char} (hs : skipBlank s = '\x7b' :: rest)
    (hrest : skipBlank rest = '\x7d' :: r) (depth : Nat) :
    readValue (fuel + 1) depth s = if depth ≤ 1 then none else some (.obj [], r) := by
  rw [readValue, hs]
  simp only [hrest]

lemma wholeOf_nesting {negative : Bool} {ds : List Char} {j : Json}
    (h : wholeOf negative ds = some j) : j.nesting = 0 := by
  simp only [wholeOf] at h
  split_ifs at h
  · obtain ⟨x, -, rfl⟩ := Option.map_eq_some_iff.mp h
    rfl
  all_goals
    cases h
    rfl

lemma readNumber_nesting {j : Json} {r : List Char} (h : readNumber s = some (j, r)) :
    j.nesting = 0 := by
  simp only [readNumber] at h
  split at h
  · simp at h
  split_ifs at h
  split at h
  · simp at h
  split at h
  · simp at h
  split at h
  · obtain ⟨j', hj', heq⟩ := Option.map_eq_some_iff.mp h
    cases heq
    exact wholeOf_nesting hj'
  · obtain ⟨x, -, heq⟩ := Option.map_eq_some_iff.mp h
    cases heq
    rfl

end Level

/-! ### Readers that stop at a depth -/

/-- What a reader reads fits the depth it is given, and so does any other depth that it fits. -/
def Fits {α : Type} (nests : α → Nat) (read : Nat → Option (α × List Char)) : Prop :=
  ∀ ⦃depth a r⦄, read depth = some (a, r) → nests a ≤ depth - 1 ∧
    ∀ depth', nests a ≤ depth' - 1 → read depth' = some (a, r)

section Fits

variable {α : Type} {nests : α → Nat} {read : Nat → Option (α × List Char)}

lemma fits_flat {o : Option (α × List Char)} (h : ∀ a r, o = some (a, r) → nests a = 0) :
    Fits nests fun _ => o := by
  intro _ a r hread
  rw [h a r hread]
  exact ⟨Nat.zero_le _, fun _ _ => hread⟩

lemma Fits.deeper (h : Fits nests read) {wrap : α → Json}
    (hwrap : ∀ a, (wrap a).nesting = nests a + 1) :
    Fits nesting fun depth =>
      if depth ≤ 1 then none else (read (depth - 1)).map fun x => (wrap x.1, x.2) := by
  intro depth j r hread
  dsimp only at hread
  split_ifs at hread with hflat
  obtain ⟨⟨a, r'⟩, ha, heq⟩ := Option.map_eq_some_iff.mp hread
  obtain ⟨rfl, rfl⟩ : wrap a = j ∧ r' = r := by simpa using heq
  obtain ⟨hnests, hother⟩ := h ha
  rw [hwrap]
  refine ⟨by omega, fun depth' hdepth => ?_⟩
  dsimp only
  rw [if_neg (by omega), hother (depth' - 1) (by omega)]
  rfl

end Fits

/-- With so much fuel a reader stops at its depth and nowhere before it. -/
structure Bounded (fuel : Nat) : Prop where
  value : ∀ s, Fits nesting (readValue fuel · s)
  items : ∀ s, Fits itemsNesting (readItems fuel · s)
  members : ∀ s, Fits membersNesting (readMembers fuel · s)

namespace Bounded

variable {fuel : Nat}

lemma value_array (ih : Bounded fuel) {s rest : List Char} (hs : skipBlank s = '[' :: rest) :
    Fits nesting (readValue (fuel + 1) · s) := by
  have hwrap : ∀ xs, (arr xs).nesting = itemsNesting xs + 1 := fun _ => rfl
  by_cases hend : ∃ r, skipBlank rest = ']' :: r
  · obtain ⟨r, hr⟩ := hend
    simp only [readValue_noItems hs hr]
    have hnone : Fits itemsNesting fun _ => some ([], r) := fits_flat (by rintro _ _ ⟨⟩; rfl)
    exact hnone.deeper hwrap
  · simp only [readValue_array hs (not_exists.mp hend)]
    exact (ih.items (skipBlank rest)).deeper hwrap

lemma value_object (ih : Bounded fuel) {s rest : List Char} (hs : skipBlank s = '\x7b' :: rest) :
    Fits nesting (readValue (fuel + 1) · s) := by
  have hwrap : ∀ ms, (obj ms).nesting = membersNesting ms + 1 := fun _ => rfl
  by_cases hend : ∃ r, skipBlank rest = '\x7d' :: r
  · obtain ⟨r, hr⟩ := hend
    simp only [readValue_noMembers hs hr]
    have hnone : Fits membersNesting fun _ => some ([], r) := fits_flat (by rintro _ _ ⟨⟩; rfl)
    exact hnone.deeper hwrap
  · simp only [readValue_object hs (not_exists.mp hend)]
    exact (ih.members (skipBlank rest)).deeper hwrap

lemma value_flat {s : List Char} (harray : ∀ r, skipBlank s ≠ '[' :: r)
    (hobject : ∀ r, skipBlank s ≠ '\x7b' :: r) : Fits nesting (readValue (fuel + 1) · s) := by
  have hsame : (readValue (fuel + 1) · s) = fun _ => readValue (fuel + 1) 0 s := by
    funext depth
    rw [readValue, readValue]
    split
    next r hr => rfl
    next r hr => rfl
    next r hr => rfl
    next r hr => rfl
    next r hr => exact absurd hr (harray r)
    next r hr => exact absurd hr (hobject r)
    next => rfl
  rw [hsame]
  refine fits_flat fun j r h => ?_
  rw [readValue] at h
  split at h
  next => cases h; rfl
  next => cases h; rfl
  next => cases h; rfl
  next =>
    obtain ⟨cs, -, heq⟩ := Option.map_eq_some_iff.mp h
    cases heq
    rfl
  next r' hr => exact absurd hr (harray r')
  next r' hr => exact absurd hr (hobject r')
  next => exact readNumber_nesting h

lemma value_succ (ih : Bounded fuel) (s : List Char) : Fits nesting (readValue (fuel + 1) · s) := by
  by_cases harray : ∃ r, skipBlank s = '[' :: r
  · exact ih.value_array harray.choose_spec
  by_cases hobject : ∃ r, skipBlank s = '\x7b' :: r
  · exact ih.value_object hobject.choose_spec
  exact value_flat (not_exists.mp harray) (not_exists.mp hobject)

lemma items_succ (ih : Bounded fuel) (s : List Char) :
    Fits itemsNesting (readItems (fuel + 1) · s) := by
  intro depth xs r h
  simp only [readItems] at h ⊢
  rcases hx : readValue fuel depth s with _ | ⟨x, r₁⟩
  · simp [hx] at h
  obtain ⟨hnests, hother⟩ := ih.value s hx
  simp only [hx] at h
  split at h
  case h_1 r₂ hr₁ =>
    obtain ⟨xs', hxs, rfl⟩ := by simpa using h
    obtain ⟨hnests', hother'⟩ := ih.items r₂ hxs
    rw [itemsNesting]
    refine ⟨by omega, fun depth' hdepth => ?_⟩
    simp only [hother depth' (by omega), hr₁]
    simp [hother' depth' (by omega)]
  case h_2 r₂ hr₁ =>
    obtain ⟨rfl, rfl⟩ : [x] = xs ∧ r₂ = r := by simpa using h
    rw [itemsNesting, itemsNesting]
    refine ⟨by omega, fun depth' hdepth => ?_⟩
    simp only [hother depth' (by omega), hr₁]
  case h_3 => simp at h

lemma members_succ (ih : Bounded fuel) (s : List Char) :
    Fits membersNesting (readMembers (fuel + 1) · s) := by
  intro depth ms r h
  simp only [readMembers] at h ⊢
  split at h
  case h_2 => simp at h
  case h_1 r₁ hs =>
  rcases hkey : readQuoted r₁ with _ | ⟨key, r₂⟩
  · simp [hkey] at h
  simp only [hkey] at h ⊢
  split at h
  case h_2 => simp at h
  case h_1 r₃ hr₂ =>
  rcases hv : readValue fuel depth r₃ with _ | ⟨v, r₄⟩
  · simp [hv] at h
  obtain ⟨hnests, hother⟩ := ih.value r₃ hv
  simp only [hv] at h
  split at h
  case h_1 r₅ hr₄ =>
    obtain ⟨ms', hms, rfl⟩ := by simpa using h
    obtain ⟨hnests', hother'⟩ := ih.members r₅ hms
    rw [membersNesting]
    refine ⟨by omega, fun depth' hdepth => ?_⟩
    simp only [hother depth' (by omega), hr₄]
    simp [hother' depth' (by omega)]
  case h_2 r₅ hr₄ =>
    obtain ⟨rfl, rfl⟩ : [(String.ofList key, v)] = ms ∧ r₅ = r := by simpa using h
    rw [membersNesting, membersNesting]
    refine ⟨by omega, fun depth' hdepth => ?_⟩
    simp only [hother depth' (by omega), hr₄]
  case h_3 => simp at h

end Bounded

theorem bounded (fuel : Nat) : Bounded fuel := by
  induction fuel with
  | zero =>
    constructor
    · intro s depth j r h
      simp [readValue] at h
    · intro s depth xs r h
      simp [readItems] at h
    · intro s depth ms r h
      simp [readMembers] at h
  | succ fuel ih => exact ⟨ih.value_succ, ih.items_succ, ih.members_succ⟩

/-- **What a text is read as does not depend on the depth of the reader**, as long as it goes deeper
than the value nests. -/
theorem readWithin_eq_some_iff {depth depth' : Nat} {s : List Char} {j : Json}
    (h : readWithin depth s = some j) (hdepth : 0 < depth') :
    readWithin depth' s = some j ↔ j.nesting < depth' := by
  have hvalue := (bounded (2 * s.length + 2)).value s
  unfold readWithin at h ⊢
  rcases hread : readValue (2 * s.length + 2) depth s with _ | ⟨j', r⟩
  · simp [hread] at h
  obtain ⟨hblank, rfl⟩ : skipBlank r = [] ∧ j' = j := by simpa [hread] using h
  constructor
  · intro h'
    rcases hread' : readValue (2 * s.length + 2) depth' s with _ | ⟨k, r'⟩
    · simp [hread'] at h'
    obtain ⟨-, rfl⟩ : skipBlank r' = [] ∧ k = j' := by simpa [hread'] using h'
    have hnests := (hvalue hread').1
    omega
  · intro hnests
    have hother := (hvalue hread).2 depth' (by omega)
    simp [hother, hblank]

end Json

end QuantumDebug
