import Mathlib.Data.List.TakeDrop
import QuantumDebug.Json.Printer
import QuantumDebug.Proofs.Nesting

/-!
Printed JSON and what reading it gives. Printed text has no control characters, whatever stands in
the value. Texts and the two truth values are read back from it, and an object is if the values of
its members are: what is read of a text is read in the same way when more text follows, as it does
inside an object.
-/

namespace QuantumDebug

namespace Json

/-! ### Texts between quotes -/

lemma hexUnit_hexDigit : ∀ n < 32,
    hexUnit '0' '0' (hexDigit (n / 16)) (hexDigit (n % 16)) = some n := by
  decide

lemma readQuoted_plain {c : Char} (hquote : c ≠ '"') (hslash : c ≠ '\\') (hplain : 32 ≤ c.toNat)
    (s : List Char) :
    readQuoted (c :: s) = (readQuoted s).map fun (cs, rest) => (c :: cs, rest) := by
  have hhigh : ¬c.toNat < 32 := by omega
  simp [readQuoted, hslash, hhigh]

lemma readQuoted_hex {n : Nat} (h : n < 32) (s : List Char) :
    readQuoted ('\\' :: 'u' :: '0' :: '0' :: hexDigit (n / 16) :: hexDigit (n % 16) :: s)
      = (readQuoted s).map fun (cs, rest) => (Char.ofNat n :: cs, rest) := by
  have hhigh : ¬(0xD800 ≤ n ∧ n < 0xDC00) := by omega
  have hlow : ¬(0xDC00 ≤ n ∧ n < 0xE000) := by omega
  rw [readQuoted]
  simp only [hexUnit_hexDigit n h, hhigh, hlow, if_false]

lemma readQuoted_escape (c : Char) (s : List Char) :
    readQuoted (escape c ++ s) = (readQuoted s).map fun (cs, rest) => (c :: cs, rest) := by
  unfold escape
  split_ifs with hquote hslash hline hreturn htab hback hfeed hcontrol
  · subst hquote
    simp [readQuoted, unescape]
  · subst hslash
    simp [readQuoted, unescape]
  · subst hline
    simp [readQuoted, unescape]
  · subst hreturn
    simp [readQuoted, unescape]
  · subst htab
    simp [readQuoted, unescape]
  · obtain rfl : c = '\x08' := Char.ext (UInt32.toNat_inj.mp hback)
    simp [readQuoted, unescape]
  · obtain rfl : c = '\x0c' := Char.ext (UInt32.toNat_inj.mp hfeed)
    simp [readQuoted, unescape]
  · have := readQuoted_hex hcontrol s
    rw [Char.ofNat_toNat] at this
    exact this
  · exact readQuoted_plain hquote hslash (by omega) s

lemma readQuoted_chars (cs s : List Char) :
    readQuoted (cs.flatMap escape ++ '"' :: s) = some (cs, s) := by
  induction cs with
  | nil => simp [readQuoted]
  | cons c cs ih =>
    rw [List.flatMap_cons, List.append_assoc, readQuoted_escape, ih]
    rfl

/-! ### Text that goes on -/

/-- A text that does not go on with a number that stands before it. -/
def Ends (t : List Char) : Prop :=
  ∀ c r, t = c :: r → c.isDigit = false ∧ c ≠ '.' ∧ c ≠ 'e' ∧ c ≠ 'E'

lemma skipBlank_append {s r : List Char} {c : Char} (h : skipBlank s = c :: r) (t : List Char) :
    skipBlank (s ++ t) = c :: (r ++ t) := by
  unfold skipBlank at h ⊢
  rw [List.dropWhile_append, h]
  rfl

lemma skipBlank_append_of_blank {s : List Char} (h : skipBlank s = []) (t : List Char) :
    skipBlank (s ++ t) = skipBlank t := by
  unfold skipBlank at h ⊢
  rw [List.dropWhile_append, h]
  rfl

lemma readQuoted_append {s cs r : List Char} (h : readQuoted s = some (cs, r)) (t : List Char) :
    readQuoted (s ++ t) = some (cs, r ++ t) := by
  fun_induction readQuoted s generalizing cs r with
  | case2 rest =>
    obtain ⟨rfl, rfl⟩ : [] = cs ∧ rest = r := by simpa using h
    simp [readQuoted]
  | case5 a b c d high hhigh isHigh a' b' c' d' rest low hlow isLow ih =>
    obtain ⟨cs', hcs, rfl⟩ := by simpa using h
    simp [readQuoted, hhigh, isHigh, hlow, isLow, ih hcs]
  | case9 a b c d rest u hu notHigh notLow ih =>
    obtain ⟨cs', hcs, rfl⟩ := by simpa using h
    simp only [List.cons_append, readQuoted, hu, if_neg notHigh, if_neg notLow, ih hcs]
    rfl
  | case11 c rest x notUnit hx ih =>
    obtain ⟨cs', hcs, rfl⟩ := by simpa using h
    have hu : c ≠ 'u' := by rintro rfl; simp [unescape] at hx
    simp [readQuoted, hx, hu, ih hcs]
  | case13 c rest notQuote notUnit notEscape plain ih =>
    obtain ⟨cs', hcs, rfl⟩ := by simpa using h
    obtain ⟨hplain, hslash⟩ := not_or.mp plain
    rw [List.cons_append, readQuoted_plain notQuote hslash (by omega), ih hcs]
    rfl
  | _ => simp at h

lemma spanDigits_append {t : List Char} (ht : Ends t) (s : List Char) :
    spanDigits (s ++ t) = ((spanDigits s).1, (spanDigits s).2 ++ t) := by
  unfold spanDigits
  simp only [List.span_eq_takeWhile_dropWhile]
  induction s with
  | nil =>
    cases t with
    | nil => rfl
    | cons c r => simp [(ht c r rfl).1]
  | cons c s ih =>
    by_cases hc : c.isDigit
    · simp_all
    · simp [hc]

def readDigits (s : List Char) : Option (List Char × List Char) :=
  match spanDigits s with
  | ([], _) => none
  | (d :: ds, rest) => some (d :: ds, rest)

lemma readDigits_append {t : List Char} (ht : Ends t) {s ds r : List Char}
    (h : readDigits s = some (ds, r)) : readDigits (s ++ t) = some (ds, r ++ t) := by
  unfold readDigits at h ⊢
  rw [spanDigits_append ht]
  rcases hspan : spanDigits s with ⟨_ | ⟨d, ds'⟩, rest⟩
  · simp [hspan] at h
  · obtain ⟨rfl, rfl⟩ : d :: ds' = ds ∧ rest = r := by simpa [hspan] using h
    rfl

lemma readFraction_point (s : List Char) :
    readFraction ('.' :: s) = (readDigits s).map fun (ds, rest) => (some ds, rest) := by
  rcases hspan : spanDigits s with ⟨_ | ⟨d, ds⟩, rest⟩ <;> simp [readFraction, readDigits, hspan]

lemma readFraction_append {t : List Char} (ht : Ends t) {s r : List Char} {f : Option (List Char)}
    (h : readFraction s = some (f, r)) : readFraction (s ++ t) = some (f, r ++ t) := by
  cases s with
  | nil =>
    cases t with
    | nil => simpa using h
    | cons c t =>
      obtain ⟨-, hpoint, -⟩ := ht c t rfl
      obtain ⟨rfl, rfl⟩ : none = f ∧ [] = r := by simpa [readFraction] using h
      simp [readFraction, hpoint]
  | cons c s =>
    by_cases hpoint : c = '.'
    · subst hpoint
      rw [readFraction_point] at h
      obtain ⟨ds, hds, rfl⟩ : ∃ ds, readDigits s = some (ds, r) ∧ some ds = f := by simpa using h
      rw [List.cons_append, readFraction_point, readDigits_append ht hds]
      rfl
    · obtain ⟨rfl, rfl⟩ : none = f ∧ c :: s = r := by simpa [readFraction, hpoint] using h
      simp [readFraction, hpoint]

def exponentSign : List Char → Bool × List Char
  | '-' :: r => (true, r)
  | '+' :: r => (false, r)
  | r => (false, r)

lemma exponentSign_append {s : List Char} (h : s ≠ []) (t : List Char) :
    exponentSign (s ++ t) = ((exponentSign s).1, (exponentSign s).2 ++ t) := by
  cases s with
  | nil => exact absurd rfl h
  | cons c s =>
    by_cases hminus : c = '-'
    · subst hminus
      rfl
    by_cases hplus : c = '+'
    · subst hplus
      rfl
    · simp [exponentSign, hminus, hplus]

lemma readExponent_marked {c : Char} (h : c = 'e' ∨ c = 'E') (s : List Char) :
    readExponent (c :: s) = (readDigits (exponentSign s).2).map fun digits =>
      (some ((exponentSign s).1, digits.1), digits.2) := by
  cases s with
  | nil => simp [readExponent, h, exponentSign, readDigits, spanDigits]
  | cons d s =>
    by_cases hminus : d = '-'
    · subst hminus
      rcases hspan : spanDigits s with ⟨_ | ⟨x, ds⟩, rest⟩
      all_goals simp [readExponent, h, exponentSign, readDigits, hspan]
    by_cases hplus : d = '+'
    · subst hplus
      rcases hspan : spanDigits s with ⟨_ | ⟨x, ds⟩, rest⟩
      all_goals simp [readExponent, h, exponentSign, readDigits, hspan]
    · rcases hspan : spanDigits (d :: s) with ⟨_ | ⟨x, ds⟩, rest⟩
      all_goals simp [readExponent, h, exponentSign, readDigits, hminus, hplus, hspan]

lemma readExponent_append {t : List Char} (ht : Ends t) {s r : List Char}
    {e : Option (Bool × List Char)} (h : readExponent s = some (e, r)) :
    readExponent (s ++ t) = some (e, r ++ t) := by
  cases s with
  | nil =>
    cases t with
    | nil => simpa using h
    | cons c t =>
      obtain ⟨-, -, he, hE⟩ := ht c t rfl
      obtain ⟨rfl, rfl⟩ : none = e ∧ [] = r := by simpa [readExponent] using h
      simp [readExponent, he, hE]
  | cons c s =>
    by_cases hmark : c = 'e' ∨ c = 'E'
    · rw [readExponent_marked hmark] at h
      obtain ⟨ds, hds, rfl⟩ : ∃ ds, readDigits (exponentSign s).2 = some (ds, r) ∧
          some ((exponentSign s).1, ds) = e := by
        simpa using h
      have hs : s ≠ [] := by
        rintro rfl
        simp [exponentSign, readDigits, spanDigits, List.span, List.span.loop] at hds
      rw [List.cons_append, readExponent_marked hmark, exponentSign_append hs,
        readDigits_append ht hds]
      rfl
    · obtain ⟨rfl, rfl⟩ : none = e ∧ c :: s = r := by simpa [readExponent, hmark] using h
      simp [readExponent, hmark]

def readUnsigned (negative : Bool) (s : List Char) : Option (Json × List Char) :=
  match readDigits s with
  | none => none
  | some (whole, r) =>
    if whole.head? = some '0' ∧ 1 < whole.length then none else
      match readFraction r with
      | none => none
      | some (fraction, r) =>
        match readExponent r with
        | none => none
        | some (exponent, r) =>
          match fraction, exponent with
          | none, none => (wholeOf negative whole).map (·, r)
          | _, _ => (floatOf negative whole (fraction.getD []) exponent).map fun x => (.float x, r)

lemma readUnsigned_append {t : List Char} (ht : Ends t) {negative : Bool} {s r : List Char}
    {j : Json} (h : readUnsigned negative s = some (j, r)) :
    readUnsigned negative (s ++ t) = some (j, r ++ t) := by
  unfold readUnsigned at h ⊢
  rcases hwhole : readDigits s with _ | ⟨whole, r₁⟩
  · simp [hwhole] at h
  rw [readDigits_append ht hwhole]
  simp only [hwhole] at h ⊢
  split_ifs at h ⊢ with hzero
  rcases hfraction : readFraction r₁ with _ | ⟨fraction, r₂⟩
  · simp [hfraction] at h
  rw [readFraction_append ht hfraction]
  simp only [hfraction] at h ⊢
  rcases hexponent : readExponent r₂ with _ | ⟨exponent, r₃⟩
  · simp [hexponent] at h
  rw [readExponent_append ht hexponent]
  simp only [hexponent] at h ⊢
  cases fraction <;> cases exponent <;> simp_all

lemma readNumber_minus (s : List Char) : readNumber ('-' :: s) = readUnsigned true s := by
  simp only [readNumber, readUnsigned, readDigits]
  rcases spanDigits s with ⟨_ | ⟨d, ds⟩, rest⟩
  · rfl
  · rfl

lemma readNumber_plain {s : List Char} (h : ∀ r, s ≠ '-' :: r) :
    readNumber s = readUnsigned false s := by
  simp only [readNumber, readUnsigned, readDigits]
  rcases spanDigits s with ⟨_ | ⟨d, ds⟩, rest⟩
  · rfl
  · rfl

lemma readNumber_append {t : List Char} (ht : Ends t) {s r : List Char} {j : Json}
    (h : readNumber s = some (j, r)) : readNumber (s ++ t) = some (j, r ++ t) := by
  cases s with
  | nil => simp [readNumber, spanDigits, List.span, List.span.loop] at h
  | cons c s =>
    by_cases hminus : c = '-'
    · subst hminus
      rw [readNumber_minus] at h
      rw [List.cons_append, readNumber_minus]
      exact readUnsigned_append ht h
    · rw [readNumber_plain (by simp [hminus])] at h ⊢
      exact readUnsigned_append ht h

/-! ### Values that are followed by more -/

lemma readNumber_head {c : Char} {s r : List Char} {j : Json}
    (h : readNumber (c :: s) = some (j, r)) : c = '-' ∨ c.isDigit = true := by
  by_contra hhead
  obtain ⟨hminus, hdigit⟩ := not_or.mp hhead
  have hspan : readDigits (c :: s) = none := by
    simp [readDigits, spanDigits, List.span_eq_takeWhile_dropWhile, hdigit]
  rw [readNumber_plain (by simp [hminus]), readUnsigned, hspan] at h
  simp at h

lemma readValue_number {fuel depth : Nat} {c : Char} {s r : List Char}
    (hs : skipBlank s = c :: r) (hc : c = '-' ∨ c.isDigit = true) :
    readValue (fuel + 1) depth s = readNumber (c :: r) := by
  have hother : c ≠ 'n' ∧ c ≠ 't' ∧ c ≠ 'f' ∧ c ≠ '"' ∧ c ≠ '[' ∧ c ≠ '\x7b' := by
    refine ⟨?_, ?_, ?_, ?_, ?_, ?_⟩ <;> rintro rfl <;> revert hc <;> decide
  obtain ⟨hn, ht, hf, hquote, hitems, hmembers⟩ := hother
  rw [readValue, hs]
  split <;> simp_all

lemma readValue_nil (fuel depth : Nat) : readValue fuel depth [] = none := by
  cases fuel with
  | zero => rfl
  | succ fuel => simp [readValue, skipBlank, readNumber, spanDigits, List.span, List.span.loop]

lemma readItems_nil (fuel depth : Nat) : readItems fuel depth [] = none := by
  cases fuel with
  | zero => rfl
  | succ fuel => simp [readItems, readValue_nil]

lemma readMembers_nil (fuel depth : Nat) : readMembers fuel depth [] = none := by
  cases fuel with
  | zero => rfl
  | succ fuel => simp [readMembers, skipBlank]

/-- **What is read of a text is read of a longer text too**, with any more fuel. -/
structure Carries (t : List Char) (fuel : Nat) : Prop where
  value : ∀ {depth s j r}, readValue fuel depth s = some (j, r) →
    ∀ fuel' ≥ fuel, readValue fuel' depth (s ++ t) = some (j, r ++ t)
  items : ∀ {depth s xs r}, readItems fuel depth s = some (xs, r) →
    ∀ fuel' ≥ fuel, readItems fuel' depth (s ++ t) = some (xs, r ++ t)
  members : ∀ {depth s ms r}, readMembers fuel depth s = some (ms, r) →
    ∀ fuel' ≥ fuel, readMembers fuel' depth (s ++ t) = some (ms, r ++ t)

namespace Carries

variable {t : List Char} {fuel fuel' depth : Nat}

lemma value_array (ih : Carries t fuel) {s rest : List Char} {j : Json} {r : List Char}
    (hs : skipBlank s = '[' :: rest) (h : readValue (fuel + 1) depth s = some (j, r))
    (hfuel : fuel ≤ fuel') : readValue (fuel' + 1) depth (s ++ t) = some (j, r ++ t) := by
  rcases hrest : skipBlank rest with _ | ⟨c, rest'⟩
  · rw [readValue_array hs (by simp [hrest]), hrest, readItems_nil] at h
    split_ifs at h
    simp at h
  by_cases hc : c = ']'
  · subst hc
    rw [readValue_noItems hs hrest] at h
    rw [readValue_noItems (skipBlank_append hs t) (skipBlank_append hrest t)]
    split_ifs at h ⊢
    obtain ⟨rfl, rfl⟩ : .arr [] = j ∧ rest' = r := by simpa using h
    rfl
  · rw [readValue_array hs (by simp [hrest, hc])] at h
    rw [readValue_array (skipBlank_append hs t) (by simp [skipBlank_append hrest, hc])]
    split_ifs at h ⊢
    obtain ⟨xs, hxs, rfl⟩ := by simpa using h
    rw [hrest] at hxs
    rw [skipBlank_append hrest, ← List.cons_append, ih.items hxs fuel' hfuel]
    rfl

lemma value_object (ih : Carries t fuel) {s rest : List Char} {j : Json} {r : List Char}
    (hs : skipBlank s = '\x7b' :: rest) (h : readValue (fuel + 1) depth s = some (j, r))
    (hfuel : fuel ≤ fuel') : readValue (fuel' + 1) depth (s ++ t) = some (j, r ++ t) := by
  rcases hrest : skipBlank rest with _ | ⟨c, rest'⟩
  · rw [readValue_object hs (by simp [hrest]), hrest, readMembers_nil] at h
    split_ifs at h
    simp at h
  by_cases hc : c = '\x7d'
  · subst hc
    rw [readValue_noMembers hs hrest] at h
    rw [readValue_noMembers (skipBlank_append hs t) (skipBlank_append hrest t)]
    split_ifs at h ⊢
    obtain ⟨rfl, rfl⟩ : .obj [] = j ∧ rest' = r := by simpa using h
    rfl
  · rw [readValue_object hs (by simp [hrest, hc])] at h
    rw [readValue_object (skipBlank_append hs t) (by simp [skipBlank_append hrest, hc])]
    split_ifs at h ⊢
    obtain ⟨ms, hms, rfl⟩ := by simpa using h
    rw [hrest] at hms
    rw [skipBlank_append hrest, ← List.cons_append, ih.members hms fuel' hfuel]
    rfl

lemma value_succ (ht : Ends t) (ih : Carries t fuel) {s : List Char} {j : Json} {r : List Char}
    (h : readValue (fuel + 1) depth s = some (j, r)) (hfuel : fuel ≤ fuel') :
    readValue (fuel' + 1) depth (s ++ t) = some (j, r ++ t) := by
  have whole := h
  rw [readValue] at h
  split at h
  case h_1 rest hs | h_2 rest hs | h_3 rest hs =>
    obtain ⟨rfl, rfl⟩ : _ = j ∧ rest = r := by simpa using h
    rw [readValue, skipBlank_append hs]
    rfl
  case h_4 rest hs =>
    obtain ⟨cs, hcs, rfl⟩ := by simpa using h
    rw [readValue, skipBlank_append hs]
    simp [readQuoted_append hcs]
  case h_5 rest hs => exact ih.value_array hs whole hfuel
  case h_6 rest hs => exact ih.value_object hs whole hfuel
  case h_7 =>
    rcases hs : skipBlank s with _ | ⟨c, s'⟩
    · simp [hs, readNumber, spanDigits, List.span, List.span.loop] at h
    · rw [hs] at h
      have hc := readNumber_head h
      rw [readValue_number (skipBlank_append hs t) hc]
      exact readNumber_append ht h

lemma items_succ (ih : Carries t fuel) {s : List Char} {xs : List Json} {r : List Char}
    (h : readItems (fuel + 1) depth s = some (xs, r)) (hfuel : fuel ≤ fuel') :
    readItems (fuel' + 1) depth (s ++ t) = some (xs, r ++ t) := by
  rw [readItems] at h ⊢
  rcases hx : readValue fuel depth s with _ | ⟨x, r₁⟩
  · simp [hx] at h
  rw [ih.value hx fuel' hfuel]
  simp only [hx] at h ⊢
  split at h
  case h_1 r₂ hr₁ =>
    obtain ⟨xs', hxs, rfl⟩ := by simpa using h
    rw [skipBlank_append hr₁]
    simp [ih.items hxs fuel' hfuel]
  case h_2 r₂ hr₁ =>
    obtain ⟨rfl, rfl⟩ : [x] = xs ∧ r₂ = r := by simpa using h
    rw [skipBlank_append hr₁]
    rfl
  case h_3 => simp at h

lemma members_succ (ih : Carries t fuel) {s : List Char} {ms : List (String × Json)}
    {r : List Char} (h : readMembers (fuel + 1) depth s = some (ms, r)) (hfuel : fuel ≤ fuel') :
    readMembers (fuel' + 1) depth (s ++ t) = some (ms, r ++ t) := by
  rw [readMembers] at h ⊢
  split at h
  case h_2 => simp at h
  case h_1 r₁ hs =>
  rw [skipBlank_append hs]
  rcases hkey : readQuoted r₁ with _ | ⟨key, r₂⟩
  · simp [hkey] at h
  simp only [hkey, readQuoted_append hkey] at h ⊢
  split at h
  case h_2 => simp at h
  case h_1 r₃ hr₂ =>
  rw [skipBlank_append hr₂]
  rcases hv : readValue fuel depth r₃ with _ | ⟨v, r₄⟩
  · simp [hv] at h
  simp only [hv, ih.value hv fuel' hfuel] at h ⊢
  split at h
  case h_1 r₅ hr₄ =>
    obtain ⟨ms', hms, rfl⟩ := by simpa using h
    rw [skipBlank_append hr₄]
    simp [ih.members hms fuel' hfuel]
  case h_2 r₅ hr₄ =>
    obtain ⟨rfl, rfl⟩ : [(String.ofList key, v)] = ms ∧ r₅ = r := by simpa using h
    rw [skipBlank_append hr₄]
    rfl
  case h_3 => simp at h

end Carries

theorem carries {t : List Char} (ht : Ends t) (fuel : Nat) : Carries t fuel := by
  induction fuel with
  | zero => constructor <;> intros <;> simp_all [readValue, readItems, readMembers]
  | succ fuel ih =>
    constructor
    all_goals
      intro depth s j r h fuel' hfuel
      obtain ⟨fuel', rfl⟩ : ∃ n, fuel' = n + 1 := ⟨fuel' - 1, by omega⟩
    · exact ih.value_succ ht h (by omega)
    · exact ih.items_succ h (by omega)
    · exact ih.members_succ h (by omega)

/-! ### Values that are read back -/

/-- A value that its printed text gives back, nested less deep than so many levels. -/
def ReadsBack (depth : Nat) (j : Json) : Prop := readWithin depth j.chars = some j

instance (depth : Nat) (j : Json) : Decidable (j.ReadsBack depth) :=
  inferInstanceAs (Decidable (_ = _))

/-- A value that is read back by itself is read back in front of more text. -/
lemma ReadsBack.readValue {depth : Nat} {j : Json} (h : j.ReadsBack depth) {t : List Char}
    (ht : Ends t) (fuel : Nat) (hfuel : 2 * j.chars.length + 2 ≤ fuel) :
    ∃ r, skipBlank r = [] ∧ Json.readValue fuel depth (j.chars ++ t) = some (j, r ++ t) := by
  unfold ReadsBack readWithin at h
  rcases hread : Json.readValue (2 * j.chars.length + 2) depth j.chars with _ | ⟨j', r⟩
  · simp [hread] at h
  · obtain ⟨hblank, rfl⟩ : skipBlank r = [] ∧ j' = j := by simpa [hread] using h
    exact ⟨r, hblank, (carries ht _).value hread fuel hfuel⟩

/-- It is read back by every reader that goes deeper than the value nests, and by no other. -/
lemma ReadsBack.iff_nesting {depth depth' : Nat} {j : Json} (h : j.ReadsBack depth)
    (hdepth : 0 < depth') : j.ReadsBack depth' ↔ j.nesting < depth' :=
  readWithin_eq_some_iff h hdepth

lemma parse?_text (j : Json) : parse? j.text = some j ↔ j.ReadsBack depthLimit := by
  rw [parse?, text, String.toList_ofList, ReadsBack]

lemma ends_of_symbol {c : Char} (h : c = ',' ∨ c = '\x7d') (t : List Char) : Ends (c :: t) := by
  rintro _ _ ⟨rfl, rfl⟩
  rcases h with rfl | rfl <;> decide

lemma quote_append (s : String) (t : List Char) :
    quote s ++ t = '"' :: (s.toList.flatMap escape ++ '"' :: t) := by
  simp [quote]

section Members

variable {fuel depth : Nat} (key : String) {v : Json} {r : List Char}

lemma readMembers_last {t : List Char} (hr : skipBlank r = [])
    (hv : Json.readValue fuel depth (v.chars ++ '\x7d' :: t) = some (v, r ++ '\x7d' :: t)) :
    readMembers (fuel + 1) depth (quote key ++ ':' :: (v.chars ++ '\x7d' :: t))
      = some ([(key, v)], t) := by
  have hquote : ∀ s, skipBlank ('"' :: s) = '"' :: s := fun _ => rfl
  have hcolon : ∀ s, skipBlank (':' :: s) = ':' :: s := fun _ => rfl
  have hclose : skipBlank ('\x7d' :: t) = '\x7d' :: t := rfl
  simp [readMembers, quote_append, hquote, readQuoted_chars, hcolon, hv,
    skipBlank_append_of_blank hr, hclose]

lemma readMembers_next {t : List Char} (hr : skipBlank r = [])
    (hv : Json.readValue fuel depth (v.chars ++ ',' :: t) = some (v, r ++ ',' :: t)) :
    readMembers (fuel + 1) depth (quote key ++ ':' :: (v.chars ++ ',' :: t))
      = (readMembers fuel depth t).map fun (ms, rest) => ((key, v) :: ms, rest) := by
  have hquote : ∀ s, skipBlank ('"' :: s) = '"' :: s := fun _ => rfl
  have hcolon : ∀ s, skipBlank (':' :: s) = ':' :: s := fun _ => rfl
  have hcomma : skipBlank (',' :: t) = ',' :: t := rfl
  simp [readMembers, quote_append, hquote, readQuoted_chars, hcolon, hv,
    skipBlank_append_of_blank hr, hcomma]

end Members

lemma readMembers_chars {depth : Nat} (t : List Char) {ms : List (String × Json)} (hne : ms ≠ [])
    (h : ∀ m ∈ ms, ReadsBack depth m.2) (fuel : Nat)
    (hfuel : 2 * (membersChars ms).length + 2 ≤ fuel) :
    readMembers fuel depth (membersChars ms ++ '\x7d' :: t) = some (ms, t) := by
  induction ms generalizing fuel with
  | nil => exact absurd rfl hne
  | cons m ms ih =>
    obtain ⟨key, v⟩ := m
    obtain ⟨fuel, rfl⟩ : ∃ n, fuel = n + 1 := ⟨fuel - 1, by omega⟩
    have hv : v.ReadsBack depth := h (key, v) (by simp)
    cases ms with
    | nil =>
      simp only [membersChars, List.length_append, List.length_cons] at hfuel
      have hends : Ends ('\x7d' :: t) := ends_of_symbol (.inr rfl) t
      obtain ⟨r, hr, hread⟩ := hv.readValue hends fuel (by omega)
      rw [membersChars, List.append_assoc, List.cons_append]
      exact readMembers_last key hr hread
    | cons m ms =>
      simp only [membersChars, List.length_append, List.length_cons] at hfuel
      have hends : Ends (',' :: (membersChars (m :: ms) ++ '\x7d' :: t)) :=
        ends_of_symbol (.inl rfl) _
      obtain ⟨r, hr, hread⟩ := hv.readValue hends fuel (by omega)
      have hrest := ih (by simp) (fun m hm => h m (by simp [hm])) fuel (by omega)
      have hnext := readMembers_next key hr hread
      rw [hrest] at hnext
      simpa [membersChars] using hnext

lemma membersChars_head (m : String × Json) (ms : List (String × Json)) :
    ∃ s, membersChars (m :: ms) = '"' :: s := by
  cases ms with
  | nil => exact ⟨_, rfl⟩
  | cons n ms => exact ⟨_, rfl⟩

/-- **An object is read back if the values of its members are**, one level deeper. -/
theorem ReadsBack.obj {depth : Nat} {ms : List (String × Json)} (hdepth : 0 < depth)
    (h : ∀ m ∈ ms, ReadsBack depth m.2) : ReadsBack (depth + 1) (.obj ms) := by
  have hdeep : ¬depth + 1 ≤ 1 := by omega
  have hopen : ∀ s, skipBlank ('\x7b' :: s) = '\x7b' :: s := fun _ => rfl
  unfold ReadsBack readWithin
  rw [Json.readValue, chars, hopen]
  cases ms with
  | nil => simp [hdeep, membersChars, skipBlank, isBlank]
  | cons m ms =>
    obtain ⟨s, hs⟩ := membersChars_head m ms
    have hblank : ∀ t, skipBlank (membersChars (m :: ms) ++ t) = '"' :: (s ++ t) := by
      intro t
      rw [hs]
      rfl
    have hread := readMembers_chars [] (by simp) h
    rw [hs, List.cons_append] at hread
    have hall := hread (2 * ((membersChars (m :: ms)).length + 1 + 1) + 1) (by rw [hs]; omega)
    simp only [if_neg hdeep, hblank, Nat.add_sub_cancel]
    simp [hall, skipBlank]

theorem ReadsBack.str (depth : Nat) (s : String) : ReadsBack depth (.str s) := by
  have hopen : ∀ s, skipBlank ('"' :: s) = '"' :: s := fun _ => rfl
  have hread := readQuoted_chars s.toList []
  unfold ReadsBack readWithin
  rw [Json.readValue, chars, quote, hopen]
  simp [hread, skipBlank]

theorem ReadsBack.bool (depth : Nat) (b : Bool) : ReadsBack depth (.bool b) := by
  cases b <;> rfl

/-! ### Control characters -/

/-- A text without control characters, and so without line breaks. -/
def Plain (s : List Char) : Prop := ∀ c ∈ s, 32 ≤ c.toNat

@[simp] lemma plain_nil : Plain [] := nofun

@[simp] lemma plain_cons {c : Char} {s : List Char} : Plain (c :: s) ↔ 32 ≤ c.toNat ∧ Plain s := by
  simp [Plain]

@[simp] lemma plain_append {s t : List Char} : Plain (s ++ t) ↔ Plain s ∧ Plain t := by
  simp only [Plain, List.mem_append, or_imp, forall_and]

lemma Plain.of_subset {s t : List Char} (h : Plain t) (hs : s ⊆ t) : Plain s :=
  fun c hc => h c (hs hc)

lemma plain_digits (n : Nat) : Plain (Nat.toDigits 10 n) := by
  intro c hc
  have hdigit : c.isDigit = true := Nat.isDigit_of_mem_toDigits (by decide) (by decide) hc
  have hlow : 48 ≤ c.toNat := by
    have hval := (of_decide_eq_true (Bool.and_eq_true_iff.mp hdigit).1 : '0'.val ≤ c.val)
    exact UInt32.le_iff_toNat_le.mp hval
  omega

lemma plain_zeros (n : Nat) : Plain (List.replicate n '0') := by
  intro c hc
  rw [List.eq_of_mem_replicate hc]
  decide

lemma plain_hexDigit : ∀ n < 16, 32 ≤ (hexDigit n).toNat := by decide

lemma plain_escape (c : Char) : Plain (escape c) := by
  unfold escape
  split_ifs with _ _ _ _ _ _ _ hcontrol
  rotate_right 2
  · have hhigh := plain_hexDigit (c.toNat / 16) (by omega)
    have hlow := plain_hexDigit (c.toNat % 16) (by omega)
    simp [hhigh, hlow]
  · simpa using hcontrol
  all_goals simp

lemma plain_quote (s : String) : Plain (quote s) := by
  have hbody : Plain (s.toList.flatMap escape) := by
    intro c hc
    obtain ⟨d, -, hd⟩ := List.mem_flatMap.mp hc
    exact plain_escape d c hd
  simp [quote, hbody]

lemma plain_int (n : Int) : Plain (toString n).toList := by
  cases n with
  | ofNat n =>
    show Plain (Nat.repr n).toList
    rw [Nat.toList_repr]
    exact plain_digits n
  | negSucc n =>
    show Plain ("-" ++ Nat.repr (n + 1)).toList
    rw [String.toList_append, Nat.toList_repr]
    simp [plain_digits]

lemma plain_padded (width n : Nat) : Plain (Binary64.padded width n) := by
  simp [Binary64.padded, plain_zeros, plain_digits]

lemma plain_magnitude (layout : Binary64.Layout) (x : Binary64) : Plain (x.magnitude layout) := by
  have hdigits := plain_digits x.digits.1
  have htake := fun n => hdigits.of_subset (List.take_subset n _)
  have hdrop := fun n => hdigits.of_subset (List.drop_subset n _)
  unfold Binary64.magnitude
  split
  · simp
  simp only
  split
  · split
    · simp [hdigits, plain_zeros]
    · split
      · simp [htake, hdrop]
      · simp [hdigits, plain_zeros]
  · simp only [plain_append, plain_padded, and_true]
    constructor
    · generalize x.digits.1 = ds at hdigits ⊢
      split <;> simp_all
    · split <;> simp

lemma plain_float (x : Binary64) : Plain x.chars := by
  unfold Binary64.chars
  split <;> simp [plain_magnitude]

mutual

/-- **Printed text has no control characters.** -/
theorem plain_chars : ∀ j : Json, Plain j.chars
  | .null => by simp [chars]
  | .bool true => by simp [chars]
  | .bool false => by simp [chars]
  | .int n => plain_int n
  | .float x => plain_float x
  | .str s => plain_quote s
  | .arr xs => by simp [chars, plain_itemsChars xs]
  | .obj ms => by simp [chars, plain_membersChars ms]

theorem plain_itemsChars : ∀ xs : List Json, Plain (itemsChars xs)
  | [] => plain_nil
  | [x] => plain_chars x
  | x :: y :: xs => by simp [itemsChars, plain_chars x, plain_itemsChars (y :: xs)]

theorem plain_membersChars : ∀ ms : List (String × Json), Plain (membersChars ms)
  | [] => plain_nil
  | [(k, v)] => by simp [membersChars, plain_quote, plain_chars v]
  | (k, v) :: m :: ms => by
    simp [membersChars, plain_quote, plain_chars v, plain_membersChars (m :: ms)]

end

end Json

end QuantumDebug
