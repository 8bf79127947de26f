import QuantumDebug.Proofs.Session.Stack

/-!
The names of files as the client is shown them. A file goes by its path, percent forms decoded, but
is named by the last segment of its URL as it is written there. The two agree exactly if there is
nothing to decode and the path does not end like a drive, after which it gets a slash: octets that
stand for characters give them back, and every percent form makes the path shorter than the URL.
-/

namespace QuantumDebug

variable {S : Surroundings}

namespace Text.Utf8

/-! ### Octets of characters -/

/-- A character is left open between octets that go on with it only. -/
def Sound (state : Option Partial) : Prop := ∀ p, state = some p → 0x80 ≤ p.low ∧ p.high ≤ 0xBF

lemma sound_none : Sound none := nofun

lemma run_cons (state : Option Partial) (b : UInt8) (bs : List UInt8) :
    run state (b :: bs) = (step state b).1 ++ run (step state b).2 bs := rfl

lemma run_nil_length (state : Option Partial) :
    (run state []).length = if state.isSome then 1 else 0 := by
  cases state <;> rfl

lemma step_of_not_continuing {state : Option Partial} (h : Sound state) {b : UInt8}
    (hb : b.toNat < 0x80 ∨ 0xBF < b.toNat) :
    step state b = (run state [] ++ (begin b).1, (begin b).2) := by
  cases state with
  | none => rfl
  | some p =>
    obtain ⟨hlow, hhigh⟩ := h p rfl
    have hout : ¬(p.low ≤ b.toNat ∧ b.toNat ≤ p.high) := by omega
    simp only [step, if_neg hout]
    rfl

lemma begin_char {b : UInt8} (h : b.toNat < 0x80) :
    begin b = ([some (Char.ofNat b.toNat)], none) := by
  simp [begin, start, h]

lemma begin_two {b : UInt8} (h : 0xC2 ≤ b.toNat) (h' : b.toNat < 0xE0) :
    begin b = ([], some ⟨b.toNat - 0xC0, 1, 0x80, 0xBF⟩) := by
  have h₁ : ¬b.toNat < 0x80 := by omega
  have h₂ : ¬b.toNat < 0xC2 := by omega
  simp [begin, start, h₁, h₂, h']

lemma begin_three {b : UInt8} (h : 0xE0 ≤ b.toNat) (h' : b.toNat < 0xF0) :
    begin b = ([], some ⟨b.toNat - 0xE0, 2, if b.toNat = 0xE0 then 0xA0 else 0x80,
      if b.toNat = 0xED then 0x9F else 0xBF⟩) := by
  have h₁ : ¬b.toNat < 0x80 := by omega
  have h₂ : ¬b.toNat < 0xC2 := by omega
  have h₃ : ¬b.toNat < 0xE0 := by omega
  simp only [begin, start, h₁, h₂, h₃, h', if_true, if_false]

lemma begin_four {b : UInt8} (h : 0xF0 ≤ b.toNat) (h' : b.toNat < 0xF5) :
    begin b = ([], some ⟨b.toNat - 0xF0, 3, if b.toNat = 0xF0 then 0x90 else 0x80,
      if b.toNat = 0xF4 then 0x8F else 0xBF⟩) := by
  have h₁ : ¬b.toNat < 0x80 := by omega
  have h₂ : ¬b.toNat < 0xC2 := by omega
  have h₃ : ¬b.toNat < 0xE0 := by omega
  have h₄ : ¬b.toNat < 0xF0 := by omega
  simp only [begin, start, h₁, h₂, h₃, h₄, h', if_true, if_false]

lemma step_last {p : Partial} {b : UInt8} (hlow : p.low ≤ b.toNat) (hhigh : b.toNat ≤ p.high)
    (hmissing : p.missing = 1) :
    step (some p) b = ([some (Char.ofNat (p.value * 64 + (b.toNat - 0x80)))], none) := by
  simp [step, hlow, hhigh, hmissing]

lemma step_inner {p : Partial} {b : UInt8} (hlow : p.low ≤ b.toNat) (hhigh : b.toNat ≤ p.high)
    (hmissing : p.missing ≠ 1) :
    step (some p) b
      = ([], some ⟨p.value * 64 + (b.toNat - 0x80), p.missing - 1, 0x80, 0xBF⟩) := by
  simp [step, hlow, hhigh, hmissing]

lemma sound_begin (b : UInt8) : Sound (begin b).2 := by
  intro p hp
  by_cases h₁ : b.toNat < 0x80
  · simp [begin_char h₁] at hp
  by_cases h₂ : b.toNat < 0xC2
  · simp [begin, start, h₁, h₂] at hp
  by_cases h₃ : b.toNat < 0xE0
  · rw [begin_two (by omega) h₃] at hp
    obtain rfl := Option.some.inj hp
    simp
  by_cases h₄ : b.toNat < 0xF0
  · rw [begin_three (by omega) h₄] at hp
    obtain rfl := Option.some.inj hp
    dsimp only
    split_ifs <;> omega
  by_cases h₅ : b.toNat < 0xF5
  · rw [begin_four (by omega) h₅] at hp
    obtain rfl := Option.some.inj hp
    dsimp only
    split_ifs <;> omega
  · simp [begin, start, h₁, h₂, h₃, h₄, h₅] at hp

lemma sound_step (state : Option Partial) (b : UInt8) : Sound (step state b).2 := by
  cases state with
  | none => exact sound_begin b
  | some p =>
    by_cases hin : p.low ≤ b.toNat ∧ b.toNat ≤ p.high
    · by_cases hmissing : p.missing = 1
      · rw [step_last hin.1 hin.2 hmissing]
        exact sound_none
      · rw [step_inner hin.1 hin.2 hmissing]
        intro q hq
        obtain rfl := Option.some.inj hq
        simp
    · simp only [step, if_neg hin]
      exact sound_begin b

section Encoded

variable {state : Option Partial} {v : Nat}

lemma octet_toNat {n : Nat} (hn : n < 256) : (UInt8.ofNat n).toNat = n := by
  simp [Nat.mod_eq_of_lt hn]

lemma run_one (h : Sound state) (hv : v < 0x80) (bs : List UInt8) :
    run state (UInt8.ofNat v :: bs) = run state [] ++ some (Char.ofNat v) :: run none bs := by
  have hb := octet_toNat (n := v) (by omega)
  rw [run_cons, step_of_not_continuing h (by omega), begin_char (by omega), hb, List.append_assoc]
  rfl

lemma run_two (h : Sound state) (hlow : 0x80 ≤ v) (hhigh : v < 0x800) (bs : List UInt8) :
    run state (UInt8.ofNat (v / 64 % 32 + 192) :: UInt8.ofNat (v % 64 + 128) :: bs)
      = run state [] ++ some (Char.ofNat v) :: run none bs := by
  have hb := octet_toNat (n := v / 64 % 32 + 192) (by omega)
  have hb₁ := octet_toNat (n := v % 64 + 128) (by omega)
  have hv : (v / 64 % 32 + 192 - 0xC0) * 64 + (v % 64 + 128 - 0x80) = v := by omega
  rw [run_cons, step_of_not_continuing h (by omega), begin_two (by omega) (by omega), run_cons,
    step_last (by dsimp only; omega) (by dsimp only; omega) rfl]
  dsimp only
  rw [hb, hb₁, hv, List.append_nil]
  rfl

lemma run_three (h : Sound state) (hlow : 0x800 ≤ v) (hhigh : v < 0x10000)
    (hvalid : v < 0xD800 ∨ 0xDFFF < v) (bs : List UInt8) :
    run state (UInt8.ofNat (v / 4096 % 16 + 224) :: UInt8.ofNat (v / 64 % 64 + 128) ::
        UInt8.ofNat (v % 64 + 128) :: bs)
      = run state [] ++ some (Char.ofNat v) :: run none bs := by
  have hb := octet_toNat (n := v / 4096 % 16 + 224) (by omega)
  have hb₁ := octet_toNat (n := v / 64 % 64 + 128) (by omega)
  have hb₂ := octet_toNat (n := v % 64 + 128) (by omega)
  have hv : ((v / 4096 % 16 + 224 - 0xE0) * 64 + (v / 64 % 64 + 128 - 0x80)) * 64
      + (v % 64 + 128 - 0x80) = v := by omega
  rw [run_cons, step_of_not_continuing h (by omega), begin_three (by omega) (by omega), run_cons,
    step_inner (by dsimp only; split_ifs <;> omega) (by dsimp only; split_ifs <;> omega)
      (by simp), run_cons, step_last (by dsimp only; omega) (by dsimp only; omega) rfl]
  dsimp only
  rw [hb, hb₁, hb₂, hv, List.append_nil]
  rfl

lemma run_four (h : Sound state) (hlow : 0x10000 ≤ v) (hhigh : v < 0x110000) (bs : List UInt8) :
    run state (UInt8.ofNat (v / 262144 % 8 + 240) :: UInt8.ofNat (v / 4096 % 64 + 128) ::
        UInt8.ofNat (v / 64 % 64 + 128) :: UInt8.ofNat (v % 64 + 128) :: bs)
      = run state [] ++ some (Char.ofNat v) :: run none bs := by
  have hb := octet_toNat (n := v / 262144 % 8 + 240) (by omega)
  have hb₁ := octet_toNat (n := v / 4096 % 64 + 128) (by omega)
  have hb₂ := octet_toNat (n := v / 64 % 64 + 128) (by omega)
  have hb₃ := octet_toNat (n := v % 64 + 128) (by omega)
  have hv : (((v / 262144 % 8 + 240 - 0xF0) * 64 + (v / 4096 % 64 + 128 - 0x80)) * 64
      + (v / 64 % 64 + 128 - 0x80)) * 64 + (v % 64 + 128 - 0x80) = v := by omega
  rw [run_cons, step_of_not_continuing h (by omega), begin_four (by omega) (by omega), run_cons,
    step_inner (by dsimp only; split_ifs <;> omega) (by dsimp only; split_ifs <;> omega)
      (by simp), run_cons, step_inner (by dsimp only; omega) (by dsimp only; omega) (by simp),
    run_cons, step_last (by dsimp only; omega) (by dsimp only; omega) rfl]
  dsimp only
  rw [hb, hb₁, hb₂, hb₃, hv, List.append_nil]
  rfl

lemma run_encodeChar (h : Sound state) (c : Char) (bs : List UInt8) :
    run state (encodeChar c ++ bs) = run state [] ++ some c :: run none bs := by
  have hvalid : c.val.toNat < 0xD800 ∨ 0xDFFF < c.val.toNat ∧ c.val.toNat < 0x110000 := by
    have hvalid := c.valid
    rwa [UInt32.isValidChar, Nat.isValidChar] at hvalid
  have hc : Char.ofNat c.val.toNat = c := Char.ofNat_toNat c
  unfold encodeChar String.utf8EncodeChar
  generalize c.val.toNat = v at hvalid hc ⊢
  subst hc
  dsimp only
  split_ifs with h₁ h₂ h₃
  · exact run_one h (by omega) bs
  · exact run_two h (by omega) (by omega) bs
  · exact run_three h (by omega) (by omega) (by omega) bs
  · exact run_four h (by omega) (by omega) bs

end Encoded

lemma encodeChar_percent : encodeChar '%' = [37] := by decide

lemma run_encode (cs : List Char) : run none (encode cs) = cs.map some := by
  induction cs with
  | nil => rfl
  | cons c cs ih =>
    rw [encode, List.flatMap_cons, run_encodeChar sound_none]
    exact congrArg (some c :: ·) ih

lemma decodeLossy_encode (cs : List Char) : decodeLossy (encode cs) = String.ofList cs := by
  rw [decodeLossy, run_encode, List.map_map]
  simp [Function.comp_def]

lemma run_slash {state : Option Partial} (h : Sound state) (bs bs' : List UInt8) :
    run state (bs ++ 47 :: bs') = run state bs ++ some '/' :: run none bs' := by
  induction bs generalizing state with
  | nil =>
    have hslash : begin 47 = ([some '/'], none) := by decide
    rw [List.nil_append, run_cons, step_of_not_continuing h (by decide), hslash, List.append_assoc]
    rfl
  | cons b bs ih =>
    rw [List.cons_append, run_cons, run_cons, ih (sound_step _ b), List.append_assoc]

lemma begin_length (b : UInt8) : (begin b).1.length + (run (begin b).2 []).length = 1 := by
  unfold begin
  cases start b <;> rfl

lemma step_length (state : Option Partial) (b : UInt8) :
    (step state b).1.length + (run (step state b).2 []).length
      ≤ (run state []).length + 1 := by
  cases state with
  | none => exact (begin_length b).le
  | some p =>
    have hopen : (run (some p) []).length = 1 := rfl
    rw [hopen]
    by_cases hin : p.low ≤ b.toNat ∧ b.toNat ≤ p.high
    · by_cases hmissing : p.missing = 1
      · rw [step_last hin.1 hin.2 hmissing]
        simp [run_nil_length]
      · rw [step_inner hin.1 hin.2 hmissing]
        simp [run_nil_length]
    · have hbegin := begin_length b
      simp only [step, if_neg hin, List.length_cons]
      omega

end Text.Utf8

namespace Url

open Text

/-! ### Percent forms -/

/-- Somewhere in a text two hexadecimal digits follow a percent sign. -/
def HasPercentForm (s : List Char) : Prop :=
  ∃ a b, (hexValue a).isSome = true ∧ (hexValue b).isSome = true ∧ ['%', a, b] <:+: s

lemma hasPercentForm_cons {c : Char} {s : List Char} : HasPercentForm (c :: s) ↔
    (∃ a b r, c = '%' ∧ s = a :: b :: r ∧ (hexValue a).isSome = true ∧
      (hexValue b).isSome = true) ∨ HasPercentForm s := by
  constructor
  · rintro ⟨a, b, ha, hb, hinfix⟩
    rcases List.infix_cons_iff.mp hinfix with ⟨r, hr⟩ | hinfix
    · obtain ⟨rfl, rfl⟩ : '%' = c ∧ a :: b :: r = s := by simpa using hr
      exact .inl ⟨a, b, r, rfl, rfl, ha, hb⟩
    · exact .inr ⟨a, b, ha, hb, hinfix⟩
  · rintro (⟨a, b, r, rfl, rfl, ha, hb⟩ | ⟨a, b, ha, hb, hinfix⟩)
    · exact ⟨a, b, ha, hb, List.infix_cons_iff.mpr (.inl ⟨r, rfl⟩)⟩
    · exact ⟨a, b, ha, hb, List.infix_cons_iff.mpr (.inr hinfix)⟩

lemma decode_plain {s : List Char} (h : ¬HasPercentForm s) : decode s = Utf8.encode s := by
  fun_induction decode s with
  | case1 => rfl
  | case2 a b r x y hy hx ih =>
    exact absurd (hasPercentForm_cons.mpr (.inl ⟨a, b, r, rfl, rfl, by simp [hx], by simp [hy]⟩)) h
  | case3 a b r hhex ih =>
    have hrest : ¬HasPercentForm (a :: b :: r) := fun hr => h (hasPercentForm_cons.mpr (.inr hr))
    have hpercent : Utf8.encode ('%' :: a :: b :: r)
        = Utf8.encodeChar '%' ++ Utf8.encode (a :: b :: r) := rfl
    rw [ih hrest, hpercent, Utf8.encodeChar_percent, List.singleton_append]
  | case4 c r hc ih =>
    have hrest : ¬HasPercentForm r := fun hr => h (hasPercentForm_cons.mpr (.inr hr))
    rw [ih hrest]
    rfl

lemma run_encodeChar_length {state : Option Utf8.Partial} (hstate : Utf8.Sound state) (c : Char)
    (bs : List UInt8) : (Utf8.run state (Utf8.encodeChar c ++ bs)).length
      = (Utf8.run state []).length + 1 + (Utf8.run none bs).length := by
  rw [Utf8.run_encodeChar hstate, List.length_append, List.length_cons]
  omega

/-- Reading a text never makes it longer, and with a percent form in it makes it shorter. -/
lemma run_decode_length {state : Option Utf8.Partial} (hstate : Utf8.Sound state) (s : List Char) :
    (Utf8.run state (decode s)).length ≤ (Utf8.run state []).length + s.length ∧
      (HasPercentForm s →
        (Utf8.run state (decode s)).length < (Utf8.run state []).length + s.length) := by
  have hclosed : (Utf8.run none []).length = 0 := rfl
  fun_induction decode s generalizing state with
  | case1 =>
    refine ⟨Nat.le_add_right _ _, ?_⟩
    rintro ⟨a, b, -, -, hinfix⟩
    simp at hinfix
  | case2 a b r x y hy hx ih =>
    have hlength := Utf8.step_length state (UInt8.ofNat (16 * x + y))
    obtain ⟨hrest, -⟩ := ih (Utf8.sound_step state (UInt8.ofNat (16 * x + y)))
    rw [Utf8.run_cons, List.length_append]
    simp only [List.length_cons]
    exact ⟨by omega, fun _ => by omega⟩
  | case3 a b r hhex ih =>
    have hpercent := run_encodeChar_length hstate '%' (decode (a :: b :: r))
    rw [Utf8.encodeChar_percent, List.singleton_append] at hpercent
    obtain ⟨hle, hlt⟩ := ih Utf8.sound_none
    rw [hpercent, List.length_cons]
    refine ⟨by omega, fun hform => ?_⟩
    rcases hasPercentForm_cons.mp hform with ⟨a', b', r', -, heq, ha, hb⟩ | hform
    · obtain ⟨rfl, hbr⟩ := List.cons.inj heq
      obtain ⟨rfl, rfl⟩ := List.cons.inj hbr
      obtain ⟨x, hx⟩ := Option.isSome_iff_exists.mp ha
      obtain ⟨y, hy⟩ := Option.isSome_iff_exists.mp hb
      exact (hhex x y hx hy).elim
    · have := hlt hform
      omega
  | case4 c r hc ih =>
    obtain ⟨hle, hlt⟩ := ih Utf8.sound_none
    rw [run_encodeChar_length hstate, List.length_cons]
    refine ⟨by omega, fun hform => ?_⟩
    rcases hasPercentForm_cons.mp hform with ⟨a, b, r', rfl, rfl, -⟩ | hform
    · exact (hc a b r' rfl rfl).elim
    · have := hlt hform
      omega

/-! ### The last component of a path -/

def lastComponent (s : List Char) : List Char := ((splitAt '/' s).getLast?).getD []

section SplitAt

variable (c : Char) (s t : List Char)

lemma splitAt_cons_self : splitAt c (c :: s) = [] :: splitAt c s := by simp [splitAt]

lemma splitAt_cons_ne {d : Char} (h : d ≠ c) :
    ∃ p ps, splitAt c s = p :: ps ∧ splitAt c (d :: s) = (d :: p) :: ps := by
  obtain ⟨p, ps, hs⟩ := List.exists_cons_of_ne_nil (splitAt_ne_nil c s)
  refine ⟨p, ps, hs, ?_⟩
  simp only [splitAt, List.foldr_cons, if_neg h] at hs ⊢
  rw [hs]

lemma splitAt_append : splitAt c (s ++ c :: t) = splitAt c s ++ splitAt c t := by
  induction s with
  | nil => exact splitAt_cons_self c t
  | cons d s ih =>
    by_cases hd : d = c
    · subst hd
      rw [List.cons_append, splitAt_cons_self, splitAt_cons_self, ih, List.cons_append]
    · obtain ⟨p, ps, hs, hcons⟩ := splitAt_cons_ne c s hd
      obtain ⟨p', ps', hs', hcons'⟩ := splitAt_cons_ne c (s ++ c :: t) hd
      rw [ih, hs, List.cons_append] at hs'
      obtain ⟨rfl, rfl⟩ := List.cons.inj hs'
      rw [List.cons_append, hcons', hcons, List.cons_append]

lemma mem_splitAt {p : List Char} (h : p ∈ splitAt c s) : c ∉ p ∧ p.length ≤ s.length := by
  induction s generalizing p with
  | nil =>
    obtain rfl : p = [] := by simpa [splitAt] using h
    simp
  | cons d s ih =>
    by_cases hd : d = c
    · subst hd
      rw [splitAt_cons_self] at h
      rcases List.mem_cons.mp h with rfl | h
      · simp
      · obtain ⟨hsep, hlength⟩ := ih h
        exact ⟨hsep, hlength.trans (Nat.le_succ _)⟩
    · obtain ⟨q, ps, hs, hcons⟩ := splitAt_cons_ne c s hd
      rw [hcons] at h
      rcases List.mem_cons.mp h with rfl | h
      · obtain ⟨hsep, hlength⟩ := ih (p := q) (by simp [hs])
        exact ⟨by simp [hsep, Ne.symm hd], Nat.succ_le_succ hlength⟩
      · obtain ⟨hsep, hlength⟩ := ih (p := p) (by simp [hs, h])
        exact ⟨hsep, hlength.trans (Nat.le_succ _)⟩

lemma splitAt_of_notMem (h : c ∉ s) : splitAt c s = [s] := by
  induction s with
  | nil => rfl
  | cons d s ih =>
    obtain ⟨hd, hs⟩ := not_or.mp (mt List.mem_cons.mpr h)
    obtain ⟨p, ps, hsplit, hcons⟩ := splitAt_cons_ne c s (Ne.symm hd)
    rw [ih hs] at hsplit
    obtain ⟨rfl, rfl⟩ := List.cons.inj hsplit
    exact hcons

end SplitAt

lemma lastComponent_append (s t : List Char) :
    lastComponent (s ++ '/' :: t) = lastComponent t := by
  have hlast : (splitAt '/' t).getLast?.isSome = true := by simp [splitAt_ne_nil]
  rw [lastComponent, splitAt_append, List.getLast?_append, Option.or_of_isSome hlast]
  rfl

lemma lastComponent_length (s : List Char) : (lastComponent s).length ≤ s.length := by
  unfold lastComponent
  rcases hlast : (splitAt '/' s).getLast? with _ | p
  · exact Nat.zero_le _
  · exact (mem_splitAt '/' s (List.mem_of_getLast? hlast)).2

lemma lastComponent_of_notMem {s : List Char} (h : '/' ∉ s) : lastComponent s = s := by
  rw [lastComponent, splitAt_of_notMem _ _ h]
  rfl

/-! ### Drives -/

/-- A text that ends with a letter and a colon or a bar. -/
def EndsLikeDrive (s : List Char) : Prop :=
  ∃ s' letter last, s = s' ++ [letter, last] ∧ letter.isAlpha = true ∧ (last = ':' ∨ last = '|')

def OctetsLikeDrive (bs : List UInt8) : Prop :=
  ∃ bs' letter last, bs = bs' ++ [letter, last] ∧ bs' ≠ [] ∧ isLetter letter = true ∧
    (last = 58 ∨ last = 124)

lemma withDriveSlash_of_drive {bs : List UInt8} (h : OctetsLikeDrive bs) :
    withDriveSlash bs = bs ++ [47] := by
  obtain ⟨bs', letter, last, rfl, hne, hletter, hlast⟩ := h
  rcases List.eq_nil_or_concat' bs' with rfl | ⟨init, b, rfl⟩
  · exact absurd rfl hne
  · simp [withDriveSlash, hletter, hlast]

lemma withDriveSlash_of_not_drive {bs : List UInt8} (h : ¬OctetsLikeDrive bs) :
    withDriveSlash bs = bs := by
  unfold withDriveSlash
  split
  next last letter b rest hreverse =>
    have hbs : bs = (b :: rest).reverse ++ [letter, last] := by
      rw [← List.reverse_reverse bs, hreverse]
      simp
    rw [if_neg]
    intro hdrive
    obtain ⟨hletter, hlast⟩ := Bool.and_eq_true_iff.mp hdrive
    exact h ⟨_, letter, last, hbs, by simp, hletter, by simpa using hlast⟩
  next => rfl

lemma encodeChar_cases (c : Char) :
    (c.toNat < 128 ∧ Utf8.encodeChar c = [UInt8.ofNat c.toNat]) ∨
      ∃ bs b, Utf8.encodeChar c = bs ++ [b] ∧ 128 ≤ b.toNat := by
  unfold Utf8.encodeChar String.utf8EncodeChar
  have hlast : 128 ≤ (UInt8.ofNat (c.val.toNat % 64 + 128)).toNat := by
    rw [UInt8.toNat_ofNat']
    omega
  dsimp only
  split_ifs with h₁ h₂ h₃
  · exact .inl ⟨Nat.lt_succ_of_le h₁, rfl⟩
  · exact .inr ⟨[_], _, rfl, hlast⟩
  · exact .inr ⟨[_, _], _, rfl, hlast⟩
  · exact .inr ⟨[_, _, _], _, rfl, hlast⟩

lemma encodeChar_ascii {c : Char} (h : c.toNat < 128) :
    Utf8.encodeChar c = [UInt8.ofNat c.toNat] := if_pos (Nat.le_of_lt_succ h)

lemma ofNat_toNat_ascii {c : Char} (h : c.toNat < 128) : (UInt8.ofNat c.toNat).toNat = c.toNat := by
  rw [UInt8.toNat_ofNat']
  omega

lemma isLetter_ascii {c : Char} (h : c.toNat < 128) :
    isLetter (UInt8.ofNat c.toNat) = c.isAlpha := by
  have hall : ∀ n < 128, isLetter (UInt8.ofNat n) = (Char.ofNat n).isAlpha := by decide
  rw [hall c.toNat h, Char.ofNat_toNat]

lemma encode_snoc {s : List Char} {bs bs' : List UInt8} {b : UInt8} (hb : b.toNat < 128) {c : Char}
    (h : bs ++ 47 :: Utf8.encode (s ++ [c]) = bs' ++ [b]) :
    c.toNat = b.toNat ∧ bs ++ 47 :: Utf8.encode s = bs' := by
  have hencode : Utf8.encode (s ++ [c]) = Utf8.encode s ++ Utf8.encodeChar c := by
    simp [Utf8.encode]
  rw [hencode, ← List.cons_append, ← List.append_assoc] at h
  rcases encodeChar_cases c with ⟨hc, hone⟩ | ⟨front, last, hmany, hlast⟩
  · rw [hone] at h
    obtain ⟨hfront, hsame⟩ := List.append_inj' h rfl
    obtain rfl : UInt8.ofNat c.toNat = b := by simpa using hsame
    exact ⟨(ofNat_toNat_ascii hc).symm, hfront⟩
  · rw [hmany, ← List.append_assoc] at h
    obtain ⟨-, hsame⟩ := List.append_inj' h rfl
    obtain rfl : last = b := by simpa using hsame
    omega

lemma endsLikeDrive_of_octets {s : List Char} {bs : List UInt8} (hs : s ≠ [])
    (h : OctetsLikeDrive (bs ++ 47 :: Utf8.encode s)) : EndsLikeDrive s := by
  obtain ⟨bs', letter, last, heq, hne, hletter, hlast⟩ := h
  rcases List.eq_nil_or_concat' s with rfl | ⟨s₀, c, rfl⟩
  · exact absurd rfl hs
  have hascii : last.toNat < 128 := by rcases hlast with rfl | rfl <;> decide
  have hletter' : letter.toNat < 128 := by
    by_contra hhigh
    simp [isLetter, UInt8.le_iff_toNat_le] at hletter
    omega
  have heq' : bs ++ 47 :: Utf8.encode (s₀ ++ [c]) = (bs' ++ [letter]) ++ [last] := by
    simpa using heq
  obtain ⟨hc, hfront⟩ := encode_snoc hascii heq'
  rcases List.eq_nil_or_concat' s₀ with rfl | ⟨s₁, l, rfl⟩
  · obtain ⟨-, hslash⟩ := List.append_inj' hfront rfl
    obtain rfl : 47 = letter := (List.cons.inj hslash).1
    simp [isLetter] at hletter
  · obtain ⟨hl, -⟩ := encode_snoc hletter' hfront
    refine ⟨s₁, l, c, by simp, ?_, ?_⟩
    · rw [← isLetter_ascii (by omega), hl]
      simpa using hletter
    · rcases hlast with rfl | rfl
      · exact .inl (Char.ext (UInt32.toNat_inj.mp hc))
      · exact .inr (Char.ext (UInt32.toNat_inj.mp hc))

lemma EndsLikeDrive.octets {s : List Char} (h : EndsLikeDrive s) (bs : List UInt8) :
    OctetsLikeDrive (bs ++ 47 :: Utf8.encode s) := by
  obtain ⟨s', letter, last, rfl, hletter, hlast⟩ := h
  have hascii : letter.toNat < 128 := by
    have hbounds := isAlpha_bounds hletter
    omega
  have hlast' : Utf8.encodeChar last = [58] ∨ Utf8.encodeChar last = [124] := by
    rcases hlast with rfl | rfl
    · exact .inl (by decide)
    · exact .inr (by decide)
  have hencode : Utf8.encode (s' ++ [letter, last])
      = Utf8.encode s' ++ [UInt8.ofNat letter.toNat] ++ Utf8.encodeChar last := by
    simp [Utf8.encode, encodeChar_ascii hascii]
  rw [hencode]
  rcases hlast' with hlast' | hlast' <;> rw [hlast']
  · exact ⟨bs ++ 47 :: Utf8.encode s', _, 58, by simp, by simp,
      (isLetter_ascii hascii).trans hletter, .inl rfl⟩
  · exact ⟨bs ++ 47 :: Utf8.encode s', _, 124, by simp, by simp,
      (isLetter_ascii hascii).trans hletter, .inr rfl⟩

/-! ### Names and paths -/

/-- A file that has a path is named by the last segment of its URL. -/
lemma octets_of_name {u : Url} {path name : String} (hpath : u.toFilePath = some path)
    (hname : u.name? = some name) : name.toList ≠ [] ∧ '/' ∉ name.toList ∧ ∃ bs,
      path = Utf8.decodeLossy (withDriveSlash (bs ++ 47 :: decode name.toList)) := by
  unfold toFilePath at hpath
  dsimp only at hpath
  split at hpath
  next segments _ hsegments =>
    obtain rfl := Option.some.inj hpath
    unfold name? at hname
    rw [hsegments, Option.bind_some] at hname
    rcases List.eq_nil_or_concat' segments with rfl | ⟨front, s, rfl⟩
    · simp at hname
    rw [List.getLast?_concat] at hname
    have hslash : '/' ∉ s := by
      unfold Url.segments at hsegments
      split at hsegments
      next r _ =>
        refine (mem_splitAt '/' r ?_).1
        rw [Option.some.inj hsegments]
        simp
      next => simp at hsegments
    cases s with
    | nil => simp at hname
    | cons c s =>
      obtain rfl := Option.some.inj hname
      rw [String.toList_ofList]
      refine ⟨by simp, hslash, front.flatMap fun s => 47 :: decode s, ?_⟩
      rw [List.flatMap_append]
      simp
  next => simp at hpath

lemma lastComponent_decodeLossy (bs bs' : List UInt8) :
    lastComponent (Utf8.decodeLossy (bs ++ 47 :: bs')).toList
      = lastComponent (Utf8.decodeLossy bs').toList := by
  rw [Utf8.decodeLossy, Utf8.decodeLossy, String.toList_ofList, String.toList_ofList,
    Utf8.run_slash Utf8.sound_none, List.map_append, List.map_cons]
  exact lastComponent_append _ _

lemma lastComponent_drive {bs : List UInt8} (h : OctetsLikeDrive bs) :
    lastComponent (Utf8.decodeLossy (withDriveSlash bs)).toList = [] := by
  rw [withDriveSlash_of_drive h, lastComponent_decodeLossy]
  rfl

lemma lastComponent_decode_ne {s : List Char} (h : HasPercentForm s) :
    lastComponent (Utf8.decodeLossy (decode s)).toList ≠ s := by
  intro heq
  have hshort := (run_decode_length Utf8.sound_none s).2 h
  have hlast := lastComponent_length (Utf8.decodeLossy (decode s)).toList
  rw [heq, Utf8.decodeLossy, String.toList_ofList, List.length_map] at hlast
  rw [Utf8.run_nil_length] at hshort
  simp only [Option.isSome_none, Bool.false_eq_true, if_false, Nat.zero_add] at hshort
  omega

/-- **The last component of a file's path is the last segment of its URL** exactly if the segment
has no percent forms and does not end like a drive. -/
theorem lastComponent_eq_iff {u : Url} {path name : String} (hpath : u.toFilePath = some path)
    (hname : u.name? = some name) : lastComponent path.toList = name.toList ↔
      ¬HasPercentForm name.toList ∧ ¬EndsLikeDrive name.toList := by
  obtain ⟨hne, hslash, bs, rfl⟩ := octets_of_name hpath hname
  by_cases hform : HasPercentForm name.toList
  · refine iff_of_false (fun heq => ?_) (fun h => h.1 hform)
    by_cases hbs : OctetsLikeDrive (bs ++ 47 :: decode name.toList)
    · rw [lastComponent_drive hbs] at heq
      exact hne heq.symm
    · rw [withDriveSlash_of_not_drive hbs, lastComponent_decodeLossy] at heq
      exact lastComponent_decode_ne hform heq
  · rw [decode_plain hform]
    by_cases hend : EndsLikeDrive name.toList
    · refine iff_of_false (fun heq => ?_) (fun h => h.2 hend)
      rw [lastComponent_drive (hend.octets bs)] at heq
      exact hne heq.symm
    · refine iff_of_true ?_ ⟨hform, hend⟩
      rw [withDriveSlash_of_not_drive (mt (endsLikeDrive_of_octets hne) hend),
        lastComponent_decodeLossy, Utf8.decodeLossy_encode, String.ofList_toList]
      exact lastComponent_of_notMem hslash

end Url

/-! ### Names as they are shown -/

namespace SourceRegistry

/-- How a source is shown to the client: a file by its path and by the last segment of its URL. That
is the last component of the path exactly if it has no percent forms and does not end like a
drive. -/
structure Shown (r : SourceRegistry) (url : Url) (s : Source) : Prop where
  same : s = r.clientSource url
  file : ∀ path name, r.pathOf? url = some path → url.name? = some name →
    s.name = some name ∧ s.path = some path ∧
      (Url.lastComponent path.toList = name.toList ↔
        ¬Url.HasPercentForm name.toList ∧ ¬Url.EndsLikeDrive name.toList)

lemma Tidy.shown {r : SourceRegistry} (h : r.Tidy) (url : Url) :
    r.Shown url (r.clientSource url) where
  same := rfl
  file := by
    intro path name tied hname
    have hfile : url.filePath? = some path := h.paths path url (h.pathOf?_eq_some.mp tied)
    have hpath : url.toFilePath = some path := by
      unfold Url.filePath? at hfile
      split at hfile
      · exact hfile
      · simp at hfile
    have hsource : (r.clientSource url).path = some path := by simp [clientSource, tied]
    exact ⟨hname, hsource, Url.lastComponent_eq_iff hpath hname⟩

lemma pathOf?_run (us : List Use) (url : Url) (path : String) :
    (run us).pathOf? url = some path ↔ Latest us path url :=
  (run_tidy us).pathOf?_iff.trans (urlOf?_run us path url)

end SourceRegistry

/-- What a load announces is shown under the names of the sources that it makes known. -/
lemma Program.load_shown {p : Program} {w : World S} {bs : List Breakpoint}
    (loads : (p.load w).1 = .ok bs) :
    ∀ b ∈ bs, ∃ url s, b.source = some s ∧ (p.load w).2.1.sources.Shown url s := by
  rcases hv : p.verdict w with e | urls
  · rw [Program.load_error hv] at loads
    simp at loads
  obtain ⟨q, es, heq, loaded, -⟩ := Program.load_loadedFrom hv
  have tidy : q.sources.Tidy := by
    have hsources := Program.load_sources hv
    rw [heq] at hsources
    rw [hsources]
    exact SourceRegistry.run_tidy _
  rw [heq] at loads ⊢
  obtain rfl := Except.ok.inj loads
  intro b hb
  obtain ⟨⟨url, requested⟩, -, hb⟩ := List.mem_flatMap.mp hb
  obtain ⟨c, -, rfl⟩ := List.mem_map.mp hb
  exact ⟨url, _, rfl, tidy.shown url⟩

/-- The names of files wherever the client is shown them. -/
structure FileNames (us : List SourceRegistry.Use) (d : Debugger S) : Prop where
  /-- A file goes by its path from when it is registered until the path is lost to another file or
  all is forgotten. -/
  tied : ∀ url path, (SourceRegistry.run us).pathOf? url = some path ↔
    SourceRegistry.Latest us path url
  shown : ∀ url,
    (SourceRegistry.run us).Shown url ((SourceRegistry.run us).clientSource url)
  /-- In the frames of a session. -/
  frames : ∀ number f url, d.program.sources.resolve f.source = some url →
    ∃ s, (d.clientFrame number f).source = some s ∧ d.program.sources.Shown url s
  /-- In the breakpoints that a load announces. -/
  announced : ∀ (p : Program) (w : World S) bs, (p.load w).1 = .ok bs →
    ∀ b ∈ bs, ∃ url s, b.source = some s ∧ (p.load w).2.1.sources.Shown url s

/-- **A file is shown under the last component of its path** just if its name has no percent forms
and does not end like a drive. -/
theorem calls_fileNames {d : Debugger S} (h : d.Fresh) (cs : List Call)
    (us : List SourceRegistry.Use) : FileNames us (d.calls cs) where
  tied := fun url path => SourceRegistry.pathOf?_run us url path
  shown := (SourceRegistry.run_tidy us).shown
  frames := by
    intro number f url named
    refine ⟨_, rfl, ?_⟩
    have hsource : (d.calls cs).frameSource f.source
        = (d.calls cs).program.sources.clientSource url := by
      simp only [Debugger.frameSource, named]
    rw [hsource]
    exact (Debugger.calls_tidy h cs).shown url
  announced := fun _ _ _ loads => Program.load_shown loads

/-- A launch whose program has two files with plain names, and the uses of a registry in which a
file gives way to another URL of its path. -/
theorem onFiles_fileNames :
    let d := Debugger.onFiles []
    let us : List SourceRegistry.Use :=
      [.register (.localFile "/work/main.qs"), .register (blankName none),
        .register (blankName (some "v2"))]
    d.Fresh ∧ FileNames us (d.calls [.request 0 0 (.shotsLaunch 1 1)]) ∧
      (SourceRegistry.run us).pathOf? (.localFile "/work/main.qs") = some "/work/main.qs" ∧
      (SourceRegistry.run us).pathOf? (blankName none) = none ∧
      (SourceRegistry.run us).pathOf? (blankName (some "v2")) = some "/my main.qs" :=
  have fresh := Debugger.surveyed_fresh filePlaces
    ⟨[.ok [.localFile "/main.qs", .localFile "/lib.qs"]], []⟩
  ⟨fresh, calls_fileNames fresh _ _, by decide +kernel⟩

/-- A file whose name has a blank in it is shown under another name than that of its path. -/
theorem blank_misnamed :
    let url := Url.localFile "/work/my%20main.qs"
    let us := [SourceRegistry.Use.register url]
    Url.parse "file:///work/my%20main.qs" = .ok url ∧
      SourceRegistry.Latest us "/work/my main.qs" url ∧
      ((SourceRegistry.run us).clientSource url).path = some "/work/my main.qs" ∧
      ((SourceRegistry.run us).clientSource url).name = some "my%20main.qs" ∧
      Url.lastComponent "/work/my main.qs".toList = "my main.qs".toList := by
  refine ⟨by decide +kernel, ?_, by decide +kernel⟩
  rw [← SourceRegistry.urlOf?_run]
  decide +kernel

end QuantumDebug
