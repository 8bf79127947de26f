import QuantumDebug.Json.Basic

namespace QuantumDebug

/-!
Reading JSON text. The reader accepts exactly one value with blanks around it, nested at most as
deep as it is told; it keeps repeated members, and tells integers from floating-point numbers by
how they are written.
-/

namespace Json

/-- How deep a text may nest: one less than this many arrays and objects. -/
def depthLimit : Nat := 128

/-- The four characters that JSON counts as blank. -/
def isBlank (c : Char) : Bool := c == ' ' || c == '\n' || c == '\t' || c == '\r'

def skipBlank (s : List Char) : List Char := s.dropWhile isBlank

/-! ### Texts -/

def hexValue (c : Char) : Option Nat :=
  if '0' ≤ c ∧ c ≤ '9' then some (c.toNat - 48)
  else if 'a' ≤ c ∧ c ≤ 'f' then some (c.toNat - 87)
  else if 'A' ≤ c ∧ c ≤ 'F' then some (c.toNat - 55)
  else none

/-- The value of four hexadecimal digits. -/
def hexUnit (a b c d : Char) : Option Nat := do
  return ((← hexValue a) * 16 + (← hexValue b)) * 256 + ((← hexValue c) * 16 + (← hexValue d))

/-- What a single character stands for after a backslash. -/
def unescape (c : Char) : Option Char :=
  match c with
  | '"' => some '"'
  | '\\' => some '\\'
  | '/' => some '/'
  | 'b' => some '\x08'
  | 'f' => some '\x0c'
  | 'n' => some '\n'
  | 'r' => some '\r'
  | 't' => some '\t'
  | _ => none

/-- The characters up to the closing quote, and the text after it. A pair of escaped surrogates is
one character, and a surrogate that stands alone is refused, as is a raw control character. -/
def readQuoted : List Char → Option (List Char × List Char)
  | [] => none
  | '"' :: r => some ([], r)
  | '\\' :: 'u' :: a :: b :: c :: d :: r =>
    match hexUnit a b c d with
    | none => none
    | some u =>
      if 0xD800 ≤ u ∧ u < 0xDC00 then
        match r with
        | '\\' :: 'u' :: a' :: b' :: c' :: d' :: r' =>
          match hexUnit a' b' c' d' with
          | none => none
          | some l =>
            if 0xDC00 ≤ l ∧ l < 0xE000 then
              (readQuoted r').map fun (cs, rest) =>
                (Char.ofNat (0x10000 + (u - 0xD800) * 0x400 + (l - 0xDC00)) :: cs, rest)
            else none
        | _ => none
      else if 0xDC00 ≤ u ∧ u < 0xE000 then none
      else (readQuoted r).map fun (cs, rest) => (Char.ofNat u :: cs, rest)
  | '\\' :: c :: r =>
    match unescape c with
    | none => none
    | some x => (readQuoted r).map fun (cs, rest) => (x :: cs, rest)
  | c :: r =>
    if c.toNat < 32 ∨ c = '\\' then none
    else (readQuoted r).map fun (cs, rest) => (c :: cs, rest)

/-! ### Numbers -/

/-- Digits added to a significand while it stays in bounds, and how many were added. -/
def addDigits (significand used : Nat) : List Char → Nat × Nat
  | [] => (significand, used)
  | c :: cs =>
    let next := significand * 10 + (c.toNat - 48)
    if Binary64.maxSignificand < next then (significand, used) else addDigits next (used + 1) cs

def ofDigits (cs : List Char) : Nat := cs.foldl (fun n c => n * 10 + (c.toNat - 48)) 0

/-- The digits at the front of a text, and the rest. -/
def spanDigits (s : List Char) : List Char × List Char := s.span Char.isDigit

/-- The exponent part of a number, if there is one, and the rest. -/
def readExponent : List Char → Option (Option (Bool × List Char) × List Char)
  | c :: r =>
    if c = 'e' ∨ c = 'E' then
      let (negative, r) := match r with
        | '-' :: r' => (true, r')
        | '+' :: r' => (false, r')
        | _ => (false, r)
      match spanDigits r with
      | ([], _) => none
      | (ds, rest) => some (some (negative, ds), rest)
    else some (none, c :: r)
  | [] => some (none, [])

/-- The fraction part of a number, if there is one, and the rest. -/
def readFraction : List Char → Option (Option (List Char) × List Char)
  | '.' :: r =>
    match spanDigits r with
    | ([], _) => none
    | (ds, rest) => some (some ds, rest)
  | r => some (none, r)

/-- The number with the given digits. Digits of the whole part that do not fit the significand
move the exponent up, digits of the fraction that do not fit are dropped. -/
def floatOf (negative : Bool) (whole fraction : List Char) (exponent : Option (Bool × List Char)) :
    Option Binary64 :=
  let (m, used) := addDigits 0 0 whole
  let (m, places) := addDigits m 0 fraction
  let shift : Int := (whole.length - used : Nat) - (places : Int)
  match exponent with
  | none => Binary64.ofParts negative m shift
  | some (down, ds) =>
    let e := ofDigits ds
    if 0x8000_0000 ≤ e then
      if m ≠ 0 ∧ ¬down then none else some (Binary64.ofNat negative 0)
    else Binary64.ofParts negative m (if down then shift - e else shift + e)

/-- The value of a number without fraction and exponent: an integer when it fits 64 bits. -/
def wholeOf (negative : Bool) (whole : List Char) : Option Json :=
  let n := ofDigits whole
  if 0x1_0000_0000_0000_0000 ≤ n then (floatOf negative whole [] none).map .float
  else if ¬negative then some (.int n)
  else if n = 0 ∨ 0x8000_0000_0000_0000 < n then some (.float (Binary64.ofNat true n))
  else some (.int (-n))

def readNumber (s : List Char) : Option (Json × List Char) :=
  let (negative, s) := match s with
    | '-' :: r => (true, r)
    | _ => (false, s)
  match spanDigits s with
  | ([], _) => none
  | (whole, r) =>
    if whole.head? = some '0' ∧ 1 < whole.length then none else
      match readFraction r with
      | none => none
      | some (fraction, r) =>
        match readExponent r with
        | none => none
        | some (exponent, r) =>
          match fraction, exponent with
          | none, none => (wholeOf negative whole).map (·, r)
          | _, _ => (floatOf negative whole (fraction.getD []) exponent).map fun x => (.float x, r)

/-! ### Values -/

mutual

/-- Reads a value after blanks. The first number bounds the calls, the second the depth. -/
def readValue : Nat → Nat → List Char → Option (Json × List Char)
  | 0, _, _ => none
  | fuel + 1, depth, s =>
    match skipBlank s with
    | 'n' :: 'u' :: 'l' :: 'l' :: r => some (.null, r)
    | 't' :: 'r' :: 'u' :: 'e' :: r => some (.bool true, r)
    | 'f' :: 'a' :: 'l' :: 's' :: 'e' :: r => some (.bool false, r)
    | '"' :: r => (readQuoted r).map fun (cs, rest) => (.str (String.ofList cs), rest)
    | '[' :: r =>
      if depth ≤ 1 then none else
        match skipBlank r with
        | ']' :: rest => some (.arr [], rest)
        | r => (readItems fuel (depth - 1) r).map fun (xs, rest) => (.arr xs, rest)
    | '\x7b' :: r =>
      if depth ≤ 1 then none else
        match skipBlank r with
        | '\x7d' :: rest => some (.obj [], rest)
        | r => (readMembers fuel (depth - 1) r).map fun (ms, rest) => (.obj ms, rest)
    | r => readNumber r

/-- Reads items up to the closing bracket. -/
def readItems : Nat → Nat → List Char → Option (List Json × List Char)
  | 0, _, _ => none
  | fuel + 1, depth, s =>
    match readValue fuel depth s with
    | none => none
    | some (x, r) =>
      match skipBlank r with
      | ',' :: r => (readItems fuel depth r).map fun (xs, rest) => (x :: xs, rest)
      | ']' :: rest => some ([x], rest)
      | _ => none

/-- Reads members up to the closing brace. -/
def readMembers : Nat → Nat → List Char → Option (List (String × Json) × List Char)
  | 0, _, _ => none
  | fuel + 1, depth, s =>
    match skipBlank s with
    | '"' :: r =>
      match readQuoted r with
      | none => none
      | some (key, r) =>
        match skipBlank r with
        | ':' :: r =>
          match readValue fuel depth r with
          | none => none
          | some (v, r) =>
            match skipBlank r with
            | ',' :: r =>
              (readMembers fuel depth r).map fun (ms, rest) => ((String.ofList key, v) :: ms, rest)
            | '\x7d' :: rest => some ([(String.ofList key, v)], rest)
            | _ => none
        | _ => none
    | _ => none

end

/-- The one value of a text that nests less than `depth` deep. -/
def readWithin (depth : Nat) (s : List Char) : Option Json :=
  match readValue (2 * s.length + 2) depth s with
  | some (j, r) => if skipBlank r = [] then some j else none
  | none => none

/-- The one value of a text. -/
def parse? (s : String) : Option Json := readWithin depthLimit s.toList

end Json

end QuantumDebug
