namespace QuantumDebug

/-!
Names with characters beyond ASCII written in ASCII letters and digits: first the ASCII characters
themselves, then, after a hyphen, the others in increasing order, each as the distance from the one
before in a variable-length number of base 36.
-/

namespace Url

namespace Idna.Punycode

/-- The digit for a value below 36. -/
def digit (n : Nat) : Char := Char.ofNat (if n < 26 then 97 + n else 22 + n)

def digitValue (c : Char) : Option Nat :=
  if 'a' ≤ c ∧ c ≤ 'z' then some (c.toNat - 97)
  else if '0' ≤ c ∧ c ≤ '9' then some (c.toNat - 22)
  else none

/-- The least value of a last digit in place `k`, counted in steps of 36. -/
def threshold (k bias : Nat) : Nat := min 26 (max 1 (k - bias))

/-- Divides a distance until it is small, and counts the divisions in steps of 36. -/
def shrink (distance k : Nat) : Nat :=
  if 455 < distance then shrink (distance / 35) (k + 36) else k + 36 * distance / (distance + 38)
termination_by distance
decreasing_by omega

/-- The bias after a distance with so many characters seen. -/
def adapt (distance seen : Nat) (atStart : Bool) : Nat :=
  let d := if atStart then distance / 700 else distance / 2
  shrink (d + d / seen) 0

def digits (bias k n : Nat) : List Char :=
  let t := threshold k bias
  if n < t then [digit n]
  else digit (t + (n - t) % (36 - t)) :: digits bias (k + 36) ((n - t) / (36 - t))
termination_by n
decreasing_by
  rename_i h
  have h1 : 1 ≤ threshold k bias := by unfold threshold; omega
  have h2 := Nat.div_le_self (n - threshold k bias) (36 - threshold k bias)
  omega

/-! ### Writing -/

/-- What has been written, the distance so far, the bias, and how many characters are done. -/
structure Writer where
  written : List Char
  distance : Nat
  bias : Nat
  done : Nat

/-- Passes a character while those with code point `n` are being written. -/
def Writer.pass (plain n : Nat) (w : Writer) (c : Char) : Writer :=
  if c.toNat < n then { w with distance := w.distance + 1 }
  else if c.toNat = n then
    { written := w.written ++ digits w.bias 36 w.distance
      distance := 0
      bias := adapt w.distance (w.done + 1) (w.done == plain)
      done := w.done + 1 }
  else w

/-- Writes the characters beyond ASCII, given their code points in increasing order and the first
code point that may come. -/
def writeRest (name : List Char) (plain : Nat) : Nat → Writer → List Nat → List Char
  | _, w, [] => w.written
  | next, w, n :: ns =>
    let w := { w with distance := w.distance + (n - next) * (w.done + 1) }
    let w := name.foldl (Writer.pass plain n) w
    writeRest name plain (n + 1) { w with distance := w.distance + 1 } ns

/-- Adds a number to increasing numbers unless it is among them. -/
def insertNumber (n : Nat) : List Nat → List Nat
  | [] => [n]
  | m :: ms => if n < m then n :: m :: ms else if n = m then m :: ms else m :: insertNumber n ms

def encode (name : List Char) : List Char :=
  let plain := name.filter (·.toNat < 128)
  let others := (name.filter (128 ≤ ·.toNat)).foldr (fun c ns => insertNumber c.toNat ns) []
  plain ++ (if plain = [] then [] else ['-'])
    ++ writeRest name plain.length 128 ⟨[], 0, 72, plain.length⟩ others

/-! ### Reading -/

/-- What has been read, the code point and the place of the last character, and the bias; and of
the number that is being read its value so far, its weight and its place. -/
structure Reader where
  name : List Char
  next : Nat
  position : Nat
  bias : Nat
  value : Nat
  weight : Nat
  place : Nat

/-- A character by its code point. -/
def charOf? (n : Nat) : Option Char := if n.isValidChar then some (Char.ofNat n) else none

/-- Reads one digit. -/
def Reader.step (r : Reader) (d : Nat) : Option Reader :=
  let value := r.value + d * r.weight
  let t := threshold r.place r.bias
  if t ≤ d then
    some { r with value := value, weight := r.weight * (36 - t), place := r.place + 36 }
  else
    let total := r.position + value
    let length := r.name.length + 1
    let next := r.next + total / length
    let position := total % length
    (charOf? next).map fun c =>
      { name := r.name.take position ++ c :: r.name.drop position
        next := next
        position := position + 1
        bias := adapt value length (r.position == 0)
        value := 0
        weight := 1
        place := 36 }

/-- Reads digits to the end, where no number may be open. -/
def readRest (r : Reader) : List Char → Option (List Char)
  | [] => if r.place = 36 then some r.name else none
  | c :: cs => do
    let d ← digitValue c
    let r ← r.step d
    readRest r cs

def decode (s : List Char) : Option (List Char) :=
  let rest := (s.reverse.takeWhile (· ≠ '-')).reverse
  let plain := s.take (s.length - rest.length - 1)
  if '-' ∈ s ∧ plain ≠ [] then
    if plain.all (·.toNat < 128) then readRest ⟨plain, 128, 0, 72, 0, 1, 36⟩ rest else none
  else readRest ⟨[], 128, 0, 72, 0, 1, 36⟩ s

end Idna.Punycode

end Url

end QuantumDebug
