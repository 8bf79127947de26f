namespace QuantumDebug

/-!
Double-precision numbers as JSON text carries them. A number is kept as its 64 bits, so two
numbers are equal exactly when they are the same number with the same sign of zero. Reading
scales a bounded significand by a power of ten; writing finds the fewest decimal digits that lie
closer to the number than to any other.
-/

/-- A finite double-precision number, by its bits. -/
structure Binary64 where
  bits : UInt64
deriving DecidableEq, Inhabited, Repr

namespace Binary64

/-- The largest significand that is read digit by digit; later digits only move the exponent. -/
def maxSignificand : Nat := 0xFFFF_FFFF_FFFF_FFFF

/-- `f · 10 ^ exponent`, or nothing when that is out of range. Powers beyond `10 ^ 308` are reached
in steps of that size, and three steps bring every significand to zero. -/
def scale : Nat → Float → Int → Option Float
  | steps, f, exponent =>
    if 0 ≤ exponent then
      if exponent ≤ 308 then
        let g := f * Float.ofScientific 1 false exponent.toNat
        if g.isFinite then some g else none
      else if f == 0 then some f else none
    else if -308 ≤ exponent then
      some (f / Float.ofScientific 1 false (-exponent).toNat)
    else match steps with
      | 0 => some 0
      | n + 1 =>
        if f == 0 then some f
        else scale n (f / Float.ofScientific 1 false 308) (exponent + 308)

/-- The number `± significand · 10 ^ exponent`, or nothing when it is out of range. -/
def ofParts (negative : Bool) (significand : Nat) (exponent : Int) : Option Binary64 :=
  (scale 4 (UInt64.ofNat significand).toFloat exponent).map fun f =>
    ⟨(if negative then -f else f).toBits⟩

/-- The number nearest to a natural number below `2 ^ 64`, with a sign. -/
def ofNat (negative : Bool) (n : Nat) : Binary64 :=
  let f := (UInt64.ofNat n).toFloat
  ⟨(if negative then -f else f).toBits⟩

/-! ### The fewest digits -/

def isNegative (x : Binary64) : Bool := x.bits ≥ 0x8000_0000_0000_0000

/-- The stored exponent, all ones for what is not a finite number. -/
def biasedExponent (x : Binary64) : Nat := (x.bits >>> 52).toNat % 2048

def fraction (x : Binary64) : Nat := x.bits.toNat % 0x10_0000_0000_0000

/-- The significand with its leading bit. -/
def significand (x : Binary64) : Nat :=
  if x.biasedExponent = 0 then x.fraction else x.fraction + 0x10_0000_0000_0000

/-- The power of two that scales the significand. -/
def binaryExponent (x : Binary64) : Int := (max x.biasedExponent 1 : Nat) - 1075

/-- The interval of reals that read back as the number, times a common denominator. -/
structure Span where
  low : Nat
  value : Nat
  high : Nat
  denominator : Nat
  closed : Bool

/-- The interval around the magnitude of the number: half a unit up, and half a unit down, or a
quarter below a power of two. -/
def span (x : Binary64) : Span :=
  let m := x.significand
  let e := x.binaryExponent
  let up := if 0 ≤ e then Nat.pow 2 e.toNat else 1
  let below := if x.fraction = 0 ∧ 1 < x.biasedExponent then 1 else 2
  { low := (4 * m - below) * up
    value := 4 * m * up
    high := (4 * m + 2) * up
    denominator := if 0 ≤ e then 4 else 4 * Nat.pow 2 (-e).toNat
    closed := m % 2 == 0 }

/-- Whether the decimal `digits · 10 ^ exponent` reads back as the number. -/
def Span.holds (s : Span) (digits : Nat) (exponent : Int) : Bool :=
  let up := Nat.pow 10 exponent.toNat
  let down := Nat.pow 10 (-exponent).toNat
  let y := digits * up * s.denominator
  if s.closed then s.low * down ≤ y && y ≤ s.high * down else s.low * down < y && y < s.high * down

/-- The nearest decimal on the grid of `10 ^ exponent`, if one reads back as the number. -/
def Span.onGrid (s : Span) (exponent : Int) : Option Nat :=
  let num := s.value * Nat.pow 10 (-exponent).toNat
  let den := s.denominator * Nat.pow 10 exponent.toNat
  let below := num / den
  match s.holds below exponent, s.holds (below + 1) exponent with
  | true, true =>
    let twice := 2 * (num % den)
    some (if twice < den then below
      else if den < twice then below + 1
      else if below % 2 = 0 then below else below + 1)
  | true, false => some below
  | false, true => some (below + 1)
  | false, false => none

/-- The exponent of the leading decimal digit of a magnitude below one: the first power of ten
that lifts it to one. -/
def leadBelowOne (s : Span) : Nat → Nat → Int
  | 0, lifted => -(lifted : Int)
  | fuel + 1, lifted =>
    if s.denominator ≤ s.value * Nat.pow 10 lifted then -(lifted : Int)
    else leadBelowOne s fuel (lifted + 1)

/-- The exponent of the leading decimal digit. -/
def Span.lead (s : Span) : Int :=
  if s.denominator ≤ s.value then ((Nat.toDigits 10 (s.value / s.denominator)).length : Int) - 1
  else leadBelowOne s 400 1

/-- The first grid with a decimal that reads back, coarsest first. -/
def Span.shortest (s : Span) (lead : Int) : Nat → Nat → Nat × Int
  | 0, places => (0, lead - places)
  | fuel + 1, places =>
    let exponent := lead - (places : Int)
    match s.onGrid exponent with
    | some digits => (digits, exponent)
    | none => s.shortest lead fuel (places + 1)

/-- A decimal without its trailing zeros, at most so many of them. -/
def stripZeros : Nat → Nat → Int → Nat × Int
  | 0, digits, exponent => (digits, exponent)
  | fuel + 1, digits, exponent =>
    if digits ≠ 0 ∧ digits % 10 = 0 then stripZeros fuel (digits / 10) (exponent + 1)
    else (digits, exponent)

/-- The fewest decimal digits that read back as the magnitude of the number, and their exponent. -/
def digits (x : Binary64) : Nat × Int :=
  let s := x.span
  let (d, e) := s.shortest s.lead 18 0
  stripZeros 20 d e

/-! ### Text -/

/-- Where the written form changes from positional to scientific. -/
structure Layout where
  leastPositional : Int
  greatestPositional : Int
  exponentWidth : Nat

/-- Magnitudes from `10 ^ -5` up to `10 ^ 16` are positional and keep a point; others have a signed
exponent of two digits or more. -/
def jsonLayout : Layout := ⟨-5, 15, 2⟩

def padded (width n : Nat) : List Char :=
  let ds := Nat.toDigits 10 n
  List.replicate (width - ds.length) '0' ++ ds

/-- The magnitude in the given layout. -/
def magnitude (layout : Layout) (x : Binary64) : List Char :=
  if x.significand = 0 then ['0', '.', '0'] else
    let (d, e) := x.digits
    let ds := Nat.toDigits 10 d
    let lead := e + ds.length - 1
    if layout.leastPositional ≤ lead ∧ lead ≤ layout.greatestPositional then
      if 0 ≤ e then ds ++ List.replicate e.toNat '0' ++ ['.', '0']
      else if 0 ≤ lead then ds.take (lead.toNat + 1) ++ '.' :: ds.drop (lead.toNat + 1)
      else '0' :: '.' :: List.replicate (-lead - 1).toNat '0' ++ ds
    else
      let head := match ds with
        | [c] => [c]
        | c :: r => c :: '.' :: r
        | [] => []
      head ++ ['e', if 0 ≤ lead then '+' else '-'] ++ padded layout.exponentWidth lead.natAbs

def chars (x : Binary64) : List Char :=
  if x.isNegative then '-' :: x.magnitude jsonLayout else x.magnitude jsonLayout

end Binary64

end QuantumDebug
