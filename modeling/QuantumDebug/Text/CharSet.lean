namespace QuantumDebug

/-!
Sets of characters given by ranges of code points.
-/

namespace Text

/-- A set of characters, as ranges of code points with both ends included. -/
structure CharSet where
  ranges : List (Nat × Nat)

namespace CharSet

def contains (s : CharSet) (c : Char) : Bool :=
  s.ranges.any fun (low, high) => low ≤ c.toNat && c.toNat ≤ high

def hexNumber (cs : List Char) : Nat :=
  cs.foldl (fun n c => 16 * n + (if c ≤ '9' then c.toNat - 48 else c.toNat - 87)) 0

/-- A range written as one number or as two with a dash between them. -/
def range (cs : List Char) : Nat × Nat :=
  match cs.span (· != '-') with
  | (low, _ :: high) => (hexNumber low, hexNumber high)
  | (low, []) => (hexNumber low, hexNumber low)

def words (cs : List Char) : List (List Char) :=
  cs.foldr (fun c ws =>
    if c = ' ' ∨ c = '\n' then [] :: ws
    else match ws with
      | [] => [[c]]
      | w :: ws => (c :: w) :: ws) [[]]

/-- The set whose ranges are written in lower-case hexadecimal, apart by blanks and line ends. -/
def ofHex (text : String) : CharSet := ⟨((words text.toList).filter (· ≠ [])).map range⟩

end CharSet

end Text

end QuantumDebug
