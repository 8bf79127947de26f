import QuantumDebug.Text.CharSet

namespace QuantumDebug

/-!
Maps from characters to texts, given by runs: the characters of a run stand one or two code points
apart, and so do what they are mapped to.
-/

namespace Text

/-- Characters from a first to a last, `step` apart, and the code points that the first is mapped
to. -/
structure CharRun where
  first : Nat
  last : Nat
  step : Nat
  target : List Nat

namespace CharRun

def covers (r : CharRun) (n : Nat) : Bool :=
  r.first ≤ n && n ≤ r.last && (n - r.first) % r.step == 0

def apply (r : CharRun) (n : Nat) : List Char :=
  r.target.map fun t => Char.ofNat (t + (n - r.first))

/-- Reads the characters of a run: one, a range, or every other of a range after a slash. -/
def readSource (s : List Char) : Nat × Nat × Nat :=
  match s.span (· != '/') with
  | (first, _ :: last) => (CharSet.hexNumber first, CharSet.hexNumber last, 2)
  | (_, []) => ((CharSet.range s).1, (CharSet.range s).2, 1)

/-- The parts of a text between plus signs. -/
def summands (s : List Char) : List (List Char) :=
  s.foldr (fun c ps =>
    if c = '+' then [] :: ps
    else match ps with
      | [] => [[c]]
      | p :: ps => (c :: p) :: ps) [[]]

def read (s : List Char) : CharRun :=
  let (source, target) := s.span (· != '>')
  let (first, last, step) := readSource source
  ⟨first, last, step, (summands (target.drop 1)).map CharSet.hexNumber⟩

end CharRun

/-- A map from characters to texts. -/
structure CharMap where
  runs : List CharRun

namespace CharMap

def get? (m : CharMap) (c : Char) : Option (List Char) :=
  (m.runs.find? (·.covers c.toNat)).map (·.apply c.toNat)

/-- The map whose runs are written in lower-case hexadecimal, apart by blanks and line ends. -/
def ofHex (text : String) : CharMap :=
  ⟨((CharSet.words text.toList).filter (· ≠ [])).map CharRun.read⟩

end CharMap

end Text

end QuantumDebug
