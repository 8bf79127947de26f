import QuantumDebug.Text.CharSet

namespace QuantumDebug

/-!
White space of every script, and texts trimmed of it.
-/

namespace Text

/-- White space: the blanks of all scripts, line and page ends. -/
def whiteSpace : CharSet := CharSet.ofHex
  "9-d 20 85 a0 1680 2000-200a 2028-2029 202f 205f 3000"

def trimStart (s : List Char) : List Char := s.dropWhile whiteSpace.contains

def trimEnd (s : List Char) : List Char := (trimStart s.reverse).reverse

def trim (s : List Char) : List Char := trimEnd (trimStart s)

def isBlank (s : List Char) : Bool := s.all whiteSpace.contains

end Text

end QuantumDebug
