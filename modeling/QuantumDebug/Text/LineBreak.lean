import QuantumDebug.Text.LineBreak.Class

namespace QuantumDebug

/-!
Where a line of text may break. The text is read once from the left; what is kept of the part
already read is the class before the next character and a few facts about how it came there.
-/

namespace Text

/-- What a decision needs of the text before it: the class of the last character that is neither a
space nor a mark, whether spaces follow it, whether a joiner stands directly before, whether the
last character is a hyphen after a Hebrew letter, and whether an odd number of regional indicators
stands before. -/
structure BreakContext where
  left : BreakClass
  spaces : Bool
  joined : Bool
  hebrew : Bool
  odd : Bool
deriving DecidableEq, Inhabited, Repr

namespace BreakClass

/-- Line and page ends. -/
def isHardEnd : BreakClass → Bool
  | .bk | .cr | .lf | .nl => true
  | _ => false

def isMark : BreakClass → Bool
  | .cm | .zwj => true
  | _ => false

def isLetter : BreakClass → Bool
  | .al | .hl => true
  | _ => false

def isIdeograph : BreakClass → Bool
  | .id | .eb | .em => true
  | _ => false

def isHangul : BreakClass → Bool
  | .jl | .jv | .jt | .h2 | .h3 => true
  | _ => false

def isNumberSign : BreakClass → Bool
  | .pr | .po => true
  | _ => false

/-- Characters before which no line breaks, even after spaces. -/
def closes : BreakClass → Bool
  | .cl | .cp | .ex | .is | .sy => true
  | _ => false

/-- Pairs of neighbours inside a number. -/
def numeric : BreakClass → BreakClass → Bool
  | .cl, r | .cp, r => r.isNumberSign
  | .nu, r => r.isNumberSign || r == .nu
  | .po, r | .pr, r => r == .op || r == .nu
  | .hy, r | .is, r | .sy, r => r == .nu
  | _, _ => false

/-- Pairs of neighbours inside a Hangul syllable. -/
def syllable : BreakClass → BreakClass → Bool
  | .jl, r => r == .jl || r == .jv || r == .h2 || r == .h3
  | .jv, r | .h2, r => r == .jv || r == .jt
  | .jt, r | .h3, r => r == .jt
  | _, _ => false

/-- Pairs of neighbours, without spaces between them, that stay together. -/
def cohere (left right : BreakClass) : Bool :=
  right == .qu || left == .qu
    || (right != .cb && left != .cb
      && (right == .ba || right == .hy || right == .ns || left == .bb
        || (left == .sy && right == .hl)
        || right == .in
        || (left.isLetter && right == .nu) || (left == .nu && right.isLetter)
        || (left == .pr && right.isIdeograph) || (left.isIdeograph && right == .po)
        || (left.isNumberSign && right.isLetter) || (left.isLetter && right.isNumberSign)
        || numeric left right
        || syllable left right
        || (left.isHangul && right == .po) || (left == .pr && right.isHangul)
        || (left.isLetter && right.isLetter)
        || (left == .is && right.isLetter)
        || ((left.isLetter || left == .nu) && right == .op)
        || (left == .cp && (right.isLetter || right == .nu))
        || (left == .eb && right == .em)))

end BreakClass

namespace BreakContext

/-- Whether a mark belongs to the character before it. -/
def takesMark (k : BreakContext) : Bool :=
  !k.spaces && !k.left.isHardEnd && k.left != .sp && k.left != .zw

/-- Whether the line may break before a character of a class. -/
def allows (k : BreakContext) (next : BreakClass) : Bool :=
  if k.left.isHardEnd && !k.spaces then !(k.left == .cr && next == .lf)
  else if next.isHardEnd || next == .sp || next == .zw then false
  else if k.left == .zw then true
  else if k.joined then false
  else if next.isMark && k.takesMark then false
  else
    let right := if next.isMark then .al else next
    if right == .wj || (k.left == .wj && !k.spaces) then false
    else if k.left == .gl && !k.spaces then false
    else if right == .gl && !k.spaces && k.left != .ba && k.left != .hy then false
    else if right.closes || k.left == .op then false
    else if k.left == .qu && right == .op then false
    else if (k.left == .cl || k.left == .cp) && right == .ns then false
    else if k.left == .b2 && right == .b2 then false
    else if k.spaces then true
    else if k.hebrew && right != .cb then false
    else if k.left == .ri && right == .ri && k.odd then false
    else !k.left.cohere right

/-- The context at the start of a line that begins with a character of a class. -/
def start (c : BreakClass) : BreakContext where
  left := if c.isMark then .al else c
  spaces := c == .sp
  joined := c == .zwj
  hebrew := false
  odd := c == .ri

/-- The context after one more character. -/
def next (k : BreakContext) (c : BreakClass) : BreakContext :=
  if k.left.isHardEnd && !k.spaces then start c
  else if c == .sp then { k with spaces := true, joined := false }
  else if c.isMark && k.takesMark then { k with joined := c == .zwj }
  else
    { start c with
      hebrew := (c == .hy || c == .ba) && k.left == .hl && !k.spaces
      odd := c == .ri && !(k.left == .ri && k.odd && !k.spaces) }

end BreakContext

/-- Whether the line may break before each character, after a given context. -/
def breaksAfter (k : BreakContext) : List Char → List Bool
  | [] => []
  | c :: r => k.allows (.ofChar c) :: breaksAfter (k.next (.ofChar c)) r

/-- Whether the line may break before each character. It never breaks before the first. -/
def breaks : List Char → List Bool
  | [] => []
  | c :: r => false :: breaksAfter (.start (.ofChar c)) r

end Text

end QuantumDebug
