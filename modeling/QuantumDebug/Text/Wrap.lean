import QuantumDebug.Text.Alphanumeric
import QuantumDebug.Text.LineBreak
import QuantumDebug.Text.Width

namespace QuantumDebug

/-!
Filling a text into lines of limited width. A text is cut into words where a line may break, words
are cut after hyphens inside them and, where they are wider than a line, anywhere; then each line
takes as many words as fit. Blanks at the end of a line are dropped.
-/

namespace Text

/-- A word and the number of spaces after it. -/
structure Word where
  chars : List Char
  blanks : Nat
deriving DecidableEq, Inhabited, Repr

namespace Word

/-- A word and its spaces from a stretch of text. -/
def ofChars (s : List Char) : Word :=
  let word := (s.reverse.dropWhile (· == ' ')).reverse
  ⟨word, s.length - word.length⟩

def width (w : Word) : Nat := Text.width w.chars

def full (w : Word) : List Char := w.chars ++ List.replicate w.blanks ' '

end Word

/-! ### Words -/

/-- Hyphens, after which the break rules are not asked. -/
def isHyphen (c : Char) : Bool := c == '-' || c.toNat == 0xAD

/-- The decisions without those directly after a hyphen. -/
def withoutHyphens (last : Option Char) : List Char → List Bool → List Bool
  | c :: cs, b :: bs => (b && !(last.map isHyphen).getD false) :: withoutHyphens (some c) cs bs
  | _, _ => []

/-- The decisions with the last break taken back. -/
def withoutLast (bs : List Bool) : List Bool :=
  ((bs.reverse.takeWhile (! ·)) ++
    match bs.reverse.dropWhile (! ·) with
    | [] => []
    | _ :: r => false :: r).reverse

/-- Whether a word starts at each visible character. The end of the text counts as a break unless a
hyphen stands there, and the last break of all is not used. -/
def wordStarts (visible : List Char) : List Bool :=
  let bs := withoutHyphens none visible (breaks visible)
  if (visible.getLast?.map isHyphen).getD false then withoutLast bs else bs

/-- Cuts pieces where a word starts; the first stretch may go on a word. An escape sequence goes to
the word after it. -/
def stretches : List Piece → List Bool → List (List Char)
  | [], _ => [[]]
  | p :: ps, starts =>
    let (here, starts) := match starts with
      | [] => (false, [])
      | b :: bs => (b, if p.visible then bs else false :: bs)
    match stretches ps starts with
    | [] => [p.chars]
    | s :: ss => if here then [] :: (p.chars ++ s) :: ss else (p.chars ++ s) :: ss

def words (line : List Char) : List Word :=
  if line = [] then [] else
    let ps := pieces line
    let visible := (ps.filter Piece.visible).flatMap Piece.chars
    (stretches ps (wordStarts visible)).map Word.ofChars

/-- Cuts after hyphens between letters or numbers. -/
def hyphenated (last : Option Char) : List Char → List (List Char)
  | [] => [[]]
  | c :: r =>
    let inner := c == '-' && (last.map alphanumeric.contains).getD false
      && (r.head?.map alphanumeric.contains).getD false
    match hyphenated (some c) r with
    | [] => [[c]]
    | s :: ss => if inner then [c] :: s :: ss else (c :: s) :: ss

/-- Words of consecutive stretches, the spaces going to the last. -/
def wordsOf (blanks : Nat) : List (List Char) → List Word
  | [] => []
  | [s] => [⟨s, blanks⟩]
  | s :: t :: ss => ⟨s, 0⟩ :: wordsOf blanks (t :: ss)

/-- The parts of a word around its inner hyphens. -/
def splitWord (w : Word) : List Word := wordsOf w.blanks (hyphenated none w.chars)

/-- Cuts pieces into stretches of limited width. -/
def chop (limit used : Nat) (stretch : List Char) : List Piece → List (List Char)
  | [] => if stretch = [] then [] else [stretch]
  | p :: ps =>
    if p.visible && 0 < used && limit < used + p.width then
      stretch :: chop limit p.width p.chars ps
    else chop limit (used + p.width) (stretch ++ p.chars) ps

/-- The word, in parts where it is wider than the limit. -/
def breakWord (limit : Nat) (w : Word) : List Word :=
  if limit < w.width then wordsOf w.blanks (chop limit 0 [] (pieces w.chars)) else [w]

/-! ### Lines -/

/-- Deals words into lines: a word that no longer fits starts the next line. -/
def deal (first rest used : Nat) (line : List Word) : List Word → List (List Word)
  | [] => [line]
  | w :: ws =>
    if first < used + w.width && line ≠ [] then
      line :: deal rest rest (w.width + w.blanks) [w] ws
    else deal first rest (used + w.width + w.blanks) (line ++ [w]) ws

def lineText : List Word → List Char
  | [] => []
  | [w] => w.chars
  | w :: v :: ws => w.full ++ lineText (v :: ws)

/-- The lines of one paragraph. An empty word in front lets a word too long for the first line
start on the second. -/
def wrapLine (first rest : Nat) (line : List Char) : List (List Char) :=
  (deal first rest 0 [] (⟨[], 0⟩ :: ((words line).flatMap splitWord).flatMap (breakWord rest))).map
    lineText

def paragraphs (s : List Char) : List (List Char) :=
  s.foldr (fun c ps =>
    if c = '\n' then [] :: ps
    else match ps with
      | [] => [[c]]
      | p :: ps => (c :: p) :: ps) [[]]

/-- Lines of a width in columns, the first under one indent and all others under another. -/
def fill (columns : Nat) (indent rest : String) (s : String) : String :=
  let lines := (paragraphs s.toList).flatMap
    (wrapLine (columns - width indent.toList) (columns - width rest.toList))
  let indented := match lines with
    | [] => []
    | l :: ls => (indent.toList ++ l) :: ls.map (rest.toList ++ ·)
  "\n".intercalate (indented.map String.ofList)

end Text

end QuantumDebug
