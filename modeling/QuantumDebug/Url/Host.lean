import QuantumDebug.Url.Percent

namespace QuantumDebug

/-!
Hosts of a URL: names and addresses, and how addresses are read and written.
-/

/-- A host: a name, perhaps empty, or an address. -/
inductive Host where
  | domain (name : String)
  | ipv4 (address : Nat)
  | ipv6 (groups : List Nat)
deriving DecidableEq, Inhabited, Repr

namespace Url

/-- Why a text is not a URL. -/
inductive ParseError where
  | emptyHost
  | badDomainName
  | badPort
  | badIpv4
  | badIpv6
  | badDomainCharacter
  | noBase
deriving DecidableEq, Inhabited, Repr

def ParseError.message : ParseError → String
  | .emptyHost => "empty host"
  | .badDomainName => "invalid international domain name"
  | .badPort => "invalid port number"
  | .badIpv4 => "invalid IPv4 address"
  | .badIpv6 => "invalid IPv6 address"
  | .badDomainCharacter => "invalid domain character"
  | .noBase => "relative URL without a base"

/-- The parts of a text between separators. -/
def splitAt (separator : Char) (s : List Char) : List (List Char) :=
  s.foldr (fun c ps =>
    if c = separator then [] :: ps
    else match ps with
      | [] => [[c]]
      | p :: ps => (c :: p) :: ps) [[]]

/-! ### Four numbers -/

/-- The number written in a base, digits being known to fit it. -/
def ofDigits (base : Nat) (cs : List Char) : Nat :=
  cs.foldl (fun n c => n * base + (hexValue c).getD 0) 0

/-- A part of an IPv4 address: decimal, octal after `0`, hexadecimal after `0x`. -/
def ipv4Number (s : List Char) : Option Nat :=
  let (base, digits) := match s with
    | '0' :: 'x' :: r | '0' :: 'X' :: r => (16, r)
    | '0' :: c :: r => (8, c :: r)
    | _ => (10, s)
  if s = [] then none
  else if digits.all fun c => (hexValue c).any (· < base) then some (ofDigits base digits)
  else none

/-- The parts of a name between dots, without an empty one at the end. -/
def dotParts (s : List Char) : List (List Char) :=
  let parts := splitAt '.' s
  if parts.getLast? = some [] then parts.dropLast else parts

/-- Whether the last part of a name is a number, which makes the name an address. -/
def endsInNumber (s : List Char) : Bool :=
  match (dotParts s).getLast? with
  | none => false
  | some last => (last ≠ [] && last.all Char.isDigit) || (ipv4Number last).isSome

/-- Reads an IPv4 address: at most four parts, each but the last below 256, the last filling the
octets that are left. -/
def parseIpv4 (s : List Char) : Except ParseError Nat :=
  let parts := dotParts s
  match (parts.mapM ipv4Number).map List.reverse with
  | some (last :: others) =>
    if 4 < parts.length ∨ Nat.pow 256 (5 - parts.length) ≤ last ∨ others.any (256 ≤ ·) then
      .error .badIpv4
    else .ok (others.reverse.zipIdx.foldl (fun n (part, i) => n + part * Nat.pow 256 (3 - i)) last)
  | _ => .error .badIpv4

def ipv4Text (address : Nat) : String :=
  ".".intercalate ([3, 2, 1, 0].map fun i => toString (address / Nat.pow 256 i % 256))

/-! ### Eight groups -/

def ipv6Group (s : List Char) : Option Nat :=
  if s = [] ∨ 4 < s.length then none
  else (s.mapM hexValue).map fun ds => ds.foldl (fun n d => 16 * n + d) 0

def ipv6Octet (s : List Char) : Option Nat :=
  if s = [] ∨ 3 < s.length ∨ ¬s.all Char.isDigit ∨ (s.head? = some '0' ∧ s ≠ ['0']) then none
  else
    let n := ofDigits 10 s
    if n < 256 then some n else none

/-- Reads groups between colons; the last may be four octets, which are two groups. -/
def ipv6Groups (dottedEnd : Bool) : List (List Char) → Option (List Nat)
  | [] => some []
  | [g] =>
    if dottedEnd && g.contains '.' then
      match (splitAt '.' g).mapM ipv6Octet with
      | some [a, b, c, d] => some [256 * a + b, 256 * c + d]
      | _ => none
    else (ipv6Group g).map ([·])
  | g :: h :: gs =>
    match ipv6Group g, ipv6Groups dottedEnd (h :: gs) with
    | some n, some ns => some (n :: ns)
    | _, _ => none

/-- The groups on one side of the double colon. -/
def ipv6Side (dottedEnd : Bool) (s : List Char) : Option (List Nat) :=
  if s = [] then some [] else ipv6Groups dottedEnd (splitAt ':' s)

/-- Splits at the first double colon. -/
def splitDoubleColon : List Char → Option (List Char × List Char)
  | ':' :: ':' :: r => some ([], r)
  | c :: r => (splitDoubleColon r).map fun (a, b) => (c :: a, b)
  | [] => none

/-- Reads an IPv6 address: eight groups, or fewer with one double colon for the zero groups. -/
def parseIpv6 (s : List Char) : Except ParseError (List Nat) :=
  match splitDoubleColon s with
  | none =>
    match ipv6Side true s with
    | some gs => if gs.length = 8 then .ok gs else .error .badIpv6
    | none => .error .badIpv6
  | some (before, after) =>
    match ipv6Side false before, ipv6Side true after with
    | some front, some back =>
      if front.length + back.length ≤ 7 then
        .ok (front ++ List.replicate (8 - front.length - back.length) 0 ++ back)
      else .error .badIpv6
    | _, _ => .error .badIpv6

/-- The longest run of zero groups, the first of equals: where it starts and how long it is. -/
def longestZeros (groups : List Nat) : Nat × Nat :=
  let run (i : Nat) := ((groups.drop i).takeWhile (· = 0)).length
  let longer (best : Nat × Nat) (i : Nat) := if best.2 < run i then (i, run i) else best
  (List.range groups.length).foldl longer (0, 0)

/-- The text of an IPv6 address, its longest run of two zero groups or more left out. -/
def ipv6Text (groups : List Nat) : String :=
  let hex (gs : List Nat) := ":".intercalate (gs.map fun g => String.ofList (Nat.toDigits 16 g))
  let (start, length) := longestZeros groups
  if length < 2 then hex groups
  else hex (groups.take start) ++ "::" ++ hex (groups.drop (start + length))

end Url

def Host.text : Host → String
  | .domain name => name
  | .ipv4 address => Url.ipv4Text address
  | .ipv6 groups => "[" ++ Url.ipv6Text groups ++ "]"

end QuantumDebug
