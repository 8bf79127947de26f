import QuantumDebug.Url.Basic
import QuantumDebug.Url.Domain

namespace QuantumDebug

/-!
Reading a URL. Blanks around it and line breaks inside it do not count; the parts come out
normalised: scheme and names in lower case, default ports left out, dot segments resolved, other
characters in percent form.
-/

namespace Url

/-- What a scheme asks of the rest of a URL. -/
inductive SchemeKind where
  /-- Local files. -/
  | file
  /-- Schemes that always have a host. -/
  | special
  /-- All others. -/
  | plain
deriving DecidableEq, Inhabited, Repr

namespace SchemeKind

/-- The kind of a scheme in lower case. -/
def ofName (scheme : String) : SchemeKind :=
  if scheme = "file" then .file
  else if ["http", "https", "ws", "wss", "ftp"].contains scheme then .special
  else .plain

def isSpecial : SchemeKind → Bool
  | .file | .special => true
  | .plain => false

def isSlash (k : SchemeKind) (c : Char) : Bool := c == '/' || (k.isSpecial && c == '\\')

def endsAuthority (k : SchemeKind) (c : Char) : Bool := k.isSlash c || c == '?' || c == '#'

end SchemeKind

/-- The port that need not be written. -/
def defaultPort (scheme : String) : Option Nat :=
  match scheme with
  | "http" | "ws" => some 80
  | "https" | "wss" => some 443
  | "ftp" => some 21
  | _ => none

/-- A text without control characters and spaces at its start. -/
def trimControls (s : List Char) : List Char := s.dropWhile (·.toNat ≤ 32)

/-- The text that counts: nothing below the exclamation mark around it, no tabs and line breaks. -/
def significant (s : List Char) : List Char :=
  (trimControls (trimControls s).reverse).reverse.filter fun c => c ≠ '\t' ∧ c ≠ '\n' ∧ c ≠ '\r'

def isSchemeChar (c : Char) : Bool := c.isAlphanum || c == '+' || c == '-' || c == '.'

/-- Splits off a scheme and its colon. -/
def splitScheme (s : List Char) : Option (String × List Char) :=
  match s with
  | c :: _ =>
    if c.isAlpha then
      match s.span isSchemeChar with
      | (scheme, ':' :: rest) => some (String.ofList (scheme.map Char.toLower), rest)
      | _ => none
    else none
  | [] => none

/-! ### Paths -/

/-- Whether a text is a drive: a letter and a colon or a bar. -/
def isDrive : List Char → Bool
  | [c, m] => c.isAlpha && (m == ':' || m == '|')
  | _ => false

/-- Whether a text is a slash and a drive, at its end or before another separator. -/
def startsWithDrive : List Char → Bool
  | '/' :: c :: m :: r =>
    isDrive [c, m] && (match r with
      | [] => true
      | s :: _ => s == '/' || s == '\\' || s == '?' || s == '#')
  | _ => false

def isDot (s : List Char) : Bool := ["." , "%2e", "%2E"].contains (String.ofList s)

def isDotDot (s : List Char) : Bool :=
  ["..", "%2e%2e", "%2e%2E", "%2E%2e", "%2E%2E", "%2e.", "%2E.", ".%2e", ".%2E"].contains
    (String.ofList s)

/-- A path up to and with its last slash. -/
def upToSlash (path : List Char) : List Char := (path.reverse.dropWhile (· ≠ '/')).reverse

def fromSlash (path : List Char) : List Char := path.drop ((upToSlash path).length - 1)

/-- The path above one that ends with a slash. The root stays, and so does a drive. -/
def parentPath (path : List Char) : List Char :=
  let body := path.dropLast
  if path.getLast? = some '/' ∧ '/' ∈ body ∧ ¬startsWithDrive (fromSlash body ++ ['/']) then
    upToSlash body
  else upToSlash path

/-- Adds one segment to a path, with the slash after it. The first segment of a file path turns
the bar of a drive into a colon. -/
def addSegment (kind : SchemeKind) (path segment : List Char) (slash : Bool) : List Char :=
  let trail := if slash then ['/'] else []
  if isDotDot segment then
    let up := parentPath path
    if slash ∧ up.getLast? ≠ some '/' then up ++ ['/'] else up
  else if isDot segment then
    if path.getLast? = some '/' then path else path ++ ['/']
  else if kind = .file ∧ path.length = 1 ∧ isDrive segment then
    segment.take 1 ++ ':' :: trail
      |> (path ++ ·)
  else path ++ segment ++ trail

/-- Whether a segment is a drive that stands first in a file path; such a URL has no host. -/
def dropsHost (kind : SchemeKind) (path segment : List Char) : Bool :=
  kind = .file && path.length == 1 && isDrive segment && !isDot segment && !isDotDot segment

/-- Reads a path, given the part of it that is there already and the segment being read. Says also
whether the host is to be dropped. -/
def readPath (kind : SchemeKind) (path segment : List Char) :
    List Char → List Char × Bool × List Char
  | [] => (addSegment kind path segment false, dropsHost kind path segment, [])
  | c :: r =>
    if c = '?' ∨ c = '#' then
      (addSegment kind path segment false, dropsHost kind path segment, c :: r)
    else if kind.isSlash c then
      let (result, drops, rest) := readPath kind (addSegment kind path segment true) [] r
      (result, drops || dropsHost kind path segment, rest)
    else readPath kind path (segment ++ encodeChar encodedInPath c) r

/-- A file path with a single slash at its start. -/
def withOneSlash (path : List Char) : List Char := '/' :: path.dropWhile (· = '/')

/-- Reads the path of a file URL, from what is there already. -/
def readFilePath (path rest : List Char) : List Char × Bool × List Char :=
  let (result, drops, rest) := readPath .file path [] rest
  (withOneSlash result, drops, rest)

/-- Reads the path after an authority. -/
def readPathAfterHost (kind : SchemeKind) (s : List Char) : List Char × Bool × List Char :=
  if kind.isSpecial then
    match s with
    | c :: r => readPath kind ['/'] [] (if kind.isSlash c then r else c :: r)
    | [] => readPath kind ['/'] [] []
  else match s with
    | [] => ([], false, [])
    | c :: r =>
      if c = '?' ∨ c = '#' then ([], false, c :: r)
      else readPath kind ['/'] [] (if c = '/' then r else c :: r)

/-! ### Query and fragment -/

/-- Reads a query and a fragment. -/
def readTail (kind : SchemeKind) (s : List Char) : Option String × Option String :=
  let query (q : List Char) := String.ofList (encode (encodedInQuery kind.isSpecial) q)
  let fragment (f : List Char) := String.ofList (encode encodedInFragment f)
  match s with
  | '?' :: r =>
    match r.span (· ≠ '#') with
    | (q, '#' :: f) => (some (query q), some (fragment f))
    | (q, _) => (some (query q), none)
  | '#' :: f => (none, some (fragment f))
  | _ => (none, none)

/-! ### Authority -/

/-- A text split at the last character of a kind. -/
def splitAtLast (c : Char) (s : List Char) : Option (List Char × List Char) :=
  if c ∈ s then
    let after := (s.reverse.takeWhile (· ≠ c)).reverse
    some (s.take (s.length - after.length - 1), after)
  else none

/-- Reads user name and password; what comes after them is left. -/
def readUser (kind : SchemeKind) (s : List Char) :
    Except ParseError (String × Option String × List Char) :=
  let (authority, rest) := s.span (!kind.endsAuthority ·)
  match splitAtLast '@' authority with
  | none => .ok ("", none, s)
  | some ([], after) =>
    if after = [] ∧ rest ≠ [] then .error .emptyHost else .ok ("", none, after ++ rest)
  | some (info, after) =>
    let code (cs : List Char) := String.ofList (encode encodedInUser cs)
    match info.span (· ≠ ':') with
    | (user, _ :: c :: password) => .ok (code user, some (code (c :: password)), after ++ rest)
    | (user, _) => .ok (code user, none, after ++ rest)

/-- Splits off the text of a host: up to a colon outside brackets or the end of the authority. -/
def splitHost (kind : SchemeKind) (inBrackets : Bool) : List Char → List Char × List Char
  | [] => ([], [])
  | c :: r =>
    if kind.endsAuthority c || (c == ':' && !inBrackets) then ([], c :: r)
    else
      let (host, rest) := splitHost kind ((inBrackets || c == '[') && c != ']') r
      (c :: host, rest)

/-- Reads the digits of a port up to the end of the authority. -/
def readPort (n : Nat) (any : Bool) : List Char → Except ParseError (Option Nat × List Char)
  | [] => .ok (if any then some n else none, [])
  | c :: r =>
    if c.isDigit then
      let n := n * 10 + (c.toNat - 48)
      if 65535 < n then .error .badPort else readPort n true r
    else if c = '/' ∨ c = '\\' ∨ c = '?' ∨ c = '#' then .ok (if any then some n else none, c :: r)
    else .error .badPort

/-- Reads a port after its colon, if there is one. The default port is left out. -/
def readPortPart (scheme : String) : List Char → Except ParseError (Option Nat × List Char)
  | ':' :: r => do
    let (port, rest) ← readPort 0 false r
    return (if port = defaultPort scheme then none else port, rest)
  | s => .ok (none, s)

/-- Reads what comes after two slashes. -/
def afterSlashes (scheme : String) (kind : SchemeKind) (s : List Char) : Except ParseError Url := do
  let (user, password, s) ← readUser kind s
  let (hostText, s) := splitHost kind false s
  if hostText = [] ∧ kind.isSpecial then throw .emptyHost
  let host ← if kind.isSpecial then parseHost hostText else parseOpaqueHost hostText
  if hostText = [] ∧ s.head? = some ':' then throw .emptyHost
  let (port, s) ← readPortPart scheme s
  if hostText = [] ∧ (user ≠ "" ∨ password ≠ none) then throw .emptyHost
  let (path, _, s) := readPathAfterHost kind s
  let (query, fragment) := readTail kind s
  return ⟨scheme, some ⟨user, password, host, port⟩, String.ofList path, query, fragment⟩

/-! ### Whole URLs -/

/-- A file URL with a host that is perhaps empty. -/
def fileUrl (host : Host) (path : List Char) (rest : List Char) : Url :=
  let (query, fragment) := readTail .file rest
  ⟨"file", some ⟨"", none, host, none⟩, String.ofList path, query, fragment⟩

/-- Reads a file URL after its colon. Two slashes start a host; a drive is no host, and the local
host is left out. -/
def parseFile (s : List Char) : Except ParseError Url :=
  let hostless (path rest : List Char) : Url :=
    let (path, _, rest) := readFilePath path rest
    fileUrl (.domain "") path rest
  match s with
  | c :: d :: r =>
    if SchemeKind.file.isSlash c && SchemeKind.file.isSlash d then
      let (hostText, rest) := r.span (!SchemeKind.file.endsAuthority ·)
      if isDrive hostText then .ok (hostless ['/'] r)
      else if hostText = [] then .ok (hostless ['/'] rest)
      else
        match parseHost hostText with
        | .error e => .error e
        | .ok host =>
          if host = .domain "localhost" then .ok (hostless ['/'] rest)
          else
            let (path, drops, tail) := readPathAfterHost .file rest
            .ok (fileUrl (if drops then .domain "" else host) (withOneSlash path) tail)
    else if SchemeKind.file.isSlash c then .ok (hostless [] s)
    else .ok (hostless ['/'] s)
  | [c] => .ok (hostless (if SchemeKind.file.isSlash c then [] else ['/']) s)
  | [] => .ok (hostless ['/'] [])

/-- Reads a URL of a scheme without hosts of its own after its colon: an authority after two
slashes, a path after one, and an opaque path otherwise. -/
def parsePlain (scheme : String) (s : List Char) : Except ParseError Url :=
  match s with
  | '/' :: '/' :: r => afterSlashes scheme .plain r
  | '/' :: r =>
    let (path, _, rest) := readPath .plain ['/'] [] r
    let (query, fragment) := readTail .plain rest
    .ok ⟨scheme, none, String.ofList path, query, fragment⟩
  | _ =>
    let (path, rest) := s.span fun c => c ≠ '?' ∧ c ≠ '#'
    let (query, fragment) := readTail .plain rest
    .ok ⟨scheme, none, String.ofList (encode encodedEverywhere path), query, fragment⟩

def parse (s : String) : Except ParseError Url :=
  match splitScheme (significant s.toList) with
  | none => .error .noBase
  | some (scheme, rest) =>
    match SchemeKind.ofName scheme with
    | .file => parseFile rest
    | .special => afterSlashes scheme .special (rest.dropWhile SchemeKind.special.isSlash)
    | .plain => parsePlain scheme rest

end Url

end QuantumDebug
