import QuantumDebug.Url.Host

namespace QuantumDebug

/-!
A URL in its parts. The parts hold normalised text, so that a URL is known by how it is written.
-/

/-- Who is asked, and where: user name, password, host and port. -/
structure Authority where
  user : String
  password : Option String
  host : Host
  port : Option Nat
deriving DecidableEq, Inhabited, Repr

/-- A URL. -/
structure Url where
  scheme : String
  authority : Option Authority
  path : String
  query : Option String
  fragment : Option String
deriving DecidableEq, Inhabited, Repr

def Authority.text (a : Authority) : String :=
  let password := match a.password with
    | none => ""
    | some p => ":" ++ p
  let user := a.user ++ password
  let port := match a.port with
    | none => ""
    | some n => ":" ++ toString n
  (if user = "" then "" else user ++ "@") ++ a.host.text ++ port

namespace Url

/-- A text with a mark before it, if there is one. -/
def marked (mark : String) : Option String → String
  | none => ""
  | some s => mark ++ s

/-- The text of a URL. A path that would read as an authority is kept apart by a dot. -/
def text (u : Url) : String :=
  u.scheme ++ ":"
    ++ (match u.authority with
      | some a => "//" ++ a.text
      | none => if u.path.toList.take 2 = ['/', '/'] then "/." else "")
    ++ u.path ++ marked "?" u.query ++ marked "#" u.fragment

instance : ToString Url := ⟨text⟩

/-- The segments of a path that starts with a slash. -/
def segments (u : Url) : Option (List (List Char)) :=
  match u.path.toList with
  | '/' :: r => some (splitAt '/' r)
  | _ => none

/-- The last segment of the path, unless it is empty. -/
def name? (u : Url) : Option String :=
  match u.segments.bind List.getLast? with
  | none | some [] => none
  | some s => some (String.ofList s)

def isLetter (b : UInt8) : Bool := (65 ≤ b && b ≤ 90) || (97 ≤ b && b ≤ 122)

/-- Octets of a path; one that ends like a drive gets a slash. -/
def withDriveSlash (bs : List UInt8) : List UInt8 :=
  match bs.reverse with
  | last :: letter :: _ :: _ =>
    if isLetter letter && (last == 58 || last == 124) then bs ++ [47] else bs
  | _ => bs

/-- The file that a local URL names, percent forms decoded. -/
def toFilePath (u : Url) : Option String :=
  let isLocal := match u.authority with
    | none => true
    | some a => a.host = .domain "" || a.host = .domain "localhost"
  match isLocal, u.segments with
  | true, some segments =>
    some (Text.Utf8.decodeLossy (withDriveSlash (segments.flatMap fun s => 47 :: decode s)))
  | _, _ => none

end Url

end QuantumDebug
