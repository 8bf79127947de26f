import QuantumDebug.Client.Source
import QuantumDebug.Url.Parser

namespace QuantumDebug

/-!
Names of source files. A client is given the bare path of a local file and the whole URL of any
other source; a bare path means something only after a program with that file has been loaded.
-/

/-- The paths of local files and the URLs they stand for, each path and each URL at most once. -/
structure SourceRegistry where
  entries : List (String × Url)
deriving DecidableEq, Repr

namespace SourceRegistry

def empty : SourceRegistry := ⟨[]⟩

instance : Inhabited SourceRegistry := ⟨empty⟩

/-- Ties a path to a URL and unties whatever either of them was tied to. -/
def insert (r : SourceRegistry) (path : String) (url : Url) : SourceRegistry :=
  ⟨r.entries.filter (fun (p, u) => p ≠ path ∧ u ≠ url) ++ [(path, url)]⟩

def urlOf? (r : SourceRegistry) (path : String) : Option Url :=
  (r.entries.find? (·.1 = path)).map Prod.snd

def pathOf? (r : SourceRegistry) (url : Url) : Option String :=
  (r.entries.find? (·.2 = url)).map Prod.fst

/-- Makes the path of a local file known. Sources that are not local files have none. -/
def register (r : SourceRegistry) (url : Url) : SourceRegistry :=
  if url.scheme = "file" then
    match url.toFilePath with
    | some path => r.insert path url
    | none => r
  else r

/-- Whether a text starts with a scheme and a colon. A single letter is a drive and no scheme. -/
def hasScheme (s : List Char) : Bool :=
  match s.span (· ≠ ':') with
  | (c :: d :: r, ':' :: _) =>
    c.isAlpha && (d :: r).all fun x => x.isAlphanum || x == '+' || x == '-' || x == '.'
  | _ => false

/-- The source that a path or a URL names. -/
def resolve (r : SourceRegistry) (pathOrUrl : String) : Option Url :=
  match r.urlOf? pathOrUrl with
  | some url => some url
  | none => if hasScheme pathOrUrl.toList then (Url.parse pathOrUrl).toOption else none

/-- The source that a client names by its path. -/
def resolveSource (r : SourceRegistry) (s : Source) : Option Url := s.path.bind r.resolve

/-- How the client is told of a source: by the path of a local file that is known, else by its
URL, and with the last segment of its path for a name. -/
def clientSource (r : SourceRegistry) (url : Url) : Source :=
  { Source.unnamed with
    name := url.name?
    path := some ((r.pathOf? url).getD url.text) }

end SourceRegistry

end QuantumDebug
