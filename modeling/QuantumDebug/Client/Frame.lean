import QuantumDebug.Client.Request
import QuantumDebug.Surroundings
import QuantumDebug.Text.Blank
import QuantumDebug.Text.Numeral
import QuantumDebug.Text.Utf8

namespace QuantumDebug

/-!
How messages follow one another in a stream: each is preceded by a header line with its length in
octets and a line that is passed over. Anything that is not so framed ends the reading for good.
-/

/-! ### Reading -/

/-- The length that a header line states. -/
def contentLength? (line : List Char) : Option Nat :=
  match (Text.trimEnd line).span (· ≠ ':') with
  | (name, ':' :: value) =>
    if String.ofList name = "Content-Length" ∧ ':' ∉ value then
      Text.readNatural64 (Text.trim value)
    else none
  | _ => none

/-- The first line of octets, its end included, if it has ended. -/
def takeLine : List UInt8 → Option (List UInt8 × List UInt8)
  | [] => none
  | b :: bs => if b = 10 then some ([b], bs) else (takeLine bs).map fun (l, rest) => (b :: l, rest)

def lineText (line : List UInt8) : Option (List Char) := Text.Utf8.decode? line

/-- What a stream of octets starts with. -/
inductive FrameHead where
  /-- Part of a frame, and at least so many more octets to come. -/
  | incomplete (missing : Nat)
  /-- Something that is no frame. -/
  | broken
  /-- A frame with this content, and what follows it. -/
  | frame (content rest : List UInt8)
deriving DecidableEq, Inhabited

/-- The content of a frame after its header: the line between is passed over. -/
def afterHeader (length : Nat) (octets : List UInt8) : FrameHead :=
  match takeLine octets with
  | none => .incomplete (length + 1)
  | some (line, rest) =>
    if (lineText line).isNone then .broken
    else if rest.length < length then .incomplete (length - rest.length)
    else .frame (rest.take length) (rest.drop length)

/-- Finds the first frame. -/
def frameHead (octets : List UInt8) : FrameHead :=
  match takeLine octets with
  | none => .incomplete 1
  | some (line, rest) =>
    match (lineText line).bind contentLength? with
    | none => .broken
    | some length => afterHeader length rest

/-- The request in a frame. -/
def requestOf (content : List UInt8) : Option Request :=
  (Text.Utf8.decode? content).bind fun cs => Request.parse? (String.ofList cs)

/-- Where the reading of requests has come to: octets that are part of a frame, and whether any
more are read. -/
structure RequestReader where
  octets : List UInt8
  reading : Bool
deriving DecidableEq

namespace RequestReader

def start : RequestReader := ⟨[], true⟩

instance : Inhabited RequestReader := ⟨start⟩

/-- The requests at the start of octets, at most so many, and what is left. -/
def requests : Nat → List UInt8 → List Request × RequestReader
  | 0, octets => ([], ⟨octets, true⟩)
  | most + 1, octets =>
    match frameHead octets with
    | .incomplete _ => ([], ⟨octets, true⟩)
    | .broken => ([], ⟨[], false⟩)
    | .frame content rest =>
      match requestOf content with
      | none => ([], ⟨[], false⟩)
      | some r =>
        let (rs, reader) := requests most rest
        (r :: rs, reader)

/-- Reads octets as they come and gives the requests that they complete. -/
def feed (i : RequestReader) (octets : List UInt8) : List Request × RequestReader :=
  if i.reading then requests (i.octets.length + octets.length) (i.octets ++ octets) else ([], i)

/-- How many octets to read next without going beyond a frame. -/
def wanted (i : RequestReader) : Nat :=
  match frameHead i.octets with
  | .incomplete missing => missing
  | _ => 1

end RequestReader

/-! ### Writing -/

def frameHeader (content : String) : String :=
  "Content-Length: " ++ toString content.utf8ByteSize ++ "\r\n\r\n"

def frameText (content : String) : String := frameHeader content ++ content ++ "\r\n"

/-- A stream to the client: the contents of the frames in it, and how many more it takes if it
does not take all. -/
structure FrameWriter where
  written : List String
  room : Option Nat
deriving DecidableEq, Inhabited

namespace FrameWriter

def start (room : Option Nat) : FrameWriter := ⟨[], room⟩

/-- Writes a message under the next number, or fails to. -/
def deliver (m : Message) (out : FrameWriter) : Bool × FrameWriter :=
  match out.room with
  | some 0 => (false, out)
  | room =>
    let content := (m.numbered (out.written.length + 1)).text
    (true, ⟨out.written ++ [content], room.map (· - 1)⟩)

/-- The stream as a client. -/
def client : Client FrameWriter := ⟨deliver⟩

end FrameWriter

end QuantumDebug
