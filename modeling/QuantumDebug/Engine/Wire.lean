import QuantumDebug.Json.Decode
import QuantumDebug.Json.Parser
import QuantumDebug.Json.Printer
import QuantumDebug.Text.Utf8

namespace QuantumDebug

/-!
How an engine process is spoken to: one JSON object on every line. A question carries a number, and
the reply to it the same number; a process may also print notifications. Lines that hold neither
are passed over.
-/

/-- A failure that a process reports in place of a result. -/
structure RemoteError where
  message : String
  stackTrace : Option String
deriving DecidableEq, Inhabited, Repr

/-- The reply to the question with a number. -/
structure EngineReply where
  id : Nat
  result : Json
  error : Option RemoteError
deriving DecidableEq, Inhabited

/-- A line that a process prints. -/
inductive EngineMessage where
  | reply (reply : EngineReply)
  | notification (method : String) (params : Json)
deriving DecidableEq, Inhabited

def RemoteError.decoder : Json.Decoder RemoteError :=
  Json.Record.decoder "struct RemoteError"
    (RemoteError.mk <$> .field "message" Json.string <*> .fieldOption "stackTrace" Json.string)

namespace EngineMessage

def replyRecord : Json.Record EngineReply :=
  EngineReply.mk <$> .field "id" Json.u64 <*> .fieldOr "result" Json.any .null
    <*> .fieldOption "error" RemoteError.decoder

def notificationRecord : Json.Record EngineMessage :=
  .notification <$> .field "method" Json.string <*> .fieldOr "params" Json.any .null

/-- Reads a message: a reply if it can be one, else a notification. -/
def ofJson : Json → Option EngineMessage
  | .obj ms =>
    match replyRecord.ofMembers ms with
    | .ok r => some (.reply r)
    | .error _ => (notificationRecord.ofMembers ms).toOption
  | _ => none

def ofLine (line : String) : Option EngineMessage := (Json.parse? line).bind ofJson

def outputText (params : Json) : String :=
  match params.get? "text" with
  | some (.str s) => s
  | _ => ""

end EngineMessage

/-- A question as it is written on a line. -/
def questionLine (id : Nat) (method : String) (params : Json) : String :=
  (Json.obj [("id", .nat id), ("method", .str method), ("params", params)]).text

/-! ### Reading lines -/

/-- The lines that end in a text of octets, and what follows the last of them. -/
def splitLines : List UInt8 → List (List UInt8) × List UInt8
  | [] => ([], [])
  | b :: bs =>
    if b = 10 then ([] :: (splitLines bs).1, (splitLines bs).2)
    else match splitLines bs with
      | ([], rest) => ([], b :: rest)
      | (l :: ls, rest) => ((b :: l) :: ls, rest)

/-- What has been read from a process: messages that nobody has looked at, the line that is not
over, and whether anything may follow. -/
structure Inbox where
  messages : List EngineMessage
  line : List UInt8
  reading : Bool
deriving DecidableEq

namespace Inbox

def empty : Inbox := ⟨[], [], true⟩

instance : Inhabited Inbox := ⟨empty⟩

/-- Reads a line. One that is not UTF-8 ends the reading. -/
def readLine (i : Inbox) (line : List UInt8) : Inbox :=
  if i.reading then
    match Text.Utf8.decode? line with
    | none => { i with reading := false }
    | some cs =>
      { i with messages := i.messages ++ (EngineMessage.ofLine (String.ofList cs)).toList }
  else i

/-- Reads octets as they come. -/
def feed (i : Inbox) (octets : List UInt8) : Inbox :=
  let (lines, rest) := splitLines (i.line ++ octets)
  { lines.foldl readLine i with line := rest }

/-- Ends the reading; a last line need not be terminated. -/
def close (i : Inbox) : Inbox :=
  { (if i.line = [] then i else i.readLine i.line) with line := [], reading := false }

end Inbox

end QuantumDebug
