import QuantumDebug.Json.Decode

namespace QuantumDebug

/-!
How a client names a source file. What the client sends is sent back with a breakpoint as it is,
without the members that mean nothing.
-/

/-- How prominently a source is shown. -/
inductive PresentationHint where
  | normal
  | emphasize
  | deEmphasize
deriving DecidableEq, Inhabited, Repr

/-- How the checksum of a source is computed. -/
inductive ChecksumAlgorithm where
  | md5
  | sha1
  | sha256
  | timestamp
deriving DecidableEq, Inhabited, Repr

structure Checksum where
  algorithm : ChecksumAlgorithm
  value : String
deriving DecidableEq, Inhabited, Repr

/-- A source file as the client names it. Sources it was made from are kept as they are written. -/
structure Source where
  name : Option String
  path : Option String
  sourceReference : Option Int
  presentationHint : Option PresentationHint
  origin : Option String
  sources : Option (List Json)
  adapterData : Option Json
  checksums : Option (List Checksum)
deriving DecidableEq

namespace Source

/-- A source of which nothing is known. -/
def unnamed : Source := ⟨none, none, none, none, none, none, none, none⟩

instance : Inhabited Source := ⟨unnamed⟩

def hints : List (String × PresentationHint) :=
  [("normal", .normal), ("emphasize", .emphasize), ("deEmphasize", .deEmphasize)]

def hintName : PresentationHint → String
  | .normal => "normal"
  | .emphasize => "emphasize"
  | .deEmphasize => "deEmphasize"

def algorithms : List (String × ChecksumAlgorithm) :=
  [("MD5", .md5), ("SHA1", .sha1), ("SHA256", .sha256), ("timestamp", .timestamp)]

def algorithmName : ChecksumAlgorithm → String
  | .md5 => "MD5"
  | .sha1 => "SHA1"
  | .sha256 => "SHA256"
  | .timestamp => "timestamp"

def checksumDecoder : Json.Decoder Checksum :=
  Json.Record.fullDecoder "struct Checksum"
    (Checksum.mk <$> .field "algorithm" (Json.variant algorithms)
      <*> .field "checksum" Json.string)

def checksumJson (c : Checksum) : Json :=
  .obj [("algorithm", .str (algorithmName c.algorithm)), ("checksum", .str c.value)]

/-- The source as JSON, without what is not known. -/
def toJson (s : Source) : Json :=
  .obj (Json.optional "name" .str s.name ++ Json.optional "path" .str s.path
    ++ Json.optional "source_reference" .int s.sourceReference
    ++ Json.optional "presentation_hint" (.str ∘ hintName) s.presentationHint
    ++ Json.optional "origin" .str s.origin ++ Json.optional "sources" .arr s.sources
    ++ Json.optional "adapter_data" id s.adapterData
    ++ Json.optional "checksums" (.list checksumJson) s.checksums)

/-- Reads a source nested at most so deep. -/
def read : Nat → Json.Decoder Source
  | 0, j => .error (.wrongType j.found "struct Source")
  | depth + 1, j =>
    Json.Record.fullDecoder "struct Source"
      (Source.mk <$> .fieldOption "name" Json.string
        <*> .fieldOption "path" Json.string
        <*> .fieldOption "source_reference" Json.i32
        <*> .fieldOption "presentation_hint" (Json.variant hints)
        <*> .fieldOption "origin" Json.string
        <*> .fieldOption "sources" (Json.sequence fun k => (read depth k).map toJson)
        <*> .fieldOption "adapter_data" Json.any
        <*> .fieldOption "checksums" (Json.sequence checksumDecoder)) j

def decoder : Json.Decoder Source := read 128

end Source

end QuantumDebug
