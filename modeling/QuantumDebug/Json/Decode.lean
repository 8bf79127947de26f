import QuantumDebug.Json.Basic
import QuantumDebug.Text.Quoted

namespace QuantumDebug

/-!
Reading typed values out of JSON. A decoder fails with the first fault it meets: the members of an
object are looked at in the order in which the object holds them, members that are missing only
after that, in the order in which the record declares them. A record is also read from an array of
its fields in order.
-/

namespace Json

/-- What was found in place of what a decoder wanted. -/
inductive Found where
  | null
  | bool (value : Bool)
  | int (value : Int)
  | float (value : Binary64)
  | str (value : String)
  | sequence
  | map
deriving DecidableEq, Inhabited, Repr

/-- What a value counts as when it is not what was wanted. -/
def found : Json → Found
  | .null => .null
  | .bool b => .bool b
  | .int n => .int n
  | .float x => .float x
  | .str s => .str s
  | .arr _ => .sequence
  | .obj _ => .map

/-- How a fault names what was found. -/
def Found.describe : Found → String
  | .null => "null"
  | .bool b => "boolean `" ++ (if b then "true" else "false") ++ "`"
  | .int n => "integer `" ++ toString n ++ "`"
  | .float x => "floating point `" ++ String.ofList x.chars ++ "`"
  | .str s => "string " ++ Text.quoted s
  | .sequence => "sequence"
  | .map => "map"

/-- Why a value could not be read. -/
inductive Fault where
  | wrongType (found : Found) (wanted : String)
  | wrongValue (found : Found) (wanted : String)
  | wrongLength (length : Nat) (wanted : String)
  | unknownVariant (name : String) (variants : List String)
  | missingField (name : String)
  | duplicateField (name : String)
deriving DecidableEq, Inhabited, Repr

def backquoted (name : String) : String := "`" ++ name ++ "`"

/-- The names that would have been accepted. -/
def oneOf : List String → String
  | [] => "there are no variants"
  | [a] => "expected " ++ backquoted a
  | [a, b] => "expected " ++ backquoted a ++ " or " ++ backquoted b
  | names => "expected one of " ++ ", ".intercalate (names.map backquoted)

def Fault.message : Fault → String
  | .wrongType f wanted => "invalid type: " ++ f.describe ++ ", expected " ++ wanted
  | .wrongValue f wanted => "invalid value: " ++ f.describe ++ ", expected " ++ wanted
  | .wrongLength n wanted => "invalid length " ++ toString n ++ ", expected " ++ wanted
  | .unknownVariant name variants => "unknown variant " ++ backquoted name ++ ", " ++ oneOf variants
  | .missingField name => "missing field " ++ backquoted name
  | .duplicateField name => "duplicate field " ++ backquoted name

/-- Reads a value of a type, or says what is wrong. -/
abbrev Decoder (α : Type) := Json → Except Fault α

/-! ### Plain values -/

/-- Any value, with sorted keys. -/
def any : Decoder Json := fun j => .ok j.normalize

def string : Decoder String
  | .str s => .ok s
  | j => .error (.wrongType j.found "a string")

def boolean : Decoder Bool
  | .bool b => .ok b
  | j => .error (.wrongType j.found "a boolean")

/-- An integer between two bounds, named for the range. -/
def integer (low high : Int) (range : String) : Decoder Int
  | .int n => if low ≤ n ∧ n ≤ high then .ok n else .error (.wrongValue (.int n) range)
  | j => .error (.wrongType j.found range)

def i64 : Decoder Int := integer (-0x8000_0000_0000_0000) 0x7FFF_FFFF_FFFF_FFFF "i64"

def i32 : Decoder Int := integer (-0x8000_0000) 0x7FFF_FFFF "i32"

def u32 : Decoder Nat := fun j => (integer 0 0xFFFF_FFFF "u32" j).map Int.toNat

def u64 : Decoder Nat := fun j => (integer 0 0xFFFF_FFFF_FFFF_FFFF "u64" j).map Int.toNat

def nullable {α : Type} (d : Decoder α) : Decoder (Option α)
  | .null => .ok none
  | j => (d j).map some

/-- Every item, up to the first fault. -/
def items {α : Type} (d : Decoder α) : List Json → Except Fault (List α)
  | [] => .ok []
  | x :: xs =>
    match d x with
    | .error e => .error e
    | .ok a => (items d xs).map (a :: ·)

/-- A list of values. -/
def sequence {α : Type} (d : Decoder α) : Decoder (List α)
  | .arr xs => items d xs
  | j => .error (.wrongType j.found "a sequence")

/-- A word among several, each standing for a value. -/
def word {α : Type} (words : List (String × α)) (name : String) : Except Fault α :=
  match words.lookup name with
  | some a => .ok a
  | none => .error (.unknownVariant name (words.map Prod.fst))

/-- One of several words: as a text, or as the only key of an object with null. -/
def variant {α : Type} (words : List (String × α)) : Decoder α
  | .str s => word words s
  | .obj [(key, value)] =>
    match word words key, value with
    | .error e, _ => .error e
    | .ok a, .null => .ok a
    | .ok _, j => .error (.wrongType j.found "unit")
  | .obj _ => .error (.wrongValue .map "map with a single key")
  | j => .error (.wrongType j.found "string or map")

/-! ### Records -/

/-- How to read a record: what is wrong with a member taken by itself, and how to build the record
from its members. A member that is missing and needed gives the fault it is told to give. -/
structure Record (α : Type) where
  fields : List (String × (Json → Option Fault))
  build : (String → Option Json) → (String → Fault) → Except Fault α

namespace Record

/-- The fault of a value, if it has one. -/
def check {α : Type} (d : Decoder α) (j : Json) : Option Fault :=
  match d j with
  | .ok _ => none
  | .error e => some e

def done {α : Type} (a : α) : Record α := ⟨[], fun _ _ => .ok a⟩

/-- A field that has to be there. -/
def field {α : Type} (name : String) (d : Decoder α) : Record α where
  fields := [(name, check d)]
  build members missing :=
    match members name with
    | some j => d j
    | none => .error (missing name)

/-- A field with a value for when it is missing. -/
def fieldOr {α : Type} (name : String) (d : Decoder α) (default : α) : Record α where
  fields := [(name, check d)]
  build members _ :=
    match members name with
    | some j => d j
    | none => .ok default

/-- A field that may be missing or null. -/
def fieldOption {α : Type} (name : String) (d : Decoder α) : Record (Option α) :=
  fieldOr name (nullable d) none

/-- A function read first, then its argument. -/
def apply {α β : Type} (f : Record (α → β)) (x : Record α) : Record β where
  fields := f.fields ++ x.fields
  build members missing :=
    match f.build members missing with
    | .error e => .error e
    | .ok g => (x.build members missing).map g

instance : Seq Record := ⟨fun f x => f.apply (x ())⟩

instance : Functor Record := ⟨fun f x => (done f).apply x, fun a x => (done (fun _ => a)).apply x⟩

/-- The first fault among members in their order: a known member that repeats or cannot be read. -/
def firstFault (fields : List (String × (Json → Option Fault))) (seen : List String) :
    List (String × Json) → Option Fault
  | [] => none
  | (key, value) :: ms =>
    match fields.lookup key with
    | none => firstFault fields seen ms
    | some check =>
      if key ∈ seen then some (.duplicateField key)
      else match check value with
        | some e => some e
        | none => firstFault fields (key :: seen) ms

/-- Reads the record from members. -/
def ofMembers {α : Type} (r : Record α) (ms : List (String × Json)) : Except Fault α :=
  match firstFault r.fields [] ms with
  | some e => .error e
  | none => r.build (lookup · ms) .missingField

/-- How many fields there are, in words. -/
def count {α : Type} (r : Record α) : String :=
  let n := r.fields.length
  toString n ++ (if n = 1 then " element" else " elements")

/-- Reads the record from an array of its fields in order. -/
def ofItems {α : Type} (name : String) (surplus : String) (r : Record α) (xs : List Json) :
    Except Fault α :=
  let members := (r.fields.map Prod.fst).zip xs
  let short := Fault.wrongLength xs.length (name ++ " with " ++ r.count)
  match r.build (lookup · members) fun _ => short with
  | .error e => .error e
  | .ok a => if r.fields.length < xs.length then .error (.wrongLength xs.length surplus) else .ok a

/-- Reads the record from an object, or from an array of its fields. -/
def decoder {α : Type} (name : String) (r : Record α) : Decoder α
  | .obj ms => r.ofMembers ms
  | .arr xs => r.ofItems name "fewer elements in array" xs
  | j => .error (.wrongType j.found name)

/-- Reads the record from an object, or from an array that holds every one of its fields. -/
def fullDecoder {α : Type} (name : String) (r : Record α) : Decoder α
  | .obj ms => r.ofMembers ms
  | .arr xs =>
    if xs.length < r.fields.length then
      .error (.wrongLength xs.length (name ++ " with " ++ r.count))
    else r.ofItems name "fewer elements in array" xs
  | j => .error (.wrongType j.found name)

end Record

end Json

end QuantumDebug
