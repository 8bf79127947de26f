import QuantumDebug.Text.Utf8

namespace QuantumDebug

/-!
The way of log records to the client's console. A writer never fails, also when nobody listens any
more.
-/

/-- A channel for log records: those that have come, and whether anybody listens. -/
structure LogChannel where
  records : List String
  listening : Bool
deriving DecidableEq, Repr

namespace LogChannel

def start : LogChannel := ⟨[], true⟩

instance : Inhabited LogChannel := ⟨start⟩

/-- Writes a record and gives the number of octets written, which are all. -/
def write (c : LogChannel) (octets : List UInt8) : Nat × LogChannel :=
  (octets.length,
    if c.listening then { c with records := c.records ++ [Text.Utf8.decodeLossy octets] } else c)

def leave (c : LogChannel) : LogChannel := { c with listening := false }

end LogChannel

end QuantumDebug
