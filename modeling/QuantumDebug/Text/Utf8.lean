namespace QuantumDebug

/-!
UTF-8 as a machine on octets. Bytes that begin no character, or a character that is cut off, are
one fault as far as they go, and reading goes on with the byte that did not fit.
-/

namespace Text

namespace Utf8

/-- A character that is still being read: its value so far, how many octets it lacks, and the
bounds of the next one. -/
structure Partial where
  value : Nat
  missing : Nat
  low : Nat
  high : Nat
deriving DecidableEq, Inhabited, Repr

/-- What an octet starts. -/
inductive Start where
  | char (c : Char)
  | lead (p : Partial)
  | bad
deriving DecidableEq, Inhabited, Repr

/-- What an octet starts: an ASCII character, a longer character, or nothing. The bounds on the
second octet leave out overlong forms, surrogates and numbers beyond the last character. -/
def start (b : UInt8) : Start :=
  let n := b.toNat
  if n < 0x80 then .char (Char.ofNat n)
  else if n < 0xC2 then .bad
  else if n < 0xE0 then .lead ⟨n - 0xC0, 1, 0x80, 0xBF⟩
  else if n < 0xF0 then
    .lead ⟨n - 0xE0, 2, if n = 0xE0 then 0xA0 else 0x80, if n = 0xED then 0x9F else 0xBF⟩
  else if n < 0xF5 then
    .lead ⟨n - 0xF0, 3, if n = 0xF0 then 0x90 else 0x80, if n = 0xF4 then 0x8F else 0xBF⟩
  else .bad

/-- One octet outside a character: what it gives and what is left open. -/
def begin (b : UInt8) : List (Option Char) × Option Partial :=
  match start b with
  | .char c => ([some c], none)
  | .lead p => ([], some p)
  | .bad => ([none], none)

/-- One octet: the characters and faults it completes, and the character it leaves open. -/
def step (state : Option Partial) (b : UInt8) : List (Option Char) × Option Partial :=
  match state with
  | none => begin b
  | some p =>
    if p.low ≤ b.toNat ∧ b.toNat ≤ p.high then
      let value := p.value * 64 + (b.toNat - 0x80)
      if p.missing = 1 then ([some (Char.ofNat value)], none)
      else ([], some ⟨value, p.missing - 1, 0x80, 0xBF⟩)
    else
      let (out, next) := begin b
      (none :: out, next)

/-- The characters and faults of octets after a character left open. -/
def run (state : Option Partial) : List UInt8 → List (Option Char)
  | [] => if state.isSome then [none] else []
  | b :: bs =>
    let (out, next) := step state b
    out ++ run next bs

/-- The text of octets, each fault shown as a replacement character. -/
def decodeLossy (bs : List UInt8) : String :=
  String.ofList ((run none bs).map (·.getD '\uFFFD'))

/-- The characters of octets, if there is no fault among them. -/
def decode? (bs : List UInt8) : Option (List Char) := (run none bs).mapM id

def encodeChar (c : Char) : List UInt8 := String.utf8EncodeChar c

def encode (cs : List Char) : List UInt8 := cs.flatMap encodeChar

end Utf8

end Text

end QuantumDebug
