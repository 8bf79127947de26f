import QuantumDebug.Text.Utf8

namespace QuantumDebug

/-!
Percent encoding: which characters of each part of a URL are written as octets, and how octets are
written and read.
-/

namespace Url

/-- Control characters and everything beyond ASCII are encoded in every part. -/
def encodedEverywhere (c : Char) : Bool := c.toNat < 32 || 126 < c.toNat

def encodedInFragment (c : Char) : Bool :=
  encodedEverywhere c || [' ', '"', '<', '>', '\x60'].contains c

def encodedInPath (c : Char) : Bool :=
  encodedInFragment c || ['#', '?', '\x7b', '\x7d'].contains c

/-- What is encoded in a user name or a password. -/
def encodedInUser (c : Char) : Bool :=
  encodedInPath c || ['/', ':', ';', '=', '@', '[', '\\', ']', '^', '|'].contains c

/-- What is encoded in a query; the query of a special scheme also encodes the apostrophe. -/
def encodedInQuery (special : Bool) (c : Char) : Bool :=
  encodedEverywhere c || [' ', '"', '#', '<', '>'].contains c || (special && c == '\'')

def hexUpper (n : Nat) : Char := (Nat.digitChar n).toUpper

def percentOctet (b : UInt8) : List Char :=
  ['%', hexUpper (b.toNat / 16), hexUpper (b.toNat % 16)]

def encodeChar (encoded : Char → Bool) (c : Char) : List Char :=
  if encoded c then (Text.Utf8.encodeChar c).flatMap percentOctet else [c]

def encode (encoded : Char → Bool) (s : List Char) : List Char := s.flatMap (encodeChar encoded)

def hexValue (c : Char) : Option Nat :=
  if '0' ≤ c ∧ c ≤ '9' then some (c.toNat - 48)
  else if 'a' ≤ c ∧ c ≤ 'f' then some (c.toNat - 87)
  else if 'A' ≤ c ∧ c ≤ 'F' then some (c.toNat - 55)
  else none

/-- The octets of a text, percent forms replaced by what they stand for. -/
def decode : List Char → List UInt8
  | [] => []
  | '%' :: a :: b :: r =>
    match hexValue a, hexValue b with
    | some x, some y => UInt8.ofNat (16 * x + y) :: decode r
    | _, _ => 37 :: decode (a :: b :: r)
  | c :: r => Text.Utf8.encodeChar c ++ decode r

end Url

end QuantumDebug
