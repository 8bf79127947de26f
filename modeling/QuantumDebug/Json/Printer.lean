import QuantumDebug.Json.Basic

namespace QuantumDebug

/-!
The compact text of a JSON value: no blanks, members in their order, and only quotes, backslashes
and control characters escaped.
-/

namespace Json

def hexDigit (n : Nat) : Char := Nat.digitChar n

/-- A character as it stands between quotes. -/
def escape (c : Char) : List Char :=
  if c = '"' then ['\\', '"']
  else if c = '\\' then ['\\', '\\']
  else if c = '\n' then ['\\', 'n']
  else if c = '\r' then ['\\', 'r']
  else if c = '\t' then ['\\', 't']
  else if c.toNat = 8 then ['\\', 'b']
  else if c.toNat = 12 then ['\\', 'f']
  else if c.toNat < 32 then
    ['\\', 'u', '0', '0', hexDigit (c.toNat / 16), hexDigit (c.toNat % 16)]
  else [c]

def quote (s : String) : List Char := '"' :: (s.toList.flatMap escape ++ ['"'])

mutual

/-- The characters of a value. -/
def chars : Json → List Char
  | .null => ['n', 'u', 'l', 'l']
  | .bool true => ['t', 'r', 'u', 'e']
  | .bool false => ['f', 'a', 'l', 's', 'e']
  | .int n => (toString n).toList
  | .float x => x.chars
  | .str s => quote s
  | .arr xs => '[' :: (itemsChars xs ++ [']'])
  | .obj ms => '\x7b' :: (membersChars ms ++ ['\x7d'])

def itemsChars : List Json → List Char
  | [] => []
  | [x] => chars x
  | x :: y :: xs => chars x ++ ',' :: itemsChars (y :: xs)

def membersChars : List (String × Json) → List Char
  | [] => []
  | [(k, v)] => quote k ++ ':' :: chars v
  | (k, v) :: m :: ms => quote k ++ ':' :: chars v ++ ',' :: membersChars (m :: ms)

end

def text (j : Json) : String := String.ofList j.chars

end Json

end QuantumDebug
