import QuantumDebug.Url.Host
import QuantumDebug.Url.Idna.Label
import QuantumDebug.Url.Idna.Punycode

namespace QuantumDebug

/-!
Names of hosts in their ASCII form: mapped, composed, and cut into labels, of which those with other
characters are written in letters and digits.
-/

namespace Url

/-- Characters that no name may hold. -/
def forbiddenInDomain (c : Char) : Bool :=
  c.toNat ≤ 32 || c.toNat == 127
    || ['%', '#', '/', ':', '<', '>', '?', '@', '[', '\\', ']', '^', '|'].contains c

/-- Characters that no opaque host may hold. -/
def forbiddenInOpaqueHost (c : Char) : Bool :=
  ['\x00', '\t', '\n', '\r', ' ', '#', '/', ':', '<', '>', '?', '@', '[', '\\', ']', '^',
    '|'].contains c

def beyondAscii (c : Char) : Bool := 127 < c.toNat

def encodedMark : List Char := "xn--".toList

/-- The label that a mapped label stands for. One in letters and digits has to stand for composed
text beyond ASCII that needs no mapping. -/
def readLabel (label : List Char) : Option (List Char) :=
  if encodedMark.isPrefixOf label then
    match Idna.Punycode.decode (label.drop 4) with
    | some name =>
      if name.any beyondAscii && name.all Idna.stays && Text.composed name == name then some name
      else none
    | none => none
  else some label

/-- The ASCII form of a label. -/
def labelToAscii (label : List Char) : List Char :=
  if label.any beyondAscii then encodedMark ++ Idna.Punycode.encode label else label

/-- Whether labels may stand in one name. -/
def labelsFit (labels : List (List Char)) : Bool :=
  labels.all (fun l => Idna.wellFormed l && !l.any forbiddenInDomain)
    && (!labels.any (·.any Idna.needsDirection) || labels.all Idna.keepsDirection)

/-- The ASCII form of a name. -/
def domainToAscii (name : List Char) : Except ParseError (List Char) :=
  match (Idna.mapText name).bind fun s => (splitAt '.' (Text.composed s)).mapM readLabel with
  | some labels =>
    if labelsFit labels then .ok (['.'].intercalate (labels.map labelToAscii))
    else .error .badDomainName
  | none => .error .badDomainName

/-- Reads the host of a special scheme: an IPv6 address in brackets, or a name, which is an address
if its last part is a number. -/
def parseHost (s : List Char) : Except ParseError Host :=
  match s with
  | '[' :: r =>
    if r.getLast? = some ']' then (parseIpv6 r.dropLast).map .ipv6 else .error .badIpv6
  | _ =>
    match Text.Utf8.decode? (decode s) with
    | none => .error .badDomainName
    | some cs =>
      match domainToAscii cs with
      | .error e => .error e
      | .ok name =>
        if name = [] then .error .emptyHost
        else if endsInNumber name then (parseIpv4 name).map .ipv4
        else .ok (.domain (String.ofList name))

/-- Reads the host of any other scheme, which is kept as it is. -/
def parseOpaqueHost (s : List Char) : Except ParseError Host :=
  match s with
  | '[' :: r =>
    if r.getLast? = some ']' then (parseIpv6 r.dropLast).map .ipv6 else .error .badIpv6
  | _ =>
    if s.any forbiddenInOpaqueHost then .error .badDomainCharacter
    else .ok (.domain (String.ofList (encode encodedEverywhere s)))

end Url

end QuantumDebug
