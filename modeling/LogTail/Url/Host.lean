import LogTail.Url.Address

/-!
The hosts of URLs. A host of a well-known scheme is a domain, or an address; the hosts of other
schemes are kept as they are. What a domain is in ASCII, if it is one, is a parameter.
-/
namespace LogTail.Url

inductive UrlError
  | relative
  | emptyHost
  | invalidPort
  | invalidIpv4
  | invalidIpv6
  | invalidDomain
  | invalidCharacter
  /-- The base of a relative path has no path itself. -/
  | rootlessBase
  deriving DecidableEq, Repr

def UrlError.message : UrlError → String
  | relative => "relative URL without a base"
  | emptyHost => "empty host"
  | invalidPort => "invalid port number"
  | invalidIpv4 => "invalid IPv4 address"
  | invalidIpv6 => "invalid IPv6 address"
  | invalidDomain => "invalid international domain name"
  | invalidCharacter => "invalid domain character"
  | rootlessBase => "relative URL with a cannot-be-a-base base"

def isForbiddenInHost (c : Char) : Bool :=
  ['\x00', '\t', '\n', '\r', ' ', '#', '/', ':', '<', '>', '?', '@', '[', '\\', ']', '^',
    '|'].contains c

def isForbiddenInDomain (c : Char) : Bool :=
  isForbiddenInHost c || c.toNat < 0x20 || c == '%' || c == '\x7f'

def bracketed (cs : List Char) : Except UrlError (List Char) :=
  match cs with
  | '[' :: rest =>
    if rest.getLast? = some ']' then
      match eight? rest.dropLast with
      | some ps => .ok ('[' :: eightText ps ++ [']'])
      | none => .error .invalidIpv6
    else .error .invalidIpv6
  | _ => .error .invalidIpv6

/-- Reads the host of a well-known scheme; `ascii?` gives a domain in ASCII, if it is one. -/
def specialHost (ascii? : List Char → Option (List Char)) (cs : List Char) :
    Except UrlError (List Char) :=
  if cs.head? = some '[' then bracketed cs
  else
    match ascii? (Text.decodeUtf8 (percentDecode cs)) with
    | none => .error .invalidDomain
    | some domain =>
      if domain.isEmpty then .error .emptyHost
      else if domain.any isForbiddenInDomain then .error .invalidCharacter
      else if endsInNumber domain then
        match word? domain with
        | some n => .ok (wordText n)
        | none => .error .invalidIpv4
      else .ok domain

def otherHost (cs : List Char) : Except UrlError (List Char) :=
  if cs.head? = some '[' then bracketed cs
  else if cs.any isForbiddenInHost then .error .invalidCharacter
  else .ok (percentEncode (·.toNat < 0x20) cs)

end LogTail.Url
