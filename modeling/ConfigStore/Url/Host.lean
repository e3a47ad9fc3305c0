import ConfigStore.Text.Utf8
import ConfigStore.Url.Address
import ConfigStore.Url.Domain.Basic
import ConfigStore.Url.Escape

/-!
# Hosts of URLs

* `Host.read` reads a host: a bracketed address of eight groups, an address of four bytes, or
  a name. Schemes that stand for network protocols have domain names, whose letters are
  brought into lower case; in other URLs a name is kept as it is written.
-/

namespace ConfigStore.Url

/-- Why a text is no URL. -/
inductive Fault where
  | relative
  | emptyHost
  | invalidPort
  | invalidIpv6
  | invalidIpv4
  | invalidHostCharacter
  | invalidDomain
deriving DecidableEq, Repr

def Fault.message : Fault → String
  | relative => "relative URL without a base"
  | emptyHost => "empty host"
  | invalidPort => "invalid port number"
  | invalidIpv6 => "invalid IPv6 address"
  | invalidIpv4 => "invalid IPv4 address"
  | invalidHostCharacter => "invalid domain character"
  | invalidDomain => "invalid international domain name"

inductive Host where
  | name (text : List Char)
  | ipv4 (address : Nat)
  | ipv6 (groups : List Nat)
deriving DecidableEq, Repr

namespace Host

/-- The text of a host within a URL. -/
def write : Host → List Char
  | name text => text
  | ipv4 address => Ipv4.write address
  | ipv6 groups => '[' :: Ipv6.write groups ++ [']']

/-- A host in brackets. -/
def readBracketed (text : List Char) : Except Fault Host :=
  if text.getLast? = some ']' then
    match Ipv6.read? (text.drop 1).dropLast with
    | some groups => .ok (ipv6 groups)
    | none => .error .invalidIpv6
  else .error .invalidIpv6

/-- Characters that end or confuse a host and stand in none. -/
def forbidden (c : Char) : Bool :=
  c.toNat = 0 || "\t\n\r #/:<>?@[\\]^|".toList.contains c

/-- Characters that no domain name has. -/
def forbiddenInDomain (c : Char) : Bool :=
  forbidden c || c.toNat < 0x20 || c = '%' || c.toNat = 0x7F

/-- A host of a URL whose scheme stands for no network protocol. -/
def readPlain (text : List Char) : Except Fault Host :=
  if text.head? = some '[' then readBracketed text
  else if text.any forbidden then .error .invalidHostCharacter
  else .ok (name (Percent.encode Escape.control text))

/-- A domain name in its ASCII form, if that holds no forbidden characters. -/
def asciiDomain? (text : List Char) : Option (List Char) :=
  (Domain.ascii? text).filter fun domain => !domain.any forbiddenInDomain

/-- A host of a URL whose scheme stands for a network protocol. -/
def readDomain (text : List Char) : Except Fault Host :=
  if text.head? = some '[' then readBracketed text
  else
    match Utf8.decodeFrom 0 (Percent.decode text) with
    | .error _ => .error .invalidDomain
    | .ok decoded =>
      match asciiDomain? decoded with
      | none => .error .invalidDomain
      | some domain =>
        if domain = [] then .error .emptyHost
        else if Ipv4.endsInNumber domain then
          match Ipv4.read? domain with
          | some address => .ok (ipv4 address)
          | none => .error .invalidIpv4
        else .ok (name domain)

end Host

end ConfigStore.Url
