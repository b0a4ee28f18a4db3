/-
# Hosts

What stands between the two slashes and the path of a URI: a domain name, an
IPv4 or IPv6 address, or, where the scheme is not one of the special ones, a
name that is kept as it is.  A host that cannot be read is refused with the
cause.
-/

import SettingsBroker.Uri.Address
import SettingsBroker.Uri.Domain

namespace SettingsBroker.Uri

/-- The causes for which a text is not a URI. -/
inductive Refusal where
  /-- The text has no scheme, so that it would need a base to be resolved. -/
  | noScheme
  | emptyHost
  /-- The port is not a decimal number below 65536. -/
  | badPort
  /-- The host ends in a number but is no IPv4 address. -/
  | badIpv4
  /-- The host is in brackets, or begins so, but is no IPv6 address. -/
  | badIpv6
  | badDomain
  /-- The host of a scheme without domain names has a forbidden character. -/
  | badHostCharacter
  deriving DecidableEq, Repr

def Refusal.message : Refusal → String
  | .noScheme => "relative URL without a base"
  | .emptyHost => "empty host"
  | .badPort => "invalid port number"
  | .badIpv4 => "invalid IPv4 address"
  | .badIpv6 => "invalid IPv6 address"
  | .badDomain => "invalid international domain name"
  | .badHostCharacter => "invalid domain character"

inductive Host where
  /-- A name; the empty name stands for an empty host. -/
  | name (text : String)
  | ipv4 (address : Nat)
  /-- An IPv6 address by its eight groups. -/
  | ipv6 (groups : List Nat)
  deriving DecidableEq, Repr

namespace Host

def text : Host → String
  | .name text => text
  | .ipv4 address => ipv4Text address
  | .ipv6 groups => "[" ++ ipv6Text groups ++ "]"

/-- Whether there is no host to speak of. -/
def isEmpty (host : Host) : Bool :=
  host = .name ""

/-- Reads a host that begins with a bracket. -/
def ofBracketed (inner : List Char) : Except Refusal Host :=
  if inner.getLast? = some ']' then
    match ipv6? inner.dropLast with
    | some groups => .ok (.ipv6 groups)
    | none => .error .badIpv6
  else .error .badIpv6

/-- Reads the host of a special scheme: a domain name or an address. -/
def ofDomain (text : List Char) : Except Refusal Host :=
  match text with
  | '[' :: inner => ofBracketed inner
  | _ =>
    match domain? (Text.percentDecode (Text.utf8 (String.ofList text))) with
    | none => .error .badDomain
    | some domain =>
      if domain = "" then .error .emptyHost
      else if endsInNumber domain.toList then
        match ipv4? domain.toList with
        | some address => .ok (.ipv4 address)
        | none => .error .badIpv4
      else .ok (.name domain)

/-- The characters that no host of a scheme without domain names may contain. -/
def isForbidden (c : Char) : Bool :=
  c = '\x00' || "\t\n\r #/:<>?@[\\]^|".toList.contains c

/-- Reads the host of any other scheme, which is kept but for control
characters and characters outside ASCII. -/
def ofUninterpreted (text : List Char) : Except Refusal Host :=
  match text with
  | '[' :: inner => ofBracketed inner
  | _ =>
    if text.any isForbidden then .error .badHostCharacter
    else .ok (.name (String.ofList (text.flatMap (Text.percentChar Text.EncodeSet.controls))))

end Host

end SettingsBroker.Uri
