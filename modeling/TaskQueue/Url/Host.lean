import TaskQueue.Url.Ipv6

/-!
# `TaskQueue.Url.Host`: hosts of URLs

A host between brackets is an IPv6 address. Other hosts are opaque for the schemes of brokers:
they keep their case and their escapes, and characters that are not printable ASCII are
escaped. For the schemes of the web a host is a domain name, and escapes are resolved before
it is checked.
-/

set_option autoImplicit false

namespace TaskQueue

/-- What is wrong with a URL. -/
inductive UrlFault where
  | relative
  | invalidPort
  | emptyHost
  | invalidIpv6
  | invalidDomainCharacter
  | invalidDomainName
deriving DecidableEq, Repr

/-- The fault in words. -/
def UrlFault.message : UrlFault → String
  | relative => "relative URL without a base"
  | invalidPort => "invalid port number"
  | emptyHost => "empty host"
  | invalidIpv6 => "invalid IPv6 address"
  | invalidDomainCharacter => "invalid domain character"
  | invalidDomainName => "invalid international domain name"

namespace Host

/-- Characters that no opaque host has. -/
def forbidden : List Char :=
  [Char.ofNat 0, '\t', '\n', '\r', ' ', '#', '/', ':', '<', '>', '?', '@', '[', '\\', ']', '^',
    '|']

/-- Whether the byte is printable ASCII. -/
def isPrintable (b : UInt8) : Bool := Utf8.within 0x20 0x7E b

/-- A host between brackets, if this is one. -/
def bracketed? (cs : List Char) : Option (Except UrlFault (List Char)) :=
  match cs with
  | '[' :: rest =>
    some (
      if rest.getLast? = some ']' then
        match Ipv6.parse? rest.dropLast with
        | some gs => .ok ('[' :: (Ipv6.text gs ++ [']']))
        | none => .error .invalidIpv6
      else .error .invalidIpv6)
  | _ => none

/-- An opaque host as it stands in a URL; it may be empty. -/
def opaqueHost (cs : List Char) : Except UrlFault (List Char) :=
  match bracketed? cs with
  | some r => r
  | none =>
    if cs.any forbidden.contains then .error .invalidDomainCharacter
    else .ok (Percent.encodeBytes isPrintable (Utf8.encodeChars cs))

/-- Characters that no domain name has, besides blanks and control characters. -/
def forbiddenInDomain : List Char :=
  ['%', '#', '/', ':', '<', '>', '?', '@', '[', '\\', ']', '^', '|', Char.ofNat 0x7F]

/-- A domain name with its escapes resolved. -/
def domainHost (cs : List Char) : Except UrlFault (List Char) :=
  match bracketed? cs with
  | some r => r
  | none =>
    match Utf8.decode? (Percent.decodeChars cs) with
    | none => .error .invalidDomainName
    | some s =>
      if s.toList.any fun c => forbiddenInDomain.contains c || c.toNat ≤ 0x20 then
        .error .invalidDomainName
      else if s.isEmpty then .error .emptyHost
      else .ok (s.toList.map Char.toLower)

end Host
end TaskQueue
