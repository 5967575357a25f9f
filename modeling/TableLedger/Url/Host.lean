/-
  TableLedger.Url.Host — hosts as they are written in URLs.

  A host in brackets is an address of version 6.  Under a special scheme
  any other host is a domain name, which is decoded and written in ASCII, or
  an address of version 4 if it ends in a number; under the other schemes it
  is kept as it is.
-/

import TableLedger.Error
import TableLedger.Url.Address
import TableLedger.Url.Domain.Basic

namespace TableLedger.Url

/-- Characters that no host may hold. -/
def forbiddenInHost (c : Char) : Bool := "\x00\t\n\r #/:<>?@[\\]^|".toList.contains c

/-- Characters that no domain name may hold. -/
def forbiddenInDomain (c : Char) : Bool :=
  forbiddenInHost c || c == '%' || c.toNat < 0x20 || c.toNat == 0x7F

/-- A domain name in ASCII and lower case. -/
def domain? (t : Text) : Option Text := do
  let name ← Domain.toAscii? (← Text.ofUtf8? (decode t))
  if name.any forbiddenInDomain then none else return name

/-- A host in brackets. -/
def bracketedHost (inner : Text) : Except UrlFault Text :=
  match inner.getLast? with
  | some ']' =>
    match version6? inner.dropLast with
    | some pieces => .ok (renderVersion6 pieces)
    | none => .error .invalidIpv6
  | _ => .error .invalidIpv6

/-- The host of a URL with a special scheme. -/
def specialHost : Text → Except UrlFault Text
  | '[' :: inner => bracketedHost inner
  | t =>
    match domain? t with
    | none => .error .invalidDomainName
    | some [] => .error .emptyHost
    | some name =>
      if endsInNumber name then
        match version4? name with
        | some n => .ok (renderVersion4 n)
        | none => .error .invalidIpv4
      else .ok name

/-- The host of any other URL. -/
def generalHost : Text → Except UrlFault Text
  | '[' :: inner => bracketedHost inner
  | t =>
    if t.any forbiddenInHost then .error .invalidDomainCharacter else .ok (encode isForeign t)

end TableLedger.Url
