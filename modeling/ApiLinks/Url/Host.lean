import ApiLinks.Domain.Basic
import ApiLinks.Url.Encoding
import ApiLinks.Url.Ipv4
import ApiLinks.Url.Ipv6

/-!
# Hosts

The host that a text stands for. Where the scheme is special a host is a domain or an address; elsewhere
it is opaque or an IPv6 address.
-/

namespace ApiLinks.Host

/-- Characters that no opaque host holds. -/
def isForbidden (c : Char) : Bool :=
  c == '\u0000' || c == '\t' || c == '\n' || c == '\r' || c == ' ' || c == '#' || c == '/' || c == ':' ||
    c == '<' || c == '>' || c == '?' || c == '@' || c == '[' || c == '\\' || c == ']' || c == '^' || c == '|'

/-- Reads an IPv6 address in brackets behind the first bracket. -/
def ofBracketed (t : Text) : Except UrlError Host :=
  match (Text.dropLast? ']' t).bind ofIpv6? with
  | some h => .ok h
  | none => .error .ipv6

/-- Reads the host of a special scheme, which is not empty. -/
def ofDomain (t : Text) : Except UrlError Host :=
  match t with
  | '[' :: rest => ofBracketed rest
  | _ =>
    match Domain.toAscii? t with
    | none => .error .domain
    | some [] => .error .emptyHost
    | some name =>
      if endsInNumber name then
        match ofIpv4? name with
        | some h => .ok h
        | none => .error .ipv4
      else .ok (.domain name)

/-- Reads the host of a scheme that is not special. -/
def ofOpaque (t : Text) : Except UrlError Host :=
  match t with
  | '[' :: rest => ofBracketed rest
  | _ =>
    if t.any isForbidden then .error .domainCharacter
    else .ok (.domain (Percent.encodeExcept Url.mayStandRootless t))

end ApiLinks.Host
