import SchemaFormat.Domain.Ascii
import SchemaFormat.Uri.Ipv4
import SchemaFormat.Uri.Ipv6
import SchemaFormat.Uri.Percent

/-!
The host of a file locator: a domain name in its ASCII form, or an internet address.
-/

namespace SchemaFormat.Uri

inductive Host where
  | domain (name : List Char)
  | ipv4 (address : Ipv4)
  | ipv6 (address : Ipv6)
  deriving DecidableEq, Repr

inductive HostFault where
  | empty
  | invalidDomain
  | invalidIpv4
  | invalidIpv6
  deriving DecidableEq, Repr

def HostFault.message : HostFault → String
  | .empty => "empty host"
  | .invalidDomain => "invalid international domain name"
  | .invalidIpv4 => "invalid IPv4 address"
  | .invalidIpv6 => "invalid IPv6 address"

def Host.parse (text : List Char) : Except HostFault Host :=
  match text with
  | '[' :: rest =>
    match rest.reverse with
    | ']' :: inner =>
      match Ipv6.parse? inner.reverse with
      | some address => .ok (.ipv6 address)
      | none => .error .invalidIpv6
    | _ => .error .invalidIpv6
  | _ =>
    match Utf8.decode (percentDecode text) with
    | .error _ => .error .invalidDomain
    | .ok name =>
      match Domain.toAscii name with
      | none => .error .invalidDomain
      | some name =>
        if name.isEmpty then .error .empty
        else if Ipv4.endsInNumber name then
          match Ipv4.parse? name with
          | some address => .ok (.ipv4 address)
          | none => .error .invalidIpv4
        else .ok (.domain name)

def Host.render : Host → List Char
  | .domain name => name
  | .ipv4 address => address.render
  | .ipv6 address => '[' :: address.render ++ [']']

/-- Whether a host is the machine itself. -/
def Host.isLocal (h : Host) : Bool :=
  h == .domain "localhost".toList

end SchemaFormat.Uri
