import ChatConsole.Url.Domain
import ChatConsole.Url.IpAddress
import ChatConsole.Url.Percent

/-! # Hosts

A host is a domain in its ASCII form or a numeric address. Hosts of schemes that are not special are
opaque: they are only checked for characters that cannot stand in a host.
-/

namespace ChatConsole.Url

/-- Why a text is no URL. -/
inductive Fault
  | noScheme
  | emptyHost
  | invalidDomain
  | invalidIpv4
  | invalidIpv6
  | invalidHostCharacter
  | invalidPort
  deriving DecidableEq, Repr

def Fault.message : Fault → String
  | .noScheme => "relative URL without a base"
  | .emptyHost => "empty host"
  | .invalidDomain => "invalid international domain name"
  | .invalidIpv4 => "invalid IPv4 address"
  | .invalidIpv6 => "invalid IPv6 address"
  | .invalidHostCharacter => "invalid domain character"
  | .invalidPort => "invalid port number"

inductive Host
  | domain (name : String)
  | ipv4 (address : Nat)
  | ipv6 (groups : List Nat)
  deriving DecidableEq, Repr

namespace Host

def text : Host → String
  | .domain name => name
  | .ipv4 address => Ipv4.text address
  | .ipv6 groups => "[" ++ Ipv6.text groups ++ "]"

/-- An address between brackets, from what stands after the opening one. -/
def parseBracketed (rest : List Char) : Except Fault Host :=
  if rest.getLast? = some ']' then
    match Ipv6.parse? rest.dropLast with
    | some groups => .ok (.ipv6 groups)
    | none => .error .invalidIpv6
  else .error .invalidIpv6

/-- A host of a special scheme. -/
def parse : List Char → Except Fault Host
  | '[' :: rest => parseBracketed rest
  | cs =>
    match Domain.toAscii? (Percent.decode (Text.Utf8.encode cs)) with
    | none => .error .invalidDomain
    | some [] => .error .emptyHost
    | some name =>
      if Ipv4.endsInNumber name then
        match Ipv4.parse? name with
        | some address => .ok (.ipv4 address)
        | none => .error .invalidIpv4
      else .ok (.domain (String.ofList name))

/-- Characters that cannot stand in an opaque host. -/
def isForbidden (c : Char) : Bool := ("\x00\t\n\r #/:<>?@[\\]^|".toList).contains c

/-- Checks an opaque host; true if it is not empty. -/
def checkOpaque : List Char → Except Fault Bool
  | '[' :: rest => (parseBracketed rest).map fun _ => true
  | cs => if cs.any isForbidden then .error .invalidHostCharacter else .ok (!cs.isEmpty)

end Host

end ChatConsole.Url
