import Outband.Decimal.Digits
/-! The addresses that a service can listen on: an IP address and a port, in text. -/

namespace Outband.Http.SocketAddress

/-- Decimal digits whose value does not exceed the limit. -/
def isDecimal (limit : Nat) (chars : List Char) : Bool :=
  !chars.isEmpty && chars.all Char.isDigit &&
    Decimal.value chars ≤ limit

def maxPort : Nat := UInt16.size - 1

def maxScope : Nat := UInt32.size - 1

/-- One of the four numbers of an address, with no zeros in front. -/
def isOctet (chars : List Char) : Bool :=
  isDecimal 255 chars && chars.length ≤ 3 && (chars.head? != some '0' || chars.length == 1)

def isV4 (text : String) : Bool :=
  let parts := text.splitOn "."
  parts.length == 4 && parts.all fun part => isOctet part.toList

def isHexDigit (c : Char) : Bool :=
  c.isDigit || ('a' ≤ c && c ≤ 'f') || ('A' ≤ c && c ≤ 'F')

/-- One of the groups that colons separate. -/
def isGroup (text : String) : Bool :=
  let chars := text.toList
  !chars.isEmpty && chars.length ≤ 4 && chars.all isHexDigit

/-- How many groups the text has. An address with points at its end counts as two of them. -/
def groups? (mayEndInV4 : Bool) (text : String) : Option Nat :=
  if text.isEmpty then some 0
  else
    let parts := text.splitOn ":"
    if parts.all isGroup then some parts.length
    else if mayEndInV4 && parts.dropLast.all isGroup && parts.getLast?.any isV4 then
      some (parts.length + 1)
    else none

/-- Eight groups, or fewer with two colons for the rest, which is at least one. -/
def isV6 (text : String) : Bool :=
  match text.splitOn "::" with
  | [all] => groups? true all == some 8
  | [front, back] =>
    match groups? false front, groups? true back with
    | some n, some m => n + m ≤ 7
    | _, _ => false
  | _ => false

/-- An address in brackets with the number of its scope, if there is one. -/
def isScoped (text : String) : Bool :=
  match text.splitOn "%" with
  | [address] => isV6 address
  | [address, scope] => isV6 address && isDecimal maxScope scope.toList
  | _ => false

def isValid (text : String) : Bool :=
  match text.toList with
  | '[' :: rest =>
    let inner := rest.takeWhile (· != ']')
    match rest.drop inner.length with
    | ']' :: ':' :: port => isScoped (String.ofList inner) && isDecimal maxPort port
    | _ => false
  | chars =>
    let address := chars.takeWhile (· != ':')
    match chars.drop address.length with
    | ':' :: port => isV4 (String.ofList address) && isDecimal maxPort port
    | _ => false

end Outband.Http.SocketAddress
