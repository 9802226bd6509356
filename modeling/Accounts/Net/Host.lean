import Accounts.Net.Address
import Accounts.Net.DomainName

/-! The hosts of URLs. -/

namespace Accounts.Net

inductive Host
  | name (text : List Char)
  | v4 (address : Nat)
  | v6 (groups : List Nat)
  deriving DecidableEq, Repr

inductive UrlFault
  | noScheme
  | emptyHost
  | domainName
  | hostCharacter
  | v4Address
  | v6Address
  | port
  deriving DecidableEq, Repr

def UrlFault.message : UrlFault → String
  | .noScheme => "relative URL without a base"
  | .emptyHost => "empty host"
  | .domainName => "invalid international domain name"
  | .hostCharacter => "invalid domain character"
  | .v4Address => "invalid IPv4 address"
  | .v6Address => "invalid IPv6 address"
  | .port => "invalid port number"

namespace Host

def ofDigits? (base : Nat) (digits : List Char) : Option Nat :=
  (digits.mapM fun c => (Text.hexDigit c).filter (· < base)).map
    (·.foldl (fun number digit => number * base + digit) 0)

/-- Reads a part of an address of four bytes: in hexadecimal behind `0x`, in octal behind another
zero, or in decimal. -/
def v4Part? : List Char → Option Nat
  | [] => none
  | ['0'] => some 0
  | '0' :: 'x' :: digits => ofDigits? 16 digits
  | '0' :: 'X' :: digits => ofDigits? 16 digits
  | '0' :: digits => ofDigits? 8 digits
  | digits => ofDigits? 10 digits

def dottedParts (domain : List Char) : List (List Char) :=
  let parts := domain.splitOn '.'
  if 1 < parts.length ∧ parts.getLast? = some [] then parts.dropLast else parts

/-- Whether the last part of a name is a number, so that the name has to be an address. -/
def endsInNumber (domain : List Char) : Bool :=
  match (dottedParts domain).getLast? with
  | none => false
  | some last => (last ≠ [] && last.all Char.isDigit) || (v4Part? last).isSome

/-- Reads an address of four bytes or fewer parts, the last of which takes the bytes of those that
are missing. -/
def v4Address? (domain : List Char) : Option Nat := do
  let parts := dottedParts domain
  if 4 < parts.length then failure
  let numbers ← parts.mapM v4Part?
  let last ← numbers.getLast?
  let bytes := numbers.dropLast
  if bytes.any (255 < ·) then failure
  if 0xFFFFFFFF >>> (8 * bytes.length) < last then failure
  return (bytes.mapIdx fun place byte => byte <<< (8 * (3 - place))).foldl Nat.add last

/-- Reads the rest of an address of eight groups behind some groups, which are kept in reverse. The
gap is the number of groups up to where zeros are left out, one zero being counted among them. The
last two groups may be written as four bytes. -/
def v6From (done : List Nat) (gap : Option Nat) : Nat → List Char → Option (List Nat × Option Nat)
  | _, [] => some (done, gap)
  | 0, _ => none
  | fuel + 1, text =>
    if done.length = 8 then none
    else
      let digits := (text.take 4).takeWhile fun c => (Text.hexDigit c).isSome
      let group := ofHexDigits (digits.filterMap Text.hexDigit)
      match digits, text.drop digits.length with
      | [], ':' :: rest =>
        if gap.isSome then none else v6From (0 :: done) (some (done.length + 1)) fuel rest
      | [], _ => none
      | _, [] => some (group :: done, gap)
      | _, '.' :: _ =>
        match Text.scanAll? scanBytes text with
        | some [a, b, c, d] =>
          if 6 < done.length then none
          else some ((c * 256 + d) :: (a * 256 + b) :: done, gap)
        | _ => none
      | _, ':' :: rest => if rest = [] then none else v6From (group :: done) gap fuel rest
      | _, _ => none

def v6Address? (text : List Char) : Option (List Nat) :=
  let read :=
    match text with
    | ':' :: ':' :: rest => v6From [0] (some 1) text.length rest
    | ':' :: _ => none
    | [] => none
    | _ => v6From [] none text.length text
  match read with
  | none => none
  | some (done, none) => if done.length = 8 then some done.reverse else none
  | some (done, some gap) =>
    let groups := done.reverse
    some (groups.take gap ++ List.replicate (8 - groups.length) 0 ++ groups.drop gap)

def bracketed (text : List Char) : Except UrlFault Host :=
  match text.reverse with
  | ']' :: inner =>
    match v6Address? inner.reverse with
    | some groups => .ok (.v6 groups)
    | none => .error .v6Address
  | _ => .error .v6Address

def isBarred (c : Char) : Bool :=
  c = '\x00' || c = '\t' || c = '\n' || c = '\r' || " #/:<>?@[\\]^|".toList.contains c

def ofOpaque (text : List Char) : Except UrlFault Host :=
  match text with
  | '[' :: inner => bracketed inner
  | _ => if text.any isBarred then .error .hostCharacter else .ok (.name text)

def ofDomain (text : List Char) : Except UrlFault Host :=
  match text with
  | '[' :: inner => bracketed inner
  | _ =>
    match domainName? text with
    | none => .error .domainName
    | some [] => .error .emptyHost
    | some domain =>
      if endsInNumber domain then
        match v4Address? domain with
        | some address => .ok (.v4 address)
        | none => .error .v4Address
      else .ok (.name domain)

def print : Host → List Char
  | .name text => text
  | .v4 address =>
    SocketAddress.printBytes
      [address >>> 24, (address >>> 16) % 256, (address >>> 8) % 256, address % 256]
  | .v6 groups => '[' :: SocketAddress.printHost groups ++ [']']

end Host

end Accounts.Net
