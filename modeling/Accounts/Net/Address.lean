import Accounts.Text.Numerals
import Accounts.Text.Scanner

/-! Addresses of sockets and their text. -/

namespace Accounts.Net

open Text

inductive SocketAddress
  | v4 (bytes : List Nat) (port : Nat)
  | v6 (groups : List Nat) (scope port : Nat)
  deriving DecidableEq, Repr

def scanBounded (greatest : Nat) : Scanner Nat := do
  let digits ← digitRun (← get).length
  let value := Nat.ofDigitChars 10 digits 0
  if value ≤ greatest then pure value else failure

def scanByte : Scanner Nat := do
  let digits ← digitRun (← get).length
  match digits with
  | '0' :: _ :: _ => failure
  | _ =>
    let value := Nat.ofDigitChars 10 digits 0
    if digits.length ≤ 3 ∧ value ≤ 255 then pure value else failure

def scanBytes : Scanner (List Nat) := do
  let a ← scanByte
  exactly '.'
  let b ← scanByte
  exactly '.'
  let c ← scanByte
  exactly '.'
  let d ← scanByte
  return [a, b, c, d]

def ofHexDigits (digits : List Nat) : Nat := digits.foldl (fun n digit => n * 16 + digit) 0

def scanGroup : Scanner Nat := fun text =>
  let digits := text.takeWhile fun c => (hexDigit c).isSome
  if digits = [] ∨ 4 < digits.length then none
  else some (ofHexDigits (digits.filterMap hexDigit), text.drop digits.length)

def scanSeparated {α : Type} (first : Bool) (scanner : Scanner α) : Scanner α := do
  if !first then exactly ':'
  scanner

def scanGroups (first : Bool) : Nat → Scanner (List Nat × Bool)
  | 0 => return ([], false)
  | most + 1 => fun text =>
    let bytes := if most = 0 then none else scanSeparated first scanBytes text
    match bytes with
    | some ([a, b, c, d], rest) => some (([a * 256 + b, c * 256 + d], true), rest)
    | _ =>
      match scanSeparated first scanGroup text with
      | none => some (([], false), text)
      | some (group, rest) =>
        (do
          let (groups, dotted) ← scanGroups false most
          return (group :: groups, dotted)) rest

def scanAllGroups : Scanner (List Nat) := do
  let (head, dotted) ← scanGroups true 8
  if head.length = 8 then return head
  if dotted then failure
  exactly ':'
  exactly ':'
  let (tail, _) ← scanGroups true (7 - head.length)
  return head ++ List.replicate (8 - head.length - tail.length) 0 ++ tail

def scanScope : Scanner Nat := do
  match ← get with
  | '%' :: rest =>
    set rest
    scanBounded 0xFFFFFFFF
  | _ => return 0

def scanPort : Scanner Nat := do
  exactly ':'
  scanBounded 0xFFFF

def scanSocketAddress : Scanner SocketAddress := do
  match ← get with
  | '[' :: rest =>
    set rest
    let groups ← scanAllGroups
    let scope ← scanScope
    exactly ']'
    let port ← scanPort
    return .v6 groups scope port
  | _ =>
    let bytes ← scanBytes
    let port ← scanPort
    return .v4 bytes port

namespace SocketAddress

def parse? (text : String) : Option SocketAddress := scanAll? scanSocketAddress text.toList

def printBytes (bytes : List Nat) : List Char := ['.'].intercalate (bytes.map decimal)

def printGroups (groups : List Nat) : List Char := [':'].intercalate (groups.map (Nat.toDigits 16))

def zeroRun (groups : List Nat) : Nat := (groups.takeWhile (· = 0)).length

def longestZeroRun (groups : List Nat) : Nat × Nat :=
  (List.range groups.length).foldl
    (fun best start =>
      let length := zeroRun (groups.drop start)
      if best.2 < length then (start, length) else best)
    (0, 0)

def printHost (groups : List Nat) : List Char :=
  match groups with
  | [0, 0, 0, 0, 0, 0xffff, a, b] =>
    "::ffff:".toList ++ printBytes [a / 256, a % 256, b / 256, b % 256]
  | _ =>
    let (start, length) := longestZeroRun groups
    if 1 < length then
      printGroups (groups.take start) ++ [':', ':'] ++ printGroups (groups.drop (start + length))
    else printGroups groups

def print : SocketAddress → List Char
  | .v4 bytes port => printBytes bytes ++ ':' :: decimal port
  | .v6 groups scope port =>
    '[' :: printHost groups ++ (if scope = 0 then [] else '%' :: decimal scope) ++
      [']', ':'] ++ decimal port

def render (address : SocketAddress) : String := String.ofList address.print

end SocketAddress

end Accounts.Net
