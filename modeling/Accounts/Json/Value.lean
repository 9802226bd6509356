import Accounts.Text.Shortest

/-! JSON values and their compact spelling. -/

namespace Accounts.Json

/-- A JSON value. A number that is no integer of 64 bits is a double, and a record keeps its members
in order. -/
inductive Value
  | null
  | boolean (value : Bool)
  | integer (value : Int)
  | fraction (value : Float)
  | text (value : String)
  | list (items : List Value)
  | record (members : List (String × Value))

def escaped (c : Char) : List Char :=
  if c = '"' then ['\\', '"']
  else if c = '\\' then ['\\', '\\']
  else if c.toNat = 8 then ['\\', 'b']
  else if c.toNat = 12 then ['\\', 'f']
  else if c = '\n' then ['\\', 'n']
  else if c = '\r' then ['\\', 'r']
  else if c = '\t' then ['\\', 't']
  else if c.toNat < 0x20 then
    ['\\', 'u', '0', '0', Nat.digitChar (c.toNat / 16), Nat.digitChar (c.toNat % 16)]
  else [c]

def printText (text : String) : List Char := '"' :: text.toList.flatMap escaped ++ ['"']

mutual

def Value.print : Value → List Char
  | .null => "null".toList
  | .boolean value => (if value then "true" else "false").toList
  | .integer value => Text.signedDecimal value
  | .fraction value => Text.printDouble value
  | .text value => printText value
  | .list items => '[' :: printItems items ++ [']']
  | .record members => '{' :: printMembers members ++ ['}']

def printItems : List Value → List Char
  | [] => []
  | [item] => item.print
  | item :: rest => item.print ++ ',' :: printItems rest

def printMembers : List (String × Value) → List Char
  | [] => []
  | [(key, value)] => printText key ++ ':' :: value.print
  | (key, value) :: rest => printText key ++ ':' :: value.print ++ ',' :: printMembers rest

end

def Value.render (value : Value) : String := String.ofList value.print

def Value.describe : Value → String
  | .null => "null"
  | .boolean true => "boolean `true`"
  | .boolean false => "boolean `false`"
  | .integer value => "integer `" ++ String.ofList (Text.signedDecimal value) ++ "`"
  | .fraction value => "floating point `" ++ String.ofList (Text.printDouble value) ++ "`"
  | .text _ => "string"
  | .list _ => "sequence"
  | .record _ => "map"

def Value.member? (key : String) : Value → Option Value
  | .record members => (members.reverse.find? fun member => member.1 = key).map Prod.snd
  | _ => none

def Value.asText : Value → Except String String
  | .text value => .ok value
  | value => .error ("invalid type: " ++ value.describe ++ ", expected a string")

end Accounts.Json
