import Accounts.Json.Records
import Accounts.Token.Error

/-! The headers of tokens. -/

namespace Accounts.Token

open Json

/-- The name of a choice without contents: a text, or a record of that one name and `null`. -/
def choice? : Value → Option String
  | .text name => some name
  | .record [(name, .null)] => some name
  | _ => none

def algorithm : Reader Algorithm := do
  match (choice? (← value 1)).bind Algorithm.ofName? with
  | some algorithm => pure algorithm
  | none => refuse .mismatched

def isText : Value → Bool
  | .text _ => true
  | _ => false

def isTexts : Value → Bool
  | .list items => items.all isText
  | _ => false

def isNull : Value → Bool
  | .null => true
  | _ => false

def valuesOf (name : String) (members : List (String × Value)) : List Value :=
  (members.filter fun member => member.1 = name).map Prod.snd

def optionally (name : String) (good : Value → Bool) (members : List (String × Value)) : Bool :=
  match valuesOf name members with
  | [] => true
  | [value] => isNull value || good value
  | _ => false

def exactlyOnce (name : String) (good : Value → Bool) (members : List (String × Value)) : Bool :=
  match valuesOf name members with
  | [value] => good value
  | _ => false

def isChoice (names : List String) (value : Value) : Bool :=
  match choice? value with
  | some name => names.contains name
  | none => false

def keyAlgorithms : List String :=
  Algorithm.all.map Algorithm.name ++ ["RSA1_5", "RSA-OAEP", "RSA-OAEP-256"]

def isKeyAlgorithm : Value → Bool
  | .record [(name, .record [])] => keyAlgorithms.contains name
  | value => isChoice keyAlgorithms value

def curves : List String := ["P-256", "P-384", "P-521", "Ed25519"]

def isKey (members : List (String × Value)) : Bool :=
  optionally "use" isText members && optionally "key_ops" isTexts members &&
  optionally "alg" isKeyAlgorithm members && optionally "kid" isText members &&
  optionally "x5u" isText members && optionally "x5c" isTexts members &&
  optionally "x5t" isText members && optionally "x5t#S256" isText members &&
  (exactlyOnce "kty" (isChoice ["EC"]) members && exactlyOnce "crv" (isChoice curves) members &&
      exactlyOnce "x" isText members && exactlyOnce "y" isText members ||
    exactlyOnce "kty" (isChoice ["RSA"]) members && exactlyOnce "n" isText members &&
      exactlyOnce "e" isText members ||
    exactlyOnce "kty" (isChoice ["oct"]) members && exactlyOnce "k" isText members ||
    exactlyOnce "kty" (isChoice ["OKP"]) members && exactlyOnce "crv" (isChoice curves) members &&
      exactlyOnce "x" isText members)

def keyDepth : Nat := 125

def key : Reader Unit := fun input =>
  match afterSpace input with
  | 0x7B :: rest =>
    match entriesFrom (value keyDepth) true [] (rest.length + 1) rest with
    | .error fault => .error fault
    | .ok (members, rest) => if isKey members then .ok ((), rest) else .error .mismatched
  | rest => otherType rest

def headerMembers : Members
    [Option String, Algorithm, Option String, Option String, Option Unit, Option String,
     Option String, Option (List String), Option String, Option String] :=
  .cons "typ" (optional text) (some none) <| .cons "alg" algorithm none <|
  .cons "cty" (optional text) (some none) <| .cons "jku" (optional text) (some none) <|
  .cons "jwk" (optional key) (some none) <| .cons "kid" (optional text) (some none) <|
  .cons "x5u" (optional text) (some none) <|
  .cons "x5c" (optional (listOf text)) (some none) <|
  .cons "x5t" (optional text) (some none) <| .cons "x5t#S256" (optional text) (some none) .nil

def headerAlgorithm : Reader Algorithm := do
  let (_, algorithm, _) ← recordOf headerMembers
  pure algorithm

def issuedHeader : Value :=
  .record [("typ", .text "JWT"), ("alg", .text Algorithm.hs256.name)]

end Accounts.Token
