import Accounts.Http.Message

/-! Media types in headers. -/

namespace Accounts.Http

def isTokenChar (c : Char) : Bool :=
  ('a' ≤ c && c ≤ 'z') || ('A' ≤ c && c ≤ 'Z') || ('0' ≤ c && c ≤ '9') ||
  "!#$%&'*+-.^_`|~".toList.contains c

/-- A media type by its parts in small letters. The suffix stands behind the last plus sign. -/
structure MediaType where
  family : String
  subtype : String
  suffix : Option String
  deriving DecidableEq, Repr

inductive ParameterSpot
  | beforeName
  | name
  | beforeValue
  | value
  | quoteStart
  | quoted
  | behind

def goodParameters : ParameterSpot → List Char → Bool
  | .beforeName, [] => true
  | .name, [] => false
  | .beforeValue, [] => true
  | .value, [] => true
  | .quoteStart, [] => false
  | .quoted, [] => false
  | .behind, [] => true
  | .beforeName, c :: rest =>
    if c = ' ' then goodParameters .beforeName rest
    else isTokenChar c && goodParameters .name rest
  | .name, c :: rest =>
    if isTokenChar c then goodParameters .name rest
    else c = '=' && goodParameters .beforeValue rest
  | .beforeValue, c :: rest =>
    if c = '"' then goodParameters .quoteStart rest
    else isTokenChar c && goodParameters .value rest
  | .value, c :: rest =>
    if isTokenChar c then goodParameters .value rest
    else c = ';' && goodParameters .beforeName rest
  | .quoteStart, c :: rest =>
    decide (31 < c.toNat) && c.toNat != 127 && goodParameters .quoted rest
  | .quoted, c :: rest =>
    if c = '"' then goodParameters .behind rest
    else decide (31 < c.toNat) && c.toNat != 127 && goodParameters .quoted rest
  | .behind, c :: rest =>
    if c = ';' then goodParameters .beforeName rest
    else c = ' ' && goodParameters .behind rest

/-- Cuts what stands behind the last plus sign off a subtype. A plus sign at the start is a part of
the name. -/
def cutSuffix (subtype : List Char) : List Char × Option (List Char) :=
  match subtype with
  | [] => ([], none)
  | first :: rest =>
    match rest.reverse.span (· ≠ '+') with
    | (suffix, _ :: before) => (first :: before.reverse, some suffix.reverse)
    | (_, []) => (first :: rest, none)

def MediaType.parse? (text : String) : Option MediaType :=
  let chars := text.toList.map lowerLetter
  match chars.span isTokenChar with
  | (first :: family, '/' :: rest) =>
    match rest.span isTokenChar with
    | ([], _) => none
    | (subtype, behind) =>
      let good := match behind with
        | [] => true
        | ';' :: parameters => goodParameters .beforeName parameters
        | _ => false
      if good then
        let (subtype, suffix) := cutSuffix subtype
        some ⟨String.ofList (first :: family), String.ofList subtype, suffix.map String.ofList⟩
      else none
  | _ => none

def MediaType.isJson (type : MediaType) : Bool :=
  type.family == "application" && (type.subtype == "json" || type.suffix == some "json")

end Accounts.Http
