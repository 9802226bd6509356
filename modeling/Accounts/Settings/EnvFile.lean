import Accounts.Settings.Environment
import Accounts.Text.Alphanumeric

/-! Files of assignments that fill in variables the environment does not have. -/

namespace Accounts.Settings.EnvFile

open Text

def apostrophe : Char := Char.ofNat 0x27

inductive LineSpot
  | plain
  | blank
  | escape
  | weak
  | weakEscape
  | strong
  | strongEscape
  | comment
  deriving DecidableEq, Repr

def LineSpot.open (otherwise : LineSpot) (c : Char) : LineSpot :=
  if c = '\\' then .escape
  else if c = '"' then .weak
  else if c = apostrophe then .strong
  else otherwise

def LineSpot.after : LineSpot → Char → LineSpot
  | .plain, c =>
    if isBlank c && c ≠ '\n' && c ≠ '\r' then .blank else LineSpot.plain.open c
  | .blank, c => LineSpot.plain.open c
  | .escape, _ => .plain
  | .weak, c => if c = '\\' then .weakEscape else if c = '"' then .plain else .weak
  | .weakEscape, _ => .weak
  | .strong, c => if c = '\\' then .strongEscape else if c = apostrophe then .plain else .strong
  | .strongEscape, _ => .strong
  | .comment, _ => .comment

def finishedLine : List Char → List Char
  | '\r' :: line => line.reverse
  | line => line.reverse

/-- Cuts a text into lines, the first of which has begun in reverse. A line break within quotes does
not end a line, and a number sign at its start or behind a blank begins a comment. Nothing stands
for a last line that is broken off. -/
def linesFrom (spot : LineSpot) (line : List Char) : List Char → List (Option (List Char))
  | [] =>
    if spot = .comment then [some line.reverse]
    else if line = [] then []
    else if spot = .plain then [some line.reverse]
    else [none]
  | c :: rest =>
    if spot = .comment then
      if c = '\n' then some line.reverse :: linesFrom .plain [] rest
      else linesFrom .comment line rest
    else if c = '#' && (spot = .blank || line.all isBlank) then linesFrom .comment line rest
    else if c = '\n' && spot.after c = .plain then
      some (finishedLine line) :: linesFrom .plain [] rest
    else linesFrom (spot.after c) (c :: line) rest

inductive ValueSpot
  | plain (weak : Bool)
  | escape (weak : Bool)
  | bare (weak : Bool) (name : List Char)
  | braced (weak : Bool) (name : List Char)
  | strong
  | behind
  deriving DecidableEq, Repr

def lookUp (environment : Environment) (name : List Char) : List Char :=
  match environment.read (String.ofList name.reverse) with
  | .ok text => text.toList
  | .error _ => []

def isEscapable (c : Char) : Bool :=
  c = '\\' || c = apostrophe || c = '"' || c = '$' || c = ' '

def valueFrom (environment : Environment) :
    ValueSpot → List Char → List Char → Option (List Char)
  | .plain false, value, [] => some value.reverse
  | .escape false, value, [] => some value.reverse
  | .bare false name, value, [] => some (value.reverse ++ lookUp environment name)
  | .behind, value, [] => some value.reverse
  | _, _, [] => none
  | .plain weak, value, c :: rest =>
    if c = '$' then valueFrom environment (.bare weak []) value rest
    else if c = '\\' then valueFrom environment (.escape weak) value rest
    else if c = '"' then valueFrom environment (.plain !weak) value rest
    else if weak then valueFrom environment (.plain weak) (c :: value) rest
    else if c = apostrophe then valueFrom environment .strong value rest
    else if c = ' ' || c = '\t' then valueFrom environment .behind value rest
    else valueFrom environment (.plain weak) (c :: value) rest
  | .escape weak, value, c :: rest =>
    if c = 'n' then valueFrom environment (.plain weak) ('\n' :: value) rest
    else if isEscapable c then valueFrom environment (.plain weak) (c :: value) rest
    else none
  | .bare weak name, value, c :: rest =>
    if isAlphanumeric c then valueFrom environment (.bare weak (c :: name)) value rest
    else if c = '{' && name = [] then valueFrom environment (.braced weak []) value rest
    else
      let value := (lookUp environment name).reverse ++ value
      if c = '$' then valueFrom environment (.bare weak []) value rest
      else valueFrom environment (.plain weak) (c :: value) rest
  | .braced weak name, value, c :: rest =>
    if c = '}' then
      valueFrom environment (.plain weak) ((lookUp environment name).reverse ++ value) rest
    else valueFrom environment (.braced weak (c :: name)) value rest
  | .strong, value, c :: rest =>
    if c = apostrophe then valueFrom environment (.plain false) value rest
    else valueFrom environment .strong (c :: value) rest
  | .behind, value, c :: rest =>
    if c = ' ' || c = '\t' then valueFrom environment .behind value rest
    else if c = '#' then some value.reverse
    else none

def beginsName (c : Char) : Bool := c.isAlpha || c = '_'

def isNameChar (c : Char) : Bool := c.isAlphanum || c = '_' || c = '.'

def takeName? (line : List Char) : Option (List Char × List Char) :=
  if line.head?.any beginsName then
    some (line.takeWhile isNameChar, trimStart (line.dropWhile isNameChar))
  else none

def takeEquals? : List Char → Option (List Char)
  | '=' :: rest => some (trimStart rest)
  | _ => none

/-- Takes the name and the equals sign of an assignment. The word `export` may stand before the
name, and may be the name. -/
def takeTarget? (line : List Char) : Option (List Char × List Char) := do
  let (name, rest) ← takeName? line
  match takeEquals? rest with
  | some value => return (name, value)
  | none =>
    if name = "export".toList then
      let (name, rest) ← takeName? rest
      let value ← takeEquals? rest
      return (name, value)
    else failure

def saysNothing (line : List Char) : Bool := line = [] || line.head? = some '#'

def assignment? (environment : Environment) (line : List Char) : Option (String × String) := do
  let (name, value) ← takeTarget? line
  let value ← if saysNothing value then some [] else valueFrom environment (.plain false) [] value
  return (String.ofList name, String.ofList value)

/-- Gives the environment the variables that some lines assign and that have no text in it. A bad
line is the last that is read. -/
def loadLines (environment : Environment) : List (Option (List Char)) → Environment
  | [] => environment
  | none :: _ => environment
  | some line :: rest =>
    let line := trimStart (trimEnd line)
    if saysNothing line then loadLines environment rest
    else match assignment? environment line with
      | none => environment
      | some (name, value) =>
        match environment.read name with
        | .ok _ => loadLines environment rest
        | .error _ => loadLines (environment.set name value) rest

/-- The text of a file up to the first line that is no text, without the byte order mark. -/
def readable (bytes : List UInt8) : List Char :=
  let lines := (bytes.splitOnP (· == 0x0A)).map Text.ofUtf8?
  let text := "\n".intercalate (lines.takeWhile Option.isSome).reduceOption
  let text := if lines.all Option.isSome then text.toList else text.toList ++ ['\n']
  if text.head? = some (Char.ofNat 0xFEFF) then text.tail else text

def load (environment : Environment) (file : List UInt8) : Environment :=
  loadLines environment (linesFrom .plain [] (readable file))

end Accounts.Settings.EnvFile
