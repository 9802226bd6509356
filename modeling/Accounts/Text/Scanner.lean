/-! Blank and control characters, trimming, and readers that take characters off the front of a
text. -/

namespace Accounts.Text

/-- The characters with the Unicode property White_Space. -/
def isBlank (c : Char) : Bool :=
  let point := c.toNat
  (9 ≤ point && point ≤ 13) || point == 0x20 || point == 0x85 || point == 0xA0 ||
  point == 0x1680 || (0x2000 ≤ point && point ≤ 0x200A) || point == 0x2028 || point == 0x2029 ||
  point == 0x202F || point == 0x205F || point == 0x3000

def isControl (c : Char) : Bool :=
  c.toNat < 0x20 || (0x7F ≤ c.toNat && c.toNat ≤ 0x9F)

def trimStart (text : List Char) : List Char := text.dropWhile isBlank

def trimEnd (text : List Char) : List Char := (text.reverse.dropWhile isBlank).reverse

def trim (text : String) : String := String.ofList (trimEnd (trimStart text.toList))

def blank (text : String) : Bool := text.toList.all isBlank

theorem blank_eq_false {text : String} :
    blank text = false ↔ ∃ c ∈ text.toList, isBlank c = false := by
  simp [blank]

/-! Scanners. -/

abbrev Scanner (α : Type) := StateT (List Char) Option α

def blanks : Scanner Unit := modify trimStart

def exactly (c : Char) : Scanner Unit := fun text =>
  match text with
  | next :: rest => if next = c then some ((), rest) else none
  | [] => none

def digitRun (most : Nat) : Scanner (List Char) := fun text =>
  match (text.take most).takeWhile Char.isDigit with
  | [] => none
  | digits => some (digits, text.drop digits.length)

def scanAll? {α : Type} (scanner : Scanner α) (text : List Char) : Option α :=
  match scanner text with
  | some (value, []) => some value
  | _ => none

end Accounts.Text
