import Accounts.Json.Scalars

/-! JSON as a grammar, apart from any reader: what bytes spell a value, and what is left behind it.

A value is kept as it is spelled. What stands between two quotes is good as soon as every backslash
begins an escape; whether it is a text beyond that, and whether a numeral is a number of some size,
are questions of meaning. -/

namespace Accounts.Json

/-- A value by its spelling: a number by its numeral, a text and a key by the bytes between the
quotes. -/
inductive Tree
  | null
  | boolean (value : Bool)
  | number (numeral : Numeral)
  | text (body : List UInt8)
  | list (items : List Tree)
  | record (members : List (List UInt8 × Tree))

/-! Between quotes. -/

inductive Quoted : List UInt8 → Prop
  | nil : Quoted []
  | plain {byte : UInt8} {body : List UInt8} (printable : ¬ byte < 0x20) (notQuote : byte ≠ 0x22)
      (notBackslash : byte ≠ 0x5C) (rest : Quoted body) : Quoted (byte :: body)
  | escape {letter : UInt8} {body : List UInt8} (stands : (escapedByte letter).isSome)
      (rest : Quoted body) : Quoted (0x5C :: letter :: body)
  | code {a b c d : UInt8} {body : List UInt8} (digits : (hexNumber [d, c, b, a]).isSome)
      (rest : Quoted body) : Quoted (0x5C :: 0x75 :: a :: b :: c :: d :: body)

def IsLead (code : Nat) : Prop := 0xD800 ≤ code ∧ code ≤ 0xDBFF

def IsTrail (code : Nat) : Prop := 0xDC00 ≤ code ∧ code ≤ 0xDFFF

/-- What the bytes between quotes stand for, as bytes. A surrogate stands for nothing but together
with its other half. -/
inductive Denotes : List UInt8 → List UInt8 → Prop
  | nil : Denotes [] []
  | plain {byte : UInt8} {body bytes : List UInt8} (printable : ¬ byte < 0x20)
      (notQuote : byte ≠ 0x22) (notBackslash : byte ≠ 0x5C) (rest : Denotes body bytes) :
      Denotes (byte :: body) (byte :: bytes)
  | escape {letter byte : UInt8} {body bytes : List UInt8} (stands : escapedByte letter = some byte)
      (rest : Denotes body bytes) : Denotes (0x5C :: letter :: body) (byte :: bytes)
  | code {a b c d : UInt8} {code : Nat} {body bytes : List UInt8}
      (digits : hexNumber [d, c, b, a] = some code) (notLead : ¬ IsLead code)
      (notTrail : ¬ IsTrail code) (rest : Denotes body bytes) :
      Denotes (0x5C :: 0x75 :: a :: b :: c :: d :: body) (codeBytes code ++ bytes)
  | pair {a b c d e f g h : UInt8} {lead trail : Nat} {body bytes : List UInt8}
      (leading : hexNumber [d, c, b, a] = some lead) (isLead : IsLead lead)
      (trailing : hexNumber [h, g, f, e] = some trail) (isTrail : IsTrail trail)
      (rest : Denotes body bytes) :
      Denotes
        (0x5C :: 0x75 :: a :: b :: c :: d :: 0x5C :: 0x75 :: e :: f :: g :: h :: body)
        (codeBytes ((lead - 0xD800) * 0x400 + (trail - 0xDC00) + 0x10000) ++ bytes)

def Says (body : List UInt8) (value : String) : Prop := Denotes body (Text.utf8 value)

/-! Numerals. -/

def SpellsDigits (digits text rest : List UInt8) : Prop :=
  digits ≠ [] ∧ (∀ byte ∈ digits, isDigit byte = true) ∧ text = digits ++ rest ∧
    ∀ byte ∈ rest.head?, isDigit byte = false

inductive SpellsSign : Bool → List UInt8 → List UInt8 → Prop
  | minus {rest : List UInt8} : SpellsSign true (0x2D :: rest) rest
  | none {rest : List UInt8} (noMinus : ∀ byte ∈ rest.head?, byte ≠ 0x2D) :
      SpellsSign false rest rest

inductive SpellsFraction : Option (List UInt8) → List UInt8 → List UInt8 → Prop
  | point {digits text rest : List UInt8} (digits_spelled : SpellsDigits digits text rest) :
      SpellsFraction (some digits) (0x2E :: text) rest
  | none {rest : List UInt8} (noPoint : ∀ byte ∈ rest.head?, byte ≠ 0x2E) :
      SpellsFraction none rest rest

def IsExponentMark (byte : UInt8) : Prop := byte = 0x65 ∨ byte = 0x45

inductive SpellsExponent : Option (Bool × List UInt8) → List UInt8 → List UInt8 → Prop
  | plus {mark : UInt8} {digits text rest : List UInt8} (isMark : IsExponentMark mark)
      (digits_spelled : SpellsDigits digits text rest) :
      SpellsExponent (some (false, digits)) (mark :: 0x2B :: text) rest
  | minus {mark : UInt8} {digits text rest : List UInt8} (isMark : IsExponentMark mark)
      (digits_spelled : SpellsDigits digits text rest) :
      SpellsExponent (some (true, digits)) (mark :: 0x2D :: text) rest
  | unsigned {mark : UInt8} {digits text rest : List UInt8} (isMark : IsExponentMark mark)
      (digits_spelled : SpellsDigits digits text rest) :
      SpellsExponent (some (false, digits)) (mark :: text) rest
  | none {rest : List UInt8} (noMark : ∀ byte ∈ rest.head?, ¬ IsExponentMark byte) :
      SpellsExponent none rest rest

/-- Whether a text begins with a numeral, which goes on as long as it can. No zero stands in front
of another digit. -/
def SpellsNumeral (n : Numeral) (text rest : List UInt8) : Prop :=
  ∃ unsigned behind mantissa, SpellsSign n.negative text unsigned ∧
    SpellsDigits n.whole unsigned behind ∧ (n.whole.head? = some 0x30 → n.whole = [0x30]) ∧
    SpellsFraction n.fraction behind mantissa ∧ SpellsExponent n.exponent mantissa rest

/-! Values. -/

def booleanLetters (value : Bool) : List UInt8 :=
  if value then 0x74 :: trueTail else 0x66 :: falseTail

def Introduces (first : Bool) (text rest : List UInt8) : Prop :=
  if first then text = rest else afterSpace text = 0x2C :: rest

/-- What a text may begin with: a value, or what is left of a list or of a record, its closing
bracket included. -/
inductive Part
  | value (tree : Tree)
  | items (first : Bool) (trees : List Tree)
  | members (first : Bool) (entries : List (List UInt8 × Tree))

inductive Spells : Part → List UInt8 → List UInt8 → Prop
  | null {text rest : List UInt8} (here : afterSpace text = 0x6E :: nullTail ++ rest) :
      Spells (.value .null) text rest
  | boolean {value : Bool} {text rest : List UInt8}
      (here : afterSpace text = booleanLetters value ++ rest) :
      Spells (.value (.boolean value)) text rest
  | number {numeral : Numeral} {text rest : List UInt8}
      (here : SpellsNumeral numeral (afterSpace text) rest) :
      Spells (.value (.number numeral)) text rest
  | text {body text rest : List UInt8} (quoted : Quoted body)
      (here : afterSpace text = 0x22 :: (body ++ 0x22 :: rest)) :
      Spells (.value (.text body)) text rest
  | list {items : List Tree} {text inner rest : List UInt8} (here : afterSpace text = 0x5B :: inner)
      (items_spelled : Spells (.items true items) inner rest) :
      Spells (.value (.list items)) text rest
  | record {members : List (List UInt8 × Tree)} {text inner rest : List UInt8}
      (here : afterSpace text = 0x7B :: inner)
      (members_spelled : Spells (.members true members) inner rest) :
      Spells (.value (.record members)) text rest
  | noItem {first : Bool} {text rest : List UInt8} (here : afterSpace text = 0x5D :: rest) :
      Spells (.items first []) text rest
  | item {first : Bool} {item : Tree} {items : List Tree} {text next behind rest : List UInt8}
      (here : Introduces first text next) (item_spelled : Spells (.value item) next behind)
      (items_spelled : Spells (.items false items) behind rest) :
      Spells (.items first (item :: items)) text rest
  | noMember {first : Bool} {text rest : List UInt8} (here : afterSpace text = 0x7D :: rest) :
      Spells (.members first []) text rest
  | member {first : Bool} {key : List UInt8} {value : Tree} {members : List (List UInt8 × Tree)}
      {text next colon middle behind rest : List UInt8} (here : Introduces first text next)
      (quoted : Quoted key) (key_spelled : afterSpace next = 0x22 :: (key ++ 0x22 :: colon))
      (colon_spelled : afterSpace colon = 0x3A :: middle)
      (value_spelled : Spells (.value value) middle behind)
      (members_spelled : Spells (.members false members) behind rest) :
      Spells (.members first ((key, value) :: members)) text rest

def IsDocument (tree : Tree) (text : List UInt8) : Prop :=
  ∃ rest, Spells (.value tree) text rest ∧ afterSpace rest = []

/-! What comes of the grammar alone. -/

theorem afterSpace_head (text : List UInt8) :
    ∀ byte ∈ (afterSpace text).head?, isSpace byte = false := by
  intro byte member
  have stopped := List.head?_dropWhile_not isSpace text
  have same : text.dropWhile isSpace = afterSpace text := rfl
  rw [same, Option.mem_def.mp member] at stopped
  simpa using stopped

theorem afterSpace_afterSpace (text : List UInt8) :
    afterSpace (afterSpace text) = afterSpace text := by
  have head := afterSpace_head text
  cases spaced : afterSpace text with
  | nil => rfl
  | cons byte rest =>
      rw [spaced] at head
      rw [afterSpace, List.dropWhile_cons, head byte rfl]
      rfl

theorem afterSpace_length_le (text : List UInt8) : (afterSpace text).length ≤ text.length :=
  (List.dropWhile_sublist isSpace).length_le

theorem Quoted.of_denotes {body bytes : List UInt8} (denotes : Denotes body bytes) :
    Quoted body := by
  induction denotes with
  | nil => exact .nil
  | plain printable notQuote notBackslash _ ih => exact .plain printable notQuote notBackslash ih
  | escape stands _ ih => exact .escape (stands ▸ rfl) ih
  | code digits _ _ _ ih => exact .code (digits ▸ rfl) ih
  | pair leading _ trailing _ _ ih => exact .code (leading ▸ rfl) (.code (trailing ▸ rfl) ih)

theorem spells_items_cons {first : Bool} {item : Tree} {items : List Tree}
    {text rest : List UInt8} (spells : Spells (.items first (item :: items)) text rest) :
    ∃ next behind, Introduces first text next ∧ Spells (.value item) next behind ∧
      Spells (.items false items) behind rest := by
  cases spells with
  | item here item_spelled items_spelled => exact ⟨_, _, here, item_spelled, items_spelled⟩

theorem spells_members_cons {first : Bool} {key : List UInt8} {value : Tree}
    {members : List (List UInt8 × Tree)} {text rest : List UInt8}
    (spells : Spells (.members first ((key, value) :: members)) text rest) :
    ∃ next colon middle behind, Introduces first text next ∧ Quoted key ∧
      afterSpace next = 0x22 :: (key ++ 0x22 :: colon) ∧ afterSpace colon = 0x3A :: middle ∧
      Spells (.value value) middle behind ∧ Spells (.members false members) behind rest := by
  cases spells with
  | member here quoted key_spelled colon_spelled value_spelled members_spelled =>
      exact ⟨_, _, _, _, here, quoted, key_spelled, colon_spelled, value_spelled, members_spelled⟩

theorem spells_value_congr {tree : Tree} {text text' rest : List UInt8}
    (same : afterSpace text = afterSpace text') (spells : Spells (.value tree) text rest) :
    Spells (.value tree) text' rest := by
  cases spells with
  | null here => exact .null (same.symm.trans here)
  | boolean here => exact .boolean (same.symm.trans here)
  | number here => exact .number (same ▸ here)
  | text quoted here => exact .text quoted (same.symm.trans here)
  | list here items => exact .list (same.symm.trans here) items
  | record here members => exact .record (same.symm.trans here) members

end Accounts.Json
