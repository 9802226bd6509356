import Accounts.Json.Attempts
import Accounts.Json.Ignored
import Accounts.Proofs.Text.Utf8
import Mathlib.Tactic.SplitIfs

/-! Texts are read back from their JSON spelling, and whatever can be read can be passed over. -/

namespace Accounts.Json

open Text

/-! One byte at a time. -/

theorem stringFrom_step {mode next : StringMode} {byte : UInt8} {more : List UInt8}
    (inside : mode = .plain → byte ≠ 0x22) (stepped : mode.step byte = .ok (more, next))
    (done rest : List UInt8) :
    stringFrom done mode (byte :: rest) = stringFrom (more.reverse ++ done) next rest := by
  rw [stringFrom, stepped]
  intro plain quote
  exact inside plain (of_decide_eq_true quote)

theorem stringFrom_fault {mode : StringMode} {byte : UInt8} {fault : Fault}
    (inside : mode = .plain → byte ≠ 0x22) (stepped : mode.step byte = .error fault)
    (done rest : List UInt8) : stringFrom done mode (byte :: rest) = .error fault := by
  rw [stringFrom, stepped]
  intro plain quote
  exact inside plain (of_decide_eq_true quote)

theorem passString_step {mode next : PassMode} {byte : UInt8}
    (inside : mode = .plain → byte ≠ 0x22) (stepped : mode.step byte = .ok next)
    (rest : List UInt8) : passString mode (byte :: rest) = passString next rest := by
  rw [passString, stepped]
  intro plain quote
  exact inside plain (of_decide_eq_true quote)

theorem passString_fault {mode : PassMode} {byte : UInt8} {fault : Fault}
    (inside : mode = .plain → byte ≠ 0x22) (stepped : mode.step byte = .error fault)
    (rest : List UInt8) : passString mode (byte :: rest) = .error fault := by
  rw [passString, stepped]
  intro plain quote
  exact inside plain (of_decide_eq_true quote)

theorem stringFrom_plain {byte : UInt8} (notQuote : byte ≠ 0x22) (notBackslash : byte ≠ 0x5C)
    (notControl : 0x20 ≤ byte.toNat) (done rest : List UInt8) :
    stringFrom done .plain (byte :: rest) = stringFrom (byte :: done) .plain rest := by
  have printable : ¬ byte < 0x20 := by
    rw [UInt8.lt_iff_toNat_lt]
    exact Nat.not_lt.mpr notControl
  have stepped : StringMode.plain.step byte = .ok ([byte], .plain) := by
    rw [StringMode.step, if_neg notBackslash, if_neg printable]
  exact stringFrom_step (fun _ => notQuote) stepped done rest

theorem stringFrom_plains {bytes : List UInt8} (plain : ∀ byte ∈ bytes, 128 ≤ byte.toNat)
    (done rest : List UInt8) :
    stringFrom done .plain (bytes ++ rest) = stringFrom (bytes.reverse ++ done) .plain rest := by
  induction bytes generalizing done with
  | nil => rfl
  | cons byte bytes ih =>
      obtain ⟨high, later⟩ := List.forall_mem_cons.mp plain
      have notQuote : byte ≠ 0x22 := by
        rintro rfl
        exact absurd high (by decide)
      have notBackslash : byte ≠ 0x5C := by
        rintro rfl
        exact absurd high (by decide)
      rw [List.cons_append, stringFrom_plain notQuote notBackslash (by omega), ih later]
      simp

theorem stringFrom_escape {letter byte : UInt8} (notCode : letter ≠ 0x75)
    (stands : escapedByte letter = some byte) (done rest : List UInt8) :
    stringFrom done .plain (0x5C :: letter :: rest) = stringFrom (byte :: done) .plain rest := by
  have opened : stringFrom done .plain (0x5C :: letter :: rest) =
      stringFrom done .escape (letter :: rest) := rfl
  have stepped : StringMode.escape.step letter = .ok ([byte], .plain) := by
    rw [StringMode.step, if_neg notCode, stands]
    rfl
  rw [opened]
  exact stringFrom_step (fun same => StringMode.noConfusion same) stepped done rest

theorem stringFrom_code {a b c d : UInt8} {code : Nat} (number : hexNumber [d, c, b, a] = some code)
    (notTrailing : ¬ (0xDC00 ≤ code ∧ code ≤ 0xDFFF))
    (notLeading : ¬ (0xD800 ≤ code ∧ code ≤ 0xDBFF)) (done rest : List UInt8) :
    stringFrom done .plain (0x5C :: 0x75 :: a :: b :: c :: d :: rest) =
      stringFrom ((codeBytes code).reverse ++ done) .plain rest := by
  have opened : stringFrom done .plain (0x5C :: 0x75 :: a :: b :: c :: d :: rest) =
      stringFrom done (.code [c, b, a]) (d :: rest) := rfl
  have stepped : (StringMode.code [c, b, a]).step d = .ok (codeBytes code, .plain) := by
    rw [StringMode.step, if_neg (by simp), number, Option.elim_some, if_neg notTrailing,
      if_neg notLeading]
  rw [opened]
  exact stringFrom_step (fun same => StringMode.noConfusion same) stepped done rest

theorem stringFrom_pair {a b c d e f g h : UInt8} {lead trail : Nat}
    (leading : hexNumber [d, c, b, a] = some lead) (isLead : 0xD800 ≤ lead ∧ lead ≤ 0xDBFF)
    (trailing : hexNumber [h, g, f, e] = some trail) (isTrail : 0xDC00 ≤ trail ∧ trail ≤ 0xDFFF)
    (done rest : List UInt8) :
    stringFrom done .plain
        (0x5C :: 0x75 :: a :: b :: c :: d :: 0x5C :: 0x75 :: e :: f :: g :: h :: rest) =
      stringFrom
        ((codeBytes ((lead - 0xD800) * 0x400 + (trail - 0xDC00) + 0x10000)).reverse ++ done)
        .plain rest := by
  have opened : ∀ rest, stringFrom done .plain (0x5C :: 0x75 :: a :: b :: c :: d :: rest) =
      stringFrom done (.code [c, b, a]) (d :: rest) := fun _ => rfl
  have notTrailing : ¬ (0xDC00 ≤ lead ∧ lead ≤ 0xDFFF) := by omega
  have first : (StringMode.code [c, b, a]).step d = .ok ([], .paired lead) := by
    rw [StringMode.step, if_neg (by simp), leading, Option.elim_some, if_neg notTrailing,
      if_pos isLead]
  have between : stringFrom done (.paired lead) (0x5C :: 0x75 :: e :: f :: g :: h :: rest) =
      stringFrom done (.pairedCode lead [g, f, e]) (h :: rest) := rfl
  have second : (StringMode.pairedCode lead [g, f, e]).step h =
      .ok (codeBytes ((lead - 0xD800) * 0x400 + (trail - 0xDC00) + 0x10000), .plain) := by
    rw [StringMode.step, if_neg (by simp), trailing, Option.elim_some, if_pos isTrail]
  rw [opened, stringFrom_step (fun same => StringMode.noConfusion same) first, List.reverse_nil,
    List.nil_append, between]
  exact stringFrom_step (fun same => StringMode.noConfusion same) second done rest

/-! One character at a time. -/

theorem hexNumber_control : ∀ n < 0x20, hexNumber
    [UInt8.ofNat (Nat.digitChar (n % 16)).toNat, UInt8.ofNat (Nat.digitChar (n / 16)).toNat,
      0x30, 0x30] = some n := by
  decide +kernel

theorem stringFrom_escaped (c : Char) (done rest : List UInt8) :
    stringFrom done .plain (spell (escaped c) ++ rest) =
      stringFrom ((String.utf8EncodeChar c).reverse ++ done) .plain rest := by
  unfold escaped
  split_ifs with quote backslash backspace formFeed newline carriageReturn tab control
  · rw [quote]
    exact stringFrom_escape (by decide) rfl done rest
  · rw [backslash]
    exact stringFrom_escape (by decide) rfl done rest
  · rw [utf8EncodeChar_ascii (by omega), backspace]
    exact stringFrom_escape (by decide) rfl done rest
  · rw [utf8EncodeChar_ascii (by omega), formFeed]
    exact stringFrom_escape (by decide) rfl done rest
  · rw [newline]
    exact stringFrom_escape (by decide) rfl done rest
  · rw [carriageReturn]
    exact stringFrom_escape (by decide) rfl done rest
  · rw [tab]
    exact stringFrom_escape (by decide) rfl done rest
  · have digit : ∀ n < 16, (Nat.digitChar n).toNat < 128 := by decide
    have spelled : spell ['\\', 'u', '0', '0', Nat.digitChar (c.toNat / 16),
        Nat.digitChar (c.toNat % 16)] =
        [0x5C, 0x75, 0x30, 0x30, UInt8.ofNat (Nat.digitChar (c.toNat / 16)).toNat,
          UInt8.ofNat (Nat.digitChar (c.toNat % 16)).toNat] := by
      simp only [spell, List.flatMap_cons, List.flatMap_nil]
      rw [utf8EncodeChar_ascii (digit (c.toNat / 16) (by omega)),
        utf8EncodeChar_ascii (digit (c.toNat % 16) (by omega))]
      rfl
    rw [spelled]
    have read := stringFrom_code (hexNumber_control c.toNat control) (by omega) (by omega) done rest
    rw [codeBytes, Char.ofNat_toNat] at read
    exact read
  · have spelled : spell [c] = String.utf8EncodeChar c := List.append_nil _
    rw [spelled]
    by_cases ascii : c.toNat < 128
    · rw [utf8EncodeChar_ascii ascii]
      have small : (UInt8.ofNat c.toNat).toNat = c.toNat := by
        rw [UInt8.toNat_ofNat']
        omega
      have differs : ∀ d : Char, d.toNat < 128 → c ≠ d →
          UInt8.ofNat c.toNat ≠ UInt8.ofNat d.toNat := by
        intro d d_ascii different same
        have codes := congrArg UInt8.toNat same
        rw [small, UInt8.toNat_ofNat', Nat.mod_eq_of_lt (by omega)] at codes
        exact different (Char.toNat_inj.mp codes)
      exact stringFrom_plain (differs '"' (by decide) quote) (differs '\\' (by decide) backslash)
        (by omega) done rest
    · exact stringFrom_plains (le_of_mem_utf8EncodeChar (by omega)) done rest

theorem stringFrom_print (chars : List Char) (done rest : List UInt8) :
    stringFrom done .plain (spell (chars.flatMap escaped ++ ['"']) ++ rest) =
      .ok (done.reverse ++ spell chars, rest) := by
  induction chars generalizing done with
  | nil =>
      rw [spell_nil, List.append_nil]
      rfl
  | cons c chars ih =>
      rw [List.flatMap_cons, List.append_assoc, spell_append, List.append_assoc,
        stringFrom_escaped, ih, spell_cons]
      simp

def textTail (text : String) : List UInt8 := spell (text.toList.flatMap escaped ++ ['"'])

theorem spell_printText (text : String) : spell (printText text) = 0x22 :: textTail text := rfl

theorem stringTail_print (value : String) (rest : List UInt8) :
    stringTail (textTail value ++ rest) = .ok (value, rest) := by
  rw [stringTail, textTail, stringFrom_print]
  simp only [List.reverse_nil, List.nil_append]
  rw [spell_toList, ofUtf8?_utf8]

theorem text_print (value : String) (rest : List UInt8) :
    text (spell (printText value) ++ rest) = .ok (value, rest) := by
  rw [spell_printText]
  exact stringTail_print value rest

/-! Passing over what can be read. -/

def StringMode.passing : StringMode → PassMode
  | .plain => .plain
  | .escape => .escape
  | .code digits => .code digits
  | .paired _ => .plain
  | .pairedEscape _ => .escape
  | .pairedCode _ digits => .code digits

theorem StringMode.passing_step {mode next : StringMode} {byte : UInt8} {more : List UInt8}
    (stepped : mode.step byte = .ok (more, next)) :
    mode.passing.step byte = .ok next.passing := by
  cases mode with
  | plain =>
      rw [StringMode.step] at stepped
      rw [passing, PassMode.step]
      split_ifs at stepped ⊢ with backslash control
      · cases stepped
        rfl
      · cases stepped
        rfl
  | escape =>
      rw [StringMode.step] at stepped
      rw [passing, PassMode.step]
      split_ifs at stepped with code
      · cases stepped
        rw [if_pos code]
        rfl
      · cases stands : escapedByte byte with
        | none =>
            rw [stands] at stepped
            contradiction
        | some letter =>
            rw [stands] at stepped
            cases stepped
            rw [if_neg code]
            rfl
  | code digits =>
      rw [StringMode.step] at stepped
      rw [passing, PassMode.step]
      split_ifs at stepped with short
      · cases stepped
        rw [if_pos short]
        rfl
      · cases number : hexNumber (byte :: digits) with
        | none =>
            rw [number] at stepped
            contradiction
        | some code =>
            rw [number, Option.elim_some] at stepped
            rw [if_neg short]
            split_ifs at stepped
            · cases stepped
              rfl
            · cases stepped
              rfl
  | paired lead =>
      rw [StringMode.step] at stepped
      rw [passing, PassMode.step]
      split_ifs at stepped with backslash
      cases stepped
      rw [if_pos backslash]
      rfl
  | pairedEscape lead =>
      rw [StringMode.step] at stepped
      rw [passing, PassMode.step]
      split_ifs at stepped with code
      cases stepped
      rw [if_pos code]
      rfl
  | pairedCode lead digits =>
      rw [StringMode.step] at stepped
      rw [passing, PassMode.step]
      split_ifs at stepped with short
      · cases stepped
        rw [if_pos short]
        rfl
      · cases number : hexNumber (byte :: digits) with
        | none =>
            rw [number] at stepped
            contradiction
        | some code =>
            rw [number, Option.elim_some] at stepped
            rw [if_neg short]
            split_ifs at stepped
            rw [← (Prod.mk.inj (Except.ok.inj stepped)).2]
            rfl

theorem StringMode.passing_inside {mode : StringMode} {byte : UInt8}
    {taken : List UInt8 × StringMode} (inside : mode = .plain → byte ≠ 0x22)
    (stepped : mode.step byte = .ok taken) : mode.passing = .plain → byte ≠ 0x22 := by
  rintro plain rfl
  cases mode with
  | plain => exact inside rfl rfl
  | paired lead => contradiction
  | escape => contradiction
  | code digits => contradiction
  | pairedEscape lead => contradiction
  | pairedCode lead digits => contradiction

theorem passString_of_stringFrom {mode : StringMode} {done text bytes rest : List UInt8}
    (read : stringFrom done mode text = .ok (bytes, rest)) :
    passString mode.passing text = .ok rest := by
  induction text generalizing done mode with
  | nil => contradiction
  | cons byte text ih =>
      by_cases closing : mode = .plain ∧ byte = 0x22
      · obtain ⟨rfl, rfl⟩ := closing
        cases read
        rfl
      · have inside : mode = .plain → byte ≠ 0x22 := fun plain quote => closing ⟨plain, quote⟩
        cases stepped : mode.step byte with
        | error fault =>
            rw [stringFrom_fault inside stepped] at read
            contradiction
        | ok next =>
            rw [stringFrom_step inside stepped] at read
            rw [passString_step (mode.passing_inside inside stepped)
              (StringMode.passing_step stepped)]
            exact ih read

theorem passString_print (value : String) (rest : List UInt8) :
    passString .plain (textTail value ++ rest) = .ok rest :=
  passString_of_stringFrom (stringFrom_print value.toList [] rest)

end Accounts.Json
