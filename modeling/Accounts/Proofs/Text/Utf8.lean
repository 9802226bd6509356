import Accounts.Text.Utf8

/-! The bytes of a text, character by character. -/

namespace Accounts.Text

def spell (chars : List Char) : List UInt8 := chars.flatMap String.utf8EncodeChar

@[simp] theorem spell_nil : spell [] = [] := rfl

theorem spell_cons (c : Char) (rest : List Char) :
    spell (c :: rest) = String.utf8EncodeChar c ++ spell rest := rfl

theorem spell_append (before after : List Char) :
    spell (before ++ after) = spell before ++ spell after := List.flatMap_append

theorem utf8_ofList (chars : List Char) : utf8 (String.ofList chars) = spell chars := by
  have bytes : (String.ofList chars).toByteArray = chars.utf8Encode := rfl
  rw [utf8, String.toUTF8, bytes, List.utf8Encode, List.toList_data_toByteArray]
  rfl

theorem spell_toList (text : String) : spell text.toList = utf8 text := by
  rw [← utf8_ofList, String.ofList_toList]

theorem utf8_append (before after : String) :
    utf8 (before ++ after) = utf8 before ++ utf8 after := by
  rw [← spell_toList, String.toList_append, spell_append, spell_toList, spell_toList]

theorem utf8_injective : Function.Injective utf8 := by
  intro text other same
  have read := ofUtf8?_utf8 text
  rw [same, ofUtf8?_utf8] at read
  exact (Option.some.inj read).symm

theorem utf8_eq_of_ofUtf8? {bytes : List UInt8} {value : String}
    (decoded : ofUtf8? bytes = some value) : bytes = utf8 value := by
  unfold ofUtf8? String.fromUTF8? at decoded
  split at decoded
  · obtain rfl := Option.some.inj decoded
    rfl
  · contradiction

theorem ofUtf8?_eq_some {bytes : List UInt8} {text : String} :
    ofUtf8? bytes = some text ↔ bytes = utf8 text := by
  constructor
  · exact utf8_eq_of_ofUtf8?
  · rintro rfl
    exact ofUtf8?_utf8 text

theorem utf8EncodeChar_ascii {c : Char} (ascii : c.toNat < 128) :
    String.utf8EncodeChar c = [UInt8.ofNat c.toNat] := by
  unfold Char.toNat at ascii ⊢
  unfold String.utf8EncodeChar
  exact if_pos (Nat.le_of_lt_succ ascii)

theorem spell_ascii {chars : List Char} (ascii : ∀ c ∈ chars, c.toNat < 128) :
    spell chars = chars.map fun c => UInt8.ofNat c.toNat := by
  induction chars with
  | nil => rfl
  | cons c chars ih =>
      rw [spell_cons, utf8EncodeChar_ascii (ascii c List.mem_cons_self),
        ih fun d member => ascii d (List.mem_cons_of_mem c member)]
      rfl

theorem le_of_mem_utf8EncodeChar {c : Char} (high : 128 ≤ c.toNat) :
    ∀ byte ∈ String.utf8EncodeChar c, 128 ≤ byte.toNat := by
  have bound : c.val.toNat < 0x110000 := by
    rcases c.valid with small | large
    · exact Nat.lt_trans small (by decide)
    · exact large.2
  have stays : ∀ n, 128 ≤ n → n < 256 → 128 ≤ (UInt8.ofNat n).toNat := by
    intro n least most
    rw [UInt8.toNat_ofNat', Nat.mod_eq_of_lt most]
    exact least
  unfold Char.toNat at high
  unfold String.utf8EncodeChar
  simp only
  split
  · omega
  · split
    · simp only [List.mem_cons, List.not_mem_nil, or_false]
      rintro byte (rfl | rfl)
      · exact stays _ (by omega) (by omega)
      · exact stays _ (by omega) (by omega)
    · split
      · simp only [List.mem_cons, List.not_mem_nil, or_false]
        rintro byte (rfl | rfl | rfl)
        · exact stays _ (by omega) (by omega)
        · exact stays _ (by omega) (by omega)
        · exact stays _ (by omega) (by omega)
      · simp only [List.mem_cons, List.not_mem_nil, or_false]
        rintro byte (rfl | rfl | rfl | rfl)
        · exact stays _ (by omega) (by omega)
        · exact stays _ (by omega) (by omega)
        · exact stays _ (by omega) (by omega)
        · exact stays _ (by omega) (by omega)

end Accounts.Text
