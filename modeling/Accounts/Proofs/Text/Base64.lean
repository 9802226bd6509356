import Accounts.Text.Base64

/-! Bytes are read back from their unpadded base64 spelling. -/

namespace Accounts.Text

variable (alphabet : Alphabet)

theorem Alphabet.value?_digit {value : Nat} (small : value < 64) :
    alphabet.value? (alphabet.digit value) = some value := by
  have standard : ∀ value < 64,
      Alphabet.standard.value? (Alphabet.standard.digit value) = some value := by
    decide +kernel
  have url : ∀ value < 64, Alphabet.url.value? (Alphabet.url.digit value) = some value := by
    decide +kernel
  cases alphabet with
  | standard => exact standard value small
  | url => exact url value small

theorem Alphabet.url_digit_ne_dot {value : Nat} (small : value < 64) :
    Alphabet.url.digit value ≠ '.' := by
  have all : ∀ value < 64, Alphabet.url.digit value ≠ '.' := by
    decide +kernel
  exact all value small

def tripleDigits (a b c : UInt8) : List Char :=
  [alphabet.digit (a.toNat / 4), alphabet.digit (a.toNat % 4 * 16 + b.toNat / 16),
    alphabet.digit (b.toNat % 16 * 4 + c.toNat / 64), alphabet.digit (c.toNat % 64)]

theorem encodeFrom_eq_append (done : List Char) : ∀ bytes : List UInt8,
    encodeFrom alphabet done bytes = done.reverse ++ encodeFrom alphabet [] bytes
  | [] => by simp [encodeFrom]
  | [a] => by simp [encodeFrom]
  | [a, b] => by simp [encodeFrom]
  | a :: b :: c :: rest => by
      rw [encodeFrom, encodeFrom, encodeFrom_eq_append (_ :: _) rest,
        encodeFrom_eq_append [_, _, _, _] rest]
      simp

theorem encodeFrom_triple (a b c : UInt8) (rest : List UInt8) :
    encodeFrom alphabet [] (a :: b :: c :: rest) =
      tripleDigits alphabet a b c ++ encodeFrom alphabet [] rest := by
  rw [encodeFrom, encodeFrom_eq_append]
  rfl

theorem decodeFrom_triple (done : List UInt8) (a b c : UInt8) (rest : List Char) :
    decodeFrom alphabet done (tripleDigits alphabet a b c ++ rest) =
      decodeFrom alphabet (c :: b :: a :: done) rest := by
  have a_lt := a.toNat_lt
  have b_lt := b.toNat_lt
  have c_lt := c.toNat_lt
  have first : a.toNat / 4 * 4 + (a.toNat % 4 * 16 + b.toNat / 16) / 16 = a.toNat := by omega
  have second : (a.toNat % 4 * 16 + b.toNat / 16) % 16 * 16 +
      (b.toNat % 16 * 4 + c.toNat / 64) / 4 = b.toNat := by omega
  have third : (b.toNat % 16 * 4 + c.toNat / 64) % 4 * 64 + c.toNat % 64 = c.toNat := by omega
  simp only [tripleDigits, List.cons_append, List.nil_append]
  rw [decodeFrom, alphabet.value?_digit (by omega), alphabet.value?_digit (by omega),
    alphabet.value?_digit (by omega), alphabet.value?_digit (by omega)]
  simp only [first, second, third, UInt8.ofNat_toNat]

theorem decodeFrom_encodeFrom (done : List UInt8) : ∀ bytes : List UInt8,
    decodeFrom alphabet done (encodeFrom alphabet [] bytes) = some (done.reverse ++ bytes)
  | [] => by simp [encodeFrom, decodeFrom]
  | [a] => by
      have a_lt := a.toNat_lt
      have first : a.toNat / 4 * 4 + a.toNat % 4 * 16 / 16 = a.toNat := by omega
      have full : a.toNat % 4 * 16 % 16 = 0 := by omega
      simp only [encodeFrom, List.reverse_cons, List.reverse_nil, List.nil_append,
        List.cons_append]
      rw [decodeFrom, alphabet.value?_digit (by omega), alphabet.value?_digit (by omega)]
      simp only [first, full, if_true, UInt8.ofNat_toNat, List.reverse_cons]
  | [a, b] => by
      have a_lt := a.toNat_lt
      have b_lt := b.toNat_lt
      have first : a.toNat / 4 * 4 + (a.toNat % 4 * 16 + b.toNat / 16) / 16 = a.toNat := by omega
      have second : (a.toNat % 4 * 16 + b.toNat / 16) % 16 * 16 + b.toNat % 16 * 4 / 4 =
          b.toNat := by omega
      have full : b.toNat % 16 * 4 % 4 = 0 := by omega
      simp only [encodeFrom, List.reverse_cons, List.reverse_nil, List.nil_append,
        List.cons_append]
      rw [decodeFrom, alphabet.value?_digit (by omega), alphabet.value?_digit (by omega),
        alphabet.value?_digit (by omega)]
      simp only [first, second, full, if_true, UInt8.ofNat_toNat, List.reverse_cons,
        List.append_assoc, List.cons_append, List.nil_append]
  | a :: b :: c :: rest => by
      rw [encodeFrom_triple, decodeFrom_triple, decodeFrom_encodeFrom _ rest]
      simp

theorem ofBase64?_base64 (bytes : List UInt8) :
    ofBase64? alphabet (base64 alphabet bytes) = some bytes := by
  rw [ofBase64?, base64, String.toList_ofList, decodeFrom_encodeFrom]
  rfl

/-! Nothing else is read. -/

theorem Alphabet.digit_of_value? {c : Char} {value : Nat}
    (found : alphabet.value? c = some value) : value < 64 ∧ alphabet.digit value = c := by
  have code : ∀ n, c.toNat = n → Char.ofNat n = c := by
    rintro n rfl
    exact Char.ofNat_toNat c
  unfold Alphabet.value? at found
  split at found
  next upper =>
    have least : 0x41 ≤ c.toNat := upper.1
    have most : c.toNat ≤ 0x5A := upper.2
    obtain rfl := Option.some.inj found
    refine ⟨by omega, ?_⟩
    unfold Alphabet.digit
    rw [if_pos (by omega)]
    exact code _ (by omega)
  split at found
  next lower =>
    have least : 0x61 ≤ c.toNat := lower.1
    have most : c.toNat ≤ 0x7A := lower.2
    obtain rfl := Option.some.inj found
    refine ⟨by omega, ?_⟩
    unfold Alphabet.digit
    rw [if_neg (by omega), if_pos (by omega)]
    exact code _ (by omega)
  split at found
  next decimal =>
    have least : 0x30 ≤ c.toNat := decimal.1
    have most : c.toNat ≤ 0x39 := decimal.2
    obtain rfl := Option.some.inj found
    refine ⟨by omega, ?_⟩
    unfold Alphabet.digit
    rw [if_neg (by omega), if_neg (by omega), if_pos (by omega)]
    exact code _ (by omega)
  have last : ∀ nextLast final : Char, alphabet.digit 62 = nextLast → alphabet.digit 63 = final →
      (if c = nextLast then some 62 else if c = final then some 63 else none) = some value →
      value < 64 ∧ alphabet.digit value = c := by
    rintro nextLast final rfl rfl found
    split at found
    next same =>
      obtain rfl := Option.some.inj found
      exact ⟨by decide, same.symm⟩
    split at found
    next same =>
      obtain rfl := Option.some.inj found
      exact ⟨by decide, same.symm⟩
    next => contradiction
  cases alphabet with
  | standard => exact last '+' '/' rfl rfl found
  | url => exact last '-' '_' rfl rfl found

theorem encodeFrom_pair {x y : Nat} (x_lt : x < 64) (y_lt : y < 64) (full : y % 16 = 0) :
    encodeFrom alphabet [] [UInt8.ofNat (x * 4 + y / 16)] =
      [alphabet.digit x, alphabet.digit y] := by
  have small : x * 4 + y / 16 < 256 := by omega
  have byte := UInt8.toNat_ofNat_of_lt' small
  have first : (x * 4 + y / 16) / 4 = x := by omega
  have second : (x * 4 + y / 16) % 4 * 16 = y := by omega
  simp only [encodeFrom, byte, first, second, List.reverse_cons, List.reverse_nil,
    List.nil_append, List.cons_append]

theorem encodeFrom_three {x y z : Nat} (x_lt : x < 64) (y_lt : y < 64) (z_lt : z < 64)
    (full : z % 4 = 0) :
    encodeFrom alphabet [] [UInt8.ofNat (x * 4 + y / 16), UInt8.ofNat (y % 16 * 16 + z / 4)] =
      [alphabet.digit x, alphabet.digit y, alphabet.digit z] := by
  have small : x * 4 + y / 16 < 256 := by omega
  have byte := UInt8.toNat_ofNat_of_lt' small
  have small' : y % 16 * 16 + z / 4 < 256 := by omega
  have byte' := UInt8.toNat_ofNat_of_lt' small'
  have first : (x * 4 + y / 16) / 4 = x := by omega
  have second : (x * 4 + y / 16) % 4 * 16 + (y % 16 * 16 + z / 4) / 16 = y := by omega
  have third : (y % 16 * 16 + z / 4) % 16 * 4 = z := by omega
  simp only [encodeFrom, byte, byte', first, second, third, List.reverse_cons, List.reverse_nil,
    List.nil_append, List.cons_append]

theorem encodeFrom_four {x y z w : Nat} (x_lt : x < 64) (y_lt : y < 64) (z_lt : z < 64)
    (w_lt : w < 64) (rest : List UInt8) :
    encodeFrom alphabet [] (UInt8.ofNat (x * 4 + y / 16) :: UInt8.ofNat (y % 16 * 16 + z / 4) ::
        UInt8.ofNat (z % 4 * 64 + w) :: rest) =
      alphabet.digit x :: alphabet.digit y :: alphabet.digit z :: alphabet.digit w ::
        encodeFrom alphabet [] rest := by
  have small : x * 4 + y / 16 < 256 := by omega
  have byte := UInt8.toNat_ofNat_of_lt' small
  have small' : y % 16 * 16 + z / 4 < 256 := by omega
  have byte' := UInt8.toNat_ofNat_of_lt' small'
  have small'' : z % 4 * 64 + w < 256 := by omega
  have byte'' := UInt8.toNat_ofNat_of_lt' small''
  have first : (x * 4 + y / 16) / 4 = x := by omega
  have second : (x * 4 + y / 16) % 4 * 16 + (y % 16 * 16 + z / 4) / 16 = y := by omega
  have third : (y % 16 * 16 + z / 4) % 16 * 4 + (z % 4 * 64 + w) / 64 = z := by omega
  have fourth : (z % 4 * 64 + w) % 64 = w := by omega
  rw [encodeFrom_triple, tripleDigits, byte, byte', byte'', first, second, third, fourth]
  rfl

theorem encodeFrom_of_decodeFrom {done bytes : List UInt8} : ∀ text : List Char,
    decodeFrom alphabet done text = some bytes →
      ∃ more, bytes = done.reverse ++ more ∧ text = encodeFrom alphabet [] more
  -- Four digits at a time, as the decoder takes them; only the last group may be shorter.
  | [], decoded => ⟨[], by rw [List.append_nil]; exact (Option.some.inj decoded).symm, rfl⟩
  | [_], decoded => by contradiction
  | [a, b], decoded => by
      rw [decodeFrom] at decoded
      split at decoded
      next x y found_x found_y =>
        obtain ⟨x_lt, rfl⟩ := alphabet.digit_of_value? found_x
        obtain ⟨y_lt, rfl⟩ := alphabet.digit_of_value? found_y
        split at decoded
        next full =>
          obtain rfl := Option.some.inj decoded
          exact ⟨_, List.reverse_cons, (encodeFrom_pair alphabet x_lt y_lt full).symm⟩
        next => contradiction
      next => contradiction
  | [a, b, c], decoded => by
      rw [decodeFrom] at decoded
      split at decoded
      next x y z found_x found_y found_z =>
        obtain ⟨x_lt, rfl⟩ := alphabet.digit_of_value? found_x
        obtain ⟨y_lt, rfl⟩ := alphabet.digit_of_value? found_y
        obtain ⟨z_lt, rfl⟩ := alphabet.digit_of_value? found_z
        split at decoded
        next full =>
          obtain rfl := Option.some.inj decoded
          have bytes := (encodeFrom_three alphabet x_lt y_lt z_lt full).symm
          exact ⟨_, by simp, bytes⟩
        next => contradiction
      next => contradiction
  | a :: b :: c :: d :: rest, decoded => by
      rw [decodeFrom] at decoded
      split at decoded
      next x y z w found_x found_y found_z found_w =>
        obtain ⟨x_lt, rfl⟩ := alphabet.digit_of_value? found_x
        obtain ⟨y_lt, rfl⟩ := alphabet.digit_of_value? found_y
        obtain ⟨z_lt, rfl⟩ := alphabet.digit_of_value? found_z
        obtain ⟨w_lt, rfl⟩ := alphabet.digit_of_value? found_w
        obtain ⟨more, rfl, rfl⟩ := encodeFrom_of_decodeFrom rest decoded
        have bytes := (encodeFrom_four alphabet x_lt y_lt z_lt w_lt more).symm
        exact ⟨_, by simp, bytes⟩
      next => contradiction

theorem ofBase64?_eq_some {text : String} {bytes : List UInt8} :
    ofBase64? alphabet text = some bytes ↔ text = base64 alphabet bytes := by
  constructor
  · intro decoded
    obtain ⟨more, rfl, spelled⟩ := encodeFrom_of_decodeFrom alphabet _ decoded
    rw [base64, ← spelled, String.ofList_toList]
  · rintro rfl
    exact ofBase64?_base64 alphabet bytes

theorem digit_of_mem_encodeFrom {c : Char} : ∀ bytes : List UInt8,
    c ∈ encodeFrom alphabet [] bytes → ∃ value < 64, c = alphabet.digit value
  | [], member => by
      contradiction
  | [a], member => by
      have a_lt := a.toNat_lt
      simp only [encodeFrom, List.reverse_cons, List.reverse_nil, List.nil_append,
        List.cons_append, List.mem_cons, List.not_mem_nil, or_false] at member
      rcases member with rfl | rfl
      · exact ⟨_, by omega, rfl⟩
      · exact ⟨_, by omega, rfl⟩
  | [a, b], member => by
      have a_lt := a.toNat_lt
      have b_lt := b.toNat_lt
      simp only [encodeFrom, List.reverse_cons, List.reverse_nil, List.nil_append,
        List.cons_append, List.mem_cons, List.not_mem_nil, or_false] at member
      rcases member with rfl | rfl | rfl
      · exact ⟨_, by omega, rfl⟩
      · exact ⟨_, by omega, rfl⟩
      · exact ⟨_, by omega, rfl⟩
  | a :: b :: c :: rest, member => by
      have a_lt := a.toNat_lt
      have b_lt := b.toNat_lt
      have c_lt := c.toNat_lt
      rw [encodeFrom_triple, List.mem_append] at member
      rcases member with now | later
      · simp only [tripleDigits, List.mem_cons, List.not_mem_nil, or_false] at now
        rcases now with rfl | rfl | rfl | rfl
        · exact ⟨_, by omega, rfl⟩
        · exact ⟨_, by omega, rfl⟩
        · exact ⟨_, by omega, rfl⟩
        · exact ⟨_, by omega, rfl⟩
      · exact digit_of_mem_encodeFrom rest later

theorem length_encodeFrom : ∀ bytes : List UInt8,
    (encodeFrom alphabet [] bytes).length = (bytes.length * 4 + 2) / 3
  | [] => rfl
  | [_] => by simp [encodeFrom]
  | [_, _] => by simp [encodeFrom]
  | a :: b :: c :: rest => by
      have later := length_encodeFrom rest
      rw [encodeFrom_triple, List.length_append, later]
      simp only [tripleDigits, List.length_cons, List.length_nil]
      omega

/-- A dot is no digit, so that dots can stand between spellings. -/
theorem dot_not_mem_base64 (bytes : List UInt8) : '.' ∉ (base64 .url bytes).toList := by
  intro member
  rw [base64, String.toList_ofList] at member
  obtain ⟨value, small, same⟩ := digit_of_mem_encodeFrom .url bytes member
  exact Alphabet.url_digit_ne_dot small same.symm

end Accounts.Text
