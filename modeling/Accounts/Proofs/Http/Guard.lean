import Accounts.Http.Api
import Accounts.Proofs.Email
import Accounts.Proofs.Token.RoundTrip

/-! What the headers of a request present, and that a token is taken out of the header that presents
it. -/

namespace Accounts.Http

open Text

/-! Texts in headers. -/

theorem utf8_map_ofNat {value : List UInt8} (good : ∀ byte ∈ value, isTextByte byte = true) :
    utf8 (String.ofList (value.map fun byte => Char.ofNat byte.toNat)) = value := by
  have small : ∀ byte ∈ value, byte.toNat < 128 := by
    intro byte member
    have text := good byte member
    simp only [isTextByte, Bool.or_eq_true, Bool.and_eq_true, decide_eq_true_eq,
      UInt8.le_iff_toNat_le, beq_iff_eq] at text
    rcases text with ⟨-, top⟩ | rfl
    · exact Nat.lt_of_le_of_lt top (by decide)
    · decide
  have point : ∀ byte ∈ value, (Char.ofNat byte.toNat).toNat = byte.toNat := by
    intro byte member
    have valid : ∀ n < 128, (Char.ofNat n).toNat = n := by decide +kernel
    exact valid _ (small byte member)
  rw [utf8_ofList, spell_ascii]
  · rw [List.map_map]
    calc
      value.map _ = value.map id := by
        apply List.map_congr_left
        intro byte member
        simp only [Function.comp, point byte member, UInt8.ofNat_toNat, id]
      _ = value := List.map_id _
  · intro c member
    obtain ⟨byte, inside, rfl⟩ := List.mem_map.mp member
    rw [point byte inside]
    exact small byte inside

theorem headerText?_eq_some {value : List UInt8} {text : String} :
    headerText? value = some text ↔
      utf8 text = value ∧ ∀ byte ∈ value, isTextByte byte = true := by
  rw [headerText?]
  constructor
  · intro read
    split at read
    next good =>
      obtain rfl := Option.some.inj read
      have bytes := List.all_eq_true.mp good
      exact ⟨utf8_map_ofNat bytes, bytes⟩
    · contradiction
  · rintro ⟨rfl, good⟩
    rw [if_pos (List.all_eq_true.mpr good), utf8_injective (utf8_map_ofNat good)]

theorem headerText?_utf8 {text : String}
    (visible : ∀ c ∈ text.toList, 0x20 ≤ c.toNat ∧ c.toNat ≤ 0x7E) :
    headerText? (utf8 text) = some text := by
  refine headerText?_eq_some.mpr ⟨rfl, ?_⟩
  intro byte member
  rw [← spell_toList, spell_ascii fun c inside => by have range := visible c inside; omega] at member
  obtain ⟨c, inside, rfl⟩ := List.mem_map.mp member
  have range := visible c inside
  have same : (UInt8.ofNat c.toNat).toNat = c.toNat := by
    rw [UInt8.toNat_ofNat', Nat.mod_eq_of_lt (by omega)]
  simp only [isTextByte, Bool.or_eq_true, Bool.and_eq_true, decide_eq_true_eq,
    UInt8.le_iff_toNat_le, same]
  exact .inl range

/-! Tokens in headers. -/

/-- Whether the values of the authorization headers of a request present a token: the first of them
does, as the mark with the token behind it, maybe within blanks. -/
inductive Presents : List (List UInt8) → String → Prop
  | bearer {rest : String} {others : List (List UInt8)}
      (text : ∀ byte ∈ utf8 ("Bearer " ++ rest), isTextByte byte = true) (some : trim rest ≠ "") :
      Presents (utf8 ("Bearer " ++ rest) :: others) (trim rest)

/-- Whether the values of the authorization headers of a request present no token: there is none, or
the first of them is not text, lacks the mark or has nothing but blanks behind it. -/
inductive Tokenless : List (List UInt8) → Prop
  | absent : Tokenless []
  | foreign {value : List UInt8} {others : List (List UInt8)} {byte : UInt8}
      (member : byte ∈ value) (notText : isTextByte byte = false) : Tokenless (value :: others)
  | unmarked {value : List UInt8} {others : List (List UInt8)}
      (unmarked : ¬ utf8 "Bearer " <+: value) : Tokenless (value :: others)
  | blank {rest : String} {others : List (List UInt8)} (blank : trim rest = "") :
      Tokenless (utf8 ("Bearer " ++ rest) :: others)

theorem bearerToken?_mark {rest : String}
    (text : ∀ byte ∈ utf8 ("Bearer " ++ rest), isTextByte byte = true) :
    bearerToken? (utf8 ("Bearer " ++ rest)) = if trim rest = "" then none else some (trim rest) := by
  have taken : ("Bearer " ++ rest).toList.take bearerMark.length = bearerMark := by
    rw [String.toList_append]
    exact List.take_left
  have left : ("Bearer " ++ rest).toList.drop bearerMark.length = rest.toList := by
    rw [String.toList_append]
    exact List.drop_left
  rw [bearerToken?, headerText?_eq_some.mpr ⟨rfl, text⟩]
  dsimp only
  rw [if_pos taken, left, String.ofList_toList]

theorem exists_of_bearerToken? {value : List UInt8} {token : String}
    (taken : bearerToken? value = some token) :
    ∃ rest, value = utf8 ("Bearer " ++ rest) ∧ ∀ byte ∈ value, isTextByte byte = true := by
  unfold bearerToken? at taken
  split at taken
  · contradiction
  next text read =>
    obtain ⟨rfl, good⟩ := headerText?_eq_some.mp read
    split at taken
    next marked =>
      obtain ⟨behind, split⟩ := List.prefix_iff_eq_take.mpr marked.symm
      have same : text = "Bearer " ++ String.ofList behind := by
        calc
          text = String.ofList text.toList := String.ofList_toList.symm
          _ = String.ofList (bearerMark ++ behind) := by rw [← split]
          _ = String.ofList bearerMark ++ String.ofList behind := String.ofList_append
          _ = "Bearer " ++ String.ofList behind :=
            congrArg (· ++ String.ofList behind) String.ofList_toList
      exact ⟨String.ofList behind, congrArg utf8 same, good⟩
    · contradiction

theorem presents_iff {values : List (List UInt8)} {token : String} :
    Presents values token ↔ values.head?.bind bearerToken? = some token := by
  constructor
  · rintro ⟨text, some⟩
    exact (bearerToken?_mark text).trans (if_neg some)
  · intro taken
    cases values with
    | nil => contradiction
    | cons value others =>
        obtain ⟨rest, rfl, text⟩ := exists_of_bearerToken? taken
        rw [List.head?_cons, Option.bind_some, bearerToken?_mark text] at taken
        split at taken
        · contradiction
        next some =>
          obtain rfl := Option.some.inj taken
          exact .bearer text some

theorem tokenless_iff {values : List (List UInt8)} :
    Tokenless values ↔ values.head?.bind bearerToken? = none := by
  rw [Option.eq_none_iff_forall_ne_some]
  constructor
  · intro tokenless token taken
    obtain ⟨text, some⟩ := presents_iff.mpr taken
    generalize presented : utf8 ("Bearer " ++ _) = value at tokenless
    cases tokenless with
    | foreign member notText =>
        rw [← presented] at member
        exact Bool.false_ne_true (notText.symm.trans (text _ member))
    | unmarked unmarked =>
        apply unmarked
        rw [← presented, utf8_append]
        exact List.prefix_append _ _
    | blank blank =>
        rw [utf8_append, utf8_append] at presented
        rw [utf8_injective (List.append_cancel_left presented)] at some
        exact some blank
  · intro none
    cases values with
    | nil => exact .absent
    | cons value others =>
        by_cases text : ∀ byte ∈ value, isTextByte byte = true
        · by_cases marked : utf8 "Bearer " <+: value
          · obtain ⟨behind, rfl⟩ := marked
            have good : ∀ byte ∈ behind, isTextByte byte = true := fun byte member =>
              text byte (List.mem_append_right _ member)
            rw [← utf8_map_ofNat good, ← utf8_append] at text none ⊢
            apply Tokenless.blank
            by_contra some
            exact none _ ((bearerToken?_mark text).trans (if_neg some))
          · exact .unmarked marked
        · simp only [not_forall, Bool.not_eq_true] at text
          obtain ⟨byte, member, notText⟩ := text
          exact .foreign member notText

def Request.authorizations (request : Request) : List (List UInt8) :=
  (request.headers.filter fun header => lowerName header.1 = "authorization").map Prod.snd

theorem Request.header?_authorization (request : Request) :
    request.header? "authorization" = request.authorizations.head? := by
  rw [header?, authorizations, List.head?_map, List.head?_filter]

/-! Tokens as they are signed. -/

def bearerValue (token : String) : List UInt8 := utf8 ("Bearer " ++ token)

theorem bearerToken?_bearerValue {token : String} (some : token ≠ "")
    (visible : ∀ c ∈ token.toList, 0x20 < c.toNat ∧ c.toNat ≤ 0x7E) :
    bearerToken? (bearerValue token) = .some token := by
  have text : headerText? (bearerValue token) = .some ("Bearer " ++ token) := by
    apply headerText?_utf8
    intro c member
    have mark : ∀ c ∈ "Bearer ".toList, 0x20 ≤ c.toNat ∧ c.toNat ≤ 0x7E := by simp
    rw [String.toList_append] at member
    rcases List.mem_append.mp member with before | behind
    · exact mark c before
    · have range := visible c behind
      omega
  have unblank : ∀ point ≤ 0x7E, 0x20 < point → isBlank (Char.ofNat point) = false := by
    decide
  have trimmed : trim token = token := by
    apply trim_eq_self
    intro c member
    have range := visible c member
    have same := unblank c.toNat range.2 range.1
    rwa [Char.ofNat_toNat] at same
  rw [bearerValue, bearerToken?_mark (headerText?_eq_some.mp text).2, trimmed, if_neg some]

theorem visible_of_mem_base64 {bytes : List UInt8} {c : Char}
    (member : c ∈ (base64 .url bytes).toList) : 0x20 < c.toNat ∧ c.toNat ≤ 0x7E := by
  have digits : ∀ value < 64, 0x20 < (Alphabet.url.digit value).toNat ∧
      (Alphabet.url.digit value).toNat ≤ 0x7E := by
    decide +kernel
  rw [base64, String.toList_ofList] at member
  obtain ⟨value, small, rfl⟩ := digit_of_mem_encodeFrom .url bytes member
  exact digits value small

theorem bearerToken?_sign (signer : Token.Signer) (claims : Token.Claims) :
    bearerToken? (bearerValue (signer.sign claims)) = some (signer.sign claims) := by
  have dot : ∀ c ∈ ".".toList, 0x20 < c.toNat ∧ c.toNat ≤ 0x7E := by simp
  apply bearerToken?_bearerValue
  · intro none
    have split := Token.Signer.splitOn_sign signer claims
    rw [none] at split
    have parts : 1 = 3 := congrArg List.length split
    omega
  · intro c member
    simp only [Token.Signer.sign, Token.Signer.documentPart, Token.Signer.tag, Token.Signer.part,
      String.toList_append, List.mem_append] at member
    rcases member with (((first | mark) | second) | mark) | third
    · exact visible_of_mem_base64 first
    · exact dot c mark
    · exact visible_of_mem_base64 second
    · exact dot c mark
    · exact visible_of_mem_base64 third

end Accounts.Http
