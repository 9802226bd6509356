import Accounts.Proofs.Json.Records
import Accounts.Proofs.Text.Base64
import Accounts.Token.Signer
import Mathlib.Data.List.TakeDrop

/-! An issued token is read back as what it was issued for, until it expires. -/

namespace Accounts.Token

open Json Text

/-! The header. -/

theorem algorithm_reads (chosen : Algorithm) :
    Reads algorithm (Value.text chosen.name).bytes chosen := by
  intro rest _
  rw [algorithm, bind_of_ok (value_text 1 chosen.name rest), choice?, Option.bind_some,
    Algorithm.ofName?_name]
  rfl

theorem headerAlgorithm_reads : Reads headerAlgorithm issuedHeader.bytes .hs256 := by
  have collects : headerMembers.Collects headerMembers.empty
      [("typ", .text "JWT"), ("alg", .text Algorithm.hs256.name)]
      (some (some "JWT"), some .hs256, none, none, none, none, none, none, none, none, ()) :=
    .member (.here (optional_text_reads "JWT")) <|
    .member (.later (by decide) (.here (algorithm_reads .hs256))) .nil
  intro rest ends
  have read := recordOf_reads collects rfl rest ends
  rw [headerAlgorithm, issuedHeader, bind_of_ok read]
  rfl

/-! The payload. -/

structure Claims.Fits (claims : Claims) : Prop where
  iat_least : -0x8000000000000000 ≤ claims.iat
  iat_most : claims.iat < 0x8000000000000000
  exp_least : -0x8000000000000000 ≤ claims.exp
  exp_most : claims.exp < 0x8000000000000000

theorem Claims.reader_reads {claims : Claims} (fits : claims.Fits) :
    Reads Claims.reader claims.document.bytes claims := by
  have inOrder : Claims.members.InOrder _
      (claims.userId, claims.username, claims.role, claims.iat, claims.exp, ()) :=
    .cons (text_reads claims.userId) (by simp) <|
    .cons (text_reads claims.username) (by simp) <|
    .cons (text_reads claims.role) (by simp) <|
    .cons (integer_reads fits.iat_least fits.iat_most) (by simp) <|
    .cons (integer_reads fits.exp_least fits.exp_most) (by simp) .nil
  intro rest ends
  have read := inOrder.reads rest ends
  rw [Claims.reader, Claims.document, bind_of_ok read]
  rfl

theorem passNumber_reads {value : Int} (least : -0x8000000000000000 ≤ value)
    (most : value < 0x8000000000000000) : Reads passNumber (Value.integer value).bytes () := by
  intro rest ends
  have attempt := attemptValue_integer least most 0 ends
  have spelled : (Value.integer value).bytes = spell (signedDecimal value) := rfl
  obtain ⟨first, more, same, starts⟩ := startsNumeral_print value
  rw [same, List.cons_append] at attempt
  rw [spelled, same, List.cons_append, passNumber,
    afterSpace_cons (not_isSpace_of_startsNumeral starts)]
  split
  next same =>
    exact absurd (List.cons.inj same).1 (ne_of_startsNumeral starts rfl)
  next same =>
    exact absurd (List.cons.inj same).1 (ne_of_startsNumeral starts rfl)
  next => rw [attempt]

theorem namedAudience_reads {claims : Claims} (fits : claims.Fits) :
    Reads namedAudience claims.document.bytes false := by
  have collects : sharedMembers.Collects sharedMembers.empty
      [("user_id", .text claims.userId), ("username", .text claims.username),
        ("role", .text claims.role), ("iat", .integer claims.iat), ("exp", .integer claims.exp)]
      (some (), none, none, none, none, ()) :=
    .unknown rfl (passValue_text claims.userId) <|
    .unknown rfl (passValue_text claims.username) <|
    .unknown rfl (passValue_text claims.role) <|
    .unknown rfl (passValue_reads_integer claims.iat) <|
    .member (.here (passNumber_reads fits.exp_least fits.exp_most)) .nil
  intro rest _
  rw [Claims.document, bytes_record, List.cons_append, namedAudience, afterSpace_cons rfl]
  exact bind_of_ok (collects.record rfl rest)

/-! The parts of a token. -/

namespace Signer

theorem readPart_documentPart {α : Type} {reader : Reader α} {document : Value} {value : α}
    (reads : Reads reader document.bytes value) :
    readPart reader (documentPart document) = .ok value := by
  have read := reads [] ends_nil
  rw [List.append_nil] at read
  rw [readPart, documentPart, part, utf8_render, ofBase64?_base64]
  simp only [readAll_of_ok read]

theorem cutLast?_append (before : List Char) {last : List Char} (noDot : '.' ∉ last) :
    cutLast? (before ++ '.' :: last) = some (before, last) := by
  have reversed : (before ++ '.' :: last).reverse = last.reverse ++ '.' :: before.reverse := by
    simp
  have noDots : ∀ c ∈ last.reverse, decide (c ≠ '.') = true := by
    intro c member
    apply decide_eq_true
    rintro rfl
    exact noDot (List.mem_reverse.mp member)
  rw [cutLast?, reversed, List.span_eq_takeWhile_dropWhile, List.takeWhile_append_of_pos noDots,
    List.dropWhile_append_of_pos noDots]
  simp

theorem Parts.of?_join (header payload tag : List UInt8) :
    Parts.of? (part header ++ "." ++ part payload ++ "." ++ part tag) =
      some ⟨part header ++ "." ++ part payload, part header, part payload, part tag⟩ := by
  have dot : ".".toList = ['.'] := rfl
  have whole : (part header ++ "." ++ part payload ++ "." ++ part tag).toList =
      (part header ++ "." ++ part payload).toList ++ '.' :: (part tag).toList := by
    simp [dot]
  have message : (part header ++ "." ++ part payload).toList =
      (part header).toList ++ '.' :: (part payload).toList := by
    simp [dot]
  have noDot : ∀ bytes, '.' ∉ (part bytes).toList := dot_not_mem_base64
  rw [Parts.of?, whole, cutLast?_append _ (noDot tag)]
  simp only [message, cutLast?_append _ (noDot payload), String.ofList_toList]
  rw [← message, String.ofList_toList]

def signedParts (signer : Signer) (claims : Claims) : List (List UInt8) :=
  [issuedHeader.bytes, claims.document.bytes,
    Hash.Sha256.keyed (utf8 signer.secret)
      (utf8 (documentPart issuedHeader ++ "." ++ documentPart claims.document))]

theorem splitOn_sign (signer : Signer) (claims : Claims) :
    (signer.sign claims).toList.splitOn '.' =
      (signer.signedParts claims).map fun bytes => (part bytes).toList := by
  have noDot : ∀ bytes, '.' ∉ (part bytes).toList := dot_not_mem_base64
  have dot : ".".toList = ['.'] := rfl
  have spelled : (signer.sign claims).toList =
      (part issuedHeader.bytes).toList ++ '.' :: ((part claims.document.bytes).toList ++
        '.' :: (part (Hash.Sha256.keyed (utf8 signer.secret)
          (utf8 (documentPart issuedHeader ++ "." ++ documentPart claims.document)))).toList) := by
    simp [sign, documentPart, tag, utf8_render, dot]
  rw [spelled, List.splitOn_append_cons_self_of_not_mem (noDot _),
    List.splitOn_append_cons_self_of_not_mem (noDot _), List.splitOn_eq_singleton (noDot _)]
  rfl

theorem validate_sign {signer other : Signer} {claims : Claims} (fits : claims.Fits)
    (notBefore : 0 ≤ claims.exp) (secret : other.secret = signer.secret) (second : Int) :
    other.validate second (signer.sign claims) =
      if second ≤ claims.exp then .ok claims else .error .expired := by
  have parts : Parts.of? (signer.sign claims) =
      some ⟨documentPart issuedHeader ++ "." ++ documentPart claims.document,
        documentPart issuedHeader, documentPart claims.document,
        tag signer.secret (documentPart issuedHeader ++ "." ++ documentPart claims.document)⟩ :=
    Parts.of?_join _ _ _
  have algorithm := readPart_documentPart headerAlgorithm_reads
  have payload := readPart_documentPart (Claims.reader_reads fits)
  have audience := readPart_documentPart (namedAudience_reads fits)
  rw [validate, parts]
  simp only [bind, Except.bind, algorithm, payload, audience, secret]
  rw [if_neg (not_not_intro rfl), if_neg (not_not_intro rfl), if_neg (Int.not_lt.mpr notBefore)]
  by_cases inTime : second ≤ claims.exp
  · rw [if_neg (Int.not_lt.mpr inTime), if_neg Bool.false_ne_true, if_pos inTime]
  · rw [if_pos (Int.not_le.mp inTime), if_neg inTime]

theorem issue_eq_ok {signer : Signer} {userId username role : String} {now : Time.Instant}
    {token : String} (issued : signer.issue userId username role now = .ok token) :
    ∃ expiry, now.later? signer.expirySeconds = some expiry ∧
      token = signer.sign { userId, username, role, iat := now.second, exp := expiry.second } := by
  unfold issue at issued
  split at issued
  · contradiction
  next expiry later => exact ⟨expiry, later, (Except.ok.inj issued).symm⟩

theorem fits_of_instants (userId username role : String) (now expiry : Time.Instant) :
    Claims.Fits { userId, username, role, iat := now.second, exp := expiry.second } where
  iat_least := Int.le_trans (by decide) now.first_le
  iat_most := Int.lt_of_le_of_lt now.le_last (by decide)
  exp_least := Int.le_trans (by decide) expiry.first_le
  exp_most := Int.lt_of_le_of_lt expiry.le_last (by decide)

/-- An issued token has three parts, and whoever has the secret reads back what it was issued for
up to the second at which it expires, and from then on nothing but that it has expired. -/
theorem issue_validates {signer : Signer} {userId username role : String} {now : Time.Instant}
    {token : String} (issued : signer.issue userId username role now = .ok token) :
    ∃ expiry, now.later? signer.expirySeconds = some expiry ∧
      (∃ header payload tag, token.toList.splitOn '.' =
        [header, payload, tag].map fun bytes => (base64 .url bytes).toList) ∧
      (0 ≤ expiry.second → ∀ other : Signer, other.secret = signer.secret → ∀ second : Int,
        other.validate second token =
          if second ≤ expiry.second then
            .ok { userId, username, role, iat := now.second, exp := expiry.second }
          else .error .expired) := by
  obtain ⟨expiry, later, rfl⟩ := issue_eq_ok issued
  refine ⟨expiry, later, ⟨_, _, _, splitOn_sign signer _⟩, ?_⟩
  intro notBefore other secret second
  exact validate_sign (fits_of_instants userId username role now expiry) notBefore secret second

/-- A token with quotes, controls and dots in its texts, issued at the start of 1970. -/
theorem issue_validates_epoch :
    let signer : Signer := ⟨"secret", 1, by decide +kernel, by decide, by decide⟩
    let claims : Claims := ⟨"a.\"b\\", "\n\u0001é", "user", 0, 3600⟩
    signer.issue claims.userId claims.username claims.role Time.Instant.epoch =
      .ok (signer.sign claims) ∧
    signer.validate 3600 (signer.sign claims) = .ok claims ∧
    signer.validate 3601 (signer.sign claims) = .error .expired := by
  intro signer claims
  have issued : signer.issue claims.userId claims.username claims.role Time.Instant.epoch =
      .ok (signer.sign claims) := rfl
  obtain ⟨expiry, later, -, validates⟩ := issue_validates issued
  have seconds : Time.Instant.epoch.later? signer.expirySeconds =
      some ⟨3600, 0, by decide, by decide, by decide⟩ := rfl
  obtain rfl := Option.some.inj (seconds.symm.trans later)
  exact ⟨issued, validates (by decide) signer rfl 3600, validates (by decide) signer rfl 3601⟩

end Signer

end Accounts.Token
