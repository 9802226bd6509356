import Accounts.Proofs.Except
import Accounts.Proofs.Token.Audience
import Accounts.Proofs.Token.Documents
import Accounts.Proofs.Token.RoundTrip

/-! Which tokens are accepted: those whose last part vouches for a good header and a good payload,
and no others. -/

namespace Accounts.Token

open Json Text

namespace Signer

/-! The parts of a token. -/

theorem cutLast?_eq_some {text before last : List Char} :
    cutLast? text = some (before, last) ↔ text = before ++ '.' :: last ∧ '.' ∉ last := by
  constructor
  · intro cut
    unfold cutLast? at cut
    rw [List.span_eq_takeWhile_dropWhile] at cut
    split at cut
    next taken dot found same =>
      obtain ⟨rfl, rfl⟩ := Prod.mk.inj (Option.some.inj cut)
      obtain ⟨rfl, dropped⟩ := Prod.mk.inj same
      have whole : text.reverse.takeWhile (· ≠ '.') ++ dot :: found = text.reverse := by
        rw [← dropped]
        exact List.takeWhile_append_dropWhile
      have isDot : dot = '.' := by
        have stopped := List.head?_dropWhile_not (fun c => decide (c ≠ '.')) text.reverse
        rw [dropped] at stopped
        simpa using stopped
      refine ⟨?_, ?_⟩
      · have reversed := congrArg List.reverse whole
        rw [List.reverse_reverse, List.reverse_append, List.reverse_cons, isDot] at reversed
        exact reversed.symm.trans (List.append_assoc _ _ _)
      · intro member
        have kept := List.all_eq_true.mp List.all_takeWhile '.' (List.mem_reverse.mp member)
        simp at kept
    next => contradiction
  · rintro ⟨rfl, noDot⟩
    exact cutLast?_append before noDot

theorem eq_join_iff {whole before last : String} : whole = before ++ "." ++ last ↔
    whole.toList = before.toList ++ '.' :: last.toList := by
  have dot : ".".toList = ['.'] := rfl
  rw [← String.toList_inj, String.toList_append, String.toList_append, dot, List.append_assoc]
  rfl

theorem Parts.of?_eq_some {token : String} {parts : Parts} :
    Parts.of? token = some parts ↔ token = parts.message ++ "." ++ parts.tag ∧
      parts.message = parts.header ++ "." ++ parts.payload ∧
      '.' ∉ parts.payload.toList ∧ '.' ∉ parts.tag.toList := by
  obtain ⟨message, header, payload, tag⟩ := parts
  simp only [eq_join_iff]
  constructor
  · intro cut
    unfold of? at cut
    split at cut
    · contradiction
    next message' tag' outer =>
      split at cut
      · contradiction
      next header' payload' inner =>
        obtain ⟨rfl, rfl, rfl, rfl⟩ := Parts.mk.inj (Option.some.inj cut)
        obtain ⟨whole, tag_noDot⟩ := cutLast?_eq_some.mp outer
        obtain ⟨front, payload_noDot⟩ := cutLast?_eq_some.mp inner
        simp only [String.toList_ofList]
        exact ⟨whole, front, payload_noDot, tag_noDot⟩
  · rintro ⟨whole, front, payload_noDot, tag_noDot⟩
    rw [of?, cutLast?_eq_some.mpr ⟨whole, tag_noDot⟩]
    simp only [cutLast?_eq_some.mpr ⟨front, payload_noDot⟩, String.ofList_toList]

/-! Validating step by step. -/

theorem readPart_eq_ok {α : Type} {reader : Reader α} {text : String} {value : α} :
    readPart reader text = .ok value ↔
      ∃ bytes, text = part bytes ∧ readAll reader bytes = .ok value := by
  constructor
  · intro read
    unfold readPart at read
    split at read
    · contradiction
    next bytes decoded =>
      split at read
      · contradiction
      next found whole =>
        obtain rfl := Except.ok.inj read
        exact ⟨bytes, (ofBase64?_eq_some .url).mp decoded, whole⟩
  · rintro ⟨bytes, rfl, whole⟩
    have decoded : ofBase64? .url (part bytes) = some bytes := ofBase64?_base64 .url bytes
    rw [readPart, decoded]
    simp only [whole]

theorem part_injective {bytes other : List UInt8} (same : part bytes = part other) :
    bytes = other := by
  have decoded := congrArg (ofBase64? .url) same
  exact Option.some.inj ((ofBase64?_base64 .url bytes).symm.trans
    (decoded.trans (ofBase64?_base64 .url other)))

theorem validate_eq_ok {signer : Signer} {second : Int} {token : String} {claims : Claims} :
    signer.validate second token = .ok claims ↔ ∃ parts, Parts.of? token = some parts ∧
      readPart headerAlgorithm parts.header = .ok .hs256 ∧
      parts.tag = tag signer.secret parts.message ∧
      readPart Claims.reader parts.payload = .ok claims ∧
      readPart namedAudience parts.payload = .ok false ∧
      0 ≤ claims.exp ∧ second ≤ claims.exp := by
  unfold validate
  cases cut : Parts.of? token with
  | none => exact ⟨nofun, fun ⟨_, same, _⟩ => nomatch same⟩
  | some parts =>
      -- What remains is one existential or one condition for each stage.
      simp only [except_error_bind]
      simp only [except_bind_eq_ok, ite_error_eq_ok, Option.some.injEq, exists_eq_left']
      constructor
      · rintro ⟨algorithm, header, named, vouched, found, payload, audience, audience_read,
          notNegative, inTime, free, same⟩
        obtain rfl := Except.ok.inj same
        obtain rfl := not_not.mp named
        obtain rfl := Bool.eq_false_iff.mpr free
        exact ⟨header, not_not.mp vouched, payload, audience_read, Int.not_lt.mp notNegative,
          Int.not_lt.mp inTime⟩
      · rintro ⟨header, vouched, payload, audience, notNegative, inTime⟩
        exact ⟨.hs256, header, not_not_intro rfl, not_not_intro vouched, claims, payload, false,
          audience, Int.not_lt.mpr notNegative, Int.not_lt.mpr inTime, Bool.false_ne_true, rfl⟩

section Refusals

variable {ε α β : Type} {expected : ε → Prop}

theorem expected_of_bind {started : Except ε α} {next : α → Except ε β}
    (first : ∀ fault, started = .error fault → expected fault)
    (later : ∀ value fault, next value = .error fault → expected fault) :
    ∀ fault, (started >>= next) = .error fault → expected fault := by
  intro fault failed
  cases started with
  | error other => exact first fault (congrArg Except.error (Except.error.inj failed))
  | ok value => exact later value fault failed

theorem expected_of_ite {refused : Prop} [Decidable refused] {here : ε} {next : Except ε α}
    (first : expected here) (later : ∀ fault, next = .error fault → expected fault) :
    ∀ fault, (if refused then .error here else next) = .error fault → expected fault := by
  intro fault failed
  split at failed
  · rwa [← Except.error.inj failed]
  · exact later fault failed

end Refusals

theorem readPart_error {α : Type} {reader : Json.Reader α} {text : String} {error : TokenError}
    (refused : readPart reader text = .error error) : error = .malformed := by
  unfold readPart at refused
  split at refused
  · exact (Except.error.inj refused).symm
  · split at refused
    · exact (Except.error.inj refused).symm
    · contradiction

theorem validate_error {signer : Signer} {second : Int} {token : String} :
    ∀ error, signer.validate second token = .error error → error.isConfiguration = false := by
  have unread : ∀ {α : Type} (reader : Json.Reader α) (text : String) (error : TokenError),
      readPart reader text = .error error → error.isConfiguration = false := by
    intro α reader text error refused
    rw [readPart_error refused]
    rfl
  unfold validate
  cases Parts.of? token with
  | none =>
      intro error refused
      obtain rfl := Except.error.inj refused
      rfl
  | some parts =>
      simp only [except_error_bind]
      -- Stage by stage, as the token goes through them.
      refine expected_of_bind (unread headerAlgorithm parts.header) fun algorithm => ?_
      refine expected_of_ite rfl (expected_of_ite rfl ?_)
      refine expected_of_bind (unread Claims.reader parts.payload) fun claims => ?_
      refine expected_of_bind (unread namedAudience parts.payload) fun audience => ?_
      exact expected_of_ite rfl (expected_of_ite rfl (expected_of_ite rfl nofun))

/-! Which tokens are accepted. -/

def vouchedToken (secret : String) (header payload : List UInt8) : String :=
  part header ++ "." ++ part payload ++ "." ++ tag secret (part header ++ "." ++ part payload)

def HoldsMembers (bytes : List UInt8) (entries : List (String × Tree)) : Prop :=
  ∃ members, IsDocument (.record members) bytes ∧ List.Forall₂ (IsEntry Eq) members entries

/-- Whether a token is good for some claims at a second: its last part vouches for a header of the
one algorithm and for a record with each member of the claims once, which have not expired. -/
structure Good (secret : String) (second : Int) (token : String) (claims : Claims)
    (entries : List (String × Tree)) : Prop where
  vouched : ∃ header payload, token = vouchedToken secret header payload ∧
    (∃ tree, IsDocument tree header ∧ IsHeader tree .hs256) ∧ HoldsMembers payload entries
  described : claimsShape.Describes entries claims.row
  notNegative : 0 ≤ claims.exp
  inTime : second ≤ claims.exp

theorem exists_member_of_entry {members : List (List UInt8 × Tree)}
    {entries : List (String × Tree)} (keys : List.Forall₂ (IsEntry Eq) members entries)
    {key : String} {tree : Tree} (present : tree ∈ treesOf key entries) :
    ∃ member ∈ members, Says member.1 key ∧ member.2 = tree := by
  induction keys with
  | nil => contradiction
  | @cons member entry members entries same _ ih =>
      obtain ⟨name, value⟩ := entry
      have later : tree ∈ treesOf key entries →
          ∃ found ∈ member :: members, Says found.1 key ∧ found.2 = tree := by
        intro present
        obtain ⟨found, there, same⟩ := ih present
        exact ⟨found, List.mem_cons_of_mem member there, same⟩
      by_cases named : name = key
      · subst named
        rw [treesOf_cons_self] at present
        rcases List.mem_cons.mp present with rfl | there
        · exact ⟨member, List.mem_cons_self, same.1, same.2⟩
        · exact later there
      · rw [treesOf_cons_of_ne named] at present
        exact later present

theorem good_of_validate {signer : Signer} {second : Int} {token : String} {claims : Claims}
    (accepted : signer.validate second token = .ok claims) :
    ∃ entries, Good signer.secret second token claims entries ∧
      ∀ tree ∈ treesOf "aud" entries, ¬ IsAudience tree := by
  obtain ⟨⟨message, header, payload, last⟩, cut, header_read, vouched, payload_read,
    audience_read, notNegative, inTime⟩ := validate_eq_ok.mp accepted
  obtain ⟨whole, front, -, -⟩ := Parts.of?_eq_some.mp cut
  obtain ⟨header, rfl, header_whole⟩ := readPart_eq_ok.mp header_read
  obtain ⟨payload, rfl, payload_whole⟩ := readPart_eq_ok.mp payload_read
  -- The payload is read twice, from the same bytes.
  obtain ⟨bytes, same, audience_whole⟩ := readPart_eq_ok.mp audience_read
  obtain rfl := part_injective same
  obtain ⟨header_tree, header_document, named⟩ :=
    (readAll_eq_ok headerAlgorithm_exact).mp header_whole
  obtain ⟨tree, document, means⟩ := (readAll_eq_ok claims_exact).mp payload_whole
  obtain ⟨members, rfl⟩ := record_of_namedAudience document audience_whole
  obtain ⟨entries, keys, described⟩ := means
  dsimp only at whole front vouched
  refine ⟨entries, ⟨⟨header, payload, ?_, ⟨header_tree, header_document, named⟩, members, document,
    keys⟩, described, notNegative, inTime⟩, ?_⟩
  · rw [whole, vouched, front, vouchedToken]
  · intro tree present isAudience
    obtain ⟨member, there, said, rfl⟩ := exists_member_of_entry keys present
    have noticed :=
      (named_iff_audience document audience_whole).mpr ⟨member, there, said, isAudience⟩
    contradiction

/-- A good token is accepted if it has no member of those that tokens of all kinds share, beside its
expiry. -/
theorem validate_of_good {signer : Signer} {second : Int} {token : String} {claims : Claims}
    {entries : List (String × Tree)} (good : Good signer.secret second token claims entries)
    (free : ∀ name ∈ ["aud", "nbf", "iss", "sub"], treesOf name entries = []) :
    signer.validate second token = .ok claims := by
  obtain ⟨⟨header, payload, rfl, header_good, members, document, keys⟩, described, notNegative,
    inTime⟩ := good
  have noDot : ∀ bytes, '.' ∉ (part bytes).toList := dot_not_mem_base64
  have expires : Gives IsInteger none (treesOf "exp" entries) claims.exp := described.2.2.2.2.1
  refine validate_eq_ok.mpr ⟨⟨part header ++ "." ++ part payload, part header, part payload,
    tag signer.secret (part header ++ "." ++ part payload)⟩, ?_, ?_, rfl, ?_, ?_, notNegative,
    inTime⟩
  · exact Parts.of?_eq_some.mpr ⟨rfl, rfl, noDot payload, noDot _⟩
  · exact readPart_eq_ok.mpr ⟨header, rfl, (readAll_eq_ok headerAlgorithm_exact).mpr header_good⟩
  · exact readPart_eq_ok.mpr ⟨payload, rfl,
      (readAll_eq_ok claims_exact).mpr ⟨.record members, document, entries, keys, described⟩⟩
  · exact readPart_eq_ok.mpr ⟨payload, rfl, namedAudience_of_free document keys expires free⟩

theorem validate_ne_ok_of_forged {signer : Signer} {second : Int} {message last : String}
    (noDot : '.' ∉ last.toList) (forged : last ≠ tag signer.secret message) (claims : Claims) :
    signer.validate second (message ++ "." ++ last) ≠ .ok claims := by
  intro accepted
  obtain ⟨parts, cut, -, vouched, -⟩ := validate_eq_ok.mp accepted
  obtain ⟨whole, -, -, tag_noDot⟩ := Parts.of?_eq_some.mp cut
  have cut_here : cutLast? (message ++ "." ++ last).toList = some (message.toList, last.toList) :=
    cutLast?_eq_some.mpr ⟨eq_join_iff.mp rfl, noDot⟩
  have cut_there := cutLast?_eq_some.mpr ⟨eq_join_iff.mp whole, tag_noDot⟩
  obtain ⟨same_message, same_last⟩ := Prod.mk.inj (Option.some.inj (cut_here.symm.trans cut_there))
  rw [String.toList_inj] at same_message same_last
  rw [same_message, same_last] at forged
  exact forged vouched

/-- No tag is spelled with the digits of the other alphabet. -/
theorem plus_ne_tag (secret message : String) : "+" ≠ tag secret message := by
  intro same
  have member : '+' ∈ (tag secret message).toList := same ▸ List.mem_singleton.mpr rfl
  rw [tag, part, base64, String.toList_ofList] at member
  obtain ⟨value, small, isDigit⟩ := digit_of_mem_encodeFrom .url _ member
  have none_is : ∀ value < 64, '+' ≠ Alphabet.url.digit value := by decide +kernel
  exact none_is value small isDigit

/-- Acceptance is exact. Whatever token is accepted as some claims is good for them and names no
audience. A good token is accepted as its claims if it has no further member of those that tokens of
all kinds share. And no token is accepted whose last part is not the tag of what is in front of
it. -/
theorem validate_exact (signer : Signer) (second : Int) (token : String) (claims : Claims) :
    (signer.validate second token = .ok claims →
      ∃ entries, Good signer.secret second token claims entries ∧
        ∀ tree ∈ treesOf "aud" entries, ¬ IsAudience tree) ∧
    (∀ entries, Good signer.secret second token claims entries →
      (∀ name ∈ ["aud", "nbf", "iss", "sub"], treesOf name entries = []) →
      signer.validate second token = .ok claims) ∧
    (∀ message last, token = message ++ "." ++ last → '.' ∉ last.toList →
      last ≠ tag signer.secret message → signer.validate second token ≠ .ok claims) := by
  refine ⟨good_of_validate, fun entries => validate_of_good, ?_⟩
  rintro message last rfl noDot forged
  exact validate_ne_ok_of_forged noDot forged claims

/-- A payload with a member of its own, at the last second, and the same with a tag in the wrong
alphabet. -/
theorem validate_exact_last_second :
    let signer : Signer := ⟨"secret", 1, by decide, by decide, by decide⟩
    let header := utf8 "\x7b\"alg\":\"HS256\"\x7d"
    let payload := utf8 ("\x7b\"user_id\":\"a\",\"username\":\"b\",\"role\":\"c\",\"iat\":0," ++
      "\"exp\":9,\"jti\":[1,\x7b\x7d]\x7d")
    let message := part header ++ "." ++ part payload
    signer.validate 9 (vouchedToken signer.secret header payload) = .ok ⟨"a", "b", "c", 0, 9⟩ ∧
    ∀ claims, signer.validate 9 (message ++ "." ++ "+") ≠ .ok claims := by
  intro signer header payload message
  constructor
  · obtain ⟨tree, document, kept⟩ := (readAll_eq_ok (value_exact 3)).mp
      (rfl : readAll (Json.value 3) payload = .ok (.record [("user_id", .text "a"),
        ("username", .text "b"), ("role", .text "c"), ("iat", .integer 0), ("exp", .integer 9),
        ("jti", .list [.integer 1, .record []])]))
    obtain ⟨members, rfl, mean⟩ := record_of_isValue kept
    match members, mean with
    | [(_, userId), (_, username), (_, role), (_, iat), (_, exp), (_, jti)],
      .cons a (.cons b (.cons c (.cons d (.cons e (.cons f .nil))))) =>
        let entries := [("user_id", userId), ("username", username), ("role", role), ("iat", iat),
          ("exp", exp), ("jti", jti)]
        have keys : HoldsMembers payload entries := ⟨_, document, .cons ⟨a.1, rfl⟩ <|
          .cons ⟨b.1, rfl⟩ <| .cons ⟨c.1, rfl⟩ <| .cons ⟨d.1, rfl⟩ <| .cons ⟨e.1, rfl⟩ <|
          .cons ⟨f.1, rfl⟩ .nil⟩
        have named : ∃ tree, IsDocument tree header ∧ IsHeader tree .hs256 :=
          (readAll_eq_ok headerAlgorithm_exact).mp rfl
        have described : claimsShape.Describes entries (Claims.mk "a" "b" "c" 0 9).row :=
          ⟨isText_of_isValue a.2, isText_of_isValue b.2, isText_of_isValue c.2,
            isInteger_of_isValue d.2 (by decide), isInteger_of_isValue e.2 (by decide), trivial⟩
        have good : Good signer.secret 9 (vouchedToken signer.secret header payload)
            ⟨"a", "b", "c", 0, 9⟩ entries :=
          ⟨⟨header, payload, rfl, named, keys⟩, described, by decide, by decide⟩
        exact (validate_exact signer 9 _ _).2.1 entries good (by simp [entries, treesOf])
  · intro claims
    exact (validate_exact signer 9 _ claims).2.2 message "+" rfl (by decide) (plus_ne_tag _ _)

end Signer

end Accounts.Token
