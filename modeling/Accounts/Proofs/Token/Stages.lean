import Accounts.Proofs.Token.Acceptance

/-! The stages that a token goes through, and the first of them that it fails, which is what a
refusal tells. -/

namespace Accounts.Token

open Json Text

inductive Stage
  /-- The token is cut into parts and its header is read. -/
  | form
  | algorithm
  | tag
  /-- The payload is read, and its expiry is not negative. -/
  | payload
  | expiry
  | audience
  deriving DecidableEq, Repr

namespace Stage

def all : List Stage := [.form, .algorithm, .tag, .payload, .expiry, .audience]

def earlier (stage : Stage) : List Stage := all.takeWhile (· ≠ stage)

def error (named : Algorithm) : Stage → TokenError
  | .algorithm => .unexpectedAlgorithm named
  | .tag => .invalidSignature
  | .expiry => .expired
  | .form | .payload | .audience => .malformed

theorem mem_all (stage : Stage) : stage ∈ all := by
  cases stage <;> decide

theorem earlier_total (stage other : Stage) :
    stage = other ∨ stage ∈ other.earlier ∨ other ∈ stage.earlier := by
  cases stage <;> cases other <;> decide

end Stage

namespace Signer

/-! What a token is at each stage. -/

/-- Whether a token is three parts with dots between them. Only the first part may hold dots. -/
def IsJoined (token header payload last : String) : Prop :=
  token = header ++ "." ++ payload ++ "." ++ last ∧ '.' ∉ payload.toList ∧ '.' ∉ last.toList

def NamesAlgorithm (token : String) (algorithm : Algorithm) : Prop :=
  ∃ header payload last, IsJoined token (part header) payload last ∧
    ∃ tree, IsDocument tree header ∧ IsHeader tree algorithm

def Tagged (secret token : String) : Prop := ∃ message, token = message ++ "." ++ tag secret message

/-- Whether the second part of a token is a payload that says something. Members that tokens of all
kinds share are read from it once more. -/
def SaysClaims (token : String) (claims : Claims) : Prop :=
  ∃ header payload last, IsJoined token header (part payload) last ∧
    (∃ tree, IsDocument tree payload ∧ IsPayload tree claims) ∧
    ∃ named, readAll namedAudience payload = .ok named

def HasAudience (token : String) : Prop :=
  ∃ header payload last members, IsJoined token header (part payload) last ∧
    IsDocument (.record members) payload ∧
    ∃ member ∈ members, Says member.1 "aud" ∧ IsAudience member.2

end Signer

namespace Stage

open Signer

def Passes (secret : String) (second : Int) (token : String) : Stage → Prop
  | .form => ∃ algorithm, NamesAlgorithm token algorithm
  | .algorithm => NamesAlgorithm token .hs256
  | .tag => Tagged secret token
  | .payload => ∃ claims, SaysClaims token claims ∧ 0 ≤ claims.exp
  | .expiry => ∃ claims, SaysClaims token claims ∧ second ≤ claims.exp
  | .audience => ¬ HasAudience token

def Reaches (secret : String) (second : Int) (token : String) (stage : Stage) : Prop :=
  ∀ before ∈ stage.earlier, before.Passes secret second token

def FailsFirst (secret : String) (second : Int) (token : String) (stage : Stage) : Prop :=
  stage.Reaches secret second token ∧ ¬ stage.Passes secret second token

def Tells (token : String) (stage : Stage) (error : TokenError) : Prop :=
  match stage with
  | .algorithm => ∃ named, NamesAlgorithm token named ∧ error = .unexpectedAlgorithm named
  | .tag => error = .invalidSignature
  | .expiry => error = .expired
  | .form | .payload | .audience => error = .malformed

section Order

variable {secret : String} {second : Int} {token : String} {stage other : Stage}

theorem reaches_form : Stage.form.Reaches secret second token := by
  intro before member
  contradiction

theorem Reaches.next (reaches : stage.Reaches secret second token)
    (passes : stage.Passes secret second token)
    (follows : other.earlier = stage.earlier ++ [stage]) : other.Reaches secret second token := by
  intro before member
  rw [follows, List.mem_append, List.mem_singleton] at member
  rcases member with member | rfl
  · exact reaches before member
  · exact passes

theorem Reaches.passes_all (reaches : Stage.audience.Reaches secret second token)
    (passes : Stage.audience.Passes secret second token) (stage : Stage) :
    stage.Passes secret second token := by
  have member : stage ∈ Stage.audience.earlier ++ [.audience] := mem_all stage
  rcases List.mem_append.mp member with before | last
  · exact reaches stage before
  · rwa [List.mem_singleton.mp last]

/-- Only one stage looks at the clock. -/
theorem passes_at_any_second (timeless : stage ≠ .expiry) (later : Int) :
    stage.Passes secret second token ↔ stage.Passes secret later token := by
  cases stage with
  | expiry => contradiction
  | _ => exact Iff.rfl

theorem FailsFirst.at_any_second (fails : stage.FailsFirst secret second token)
    (timeless : stage ≠ .expiry) (before : .expiry ∉ stage.earlier) {later : Int} :
    stage.FailsFirst secret later token := by
  refine ⟨?_, mt (passes_at_any_second timeless second).mp fails.2⟩
  intro other member
  have differs : other ≠ .expiry := by
    rintro rfl
    exact before member
  exact (passes_at_any_second differs later).mp (fails.1 other member)

theorem FailsFirst.unique (fails : stage.FailsFirst secret second token)
    (also : other.FailsFirst secret second token) : stage = other := by
  rcases earlier_total stage other with same | before | before
  · exact same
  · exact absurd (also.1 stage before) fails.2
  · exact absurd (fails.1 other before) also.2

end Order

end Stage

namespace Signer

theorem IsJoined.cut {token header payload last : String}
    (joined : IsJoined token header payload last) :
    Parts.of? token = some ⟨header ++ "." ++ payload, header, payload, last⟩ := by
  obtain ⟨rfl, payload_free, last_free⟩ := joined
  exact Parts.of?_eq_some.mpr ⟨rfl, rfl, payload_free, last_free⟩

section Parts

variable {token : String} {parts : Parts} (cut : Parts.of? token = some parts)

include cut

theorem isJoined_iff {header payload last : String} : IsJoined token header payload last ↔
    parts.header = header ∧ parts.payload = payload ∧ parts.tag = last := by
  obtain ⟨whole, front, payload_noDot, tag_noDot⟩ := Parts.of?_eq_some.mp cut
  constructor
  · intro joined
    obtain rfl := Option.some.inj (cut.symm.trans joined.cut)
    exact ⟨rfl, rfl, rfl⟩
  · rintro ⟨rfl, rfl, rfl⟩
    exact ⟨by rw [whole, front], payload_noDot, tag_noDot⟩

theorem namesAlgorithm_iff {algorithm : Algorithm} : NamesAlgorithm token algorithm ↔
    readPart headerAlgorithm parts.header = .ok algorithm := by
  rw [readPart_eq_ok]
  constructor
  · rintro ⟨header, payload, last, joined, named⟩
    obtain ⟨here, -, -⟩ := (isJoined_iff cut).mp joined
    exact ⟨header, here, (readAll_eq_ok headerAlgorithm_exact).mpr named⟩
  · rintro ⟨header, here, read⟩
    exact ⟨header, parts.payload, parts.tag, (isJoined_iff cut).mpr ⟨here, rfl, rfl⟩,
      (readAll_eq_ok headerAlgorithm_exact).mp read⟩

theorem tagged_iff {secret : String} :
    Tagged secret token ↔ parts.tag = tag secret parts.message := by
  obtain ⟨whole, -, -, tag_noDot⟩ := Parts.of?_eq_some.mp cut
  constructor
  · rintro ⟨message, same⟩
    have here := cutLast?_eq_some.mpr ⟨eq_join_iff.mp whole, tag_noDot⟩
    have there := cutLast?_eq_some.mpr ⟨eq_join_iff.mp same, dot_not_mem_base64 _⟩
    obtain ⟨same_message, same_tag⟩ := Prod.mk.inj (Option.some.inj (here.symm.trans there))
    rw [String.toList_inj.mp same_message, String.toList_inj.mp same_tag]
  · intro vouched
    exact ⟨parts.message, by rw [whole, vouched]⟩

theorem saysClaims_iff {claims : Claims} : SaysClaims token claims ↔
    readPart Claims.reader parts.payload = .ok claims ∧
      ∃ named, readPart namedAudience parts.payload = .ok named := by
  simp only [readPart_eq_ok]
  constructor
  · rintro ⟨header, payload, last, joined, described, named, read⟩
    obtain ⟨-, here, -⟩ := (isJoined_iff cut).mp joined
    exact ⟨⟨payload, here, (readAll_eq_ok claims_exact).mpr described⟩, named, payload, here, read⟩
  · rintro ⟨⟨payload, here, payload_read⟩, named, other, same, read⟩
    obtain rfl := part_injective (here.symm.trans same)
    exact ⟨parts.header, payload, parts.tag, (isJoined_iff cut).mpr ⟨rfl, here, rfl⟩,
      (readAll_eq_ok claims_exact).mp payload_read, named, read⟩

theorem hasAudience_iff {claims : Claims} {named : Bool}
    (payload_read : readPart Claims.reader parts.payload = .ok claims)
    (read : readPart namedAudience parts.payload = .ok named) :
    HasAudience token ↔ named = true := by
  obtain ⟨payload, here, read⟩ := readPart_eq_ok.mp read
  constructor
  · rintro ⟨header, other, last, members, joined, document, audience⟩
    obtain ⟨-, same, -⟩ := (isJoined_iff cut).mp joined
    obtain rfl := part_injective (here.symm.trans same)
    exact (named_iff_audience document read).mpr audience
  · rintro rfl
    obtain ⟨other, same, payload_read⟩ := readPart_eq_ok.mp payload_read
    obtain rfl := part_injective (here.symm.trans same)
    obtain ⟨tree, document, -⟩ := (readAll_eq_ok claims_exact).mp payload_read
    obtain ⟨members, rfl⟩ := record_of_namedAudience document read
    exact ⟨parts.header, payload, parts.tag, members, (isJoined_iff cut).mpr ⟨rfl, here, rfl⟩,
      document, (named_iff_audience document read).mp rfl⟩

end Parts

theorem not_namesAlgorithm {token : String} (uncut : Parts.of? token = none)
    (algorithm : Algorithm) : ¬ NamesAlgorithm token algorithm := by
  rintro ⟨header, payload, last, joined, -⟩
  have cut := joined.cut
  rw [uncut] at cut
  contradiction

theorem NamesAlgorithm.unique {token : String} {algorithm other : Algorithm}
    (named : NamesAlgorithm token algorithm) (also : NamesAlgorithm token other) :
    algorithm = other := by
  obtain ⟨header, payload, last, joined, -⟩ := id named
  have read := (namesAlgorithm_iff joined.cut).mp named
  have read' := (namesAlgorithm_iff joined.cut).mp also
  exact Except.ok.inj (read.symm.trans read')

theorem reaches_algorithm {secret : String} {second : Int} {token : String} {algorithm : Algorithm}
    (named : NamesAlgorithm token algorithm) : Stage.algorithm.Reaches secret second token :=
  Stage.reaches_form.next ⟨algorithm, named⟩ rfl

theorem SaysClaims.unique {token : String} {claims other : Claims}
    (said : SaysClaims token claims) (also : SaysClaims token other) : claims = other := by
  obtain ⟨header, payload, last, joined, -⟩ := id said
  have read := ((saysClaims_iff joined.cut).mp said).1
  have read' := ((saysClaims_iff joined.cut).mp also).1
  exact Except.ok.inj (read.symm.trans read')

/-! The two passes. -/

def readAt {α : Type} (stage : Stage) (reader : Reader α) (text : String) : Except Stage α :=
  match readPart reader text with
  | .error _ => .error stage
  | .ok value => .ok value

theorem readAt_eq_ok {α : Type} {stage : Stage} {reader : Reader α} {text : String} {value : α} :
    readAt stage reader text = .ok value ↔ readPart reader text = .ok value := by
  unfold readAt
  split
  next read => simp [read]
  next read => simp [read]

def firstPass (token : String) : Except Stage Algorithm := do
  let some parts := Parts.of? token | .error .form
  readAt .form headerAlgorithm parts.header

def secondPass (secret : String) (second : Int) (token : String) : Except Stage Claims := do
  let some parts := Parts.of? token | .error .form
  let algorithm ← readAt .form headerAlgorithm parts.header
  if algorithm ≠ .hs256 then .error .algorithm
  if parts.tag ≠ tag secret parts.message then .error .tag
  let claims ← readAt .payload Claims.reader parts.payload
  let audience ← readAt .payload namedAudience parts.payload
  if claims.exp < 0 then .error .payload
  if claims.exp < second then .error .expiry
  if audience then .error .audience
  .ok claims

/-- Validates a token in two passes: the second is made with the secret, and only when the first has
found the one algorithm. -/
def validateTwice (signer : Signer) (second : Int) (token : String) : Except TokenError Claims :=
  match firstPass token with
  | .error _ => .error .malformed
  | .ok algorithm =>
    if algorithm ≠ .hs256 then .error (.unexpectedAlgorithm algorithm)
    else
      match secondPass signer.secret second token with
      | .error stage => .error (stage.error algorithm)
      | .ok claims => .ok claims

/-! Where the second pass ends. -/

/-- Whether a pass over a token has come to the right end: at the first stage that the token fails,
or at what its payload says when it passes them all. -/
def EndsRightly (secret : String) (second : Int) (token : String) : Except Stage Claims → Prop
  | .error stage => stage.FailsFirst secret second token
  | .ok claims => (∀ stage : Stage, stage.Passes secret second token) ∧ SaysClaims token claims

section Walk

variable {secret : String} {second : Int} {token : String} {stage : Stage}
  (reaches : stage.Reaches secret second token)

include reaches

theorem endsRightly_of_readAt {α : Type} {reader : Reader α} {text : String}
    {next : α → Except Stage Claims}
    (fails : (∀ value, readPart reader text ≠ .ok value) → ¬ stage.Passes secret second token)
    (later : ∀ value, readPart reader text = .ok value →
      EndsRightly secret second token (next value)) :
    EndsRightly secret second token (readAt stage reader text >>= next) := by
  unfold readAt
  cases read : readPart reader text with
  | error error => exact ⟨reaches, fails (by simp [read])⟩
  | ok value => exact later value read

theorem endsRightly_of_ite {refused : Prop} [Decidable refused] {next : Except Stage Claims}
    (fails : refused → ¬ stage.Passes secret second token)
    (later : ¬ refused → EndsRightly secret second token next) :
    EndsRightly secret second token (if refused then .error stage else next) := by
  by_cases holds : refused
  · rw [if_pos holds]
    exact ⟨reaches, fails holds⟩
  · rw [if_neg holds]
    exact later holds

end Walk

theorem endsRightly_secondPass (secret : String) (second : Int) (token : String) :
    EndsRightly secret second token (secondPass secret second token) := by
  have at_form : Stage.form.Reaches secret second token := Stage.reaches_form
  unfold secondPass
  cases cut : Parts.of? token with
  | none => exact ⟨at_form, fun ⟨algorithm, named⟩ => not_namesAlgorithm cut algorithm named⟩
  | some parts =>
      simp only [except_error_bind]
      -- Stage by stage: either it fails here, or the token comes to the next one.
      apply endsRightly_of_readAt at_form
      · rintro unread ⟨algorithm, named⟩
        exact unread algorithm ((namesAlgorithm_iff cut).mp named)
      intro algorithm header_read
      have named := (namesAlgorithm_iff cut).mpr header_read
      have at_algorithm : Stage.algorithm.Reaches secret second token := reaches_algorithm named
      apply endsRightly_of_ite at_algorithm
      · exact fun other hs256 => other (named.unique hs256)
      intro same
      obtain rfl := not_not.mp same
      have at_tag : Stage.tag.Reaches secret second token := at_algorithm.next named rfl
      apply endsRightly_of_ite at_tag
      · exact fun forged tagged => forged ((tagged_iff cut).mp tagged)
      intro vouched
      have at_payload : Stage.payload.Reaches secret second token :=
        at_tag.next ((tagged_iff cut).mpr (not_not.mp vouched)) rfl
      apply endsRightly_of_readAt at_payload
      · rintro unread ⟨claims, said, -⟩
        exact unread claims ((saysClaims_iff cut).mp said).1
      intro claims payload_read
      apply endsRightly_of_readAt at_payload
      · rintro unread ⟨claims, said, -⟩
        obtain ⟨-, audience, audience_read⟩ := (saysClaims_iff cut).mp said
        exact unread audience audience_read
      intro audience audience_read
      have said := (saysClaims_iff cut).mpr ⟨payload_read, audience, audience_read⟩
      apply endsRightly_of_ite at_payload
      · rintro negative ⟨other, also, le⟩
        rw [said.unique also] at negative
        exact Int.not_lt.mpr le negative
      intro notNegative
      have at_expiry : Stage.expiry.Reaches secret second token :=
        at_payload.next ⟨claims, said, Int.not_lt.mp notNegative⟩ rfl
      apply endsRightly_of_ite at_expiry
      · rintro late ⟨other, also, le⟩
        rw [said.unique also] at late
        exact Int.not_lt.mpr le late
      intro inTime
      have at_audience : Stage.audience.Reaches secret second token :=
        at_expiry.next ⟨claims, said, Int.not_lt.mp inTime⟩ rfl
      have has := hasAudience_iff cut payload_read audience_read
      apply endsRightly_of_ite at_audience
      · exact fun named => not_not_intro (has.mpr named)
      intro free
      exact ⟨at_audience.passes_all (mt has.mp free), said⟩

theorem secondPass_eq_error {secret : String} {second : Int} {token : String} {stage : Stage} :
    secondPass secret second token = .error stage ↔ stage.FailsFirst secret second token := by
  have ends := endsRightly_secondPass secret second token
  constructor
  · intro failed
    rwa [failed] at ends
  · intro fails
    cases ended : secondPass secret second token with
    | error other =>
        rw [ended] at ends
        rw [fails.unique ends]
    | ok claims =>
        rw [ended] at ends
        exact absurd (ends.1 stage) fails.2

/-! Validating is the same as making both passes. -/

theorem mapError_readAt {α : Type} {stage : Stage} {algorithm : Algorithm} {reader : Reader α}
    {text : String} (malformed : stage.error algorithm = .malformed) :
    (readAt stage reader text).mapError (Stage.error algorithm) = readPart reader text := by
  unfold readAt
  split
  next error read =>
    rw [read, readPart_error read]
    exact congrArg Except.error malformed
  next value read => exact read.symm

theorem validate_of_named {signer : Signer} {second : Int} {token : String} {algorithm : Algorithm}
    (named : NamesAlgorithm token algorithm) : signer.validate second token =
      (secondPass signer.secret second token).mapError (Stage.error algorithm) := by
  obtain ⟨header, payload, last, joined, -⟩ := id named
  have read := (namesAlgorithm_iff joined.cut).mp named
  have form : readAt .form headerAlgorithm (part header) = .ok algorithm := readAt_eq_ok.mpr read
  have payload_read : ∀ {α : Type} (reader : Reader α),
      (readAt .payload reader payload).mapError (Stage.error algorithm) = readPart reader payload :=
    fun reader => mapError_readAt rfl
  unfold validate secondPass
  rw [joined.cut]
  dsimp only
  rw [read, form]
  simp only [except_error_bind, except_mapError_bind, except_mapError_ite, payload_read]
  rfl

theorem firstPass_eq_ok {token : String} {algorithm : Algorithm} :
    firstPass token = .ok algorithm ↔ NamesAlgorithm token algorithm := by
  unfold firstPass
  cases cut : Parts.of? token with
  | none => exact ⟨nofun, fun named => absurd named (not_namesAlgorithm cut algorithm)⟩
  | some parts => exact readAt_eq_ok.trans (namesAlgorithm_iff cut).symm

theorem validate_of_unnamed {signer : Signer} {second : Int} {token : String}
    (unnamed : ∀ algorithm, ¬ NamesAlgorithm token algorithm) :
    signer.validate second token = .error .malformed := by
  unfold validate
  cases cut : Parts.of? token with
  | none => rfl
  | some parts =>
      cases read : readPart headerAlgorithm parts.header with
      | error error =>
          obtain rfl := readPart_error read
          simp only [read]
          rfl
      | ok algorithm => exact absurd ((namesAlgorithm_iff cut).mpr read) (unnamed algorithm)

theorem validate_eq_validateTwice (signer : Signer) (second : Int) (token : String) :
    signer.validate second token = signer.validateTwice second token := by
  unfold validateTwice
  cases found : firstPass token with
  | error stage =>
      apply validate_of_unnamed
      intro algorithm named
      rw [firstPass_eq_ok.mpr named] at found
      contradiction
  | ok algorithm =>
      have named := firstPass_eq_ok.mp found
      rw [validate_of_named named]
      by_cases other : algorithm ≠ .hs256
      · have fails : Stage.algorithm.FailsFirst signer.secret second token :=
          ⟨reaches_algorithm named, fun hs256 => other (named.unique hs256)⟩
        rw [secondPass_eq_error.mpr fails]
        exact (if_pos other).symm
      · dsimp only
        rw [if_neg other]
        cases secondPass signer.secret second token with
        | error stage => rfl
        | ok claims => rfl

/-! What a refusal tells. -/

theorem tells_error {token : String} {algorithm : Algorithm}
    (named : NamesAlgorithm token algorithm) {stage : Stage} {error : TokenError} :
    stage.Tells token error ↔ error = stage.error algorithm := by
  cases stage with
  | algorithm =>
      constructor
      · rintro ⟨other, also, rfl⟩
        rw [named.unique also]
        rfl
      · rintro rfl
        exact ⟨algorithm, named, rfl⟩
  | _ => exact Iff.rfl

theorem validate_eq_error {signer : Signer} {second : Int} {token : String} {error : TokenError} :
    signer.validate second token = .error error ↔
      ∃ stage : Stage, stage.FailsFirst signer.secret second token ∧ stage.Tells token error := by
  by_cases named : ∃ algorithm, NamesAlgorithm token algorithm
  · obtain ⟨algorithm, named⟩ := named
    rw [validate_of_named named]
    simp only [tells_error named, ← secondPass_eq_error, except_mapError_eq_error,
      @eq_comm _ error]
  · have fails : Stage.form.FailsFirst signer.secret second token := ⟨Stage.reaches_form, named⟩
    rw [validate_of_unnamed (not_exists.mp named)]
    constructor
    · intro refused
      exact ⟨.form, fails, (Except.error.inj refused).symm⟩
    · rintro ⟨stage, also, tells⟩
      obtain rfl := fails.unique also
      exact congrArg Except.error tells.symm

theorem validate_of_other {token : String} {algorithm : Algorithm}
    (named : NamesAlgorithm token algorithm) (other : algorithm ≠ .hs256) (signer : Signer)
    (second : Int) : signer.validate second token = .error (.unexpectedAlgorithm algorithm) := by
  have fails : Stage.algorithm.FailsFirst signer.secret second token :=
    ⟨reaches_algorithm named, fun hs256 => other (named.unique hs256)⟩
  exact validate_eq_error.mpr ⟨.algorithm, fails, algorithm, named, rfl⟩

theorem validate_of_not_hs256 {token : String} (other : ¬ NamesAlgorithm token .hs256)
    (signer signer' : Signer) (second second' : Int) :
    signer.validate second token = signer'.validate second' token := by
  by_cases named : ∃ algorithm, NamesAlgorithm token algorithm
  · obtain ⟨algorithm, named⟩ := named
    have differs : algorithm ≠ .hs256 := by
      rintro rfl
      exact other named
    rw [validate_of_other named differs, validate_of_other named differs]
  · rw [validate_of_unnamed (not_exists.mp named), validate_of_unnamed (not_exists.mp named)]

theorem tells_invalidSignature {token : String} {stage : Stage} :
    stage.Tells token .invalidSignature ↔ stage = .tag := by
  cases stage <;> simp [Stage.Tells]

theorem tells_expired {token : String} {stage : Stage} :
    stage.Tells token .expired ↔ stage = .expiry := by
  cases stage <;> simp [Stage.Tells]

theorem validate_forged {signer : Signer} {second : Int} {token : String} :
    signer.validate second token = .error .invalidSignature ↔
      Stage.tag.FailsFirst signer.secret second token := by
  simp [validate_eq_error, tells_invalidSignature]

theorem validate_expired {signer : Signer} {second : Int} {token : String} :
    signer.validate second token = .error .expired ↔
      Stage.expiry.FailsFirst signer.secret second token := by
  simp [validate_eq_error, tells_expired]

/-- A token is validated in two passes, of which the first finds no more than the algorithm, and a
refusal tells of the first stage that the token fails. So another algorithm is told of whatever the
secret, the clock and the other parts are, and secret and clock do not matter at all before the
header has named the one algorithm; a wrong tag is told of at all times; and only a token with the
right tag is told to have expired. -/
theorem refusals_tell_the_first_failed_stage :
    (∀ (signer : Signer) (second : Int) (token : String),
      signer.validate second token = signer.validateTwice second token) ∧
    (∀ (signer : Signer) (second : Int) (token : String) (error : TokenError),
      signer.validate second token = .error error ↔
        ∃ stage : Stage, stage.FailsFirst signer.secret second token ∧ stage.Tells token error) ∧
    (∀ (header : List UInt8) (algorithm : Algorithm),
      (∃ tree, IsDocument tree header ∧ IsHeader tree algorithm) → algorithm ≠ .hs256 →
      ∀ payload last : String, '.' ∉ payload.toList → '.' ∉ last.toList →
      ∀ (signer : Signer) (second : Int),
        signer.validate second (part header ++ "." ++ payload ++ "." ++ last) =
          .error (.unexpectedAlgorithm algorithm)) ∧
    (∀ token : String, ¬ NamesAlgorithm token .hs256 →
      ∀ (signer signer' : Signer) (second second' : Int),
        signer.validate second token = signer'.validate second' token) ∧
    (∀ (signer : Signer) (second : Int) (token : String),
      signer.validate second token = .error .invalidSignature →
      ∀ other : Int, signer.validate other token = .error .invalidSignature) ∧
    (∀ (signer : Signer) (second : Int) (token : String),
      signer.validate second token = .error .expired → Tagged signer.secret token) := by
  refine ⟨validate_eq_validateTwice, fun _ _ _ _ => validate_eq_error, ?_,
    fun _ => validate_of_not_hs256, ?_, ?_⟩
  · intro header algorithm named other payload last payload_free last_free
    exact validate_of_other ⟨header, payload, last, ⟨rfl, payload_free, last_free⟩, named⟩ other
  · intro signer second token refused other
    exact validate_forged.mpr ((validate_forged.mp refused).at_any_second (by decide) (by decide))
  · intro signer second token refused
    exact (validate_expired.mp refused).1 .tag (by decide)

/-- A header that names another algorithm, with a payload and a tag that are no such things; the
same with the right header; no header at all; and an expired payload with an audience. -/
theorem refusals_tell_the_first_failed_stage_of_several :
    let signer : Signer := ⟨"secret", 1, by decide, by decide, by decide⟩
    let other : Signer := ⟨"terces", 1, by decide, by decide, by decide⟩
    let hs384 := utf8 "\x7b\"alg\":\"HS384\"\x7d"
    let hs256 := utf8 "\x7b\"alg\":\"HS256\"\x7d"
    let payload := utf8 ("\x7b\"user_id\":\"a\",\"username\":\"b\",\"role\":\"c\",\"iat\":0," ++
      "\"exp\":9,\"aud\":[\"d\"]\x7d")
    signer.validate 10 (part hs384 ++ "." ++ "?" ++ "." ++ "+") =
      .error (.unexpectedAlgorithm .hs384) ∧
    (∀ second, signer.validate second (part hs256 ++ "." ++ "?" ++ "." ++ "+") =
      .error .invalidSignature) ∧
    signer.validate 10 "?" = other.validate 0 "?" ∧
    signer.validate 10 (vouchedToken signer.secret hs256 payload) = .error .expired ∧
    Tagged signer.secret (vouchedToken signer.secret hs256 payload) := by
  intro signer other hs384 hs256 payload
  obtain ⟨-, tells, pinned, unpinned, always, tagged⟩ := refusals_tell_the_first_failed_stage
  have noDot : ∀ bytes, '.' ∉ (part bytes).toList := dot_not_mem_base64
  have named : ∃ tree, IsDocument tree hs256 ∧ IsHeader tree .hs256 :=
    (readAll_eq_ok headerAlgorithm_exact).mp rfl
  -- What is forged is no more than the last part.
  have forged : signer.validate 0 (part hs256 ++ "." ++ "?" ++ "." ++ "+") =
      .error .invalidSignature := by
    have joined : IsJoined (part hs256 ++ "." ++ "?" ++ "." ++ "+") (part hs256) "?" "+" :=
      ⟨rfl, by decide, by decide⟩
    have names : NamesAlgorithm _ .hs256 := ⟨hs256, "?", "+", joined, named⟩
    refine (tells signer 0 _ _).mpr ⟨.tag, ⟨(reaches_algorithm names).next names rfl, ?_⟩, rfl⟩
    intro vouched
    exact plus_ne_tag _ _ ((tagged_iff joined.cut).mp vouched)
  have expired : signer.validate 10 (vouchedToken signer.secret hs256 payload) =
      .error .expired := by
    have joined : IsJoined (vouchedToken signer.secret hs256 payload) (part hs256) (part payload)
        (tag signer.secret (part hs256 ++ "." ++ part payload)) := ⟨rfl, noDot _, noDot _⟩
    have names : NamesAlgorithm _ .hs256 := ⟨hs256, part payload, _, joined, named⟩
    have said : SaysClaims (vouchedToken signer.secret hs256 payload) ⟨"a", "b", "c", 0, 9⟩ :=
      ⟨part hs256, payload, _, joined, (readAll_eq_ok claims_exact).mp rfl, true, rfl⟩
    have at_tag : Stage.tag.Reaches signer.secret 10 _ := (reaches_algorithm names).next names rfl
    have at_payload : Stage.payload.Reaches signer.secret 10 _ :=
      at_tag.next ((tagged_iff joined.cut).mpr rfl) rfl
    refine (tells signer 10 _ _).mpr ⟨.expiry, ⟨at_payload.next ⟨_, said, by decide⟩ rfl, ?_⟩, rfl⟩
    rintro ⟨claims, also, inTime⟩
    obtain rfl := said.unique also
    exact absurd inTime (by decide)
  refine ⟨?_, fun second => always signer 0 _ forged second, ?_, expired, tagged _ _ _ expired⟩
  · exact pinned hs384 .hs384 ((readAll_eq_ok headerAlgorithm_exact).mp rfl) (by decide) "?" "+"
      (by decide) (by decide) signer 10
  · apply unpinned
    exact not_namesAlgorithm rfl .hs256

end Signer

end Accounts.Token
