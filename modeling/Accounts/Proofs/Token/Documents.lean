import Accounts.Proofs.Json.Shapes
import Accounts.Token.Claims
import Accounts.Token.Header

/-! The headers and the payloads of tokens by what their members mean. -/

namespace Accounts.Token

open Json

/-! Headers. -/

def IsAlgorithm (tree : Tree) (algorithm : Algorithm) : Prop :=
  ∃ kept, IsValue 1 tree kept ∧ (choice? kept).bind Algorithm.ofName? = some algorithm

theorem algorithm_exact : Exact algorithm IsAlgorithm where
  sound := by
    intro text chosen rest read
    obtain ⟨kept, middle, kept_read, chosen_read⟩ := bind_eq_ok.mp read
    obtain ⟨tree, spelled, means⟩ := (value_exact 1).sound _ _ _ kept_read
    cases named : (choice? kept).bind Algorithm.ofName? with
    | none =>
        rw [named] at chosen_read
        contradiction
    | some found =>
        rw [named] at chosen_read
        obtain ⟨rfl, rfl⟩ := Prod.mk.inj (Except.ok.inj chosen_read)
        exact ⟨tree, spelled, kept, means, named⟩
  complete := by
    rintro text tree chosen rest spells ⟨kept, means, named⟩
    rw [algorithm, bind_of_ok ((value_exact 1).complete _ _ _ _ spells means), named]
    rfl

def IsKey : Tree → Unit → Prop
  | .record members, _ =>
    ∃ entries, List.Forall₂ (IsEntry (IsValue keyDepth)) members entries ∧ isKey entries = true
  | _, _ => False

theorem key_exact : Exact key IsKey where
  sound := by
    rintro text ⟨⟩ rest read
    unfold key at read
    split at read
    next behind here =>
      split at read
      · contradiction
      next entries after members_read =>
        obtain ⟨members, later, spelled, mean, rfl⟩ :=
          spells_of_entriesFrom (value_exact keyDepth).sound members_read
        split at read
        next good =>
          obtain ⟨-, rfl⟩ := Prod.mk.inj (Except.ok.inj read)
          exact ⟨.record members, .record here spelled, _, mean, good⟩
        next => contradiction
    next => exact absurd read otherType_ne_ok
  complete := by
    rintro text tree ⟨⟩ rest spells means
    cases spells with
    | record here spelled =>
        obtain ⟨entries, mean, good⟩ := means
        have read : entriesFrom (value keyDepth) true [] _ _ = .ok (entries, rest) :=
          entriesFrom_of_spells (value_exact keyDepth).complete spelled mean (Nat.lt_succ_self _)
        rw [key, here]
        simp only [read, if_pos good]
    | _ => contradiction

def headerShape : Shape
    [Option String, Algorithm, Option String, Option String, Option Unit, Option String,
     Option String, Option (List String), Option String, Option String] :=
  .cons "typ" (IsOptional IsText) (some none) <| .cons "alg" IsAlgorithm none <|
  .cons "cty" (IsOptional IsText) (some none) <| .cons "jku" (IsOptional IsText) (some none) <|
  .cons "jwk" (IsOptional IsKey) (some none) <| .cons "kid" (IsOptional IsText) (some none) <|
  .cons "x5u" (IsOptional IsText) (some none) <|
  .cons "x5c" (IsOptional (IsListOf IsText)) (some none) <|
  .cons "x5t" (IsOptional IsText) (some none) <|
  .cons "x5t#S256" (IsOptional IsText) (some none) .nil

theorem headerMembers_follow : headerMembers.Follows (fun _ => Exact) headerShape :=
  .cons (optional_exact text_exact) <| .cons algorithm_exact <|
  .cons (optional_exact text_exact) <| .cons (optional_exact text_exact) <|
  .cons (optional_exact key_exact) <| .cons (optional_exact text_exact) <|
  .cons (optional_exact text_exact) <| .cons (optional_exact (listOf_exact text_exact)) <|
  .cons (optional_exact text_exact) <| .cons (optional_exact text_exact) .nil

def IsHeader (tree : Tree) (algorithm : Algorithm) : Prop :=
  ∃ typ others, IsRecordOf headerShape tree (typ, algorithm, others)

theorem headerAlgorithm_exact : Exact headerAlgorithm IsHeader where
  sound := by
    intro text chosen rest read
    obtain ⟨⟨typ, found, others⟩, middle, row_read, kept⟩ := bind_eq_ok.mp read
    obtain ⟨rfl, rfl⟩ := Prod.mk.inj (Except.ok.inj kept)
    obtain ⟨tree, spelled, means⟩ :=
      (recordOf_exact headerMembers_follow (by decide)).sound _ _ _ row_read
    exact ⟨tree, spelled, typ, others, means⟩
  complete := by
    rintro text tree chosen rest spells ⟨typ, others, means⟩
    have read := (recordOf_exact headerMembers_follow (by decide)).complete _ _ _ _ spells means
    rw [headerAlgorithm, bind_of_ok read]
    rfl

/-! Payloads. -/

def claimsShape : Shape [String, String, String, Int, Int] :=
  .cons "user_id" IsText none <| .cons "username" IsText none <| .cons "role" IsText none <|
  .cons "iat" IsInteger none <| .cons "exp" IsInteger none .nil

theorem claimsMembers_follow : Claims.members.Follows (fun _ => Exact) claimsShape :=
  .cons text_exact <| .cons text_exact <| .cons text_exact <| .cons integer_exact <|
  .cons integer_exact .nil

def Claims.row (claims : Claims) : Row [String, String, String, Int, Int] :=
  (claims.userId, claims.username, claims.role, claims.iat, claims.exp, ())

def IsPayload (tree : Tree) (claims : Claims) : Prop := IsRecordOf claimsShape tree claims.row

theorem claims_exact : Exact Claims.reader IsPayload where
  sound := by
    intro text claims rest read
    obtain ⟨⟨userId, username, role, iat, exp, ⟨⟩⟩, middle, row_read, kept⟩ := bind_eq_ok.mp read
    obtain ⟨rfl, rfl⟩ := Prod.mk.inj (Except.ok.inj kept)
    obtain ⟨tree, spelled, means⟩ :=
      (recordOf_exact claimsMembers_follow (by decide)).sound _ _ _ row_read
    exact ⟨tree, spelled, means⟩
  complete := by
    intro text tree claims rest spells means
    have read := (recordOf_exact claimsMembers_follow (by decide)).complete _ _ _ _ spells means
    rw [Claims.reader, bind_of_ok read]
    rfl

end Accounts.Token
