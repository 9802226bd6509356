import Accounts.Text.Numerals

/-! Why session tokens are refused or cannot be issued. -/

namespace Accounts.Token

inductive Algorithm
  | hs256
  | hs384
  | hs512
  | es256
  | es384
  | rs256
  | rs384
  | rs512
  | ps256
  | ps384
  | ps512
  | edDsa
  deriving DecidableEq, Repr

namespace Algorithm

def all : List Algorithm :=
  [.hs256, .hs384, .hs512, .es256, .es384, .rs256, .rs384, .rs512, .ps256, .ps384, .ps512, .edDsa]

def name : Algorithm → String
  | .hs256 => "HS256"
  | .hs384 => "HS384"
  | .hs512 => "HS512"
  | .es256 => "ES256"
  | .es384 => "ES384"
  | .rs256 => "RS256"
  | .rs384 => "RS384"
  | .rs512 => "RS512"
  | .ps256 => "PS256"
  | .ps384 => "PS384"
  | .ps512 => "PS512"
  | .edDsa => "EdDSA"

def ofName? (name : String) : Option Algorithm := all.find? fun algorithm => algorithm.name = name

theorem ofName?_name (algorithm : Algorithm) : ofName? algorithm.name = some algorithm := by
  cases algorithm <;> decide +kernel

end Algorithm

inductive TokenError
  | missingSecret
  | invalidExpiry (hours : Int)
  | expired
  | invalidSignature
  | unexpectedAlgorithm (algorithm : Algorithm)
  | invalidSubject
  | malformed
  | signing
  deriving DecidableEq, Repr

namespace TokenError

def message : TokenError → String
  | .missingSecret => "token signing secret is not configured"
  | .invalidExpiry hours =>
    "token expiry must be a positive number of hours (got " ++
      String.ofList (Text.signedDecimal hours) ++ ")"
  | .expired => "token has expired"
  | .invalidSignature => "token signature is invalid"
  | .unexpectedAlgorithm algorithm => "unexpected token signing algorithm " ++ algorithm.name
  | .invalidSubject => "token subject is not a valid user id"
  | .malformed => "malformed token"
  | .signing => "failed to sign token"

/-- Whether a failure comes from the settings of the signer rather than from a token. -/
def isConfiguration : TokenError → Bool
  | .missingSecret | .invalidExpiry _ => true
  | _ => false

end TokenError

end Accounts.Token
