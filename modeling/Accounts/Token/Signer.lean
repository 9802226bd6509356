import Accounts.Hash.Sha256
import Accounts.Text.Base64
import Accounts.Text.Scanner
import Accounts.Time
import Accounts.Token.Claims
import Accounts.Token.Header

/-! Issuing and validating session tokens. -/

namespace Accounts.Token

structure Settings where
  secret : String
  /-- The lifetime of a token in hours. -/
  expiryHours : Int

/-- The longest lifetime of a token: a leap year. -/
def maxExpiryHours : Int := 24 * 366

structure Signer where
  secret : String
  expiryHours : Int
  secret_not_blank : Text.blank secret = false
  one_le_expiryHours : 1 ≤ expiryHours
  expiryHours_le : expiryHours ≤ maxExpiryHours

namespace Signer

def of (settings : Settings) : Except TokenError Signer :=
  if secret : Text.blank settings.secret = false then
    if hours : 1 ≤ settings.expiryHours ∧ settings.expiryHours ≤ maxExpiryHours then
      .ok ⟨settings.secret, settings.expiryHours, secret, hours.1, hours.2⟩
    else .error (.invalidExpiry settings.expiryHours)
  else .error .missingSecret

def expirySeconds (signer : Signer) : Int := signer.expiryHours * 3600

def part (bytes : List UInt8) : String := Text.base64 .url bytes

def documentPart (document : Json.Value) : String := part (Text.utf8 document.render)

def tag (secret message : String) : String :=
  part (Hash.Sha256.keyed (Text.utf8 secret) (Text.utf8 message))

def sign (signer : Signer) (claims : Claims) : String :=
  let message := documentPart issuedHeader ++ "." ++ documentPart claims.document
  message ++ "." ++ tag signer.secret message

def issue (signer : Signer) (userId username role : String) (now : Time.Instant) :
    Except TokenError String :=
  match now.later? signer.expirySeconds with
  | none => .error (.invalidExpiry signer.expiryHours)
  | some expiry =>
    .ok (signer.sign { userId, username, role, iat := now.second, exp := expiry.second })

def cutLast? (text : List Char) : Option (List Char × List Char) :=
  match text.reverse.span (· ≠ '.') with
  | (last, _ :: before) => some (before.reverse, last.reverse)
  | (_, []) => none

/-- The parts of a token: all before the last dot, of which the header and the payload are parts,
and the tag. -/
structure Parts where
  message : String
  header : String
  payload : String
  tag : String

def Parts.of? (token : String) : Option Parts :=
  match cutLast? token.toList with
  | none => none
  | some (message, tag) =>
    match cutLast? message with
    | none => none
    | some (header, payload) =>
      some ⟨String.ofList message, String.ofList header, String.ofList payload, String.ofList tag⟩

def readPart {α : Type} (reader : Json.Reader α) (text : String) : Except TokenError α :=
  match Text.ofBase64? .url text with
  | none => .error .malformed
  | some bytes =>
    match Json.readAll reader bytes with
    | .error _ => .error .malformed
    | .ok value => .ok value

/-- Validates a token at a second: its form and header, the algorithm, the tag, the payload, the
expiry and the audience, in this order. -/
def validate (signer : Signer) (second : Int) (token : String) : Except TokenError Claims := do
  let some parts := Parts.of? token | .error .malformed
  let algorithm ← readPart headerAlgorithm parts.header
  if algorithm ≠ .hs256 then .error (.unexpectedAlgorithm algorithm)
  if parts.tag ≠ tag signer.secret parts.message then .error .invalidSignature
  let claims ← readPart Claims.reader parts.payload
  let audience ← readPart namedAudience parts.payload
  if claims.exp < 0 then .error .malformed
  if claims.exp < second then .error .expired
  if audience then .error .malformed
  .ok claims

end Signer

end Accounts.Token
