/-
Access tokens: header, payload and signature in base64url, joined by full stops. The signature is
the keyed digest of the text before it. `Issuer.issue` writes a token and `Issuer.verify` gives the
claims of a token that it accepts.
-/
import Latchkey.AccessToken.Header
import Latchkey.AccessToken.Issuer
import Latchkey.AccessToken.Registered
import Latchkey.Account
import Latchkey.Digest.Base64
import Latchkey.Wire.Token

namespace Latchkey

namespace AccessToken

/-- The full stop. -/
def separator : UInt8 := 0x2E

/-- The parts before and behind the last separator. -/
def splitLast : Bytes → Option (Bytes × Bytes)
  | [] => none
  | b :: rest =>
    match splitLast rest with
    | some (before, behind) => some (b :: before, behind)
    | none => if b = separator then some ([], rest) else none

/-- The three parts of a token, which are separated by the last two separators. -/
structure Parts where
  header : Bytes
  payload : Bytes
  signature : Bytes
deriving DecidableEq, Repr

def Parts.of? (token : Bytes) : Option Parts := do
  let (message, signature) ← splitLast token
  let (header, payload) ← splitLast message
  return ⟨header, payload, signature⟩

/-- What is signed. -/
def Parts.message (p : Parts) : Bytes := p.header ++ separator :: p.payload

def encode (bytes : Bytes) : Bytes := Base64.encode .urlSafe bytes

def decode? (text : Bytes) : Option Bytes := (Base64.decode .urlSafe text).toOption

/-- The encoded signature of a message. -/
def signature (secret message : Bytes) : Bytes := encode (Sha256.hmac secret message)

/-- The token with a header and a payload. -/
def sign (secret header payload : Bytes) : Bytes :=
  let message := encode header ++ separator :: encode payload
  message ++ separator :: signature secret message

/-- Seconds for which a token is still accepted after its expiry. -/
def leeway : Int := 60

/-- Whether a token that expires in second `expiresAt` is no longer accepted. This is meant for
instants from a minute after the beginning of 1970 on, from which the leeway can be taken away. -/
def expired (expiresAt : Int64) (now : Instant) : Bool :=
  expiresAt.toInt + leeway < Clock.seconds now

/-- The claims in a payload, whenever they hold. -/
def claimsOf? (payload : Bytes) : Option Claims :=
  match Claims.form.decode payload with
  | .ok claims => if acceptsRegistered payload then some claims else none
  | .error _ => none

end AccessToken

namespace Issuer

open AccessToken

/-- The claims of a token for a profile, issued at `now`, unless it would expire outside the
calendar. -/
def claimsAt? (issuer : Issuer) (p : Profile) (now : Instant) : Option Claims := do
  let expiresAt ← Clock.shift? now issuer.lifetime
  return ⟨p.id, p.name, Int64.ofInt (Clock.seconds expiresAt), Int64.ofInt (Clock.seconds now)⟩

/-- The token that makes the given claims. -/
def tokenOf (issuer : Issuer) (claims : Claims) : String :=
  Bytes.toAscii (sign issuer.signingSecret (Bytes.ofString headerJson.render)
    (Bytes.ofString claims.toJson.render))

/-- A token for a profile, issued at `now`. -/
def issue? (issuer : Issuer) (p : Profile) (now : Instant) : Option String :=
  (issuer.claimsAt? p now).map issuer.tokenOf

/-- The claims of a token that was signed with the issuer's secret and has not expired. -/
def verify (issuer : Issuer) (token : String) (now : Instant) : Option Claims := do
  let parts ← Parts.of? (Bytes.ofString token)
  let header ← decode? parts.header
  guard (acceptsHeader header)
  guard (parts.signature = signature issuer.signingSecret parts.message)
  let claims ← claimsOf? (← decode? parts.payload)
  guard (¬ expired claims.expiresAt now)
  return claims

end Issuer

end Latchkey
