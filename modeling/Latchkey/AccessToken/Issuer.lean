/-
The issuer holds the secrets of the service: one signs access tokens, the other keys the hashes of
refresh tokens, and both are the same unless a dedicated one is given. An issuer has no empty secret
and its tokens live for a positive time.
-/
import Latchkey.AuthError
import Latchkey.Clock
import Latchkey.Digest.Sha256

namespace Latchkey

structure Issuer where
  signingSecret : Bytes
  hashSecret : Bytes
  lifetime : Duration
  signingSecret_ne_nil : signingSecret ≠ []
  hashSecret_ne_nil : hashSecret ≠ []
  lifetime_pos : 0 < lifetime
deriving DecidableEq

namespace Issuer

/-- An issuer with one secret for both purposes. An empty secret is told before a lifetime that is
not positive. -/
def ofSecret (secret : Bytes) (lifetime : Duration) : Except SigningFault Issuer :=
  if hs : secret = [] then .error .emptySecret
  else if hl : 0 < lifetime then .ok ⟨secret, secret, lifetime, hs, hs, hl⟩
  else .error .lifetimeNotPositive

/-- The issuer with a dedicated secret for hashing. -/
def withHashSecret (issuer : Issuer) (secret : Bytes) : Except SigningFault Issuer :=
  if h : secret = [] then .error .emptyHashSecret
  else .ok { issuer with hashSecret := secret, hashSecret_ne_nil := h }

/-- The access tokens of an issuer live for fifteen minutes unless it is told otherwise. -/
def defaultLifetimeMinutes : Int := 15

/-- The keyed hash under which a refresh token is stored. -/
def hashToken (issuer : Issuer) (raw : String) : String :=
  Bytes.toHex (Sha256.hmac issuer.hashSecret (Bytes.ofString raw))

/-- The lifetime in whole seconds. -/
def lifetimeSeconds (issuer : Issuer) : Int := Clock.seconds issuer.lifetime

/-- A description that gives no secret away. -/
def describe (issuer : Issuer) : String :=
  "TokenIssuer \x7b access_ttl: TimeDelta \x7b secs: " ++ toString issuer.lifetimeSeconds
    ++ ", nanos: " ++ toString (issuer.lifetime % 1000 * 1000000) ++ " \x7d, .. \x7d"

end Issuer

end Latchkey
