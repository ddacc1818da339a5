/-
What the service is set up with, and the issuer that comes of it. The lifetime is given in minutes,
which may be more than a duration can hold.
-/
import Latchkey.AccessToken.Issuer
import Latchkey.Program

namespace Latchkey

structure Settings where
  signingSecret : String
  /-- The dedicated secret for hashing; an empty one counts as none. -/
  hashSecret : Option String
  lifetimeMinutes : Int64
deriving DecidableEq, Repr

namespace Settings

/-- The issuer with the given lifetime of access tokens. -/
def issuerWith (s : Settings) (lifetime : Duration) : Except SigningFault Issuer := do
  let issuer ← Issuer.ofSecret (Bytes.ofString s.signingSecret) lifetime
  match s.hashSecret with
  | some secret =>
    if secret.isEmpty then return issuer else issuer.withHashSecret (Bytes.ofString secret)
  | none => return issuer

def issuer (s : Settings) : Outcome Issuer :=
  match Clock.minutes? s.lifetimeMinutes.toInt with
  | none => .overflow
  | some lifetime =>
    match s.issuerWith lifetime with
    | .ok issuer => .ok issuer
    | .error fault => .error (.signing fault)

end Settings

end Latchkey
