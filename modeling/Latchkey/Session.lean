/-
Refresh sessions: a device of an account has at most one valid refresh token. Rotation replaces it,
renewal replaces it in exchange for the old one, and invalidation revokes it. The store only ever
sees hashes.
-/
import Latchkey.AccessToken.Issuer
import Latchkey.Draws
import Latchkey.Program

namespace Latchkey.Session

open Program

/-- Refresh tokens live for seven days unless the service is told otherwise. -/
def defaultLifetimeDays : Int := 7

def defaultLifetime : Duration := defaultLifetimeDays * 86400000

/-- Stores the token that was drawn and hands it out. -/
def storeDrawn (issuer : Issuer) (lifetime : Duration) (draws : Draws) (deviceKey userId : String)
    (previousHash : Option String) : Program String := do
  let expiresAt ← after (← now) lifetime
  let _ : Unit ← ask (.rotate
    { rowId := draws.rowId
      deviceKey := deviceKey
      userId := userId
      previousHash := previousHash
      tokenHash := issuer.hashToken draws.token
      expiresAt := expiresAt })
  return draws.token

/-- Replaces the token of a session, whatever it was. -/
def rotate (issuer : Issuer) (lifetime : Duration) (draws : Draws) (deviceKey userId : String) :
    Program String :=
  storeDrawn issuer lifetime draws deviceKey userId none

/-- Replaces the token of a session in exchange for the valid one. -/
def renew (issuer : Issuer) (lifetime : Duration) (draws : Draws) (deviceKey userId : String)
    (presented : String) : Program String :=
  storeDrawn issuer lifetime draws deviceKey userId (some (issuer.hashToken presented))

/-- The owner of a valid token on a device. -/
def validate (issuer : Issuer) (deviceKey raw : String) : Program String := do
  let owner : Option String ← ask (.validate deviceKey (issuer.hashToken raw))
  orFail owner .badRefreshToken

/-- Revokes the valid tokens of a session. -/
def invalidate (userId deviceKey : String) : Program Unit := ask (.invalidate userId deviceKey)

end Latchkey.Session
