/-
The operations that callers know: logging in, registering, refreshing, logging out and
authenticating. Arguments that must not be blank are checked in a fixed order before anything else
happens, and what a call writes last is its session.
-/
import Latchkey.AccessToken.Signed
import Latchkey.Identity
import Latchkey.Session
import Latchkey.Text.Blank

namespace Latchkey

structure Service where
  issuer : Issuer
  refreshLifetime : Duration

namespace Service

open Program

/-- Refuses a blank argument. -/
def require (field : Field) (value : String) : Program Unit :=
  if Text.isBlank value then fail (.refused (.blank field)) else return ()

/-- Refuses a blank argument that is given. -/
def requireIfGiven (field : Field) : Option String → Program Unit
  | some value => require field value
  | none => return ()

/-- An access token for a profile, issued now. -/
def issueAccess (s : Service) (p : Profile) : Program String := do
  match s.issuer.issue? p (← now) with
  | some token => return token
  | none => overflow

/-- The tokens of a login. -/
def issueTokens (s : Service) (draws : Draws) (p : Profile) :
    (deviceKey : Option String) → Program Tokens
  | none => do return ⟨← s.issueAccess p, none⟩
  | some deviceKey => do
    let access ← s.issueAccess p
    let refresh ← Session.rotate s.issuer s.refreshLifetime draws deviceKey p.id
    return ⟨access, some refresh⟩

/-- Logs in with username and password; only on a device is there a session. -/
def loginUsername (s : Service) (draws : Draws) (username password : String)
    (deviceKey : Option String) : Program Tokens := do
  require .username username
  require .password password
  requireIfGiven .deviceKey deviceKey
  let p ← Identity.resolveByPassword username password
  s.issueTokens draws p deviceKey

/-- Registers an account and logs it in. -/
def registerUsername (s : Service) (draws : Draws) (username password : String)
    (deviceKey : Option String) : Program Tokens := do
  require .username username
  require .password password
  requireIfGiven .deviceKey deviceKey
  let p ← Identity.register draws username password
  s.issueTokens draws p deviceKey

/-- Logs in the anonymous account of a device. -/
def loginAnonymous (s : Service) (draws : Draws) (deviceKey : String) : Program Tokens := do
  require .deviceKey deviceKey
  let p ← Identity.resolveAnonymous draws deviceKey
  s.issueTokens draws p (some deviceKey)

/-- Exchanges a refresh token for new tokens. -/
def refresh (s : Service) (draws : Draws) (token deviceKey : String) : Program Tokens := do
  require .deviceKey deviceKey
  require .refreshToken token
  let userId ← Session.validate s.issuer deviceKey token
  let p ← orFail (← Identity.resolveById userId) .badRefreshToken
  let access ← s.issueAccess p
  let renewed ← Session.renew s.issuer s.refreshLifetime draws deviceKey p.id token
  return ⟨access, some renewed⟩

/-- Ends the session of an account on a device. -/
def logout (userId deviceKey : String) : Program Unit := do
  require .deviceKey deviceKey
  Session.invalidate userId deviceKey

/-- The profile of the live account that an access token names. -/
def authenticate (s : Service) (token : String) : Program Profile := do
  let claims ← orFail (s.issuer.verify token (← now)) .badAccessToken
  orFail (← Identity.resolveById claims.id) .badAccessToken

end Service

end Latchkey
