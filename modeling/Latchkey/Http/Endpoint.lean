/-
The endpoints of the service: their paths and the methods they take. A guarded endpoint asks callers
for an access token, a free one does not.
-/
namespace Latchkey.Http

inductive FreeEndpoint
  | health
  | loginUsername
  | loginAnonymous
  | register
  | refresh
deriving DecidableEq, Repr

inductive GuardedEndpoint
  | currentProfile
  | logout
deriving DecidableEq, Repr

inductive Endpoint
  | free (e : FreeEndpoint)
  | guarded (e : GuardedEndpoint)
deriving DecidableEq, Repr

namespace Endpoint

def all : List Endpoint :=
  [free .health, free .loginUsername, free .loginAnonymous, free .register, free .refresh,
    guarded .currentProfile, guarded .logout]

def path : Endpoint → String
  | free .health => "/healthcheck"
  | free .loginUsername => "/v1/auth/login/username"
  | free .loginAnonymous => "/v1/auth/login/anonymous"
  | free .register => "/v1/auth/register"
  | free .refresh => "/v1/auth/refresh"
  | guarded .currentProfile => "/v1/auth/user"
  | guarded .logout => "/v1/auth/logout"

/-- The endpoint at a path, which must match exactly. -/
def ofPath? (path : String) : Option Endpoint := all.find? (·.path == path)

/-- Whether the endpoint reads, rather than does, something. -/
def isRead : Endpoint → Bool
  | free .health | guarded .currentProfile => true
  | _ => false

/-- The methods an endpoint takes: who may read may also ask for the headers alone. -/
def methods (e : Endpoint) : List String := if e.isRead then ["GET", "HEAD"] else ["POST"]

/-- The methods as a header tells them. -/
def allow (e : Endpoint) : String := ",".intercalate e.methods

end Endpoint

end Latchkey.Http
