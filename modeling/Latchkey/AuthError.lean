/-
Why an operation of the service is refused. Three causes tell the caller to log in again; refused
input and signing problems carry their own cause; the rest is the service's own trouble.
`AuthError.message` is the wording of each.
-/
namespace Latchkey

/-- An argument that must not be blank. -/
inductive Field
  | username
  | password
  | deviceKey
  | refreshToken
deriving DecidableEq, Repr

def Field.label : Field → String
  | .username => "Username"
  | .password => "Password"
  | .deviceKey => "Device key"
  | .refreshToken => "Refresh token"

/-- The fewest characters of a password that can be registered. -/
def minPasswordLength : Nat := 8

/-- Why input is refused. -/
inductive Refusal
  | blank (field : Field)
  | shortPassword
  | usernameTaken
  /-- A refusal in the words of whoever raised it. -/
  | because (text : String)
deriving DecidableEq, Repr

def Refusal.message : Refusal → String
  | .blank field => field.label ++ " is required"
  | .shortPassword => "Password must be at least " ++ toString minPasswordLength ++ " characters"
  | .usernameTaken => "Username already registered"
  | .because text => text

/-- Why tokens cannot be signed or hashed. -/
inductive SigningFault
  | emptySecret
  | lifetimeNotPositive
  | emptyHashSecret
  | because (text : String)
deriving DecidableEq, Repr

def SigningFault.message : SigningFault → String
  | .emptySecret => "signing secret is empty"
  | .lifetimeNotPositive => "access token ttl must be positive"
  | .emptyHashSecret => "refresh token secret is empty"
  | .because text => text

/-- Why the database did not answer. -/
inductive DatabaseFault
  | rowNotFound
  | poolTimedOut
  | poolClosed
  | workerCrashed
  | protocol (text : String)
deriving DecidableEq, Repr

def DatabaseFault.message : DatabaseFault → String
  | .rowNotFound => "no rows returned by a query that expected to return at least one row"
  | .poolTimedOut => "pool timed out while waiting for an open connection"
  | .poolClosed => "attempted to acquire a connection on a closed pool"
  | .workerCrashed => "attempted to communicate with a crashed background worker"
  | .protocol text => "encountered unexpected or invalid data: " ++ text

/-- The message of a database that cannot be brought up to date. -/
def DatabaseFault.migrationMessage (fault : DatabaseFault) : String :=
  "while executing migrations: " ++ fault.message

inductive AuthError
  | badCredentials
  | badRefreshToken
  | badAccessToken
  | refused (cause : Refusal)
  | signing (cause : SigningFault)
  | nothingWritten (what : String)
  | database (fault : DatabaseFault)
  | internal (detail : String)
deriving DecidableEq, Repr

namespace AuthError

def message : AuthError → String
  | badCredentials => "Invalid credentials"
  | badRefreshToken => "Invalid refresh token"
  | badAccessToken => "Invalid or expired token"
  | refused cause => "Validation error: " ++ cause.message
  | signing cause => "Signing error: " ++ cause.message
  | nothingWritten what => "No rows written: " ++ what
  | database fault => "Database error: " ++ fault.message
  | internal detail => "Internal error: " ++ detail

/-- Whether the caller has to start over with a fresh login. -/
def isUnauthorized : AuthError → Bool
  | badCredentials | badRefreshToken | badAccessToken => true
  | _ => false

end AuthError

end Latchkey
