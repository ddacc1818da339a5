/-
Responses, and the errors that are told to the outside. Everyone may call from everywhere, so every
response says so. An internal error says nothing about its cause.
-/
import Latchkey.AuthError
import Latchkey.Wire.Message

namespace Latchkey.Http

structure Response where
  status : Nat
  /-- The methods that the path takes, where they matter. -/
  allow : Option String
  /-- Whether this answers the question which methods and headers other sites may use. -/
  isPreflight : Bool
  /-- Whether the body is JSON. -/
  isJson : Bool
  body : String
deriving DecidableEq, Repr

namespace Response

/-- The headers, by name. -/
def headers (r : Response) : List (String × String) :=
  (if r.isPreflight then
      [("access-control-allow-headers", "*"), ("access-control-allow-methods", "*")]
    else [])
    ++ ("access-control-allow-origin", "*") :: r.allow.toList.map (("allow", ·))
    ++ (if r.isJson then [("content-type", "application/json")] else [])
    ++ [("vary", "origin, access-control-request-method, access-control-request-headers")]

/-- A response without a body. -/
def empty (status : Nat) : Response := ⟨status, none, false, false, ""⟩

def json (status : Nat) (value : Json.Value) : Response := ⟨status, none, false, true, value.render⟩

def withAllow (r : Response) (methods : String) : Response := { r with allow := some methods }

def withoutBody (r : Response) : Response := { r with body := "" }

/-- The answer to a question about methods and headers. -/
def preflight (allow : Option String) : Response := ⟨200, allow, true, false, ""⟩

end Response

/-! ## Errors -/

inductive ApiError
  | invalid (message : String)
  | unauthorized (message : String)
  | internal (detail : String)
deriving DecidableEq, Repr

namespace ApiError

def ofAuth : AuthError → ApiError
  | .badCredentials => unauthorized AuthError.badCredentials.message
  | .badRefreshToken => unauthorized AuthError.badRefreshToken.message
  | .badAccessToken => unauthorized AuthError.badAccessToken.message
  | .refused cause => invalid cause.message
  | e => internal e.message

/-- The words of an internal error, whatever its cause. -/
def internalMessage : String := "Internal server error"

def describe : ApiError → String
  | invalid message => "Validation error: " ++ message
  | unauthorized message => "Unauthorized: " ++ message
  | internal _ => internalMessage

def status : ApiError → Nat
  | invalid _ => 400
  | unauthorized _ => 401
  | internal _ => 500

def body : ApiError → ErrorResponse
  | invalid message => ⟨"validation_error", message⟩
  | unauthorized message => ⟨"unauthorized", message⟩
  | internal _ => ⟨"internal_error", internalMessage⟩

def response (e : ApiError) : Response := .json e.status e.body.toJson

end ApiError

end Latchkey.Http
