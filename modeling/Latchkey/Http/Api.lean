/-
The service over HTTP. `handle` turns a request into the program that answers it: questions about
methods are answered first, then the caller is checked where a path is protected or unknown, then
the method, and only then the body is looked at.
-/
import Latchkey.Http.Body
import Latchkey.Http.Endpoint
import Latchkey.Service
import Latchkey.Wire.Profile

namespace Latchkey

/-- The version of the service. -/
def version : String := "0.1.0"

namespace Http

open Program

/-! ## Callers -/

/-- The access token that a request shows. -/
def bearer (r : Request) : Except ApiError String :=
  match r.headerText? "authorization" with
  | none => .error (.unauthorized "Missing authorization header")
  | some value =>
    match value.toList with
    | 'B' :: 'e' :: 'a' :: 'r' :: 'e' :: 'r' :: ' ' :: token => .ok (String.ofList token)
    | _ => .error (.unauthorized "Invalid authorization scheme")

/-- The outcome of a program, with errors as they are told to the outside. -/
def attempt {α : Type} (p : Program α) : Program (Except ApiError α) := do
  return (← p.result).mapError ApiError.ofAuth

/-- The profile of the caller of a request. -/
def caller (s : Service) (r : Request) : Program (Except ApiError Profile) :=
  match bearer r with
  | .error e => return .error e
  | .ok token => attempt (s.authenticate token)

/-! ## Answers -/

/-- The tokens of a login with what callers need to know about them. -/
def tokenResponse (s : Service) (tokens : Tokens) : TokenResponse :=
  ⟨tokens, Int64.ofInt s.issuer.lifetimeSeconds, "Bearer"⟩

/-- Reads the body and answers with what the program for it returns. -/
def answerWith {α β : Type} (r : Request) (form : Json.Form α) (act : α → Program β)
    (encode : β → Json.Value) : Program Response :=
  match r.read form with
  | .error rejection => return (ApiError.invalid rejection.message).response
  | .ok a => do
    match ← attempt (act a) with
    | .ok b => return .json 200 (encode b)
    | .error e => return e.response

def answerTokens {α : Type} (s : Service) (r : Request) (form : Json.Form α)
    (act : α → Program Tokens) : Program Response :=
  answerWith r form act fun tokens => (tokenResponse s tokens).toJson

/-- The answer of a free endpoint to a request with a method that it takes. -/
def answerFree (s : Service) (draws : Draws) (r : Request) : FreeEndpoint → Program Response
  | .health => return .json 200 (HealthResponse.mk "ok" version).toJson
  | .loginUsername =>
    answerTokens s r UsernameRequest.form fun a =>
      s.loginUsername draws a.username a.password a.deviceKey
  | .register =>
    answerTokens s r UsernameRequest.form fun a =>
      s.registerUsername draws a.username a.password a.deviceKey
  | .loginAnonymous =>
    answerTokens s r AnonymousLoginRequest.form fun a => s.loginAnonymous draws a.deviceKey
  | .refresh =>
    answerTokens s r RefreshRequest.form fun a => s.refresh draws a.refreshToken a.deviceKey

/-- The answer of a guarded endpoint to a caller with a profile. -/
def answerGuarded (r : Request) (p : Profile) : GuardedEndpoint → Program Response
  | .currentProfile => return .json 200 p.toJson
  | .logout =>
    answerWith r LogoutRequest.form (fun a => Service.logout p.id a.deviceKey) fun _ =>
      (LogoutResponse.mk true).toJson

/-! ## Requests -/

/-- The answer at the path of an endpoint. -/
def answerAt (s : Service) (draws : Draws) (r : Request) (e : Endpoint) : Program Response := do
  let taken := e.methods.contains r.method
  let refuse (response : Response) := if taken then response else response.withAllow e.allow
  match e with
  | .free e => if taken then answerFree s draws r e else return refuse (.empty 405)
  | .guarded e =>
    match ← caller s r with
    | .error err => return refuse err.response
    | .ok p => if taken then answerGuarded r p e else return refuse (.empty 405)

/-- The answer at a path without an endpoint: only known callers learn that nothing is there. -/
def answerNowhere (s : Service) (r : Request) : Program Response := do
  match ← caller s r with
  | .error err => return err.response
  | .ok _ => return .empty 404

/-- Whether a question about the headers alone is answered without a body: at endpoints it is, and
where the target has no path from the root. -/
def isBodiless (r : Request) (endpoint : Option Endpoint) : Bool :=
  r.method == "HEAD" && (endpoint.isSome || r.path.toList.head? != some '/')

def handle (s : Service) (draws : Draws) (r : Request) : Program Response :=
  let endpoint := Endpoint.ofPath? r.path
  if r.method = "OPTIONS" then return .preflight (endpoint.map (·.allow))
  else
    do
      let response ← match endpoint with
        | none => answerNowhere s r
        | some e => answerAt s draws r e
      return if isBodiless r endpoint then response.withoutBody else response

end Http

end Latchkey
