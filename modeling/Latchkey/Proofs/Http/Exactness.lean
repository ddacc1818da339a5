/-
The free endpoints that do something: what they answer is what their call returns, told exactly. A
body that is rejected is answered without a store call. Otherwise the status says how the call has
ended, a refusal comes in its own words, and an error of the service itself is always the same
response, whatever its cause and whoever answers for the store (`handle_reports_call`).
-/
import Latchkey.Proofs.Http.Answers
import Latchkey.Proofs.Service.Calendar

namespace Latchkey.Http

open Program

/-! ## Calls -/

/-- The call that a request to a free endpoint asks for, unless its body is rejected. Whoever asks
whether the service is up calls nothing. -/
def FreeEndpoint.call? (s : Service) (draws : Draws) (r : Request) :
    FreeEndpoint → Option (Except Rejection (Program Tokens))
  | .health => none
  | .loginUsername => some do
    let a ← r.read UsernameRequest.form
    return s.loginUsername draws a.username a.password a.deviceKey
  | .register => some do
    let a ← r.read UsernameRequest.form
    return s.registerUsername draws a.username a.password a.deviceKey
  | .loginAnonymous => some do
    let a ← r.read AnonymousLoginRequest.form
    return s.loginAnonymous draws a.deviceKey
  | .refresh => some do
    let a ← r.read RefreshRequest.form
    return s.refresh draws a.refreshToken a.deviceKey

/-- What is told of an error of the service itself. -/
def internalError : ErrorResponse := ⟨"internal_error", "Internal server error"⟩

/-- The response tells how a call has ended, and tells no more of an error of the service itself
than that there was one. -/
structure Reports (s : Service) (outcome : Outcome Tokens) (response : Response) : Prop where
  ok_iff : response.status = 200 ↔ ∃ tokens, outcome = .ok tokens
  ok : ∀ tokens, outcome = .ok tokens → response = .json 200 (tokenResponse s tokens).toJson
  /-- The body reads back as the tokens, with the lifetime that the issuer gives them. -/
  told : ∀ tokens, outcome = .ok tokens →
    TokenResponse.decode (Bytes.ofString response.body) =
      .ok ⟨tokens, Int64.ofInt s.issuer.lifetimeSeconds, "Bearer"⟩
  refused_iff : response.status = 400 ↔ ∃ cause, outcome = .error (.refused cause)
  refused : ∀ cause, outcome = .error (.refused cause) →
    response.Tells 400 ⟨"validation_error", cause.message⟩
  unauthorized_iff : response.status = 401 ↔ ∃ e, outcome = .error e ∧ e.isUnauthorized = true
  unauthorized : ∀ e, outcome = .error e → e.isUnauthorized = true →
    response.Tells 401 ⟨"unauthorized", e.message⟩
  /-- In every other case. -/
  internal : ∀ e, outcome = .error e → e.isUnauthorized = false → (∀ cause, e ≠ .refused cause) →
    response.Tells 500 internalError
  ends : outcome ≠ .overflow

theorem reports_ok (s : Service) (tokens : Tokens) :
    Reports s (.ok tokens) (.json 200 (tokenResponse s tokens).toJson) := by
  constructor
  case told =>
    intro tokens' h
    cases h
    exact TokenResponse.decode_written (tokenResponse s tokens)
  all_goals simp [Response.json]

/-- An error is the fault of the input, of the caller, or of the service. -/
theorem ofAuth_cases (e : AuthError) :
    (∃ cause, e = .refused cause ∧ ApiError.ofAuth e = .invalid cause.message) ∨
    (e.isUnauthorized = true ∧ ApiError.ofAuth e = .unauthorized e.message) ∨
    (e.isUnauthorized = false ∧ (∀ cause, e ≠ .refused cause) ∧
      ∃ detail, ApiError.ofAuth e = .internal detail) := by
  cases e with
  | badCredentials | badRefreshToken | badAccessToken => exact Or.inr (Or.inl ⟨rfl, rfl⟩)
  | refused cause => exact Or.inl ⟨cause, rfl, rfl⟩
  | signing | nothingWritten | database | internal =>
    exact Or.inr (Or.inr ⟨rfl, (fun _ h => by cases h), _, rfl⟩)

theorem reports_error (s : Service) (e : AuthError) :
    Reports s (.error e) (ApiError.ofAuth e).response := by
  have htells := (ApiError.ofAuth e).tells_response
  rcases ofAuth_cases e with ⟨cause, rfl, hof⟩ | ⟨hunauthorized, hof⟩ | ⟨hother, hne, detail, hof⟩
  · rw [hof] at htells ⊢
    constructor
    case refused =>
      intro cause' h
      cases h
      exact htells
    all_goals simp [ApiError.response, ApiError.status, Response.json, AuthError.isUnauthorized]
  · have hne : ∀ cause, e ≠ .refused cause := by
      rintro cause rfl
      cases hunauthorized
    rw [hof] at htells ⊢
    constructor
    case unauthorized =>
      intro e' h _
      cases h
      exact htells
    all_goals simp [ApiError.response, ApiError.status, Response.json, hunauthorized, hne]
  · rw [hof] at htells ⊢
    constructor
    case internal => exact fun _ _ _ _ => htells
    all_goals simp [ApiError.response, ApiError.status, Response.json, hother, hne]

/-! ## Requests -/

section

variable {s : Service} {draws : Draws} {r : Request} {e : FreeEndpoint} {α : Type}

/-- How the answer to a request goes with the call that it asks for. -/
structure Answers (s : Service) (call : Except Rejection (Program Tokens)) (p : Program Response) :
    Prop where
  rejected : ∀ rejection, call = .error rejection →
    p = .done (ApiError.invalid rejection.message).response
  reported : ∀ act, call = .ok act → ∀ (σ : Type)
    (answer : (r : Latchkey.Request) → σ → r.Answer × σ) (now : Instant) (st : σ),
    (act.runWith answer now st).1 ≠ .overflow →
    ∃ response, p.runWith answer now st = (.ok response, (act.runWith answer now st).2) ∧
      Reports s (act.runWith answer now st).1 response
  /-- Left to itself the call is told of just so, though the clock goes on. -/
  ends : ∀ act, call = .ok act → ∀ (shown : Instant → Prop) (store store' : Store)
    (o : Outcome Response), p.Ends shown store o store' →
    ∃ ended, act.Ends shown store ended store' ∧
      (o = .overflow ∧ ended = .overflow ∨ ∃ response, o = .ok response ∧ Reports s ended response)

theorem read_of_call {form : Json.Form α} {act : α → Program Tokens} {p : Program Tokens}
    (h : (do return act (← r.read form) : Except Rejection (Program Tokens)) = .ok p) :
    ∃ a, r.read form = .ok a ∧ p = act a := by
  cases hread : r.read form with
  | error rejection =>
    rw [hread] at h
    cases h
  | ok a =>
    rw [hread] at h
    cases h
    exact ⟨a, rfl, rfl⟩

theorem read_of_rejection {form : Json.Form α} {act : α → Program Tokens} {rejection : Rejection}
    (h : (do return act (← r.read form) : Except Rejection (Program Tokens)) = .error rejection) :
    r.read form = .error rejection := by
  cases hread : r.read form with
  | error rejection' =>
    rw [hread] at h
    cases h
    rfl
  | ok a =>
    rw [hread] at h
    cases h

theorem answers_answerTokens (s : Service) (r : Request) (form : Json.Form α)
    (act : α → Program Tokens) :
    Answers s (do return act (← r.read form)) (answerTokens s r form act) where
  rejected := fun rejection h => answerWith_rejected (read_of_rejection h) act _
  reported := by
    intro p hcall σ answer now st hfits
    obtain ⟨a, hread, rfl⟩ := read_of_call hcall
    unfold answerTokens
    rw [runWith_answerWith answer now hread]
    generalize (act a).runWith answer now st = ended at hfits ⊢
    obtain ⟨outcome, st'⟩ := ended
    cases outcome with
    | ok tokens => exact ⟨_, rfl, reports_ok s tokens⟩
    | error e => exact ⟨_, rfl, reports_error s e⟩
    | overflow => exact absurd rfl hfits
  ends := by
    intro p hcall shown store store' o he
    obtain ⟨a, hread, rfl⟩ := read_of_call hcall
    obtain ⟨ended, hended, rfl⟩ := (ends_answerWith hread).1 he
    refine ⟨ended, hended, ?_⟩
    cases ended with
    | ok tokens => exact Or.inr ⟨_, rfl, reports_ok s tokens⟩
    | error e => exact Or.inr ⟨_, rfl, reports_error s e⟩
    | overflow => exact Or.inl ⟨rfl, rfl⟩

theorem answers_answerFree {call : Except Rejection (Program Tokens)}
    (h : e.call? s draws r = some call) : Answers s call (answerFree s draws r e) := by
  cases e with
  | health => cases h
  | loginUsername | loginAnonymous | register | refresh =>
    cases h
    exact answers_answerTokens s r _ _

theorem methods_of_call? {call : Except Rejection (Program Tokens)}
    (h : e.call? s draws r = some call) : (Endpoint.free e).methods = ["POST"] := by
  cases e with
  | health => cases h
  | loginUsername | loginAnonymous | register | refresh => rfl

theorem fits_of_call? {p : Program Tokens} {now : Instant} (hnow : s.InCalendar now)
    (h : e.call? s draws r = some (.ok p)) : p.Fits now := by
  cases e with
  | health => cases h
  | loginUsername =>
    obtain ⟨a, -, rfl⟩ := read_of_call (Option.some.inj h)
    exact s.fits_loginUsername hnow _ _ _ _
  | register =>
    obtain ⟨a, -, rfl⟩ := read_of_call (Option.some.inj h)
    exact s.fits_registerUsername hnow _ _ _ _
  | loginAnonymous =>
    obtain ⟨a, -, rfl⟩ := read_of_call (Option.some.inj h)
    exact s.fits_loginAnonymous hnow _ _
  | refresh =>
    obtain ⟨a, -, rfl⟩ := read_of_call (Option.some.inj h)
    exact s.fits_refresh hnow _ _ _

theorem handle_of_call? {call : Except Rejection (Program Tokens)} (hmethod : r.method = "POST")
    (hpath : r.path = (Endpoint.free e).path) (hcall : e.call? s draws r = some call) :
    handle s draws r = answerFree s draws r e := by
  have hmem : r.method ∈ (Endpoint.free e).methods := by
    rw [methods_of_call? hcall, hmethod]
    exact List.mem_singleton_self _
  exact handle_endpoint s draws hpath hmem (by rw [hmethod]; decide)

/-- What is answered at a free endpoint is what its call returns. A body that is rejected is
answered before anything is asked of the store. Otherwise, whatever store there is and whatever it
answers, the call ends and the response reports how, and the store is left as the call alone leaves
it. -/
theorem handle_reports_call (s : Service) (draws : Draws) {r : Request} {e : FreeEndpoint}
    {call : Except Rejection (Program Tokens)} (hmethod : r.method = "POST")
    (hpath : r.path = (Endpoint.free e).path) (hcall : e.call? s draws r = some call) :
    (∀ rejection, call = .error rejection → ∃ response, handle s draws r = .done response ∧
      response.Tells 400 ⟨"validation_error", rejection.message⟩) ∧
    ∀ p, call = .ok p → ∀ (σ : Type) (answer : (r : Latchkey.Request) → σ → r.Answer × σ)
      (now : Instant) (st : σ), s.InCalendar now →
      ∃ response,
        (handle s draws r).runWith answer now st = (.ok response, (p.runWith answer now st).2) ∧
        Reports s (p.runWith answer now st).1 response := by
  have hanswers := answers_answerFree hcall
  rw [handle_of_call? hmethod hpath hcall]
  constructor
  · intro rejection hrejected
    exact ⟨_, hanswers.rejected rejection hrejected, ApiError.tells_response _⟩
  · rintro p rfl σ answer now st hnow
    exact hanswers.reported p rfl σ answer now st
      (runWith_ne_overflow (fits_of_call? hnow hcall) st)

end

/-- A store that fails whatever it is asked. -/
def outOfOrder (e : AuthError) (r : Latchkey.Request) (st : Unit) : r.Answer × Unit :=
  (.error e, st)

/-- What is posted for a first login on a device asks for that login. -/
theorem call?_tabletLogin (s : Service) (draws : Draws) :
    FreeEndpoint.loginAnonymous.call? s draws
      (posted "/v1/auth/login/anonymous" [] (.object [("device_key", .text "tablet")])) =
      some (.ok (s.loginAnonymous draws "tablet")) := by
  have hread : (posted "/v1/auth/login/anonymous" [] (.object [("device_key", .text "tablet")])).read
      AnonymousLoginRequest.form = .ok ⟨"tablet"⟩ :=
    read_posted (Json.Form.decode_written (.written rfl rfl
      (Json.RecordField.text_written .defaulted "device_key" "tablet") .none_written) rfl)
      (by decide +kernel)
  simp only [FreeEndpoint.call?, hread]
  rfl

/-- A first login on a device is answered with tokens, two stores that fail, each in its own way,
are told of in the same words, and a request that does not declare its body is rejected. -/
theorem firstLogin_reported :
    let r := posted "/v1/auth/login/anonymous" [] (.object [("device_key", .text "tablet")])
    let undeclared := { r with headers := [] }
    let draws := Draws.sample "first"
    let p := Service.sample.loginAnonymous draws "tablet"
    let told (e : AuthError) := ((handle .sample draws r).runWith (outOfOrder e) 5 ()).1
    r.method = "POST" ∧ r.path = (Endpoint.free .loginAnonymous).path ∧
    FreeEndpoint.loginAnonymous.call? .sample draws r = some (.ok p) ∧
    Service.sample.InCalendar 5 ∧
    (∃ response, ((handle .sample draws r).run 5 .empty).1 = .ok response ∧
      response.status = 200) ∧
    (∃ response, told (.database .poolClosed) = .ok response ∧
      told (.internal "the stored hash") = .ok response ∧ response.Tells 500 internalError) ∧
    ∃ response, handle .sample draws undeclared = .done response ∧
      response.Tells 400 ⟨"validation_error", Rejection.notJson.message⟩ := by
  intro r undeclared draws p told
  have hcall : FreeEndpoint.loginAnonymous.call? .sample draws r = some (.ok p) :=
    call?_tabletLogin .sample draws
  have hnow : Service.sample.InCalendar 5 := by decide
  have hpath : r.path = (Endpoint.free .loginAnonymous).path := by decide +kernel
  have hreports := (handle_reports_call .sample draws rfl hpath hcall).2 p rfl
  have hfails : ∀ e, e.isUnauthorized = false → (∀ cause, e ≠ .refused cause) →
      told e = .ok (.json 500 internalError.toJson) := by
    intro e hother hne
    obtain ⟨response, hrun, hreport⟩ := hreports Unit (outOfOrder e) 5 () hnow
    obtain ⟨rfl, -⟩ := hreport.internal e rfl hother hne
    simp only [told, hrun]
  refine ⟨rfl, hpath, hcall, hnow, ?_, ?_, ?_⟩
  · obtain ⟨response, hrun, hreport⟩ := hreports Store (Store.apply 5) 5 .empty hnow
    exact ⟨response, by rw [run, hrun], hreport.ok_iff.2 ⟨_, rfl⟩⟩
  · have hdatabase := hfails (.database .poolClosed) rfl fun _ h => by cases h
    have hinternal := hfails (.internal "the stored hash") rfl fun _ h => by cases h
    exact ⟨_, hdatabase, hinternal, tells_json 500 internalError⟩
  · have hrejected : FreeEndpoint.loginAnonymous.call? .sample draws undeclared =
        some (.error .notJson) := by
      have hjson : undeclared.declaresJson = false := rfl
      simp only [FreeEndpoint.call?, Request.read, hjson]
      rfl
    have hpath' : undeclared.path = (Endpoint.free .loginAnonymous).path := hpath
    exact (handle_reports_call .sample draws rfl hpath' hrejected).1 _ rfl

end Latchkey.Http
