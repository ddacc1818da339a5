/-
Rejections that do not tell why. A login with a name and a password that cannot succeed, and a
refresh that cannot, are each answered with one and the same response, whatever the reason is and
wherever in the service it comes up, and the store is left alone. So it is, too, while the clock
goes on, even if the token of a refresh is still valid when it is looked up and only its renewal
comes too late (`rejections_alike`).
-/
import Latchkey.Proofs.Http.Exactness
import Latchkey.Proofs.Service.Footprint

namespace Latchkey.Http

open Json (Form)
open Json.RecordField (text_written)
open Program

/-! ## Visits -/

/-- A request on its way to a service, with the draws for it and the store and the clock that it
meets. -/
structure Visit where
  service : Service
  draws : Draws
  request : Request
  store : Store
  now : Instant

namespace Visit

def run (v : Visit) : Outcome Response × Store :=
  (handle v.service v.draws v.request).run v.now v.store

/-- Left to itself, while the clock goes on and shows instants of `shown` only, the visit can end
so. -/
def Ends (v : Visit) (shown : Instant → Prop) (o : Outcome Response) (store : Store) : Prop :=
  (handle v.service v.draws v.request).Ends shown v.store o store

/-- The visit is turned away with a message, and leaves the store alone. -/
def TurnedAway (v : Visit) (message : String) (response : Response) : Prop :=
  v.run = (.ok response, v.store) ∧ response.Tells 401 ⟨"unauthorized", message⟩

end Visit

variable {v : Visit} {shown : Instant → Prop} {store store' : Store} {o : Outcome Response}

/-- However a visit ends, its call has ended and is told of. -/
theorem exists_end_of_call (e : FreeEndpoint) {p : Program Tokens}
    (hmethod : v.request.method = "POST") (hpath : v.request.path = (Endpoint.free e).path)
    (hcall : e.call? v.service v.draws v.request = some (.ok p)) (he : v.Ends shown o store) :
    ∃ ended, p.Ends shown v.store ended store ∧
      (o = .overflow ∧ ended = .overflow ∨
        ∃ response, o = .ok response ∧ Reports v.service ended response) := by
  unfold Visit.Ends at he
  rw [handle_of_call? hmethod hpath hcall] at he
  exact (answers_answerFree hcall).ends p rfl shown v.store store o he

/-- What whoever is turned away with a message is told. -/
def refusal (message : String) : Response :=
  .json 401 (ErrorResponse.mk "unauthorized" message).toJson

theorem eq_refusal {s : Service} {cause : AuthError} {response : Response}
    (h : Reports s (.error cause) response) (hcause : cause.isUnauthorized = true) :
    response = refusal cause.message :=
  (h.unauthorized cause rfl hcause).1

/-- A visit whose call can only fail for want of authority ends with the words of the failure. -/
theorem ends_of_call (e : FreeEndpoint) {p : Program Tokens} (cause : AuthError)
    (hmethod : v.request.method = "POST") (hpath : v.request.path = (Endpoint.free e).path)
    (hcall : e.call? v.service v.draws v.request = some (.ok p))
    (hcause : cause.isUnauthorized = true)
    (hends : ∀ ended, p.Ends shown v.store ended store → ended = .error cause ∧ store = v.store)
    (he : v.Ends shown o store) : o = .ok (refusal cause.message) ∧ store = v.store := by
  obtain ⟨ended, hended, htold⟩ := exists_end_of_call e hmethod hpath hcall he
  obtain ⟨rfl, hstore⟩ := hends ended hended
  rcases htold with ⟨-, hoverflow⟩ | ⟨response, rfl, hreports⟩
  · cases hoverflow
  · exact ⟨congrArg Outcome.ok (eq_refusal hreports hcause), hstore⟩

/-- While the clock stands still the visit has one end, that of its run. -/
theorem turnedAway_of_ends {message : String}
    (h : ∀ o store, v.Ends (· = v.now) o store → o = .ok (refusal message) ∧ store = v.store) :
    v.TurnedAway message (refusal message) := by
  obtain ⟨ho, hstore⟩ := h _ _ (ends_run v.now (handle v.service v.draws v.request) v.store)
  exact ⟨Prod.ext ho hstore, tells_json 401 _⟩

/-! ## Logins that cannot succeed -/

/-- Why nobody logs in with a name and a password. -/
inductive LoginBar (store : Store) (username password : String) : Prop
  | unknown (absent : store.accountWith .password username = none)
  | unset {a} (found : store.accountWith .password username = some a)
      (unset : a.passwordHash = none)
  | wrong {a hash} (found : store.accountWith .password username = some a)
      (has : a.passwordHash = some hash) (wrong : Password.verify password hash = .ok false)

/-- A login with a name and a password, none of them blank, that cannot succeed. -/
structure LoginBarred (v : Visit) (body : UsernameRequest) : Prop where
  method : v.request.method = "POST"
  path : v.request.path = "/v1/auth/login/username"
  read : v.request.read UsernameRequest.form = .ok body
  username : Text.isBlank body.username = false
  password : Text.isBlank body.password = false
  deviceKey : ∀ d, body.deviceKey = some d → Text.isBlank d = false
  bar : LoginBar v.store body.username body.password

/-- If the name is known, its account has no password, or another one. -/
theorem verify_of_loginBar {username password hash : String} {a : Account}
    (h : LoginBar store username password)
    (ha : store.accountWith .password username = some a) (hhash : a.passwordHash = some hash) :
    Password.verify password hash = .ok false := by
  cases h with
  | unknown absent =>
    rw [absent] at ha
    cases ha
  | unset found unset =>
    rw [found] at ha
    cases ha
    rw [unset] at hhash
    cases hhash
  | wrong found has wrong =>
    rw [found] at ha
    cases ha
    rw [has] at hhash
    cases hhash
    exact wrong

/-- Whenever the name and the password are looked at, they are refused. -/
theorem ends_of_loginBar {username password : String} {o : Outcome Profile}
    (h : LoginBar store username password)
    (he : (Identity.resolveByPassword username password).Ends shown store o store') :
    o = .error .badCredentials ∧ store' = store := by
  obtain ⟨t, -, next⟩ := ends_call_iff.1 he
  cases ha : store.accountWith .password username with
  | none =>
    simp only [Store.apply, ha] at next
    cases next
    exact ⟨rfl, rfl⟩
  | some a =>
    simp only [Store.apply, ha] at next
    change (Service.compare a password).Ends _ _ _ _ at next
    rw [Service.compare_of_different fun _ hhash => verify_of_loginBar h ha hhash] at next
    cases next
    exact ⟨rfl, rfl⟩

theorem ends_of_loginBarred {body : UsernameRequest} (h : LoginBarred v body)
    (he : v.Ends shown o store) :
    o = .ok (refusal "Invalid credentials") ∧ store = v.store := by
  let l : Login := ⟨v.draws, body.username, body.password, body.deviceKey⟩
  have hgiven : l.operation.firstBlank? = none :=
    Login.firstBlank?_eq_none h.username h.password h.deviceKey
  have hcall : FreeEndpoint.loginUsername.call? v.service v.draws v.request = some (.ok
      (v.service.loginUsername v.draws body.username body.password body.deviceKey)) := by
    simp only [FreeEndpoint.call?, h.read]
    rfl
  refine ends_of_call .loginUsername .badCredentials h.method h.path hcall rfl ?_ he
  intro ended hended
  rw [v.service.loginUsername_given hgiven] at hended
  obtain ⟨resolved, st, hresolved, hgo⟩ := ends_bind.1 hended
  obtain ⟨rfl, rfl⟩ := ends_of_loginBar h.bar hresolved
  exact hgo

/-! ## Refreshes that cannot succeed -/

/-- Why a row is worth nothing to whoever presents its token on a device. -/
inductive RowBar (store : Store) (now : Instant) (deviceKey : String) (row : RefreshRow) : Prop
  | revoked (revoked : row.revokedAt.isSome)
  | expired (expired : row.expiresAt ≤ now)
  | elsewhere (elsewhere : row.deviceKey ≠ deviceKey)
  | ownerless (gone : store.accountById row.userId = none)

/-- A refresh with a device key and a token, neither of them blank. -/
structure Refreshes (v : Visit) (body : RefreshRequest) : Prop where
  method : v.request.method = "POST"
  path : v.request.path = "/v1/auth/refresh"
  read : v.request.read RefreshRequest.form = .ok body
  deviceKey : Text.isBlank body.deviceKey = false
  refreshToken : Text.isBlank body.refreshToken = false

/-- A refresh that cannot succeed: there is a bar to every row that has the token, if there are any.
A token that has been redeemed is revoked. -/
structure RefreshBarred (v : Visit) (body : RefreshRequest) : Prop extends Refreshes v body where
  bar : ∀ row ∈ v.store.rows, row.tokenHash = v.service.issuer.hashToken body.refreshToken →
    RowBar v.store v.now body.deviceKey row

theorem account_of_rowBars {store : Store} {now : Instant} {deviceKey hash : String}
    (h : ∀ row ∈ store.rows, row.tokenHash = hash → RowBar store now deviceKey row) :
    (store.ownerOf deviceKey hash now).bind store.accountById = none := by
  cases howner : store.ownerOf deviceKey hash now with
  | none => rfl
  | some u =>
    obtain ⟨row, hrow, rfl, hdevice, hhash, hvalid⟩ := Store.ownerOf_some howner
    obtain ⟨hunrevoked, hunexpired⟩ := RefreshRow.validAt_iff.1 hvalid
    -- the row is valid on the device, so it is the owner who is gone
    cases h row hrow hhash with
    | revoked revoked =>
      rw [hunrevoked] at revoked
      cases revoked
    | expired expired => exact absurd expired (Int.not_le.2 hunexpired)
    | elsewhere elsewhere => exact absurd hdevice elsewhere
    | ownerless gone => exact gone

theorem call?_of_refreshes {body : RefreshRequest} (h : Refreshes v body) :
    FreeEndpoint.refresh.call? v.service v.draws v.request = some (.ok
      (v.service.refresh v.draws body.refreshToken body.deviceKey)) := by
  simp only [FreeEndpoint.call?, h.read]
  rfl

/-- What a call for tokens comes to is what its operation comes to. -/
theorem ends_tokens {p : Program Tokens} {ended : Outcome Tokens}
    (he : p.Ends shown store ended store') :
    (do return Operation.Result.tokens (← p) : Program Operation.Result).Ends shown store
      (match ended with
        | .ok tokens => .ok (.tokens tokens)
        | .error e => .error e
        | .overflow => .overflow) store' := by
  refine ends_bind.2 ⟨ended, store', he, ?_⟩
  cases ended with
  | ok tokens => exact .done
  | error | overflow => exact ⟨rfl, rfl⟩

/-- A refresh that is barred at every instant that the clock shows is turned away. -/
theorem ends_of_refreshBarred {body : RefreshRequest} (h : Refreshes v body)
    (hbarred : ∀ t, shown t → RefreshBarred { v with now := t } body) (he : v.Ends shown o store) :
    o = .ok (refusal "Invalid refresh token") ∧ store = v.store := by
  refine ends_of_call .refresh .badRefreshToken h.method h.path (call?_of_refreshes h) rfl ?_ he
  intro ended hended
  obtain ⟨ho, hstore⟩ := Service.ends_of_unvouched h.refreshToken h.deviceKey
    (fun t shows => account_of_rowBars (hbarred t shows).bar) (ends_tokens hended)
  refine ⟨?_, hstore⟩
  cases ended with
  | ok | overflow => cases ho
  | error e =>
    cases ho
    rfl

/-- A refresh within the calendar is let in or turned away, even if the token ceases to be valid
while it is being refreshed. -/
theorem ends_of_refreshes {body : RefreshRequest} (h : Refreshes v body)
    (hcalendar : ∀ t, shown t → v.service.InCalendar t) (he : v.Ends shown o store) :
    (∃ response, o = .ok response ∧ response.status = 200) ∨
      o = .ok (refusal "Invalid refresh token") ∧ store = v.store := by
  obtain ⟨ended, hended, htold⟩ :=
    exists_end_of_call .refresh h.method h.path (call?_of_refreshes h) he
  have hstages := v.service.refreshing_perform v.draws h.refreshToken h.deviceKey
  have hresult := Service.ends_of_refreshing hstages hcalendar (ends_tokens hended)
  -- the call ends as its operation does: well, or refused with the store as it was
  rcases htold with ⟨-, rfl⟩ | ⟨response, rfl, hreports⟩
  · rcases hresult with ⟨access, ho⟩ | ⟨ho, -⟩ <;> cases ho
  · cases ended with
    | ok tokens => exact Or.inl ⟨response, rfl, hreports.ok_iff.2 ⟨tokens, rfl⟩⟩
    | error cause =>
      rcases hresult with ⟨access, ho⟩ | ⟨ho, hstore⟩
      · cases ho
      · cases ho
        have hresponse := eq_refusal hreports rfl
        exact Or.inr ⟨congrArg Outcome.ok hresponse, hstore⟩
    | overflow => exact absurd rfl hreports.ends

theorem turnedAway_of_loginBarred {body : UsernameRequest} (h : LoginBarred v body) :
    v.TurnedAway "Invalid credentials" (refusal "Invalid credentials") :=
  turnedAway_of_ends fun _ _ => ends_of_loginBarred h

theorem turnedAway_of_refreshBarred {body : RefreshRequest} (h : RefreshBarred v body) :
    v.TurnedAway "Invalid refresh token" (refusal "Invalid refresh token") :=
  turnedAway_of_ends fun _ _ => ends_of_refreshBarred h.toRefreshes fun _ ht => ht ▸ h

/-- Two logins that cannot succeed are answered with the same response, and so are two refreshes
that cannot, whatever the reasons, the requests and the stores, and both stores are left alone. The
responses are still the same while the clock goes on: every end of such a login is this response,
and so is every end of a refresh that is barred all the time, or that is not let in within the
calendar, whichever of its stages turns it away. -/
theorem rejections_alike :
    (∀ (v w : Visit) (body body' : UsernameRequest), LoginBarred v body → LoginBarred w body' →
      ∃ response, v.TurnedAway "Invalid credentials" response ∧
        w.TurnedAway "Invalid credentials" response) ∧
    (∀ (v w : Visit) (body body' : RefreshRequest), RefreshBarred v body → RefreshBarred w body' →
      ∃ response, v.TurnedAway "Invalid refresh token" response ∧
        w.TurnedAway "Invalid refresh token" response) ∧
    (∃ response : Response, response.Tells 401 ⟨"unauthorized", "Invalid credentials"⟩ ∧
      ∀ (v : Visit) (body : UsernameRequest), LoginBarred v body →
        ∀ shown o store, v.Ends shown o store → o = .ok response ∧ store = v.store) ∧
    ∃ response : Response, response.Tells 401 ⟨"unauthorized", "Invalid refresh token"⟩ ∧
      ∀ (v : Visit) (body : RefreshRequest), Refreshes v body →
        ∀ shown o store, v.Ends shown o store →
          ((∀ t, shown t → RefreshBarred { v with now := t } body) →
            o = .ok response ∧ store = v.store) ∧
          ((∀ t, shown t → v.service.InCalendar t) →
            (∃ letIn, o = .ok letIn ∧ letIn.status = 200) ∨
              o = .ok response ∧ store = v.store) := by
  refine ⟨fun v w body body' hv hw => ?_, fun v w body body' hv hw => ?_,
    ⟨_, tells_json 401 _, fun v body h shown o store => ends_of_loginBarred h⟩,
    ⟨_, tells_json 401 _, fun v body h shown o store he => ⟨fun hbarred => ?_, fun hc => ?_⟩⟩⟩
  · exact ⟨_, turnedAway_of_loginBarred hv, turnedAway_of_loginBarred hw⟩
  · exact ⟨_, turnedAway_of_refreshBarred hv, turnedAway_of_refreshBarred hw⟩
  · exact ends_of_refreshBarred h hbarred he
  · exact ends_of_refreshes h hc he

/-- A login to a store. -/
def login (username : String) (store : Store) : Visit :=
  ⟨.sample, .sample username, posted "/v1/auth/login/username" []
    (.object [("username", .text username), ("password", .text "guess")]), store, 5⟩

/-- A refresh on a tablet. -/
def refreshAt (token : String) (store : Store) (now : Instant) : Visit :=
  ⟨.sample, .sample token, posted "/v1/auth/refresh" []
    (.object [("device_key", .text "tablet"), ("refresh_token", .text token)]), store, now⟩

theorem loginBarred_login {username : String} {store : Store}
    (hname : Text.isBlank username = false)
    (hshort : (login username store).request.body.length ≤ bodyLimit)
    (hbar : LoginBar store username "guess") :
    LoginBarred (login username store) ⟨username, "guess", none⟩ := by
  have hpath : pathOf "/v1/auth/login/username" = "/v1/auth/login/username" := by decide +kernel
  have hdecode : UsernameRequest.form.decode (Bytes.ofString (Json.Value.object
      [("username", .text username), ("password", .text "guess")]).render) =
      .ok ⟨username, "guess", none⟩ :=
    Form.decode_written (.written rfl rfl (text_written .defaulted "username" username)
      (.written rfl rfl (text_written .defaulted "password" "guess") .none_written)) rfl
  have hgiven : Text.isBlank "guess" = false := by decide
  exact ⟨rfl, hpath, read_posted hdecode hshort, hname, hgiven, (fun d hd => by cases hd), hbar⟩

theorem refreshes_refreshAt {token : String} {store : Store} {now : Instant}
    (htoken : Text.isBlank token = false)
    (hshort : (refreshAt token store now).request.body.length ≤ bodyLimit) :
    Refreshes (refreshAt token store now) ⟨"tablet", token⟩ := by
  have hpath : pathOf "/v1/auth/refresh" = "/v1/auth/refresh" := by decide +kernel
  have hdecode : RefreshRequest.form.decode (Bytes.ofString (Json.Value.object
      [("device_key", .text "tablet"), ("refresh_token", .text token)]).render) =
      .ok ⟨"tablet", token⟩ :=
    Form.decode_written (.written rfl rfl (text_written .defaulted "device_key" "tablet")
      (.written rfl rfl (text_written .defaulted "refresh_token" token) .none_written)) rfl
  have hgiven : Text.isBlank "tablet" = false := by decide
  exact ⟨rfl, hpath, read_posted hdecode hshort, hgiven, htoken⟩

/-- The token that is shared is valid until the instant 90000, and its renewal comes just then. -/
def lateRenewal : Visit := refreshAt "shared token" Service.household 89999

theorem ends_lateRenewal :
    lateRenewal.Ends (· ∈ [89999, 90000]) (.ok (refusal "Invalid refresh token"))
      Service.household := by
  have hrefreshes : Refreshes lateRenewal ⟨"tablet", "shared token"⟩ :=
    refreshes_refreshAt (by decide) (by decide +kernel)
  let instants : List Instant := List.replicate 5 89999 ++ [90000]
  have hlate : (∀ t ∈ instants, t ∈ [(89999 : Instant), 90000]) ∧
      (Service.sample.refresh (.sample "shared token") "shared token" "tablet").runAlong instants
        Service.household = some (.error .badRefreshToken, Service.household) := by decide +kernel
  unfold Visit.Ends
  rw [handle_of_call? (e := .refresh) hrefreshes.method hrefreshes.path
    (call?_of_refreshes hrefreshes)]
  exact (ends_answerWith hrefreshes.read).2 ⟨_, ends_iff_exists_runAlong.2 ⟨_, hlate⟩, rfl⟩

/-- A name that nobody has and an account without a password look the same, and so do a token that
was never handed out, one that has expired, and one that expires while it is being refreshed. -/
theorem unknown_like_known :
    (LoginBarred (login "nobody" .empty) ⟨"nobody", "guess", none⟩ ∧
      LoginBarred (login "alice" Service.household) ⟨"alice", "guess", none⟩ ∧
      ∃ response, (login "nobody" .empty).TurnedAway "Invalid credentials" response ∧
        (login "alice" Service.household).TurnedAway "Invalid credentials" response) ∧
    RefreshBarred (refreshAt "guessed" .empty 5) ⟨"tablet", "guessed"⟩ ∧
      RefreshBarred (refreshAt "shared token" Service.household 90000)
        ⟨"tablet", "shared token"⟩ ∧
      ∃ response, (refreshAt "guessed" .empty 5).TurnedAway "Invalid refresh token" response ∧
        (refreshAt "shared token" Service.household 90000).TurnedAway "Invalid refresh token"
          response ∧
        (∀ t ∈ [89999, 90000], lateRenewal.service.InCalendar t) ∧
        lateRenewal.Ends (· ∈ [89999, 90000]) (.ok response) Service.household := by
  have hnobody : LoginBarred (login "nobody" .empty) ⟨"nobody", "guess", none⟩ :=
    loginBarred_login (by decide) (by decide +kernel) (.unknown rfl)
  have halice : LoginBarred (login "alice" Service.household) ⟨"alice", "guess", none⟩ :=
    loginBarred_login (by decide) (by decide +kernel) (.unset rfl rfl)
  have hguessed : RefreshBarred (refreshAt "guessed" .empty 5) ⟨"tablet", "guessed"⟩ :=
    ⟨refreshes_refreshAt (by decide) (by decide +kernel), fun row hrow => by cases hrow⟩
  have hlate : ∀ row ∈ Service.household.rows, row.expiresAt ≤ 90000 := by decide +kernel
  have hexpired : RefreshBarred (refreshAt "shared token" Service.household 90000)
      ⟨"tablet", "shared token"⟩ :=
    ⟨refreshes_refreshAt (by decide) (by decide +kernel),
      fun row hrow _ => .expired (hlate row hrow)⟩
  obtain ⟨hlogins, hrefreshes, -, response, htells, hends⟩ := rejections_alike
  obtain ⟨response', haway, haway'⟩ := hrefreshes _ _ _ _ hguessed hexpired
  have hcalendar : ∀ t ∈ [89999, 90000], lateRenewal.service.InCalendar t := by decide +kernel
  have hlast := (hends lateRenewal _ (refreshes_refreshAt (by decide) (by decide +kernel)) _ _ _
    ends_lateRenewal).2 hcalendar
  refine ⟨⟨hnobody, halice, hlogins _ _ _ _ hnobody halice⟩, hguessed, hexpired,
    response', haway, haway', hcalendar, ?_⟩
  -- the late one is not let in, and who is turned away is told what the others are told
  rcases hlast with ⟨letIn, hin, hstatus⟩ | ⟨hresponse, -⟩
  · cases hin
    cases hstatus
  · rw [haway.2.1, ← htells.1, ← hresponse]
    exact ends_lateRenewal

end Latchkey.Http
