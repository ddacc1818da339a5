/-
The guarded endpoints. A request is admitted for the live account that its bearer token names, and
nothing else in it matters before that: who is not admitted is turned away, whatever the body
(`guarded_for_bearer`). Who is admitted sees the account or ends its session on the device that the
body names, and no other.
-/
import Latchkey.Proofs.Http.Answers
import Latchkey.Proofs.Service.Footprint

namespace Latchkey.Http

open Json (Form RecordField)
open Program

/-! ## Bearers -/

/-- The first authorization header is text and consists of the scheme and the token. -/
def Bears (r : Request) (token : String) : Prop :=
  r.headerText? "authorization" = some ("Bearer " ++ token)

theorem bearer_eq_ok_iff {r : Request} {token : String} : bearer r = .ok token ↔ Bears r token := by
  unfold bearer Bears
  cases r.headerText? "authorization" with
  | none => simp
  | some value =>
    simp only [Option.some.injEq]
    constructor
    · intro h
      split at h
      · rename_i rest hvalue
        cases h
        have hrest : (String.ofList rest).toList = rest := String.toList_ofList
        rw [← String.toList_inj, hvalue, String.toList_append, hrest]
        rfl
      · cases h
    · rintro rfl
      rw [String.toList_append]
      show Except.ok (String.ofList token.toList) = _
      rw [String.ofList_toList]

theorem unauthorized_of_bearer {r : Request} {e : ApiError} (h : bearer r = .error e) :
    ∃ message, e = .unauthorized message := by
  unfold bearer at h
  cases hvalue : r.headerText? "authorization" with
  | none =>
    rw [hvalue] at h
    cases h
    exact ⟨_, rfl⟩
  | some value =>
    simp only [hvalue] at h
    split at h
    · cases h
    · cases h
      exact ⟨_, rfl⟩

/-- The tokens of an issuer are made of bytes that may stand in a header. -/
theorem isHeaderByte_of_mem_sign {secret header payload : Bytes} {b : UInt8}
    (h : b ∈ AccessToken.sign secret header payload) : isHeaderByte b = true := by
  have hsymbols : ∀ b ∈ Base64.Alphabet.urlSafe.symbols, isHeaderByte b = true := by decide +kernel
  have hencode : ∀ {bytes : Bytes}, b ∈ AccessToken.encode bytes → isHeaderByte b = true :=
    fun h => hsymbols b (Base64.mem_symbols_of_mem_encode _ h)
  simp only [AccessToken.sign, AccessToken.signature, List.mem_append, List.mem_cons] at h
  -- three encoded parts, with a dot between any two
  rcases h with (h | rfl | h) | rfl | h
  · exact hencode h
  · decide
  · exact hencode h
  · decide
  · exact hencode h

/-- So a header shows such a token as it is. -/
theorem bears_tokenOf (issuer : Issuer) (c : Claims) {r : Request}
    (h : r.header? "authorization" = some (Bytes.ofString ("Bearer " ++ issuer.tokenOf c))) :
    Bears r (issuer.tokenOf c) := by
  have hbytes : Bytes.ofString ("Bearer " ++ issuer.tokenOf c) =
      Bytes.ofString "Bearer " ++ Bytes.ofString (issuer.tokenOf c) := by
    simp only [Bytes.ofString_eq_utf8, String.toList_append, Bytes.utf8_append]
  rw [hbytes, Issuer.ofString_tokenOf] at h
  unfold Bears Request.headerText?
  rw [h, Option.bind_some, if_pos]
  · unfold Bytes.toAscii Issuer.tokenOf
    rw [List.map_append, String.ofList_append]
    rfl
  · rw [List.all_append, Bool.and_eq_true]
    exact ⟨by decide +kernel, List.all_eq_true.2 fun b hb => isHeaderByte_of_mem_sign hb⟩

/-- The request shows a token that is verified now and names the live account. -/
def Admits (s : Service) (now : Instant) (store : Store) (r : Request) (a : Account) : Prop :=
  ∃ token claims, Bears r token ∧ s.issuer.verify token now = some claims ∧
    store.accountById claims.id = some a

variable {s : Service} {draws : Draws} {now : Instant} {store : Store} {r : Request} {a : Account}

/-- The caller of a request is the account for which it is admitted, and who is not is turned away.
Either way the store is left alone. -/
theorem run_caller (s : Service) (now : Instant) (store : Store) (r : Request) :
    (∃ a, Admits s now store r a ∧
      (caller s r).run now store = (.ok (.ok (a.profileAt now)), store)) ∨
    ((∀ a, ¬ Admits s now store r a) ∧ ∃ message,
      (caller s r).run now store = (.ok (.error (.unauthorized message)), store)) := by
  unfold caller
  cases hbearer : bearer r with
  | error e =>
    obtain ⟨message, rfl⟩ := unauthorized_of_bearer hbearer
    refine Or.inr ⟨?_, message, rfl⟩
    rintro a ⟨token, claims, hbears, -⟩
    rw [bearer_eq_ok_iff.2 hbears] at hbearer
    cases hbearer
  | ok token =>
    -- the request shows one token, so it is admitted for whom that token names, or for nobody
    have hrun := runWith_attempt (Store.apply now) now (s.authenticate token) store
    have hauth := s.run_authenticate token now store
    unfold run at hauth ⊢
    simp only
    rw [hrun, hauth]
    cases hfound : (s.issuer.verify token now).bind fun claims => store.accountById claims.id with
    | some a =>
      obtain ⟨claims, hverify, ha⟩ := Option.bind_eq_some_iff.1 hfound
      exact Or.inl ⟨a, ⟨token, claims, bearer_eq_ok_iff.1 hbearer, hverify, ha⟩, rfl⟩
    | none =>
      refine Or.inr ⟨?_, _, rfl⟩
      rintro a ⟨token', claims, hbears, hverify, ha⟩
      rw [bearer_eq_ok_iff.2 hbears] at hbearer
      cases hbearer
      rw [hverify, Option.bind_some, ha] at hfound
      cases hfound

/-! ## Answers -/

/-- At a guarded endpoint it is the caller who decides what is answered. -/
theorem run_guarded (s : Service) (draws : Draws) (now : Instant) (store : Store)
    {e : GuardedEndpoint} (hpath : r.path = (Endpoint.guarded e).path)
    (hmethod : r.method ∈ (Endpoint.guarded e).methods) (hbody : r.method ≠ "HEAD") :
    (∃ a, Admits s now store r a ∧
      (handle s draws r).run now store =
        (answerGuarded r (a.profileAt now) e).run now store) ∨
    ((∀ a, ¬ Admits s now store r a) ∧ ∃ response message,
      (handle s draws r).run now store = (.ok response, store) ∧
      response.Tells 401 ⟨"unauthorized", message⟩) := by
  rw [handle_endpoint s draws hpath hmethod hbody]
  unfold answerOf
  simp only
  rw [run_bind]
  rcases run_caller s now store r with ⟨a, hadmits, hrun⟩ | ⟨hstranger, message, hrun⟩
  · exact Or.inl ⟨a, hadmits, by rw [hrun]⟩
  · refine Or.inr ⟨hstranger, _, message, ?_, ApiError.tells_response (.unauthorized message)⟩
    rw [hrun]
    rfl

theorem admits_unique {b : Account} (h : Admits s now store r a) (h' : Admits s now store r b) :
    a = b := by
  obtain ⟨token, claims, hbears, hverify, hfound⟩ := h
  obtain ⟨token', claims', hbears', hverify', hfound'⟩ := h'
  have htoken := (bearer_eq_ok_iff.2 hbears).symm.trans (bearer_eq_ok_iff.2 hbears')
  cases htoken
  rw [hverify] at hverify'
  cases hverify'
  rw [hfound] at hfound'
  exact Option.some.inj hfound'

theorem run_logoutProgram (userId deviceKey : String) (now : Instant) (store : Store) :
    (Service.logout userId deviceKey).run now store =
      if Text.isBlank deviceKey then (.error (.refused (.blank .deviceKey)), store)
      else (.ok (), store.invalidate userId deviceKey now) := by
  unfold Service.logout Service.require
  cases Text.isBlank deviceKey <;> rfl

/-- The rows after the end of a session: exactly those of it that were valid are revoked now. -/
def revokedRows (store : Store) (userId deviceKey : String) (now : Instant) : List RefreshRow :=
  store.rows.map fun row =>
    if row.userId = userId ∧ row.deviceKey = deviceKey ∧ row.validAt now = true then
      { row with revokedAt := some now }
    else row

theorem invalidate_eq (store : Store) (userId deviceKey : String) (now : Instant) :
    store.invalidate userId deviceKey now =
      ⟨store.accounts, revokedRows store userId deviceKey now⟩ := by
  refine congrArg (Store.mk store.accounts) (List.map_congr_left fun row _ => ?_)
  refine if_congr ?_ rfl rfl
  rw [Bool.and_eq_true, RefreshRow.belongsTo_iff, and_assoc]

/-- The method and the path of a guarded endpoint. -/
def GuardedEndpoint.route : GuardedEndpoint → String × String
  | .currentProfile => ("GET", "/v1/auth/user")
  | .logout => ("POST", "/v1/auth/logout")

/-- What comes of a request that is admitted for the account `a`: the account is shown as it is now,
or it is logged out of the device that the body names, unless the body is rejected or names none. -/
inductive Served (now : Instant) (store : Store) (r : Request) (a : Account) :
    GuardedEndpoint → Outcome Response × Store → Prop
  | shown : Served now store r a .currentProfile
      (.ok (.json 200 (a.profileAt now).toJson), store)
  | rejected {rejection response} (read : r.read LogoutRequest.form = .error rejection)
      (tells : response.Tells 400 ⟨"validation_error", rejection.message⟩) :
      Served now store r a .logout (.ok response, store)
  | blank {body response} (read : r.read LogoutRequest.form = .ok body)
      (blank : Text.isBlank body.deviceKey = true)
      (tells : response.Tells 400 ⟨"validation_error", "Device key is required"⟩) :
      Served now store r a .logout (.ok response, store)
  | loggedOut {body} (read : r.read LogoutRequest.form = .ok body)
      (given : Text.isBlank body.deviceKey = false) :
      Served now store r a .logout (.ok (.json 200 (LogoutResponse.mk true).toJson),
        ⟨store.accounts, revokedRows store a.id body.deviceKey now⟩)

theorem served_answerGuarded (now : Instant) (store : Store) (r : Request) (a : Account)
    (e : GuardedEndpoint) :
    Served now store r a e ((answerGuarded r (a.profileAt now) e).run now store) := by
  cases e with
  | currentProfile => exact .shown
  | logout =>
    show Served now store r a .logout ((answerWith r LogoutRequest.form
      (fun body => Service.logout a.id body.deviceKey) _).run now store)
    cases hread : r.read LogoutRequest.form with
    | error rejection =>
      rw [answerWith_rejected hread]
      exact .rejected hread (ApiError.tells_response (.invalid rejection.message))
    | ok body =>
      have hlogout := run_logoutProgram a.id body.deviceKey now store
      unfold Program.run at hlogout ⊢
      rw [runWith_answerWith _ _ hread, hlogout]
      cases hblank : Text.isBlank body.deviceKey with
      | true => exact .blank hread hblank (ApiError.tells_response (.invalid _))
      | false =>
        rw [invalidate_eq]
        exact .loggedOut hread hblank

/-- At a guarded endpoint a request is turned away unless it is admitted for an account, whatever
its body, and the store is left alone. One that is admitted is served for the account, and all that
can change are the rows of the account on the device that the body names. -/
theorem guarded_for_bearer (s : Service) (draws : Draws) (now : Instant) (store : Store)
    {r : Request} {e : GuardedEndpoint} (hroute : (r.method, r.path) = e.route) :
    let run := (handle s draws r).run now store
    ((∀ a, ¬ Admits s now store r a) → ∃ response message, run = (.ok response, store) ∧
      response.Tells 401 ⟨"unauthorized", message⟩) ∧
    ∀ a, Admits s now store r a → Served now store r a e run := by
  obtain ⟨hmethod, hpath⟩ := Prod.mk.inj hroute
  have hendpoint : r.path = (Endpoint.guarded e).path ∧
      r.method ∈ (Endpoint.guarded e).methods ∧ r.method ≠ "HEAD" := by
    rw [hpath, hmethod]
    cases e <;> decide
  obtain ⟨hat, htaken, hbody⟩ := hendpoint
  intro run
  rcases run_guarded s draws now store hat htaken hbody with
    ⟨a, hadmits, hrun⟩ | ⟨hstranger, hrun⟩
  · refine ⟨fun hstranger => absurd hadmits (hstranger a), fun b hb => ?_⟩
    obtain rfl := admits_unique hadmits hb
    rw [show run = _ from hrun]
    exact served_answerGuarded now store r a e
  · exact ⟨fun _ => hrun, fun a ha => absurd ha (hstranger a)⟩

/-- On a tablet that two accounts share, one of them logs out: the session of the other stays, and
so does that of the same account on the phone. Who shows no token is turned away. -/
theorem sharedTablet_served :
    let token := Service.sample.issuer.tokenOf ⟨"alice", "User0", 90, 0⟩
    let authorization := ("Authorization", Bytes.ofString ("Bearer " ++ token))
    let logout := posted "/v1/auth/logout" [authorization]
      (.object [("device_key", .text "tablet")])
    let profile : Request := ⟨"GET", "/v1/auth/user", [authorization], []⟩
    let stranger := posted "/v1/auth/logout" [] .null
    let run (r : Request) := (handle .sample (.sample "unused") r).run 60000 Service.household
    (logout.method, logout.path) = GuardedEndpoint.logout.route ∧
    (profile.method, profile.path) = GuardedEndpoint.currentProfile.route ∧
    (stranger.method, stranger.path) = GuardedEndpoint.logout.route ∧
    (∃ a, Admits .sample 60000 Service.household logout a ∧ a.id = "alice") ∧
    (∃ response, (run logout).1 = .ok response ∧ response.status = 200) ∧
    (run logout).2.rows.map (·.revokedAt) = [none, some 60000, none] ∧
    (∃ response, run profile = (.ok response, Service.household) ∧ response.status = 200) ∧
    ∃ response message, run stranger = (.ok response, Service.household) ∧
      response.Tells 401 ⟨"unauthorized", message⟩ := by
  intro token authorization logout profile stranger run
  let claims : Claims := ⟨"alice", "User0", 90, 0⟩
  have hverify : Service.sample.issuer.verify token 60000 = some claims :=
    (Issuer.verify_tokenOf Service.sample.issuer claims 60000).trans (if_pos (by decide))
  have hother : (String.map Char.toLower "content-type" == "authorization") = false := by
    decide +kernel
  have hname : (String.map Char.toLower "Authorization" == "authorization") = true := by
    decide +kernel
  have hlogout : Bears logout token := bears_tokenOf Service.sample.issuer claims (by
    simp only [Request.header?, logout, posted, authorization, List.find?_cons, hother, hname,
      Option.map_some, token, claims])
  have hprofile : Bears profile token := bears_tokenOf Service.sample.issuer claims (by
    simp only [Request.header?, profile, authorization, List.find?_cons, hname, Option.map_some,
      token, claims])
  obtain ⟨a, hfound, hid⟩ : ∃ a, Service.household.accountById "alice" = some a ∧ a.id = "alice" :=
    ⟨_, rfl, rfl⟩
  have hadmits : Admits .sample 60000 Service.household logout a :=
    ⟨token, claims, hlogout, hverify, hfound⟩
  have hadmits' : Admits .sample 60000 Service.household profile a :=
    ⟨token, claims, hprofile, hverify, hfound⟩
  have hstranger : ∀ b, ¬ Admits .sample 60000 Service.household stranger b := by
    rintro b ⟨token', claims', hbears, -⟩
    have hnone : stranger.headerText? "authorization" = none := by decide +kernel
    unfold Bears at hbears
    rw [hnone] at hbears
    cases hbears
  have hroute : (logout.method, logout.path) = GuardedEndpoint.logout.route := by decide +kernel
  have hroute' : (profile.method, profile.path) = GuardedEndpoint.currentProfile.route := by
    decide +kernel
  have hroute'' : (stranger.method, stranger.path) = GuardedEndpoint.logout.route := by
    decide +kernel
  have hread : logout.read LogoutRequest.form = .ok ⟨"tablet"⟩ :=
    read_posted (Form.decode_written (.written rfl rfl
      (RecordField.text_written .defaulted "device_key" "tablet") .none_written) rfl)
      (by decide +kernel)
  have hended : run logout = (.ok (.json 200 (LogoutResponse.mk true).toJson),
      ⟨Service.household.accounts, revokedRows Service.household "alice" "tablet" 60000⟩) := by
    have hserved : Served 60000 Service.household logout a .logout (run logout) :=
      (guarded_for_bearer .sample (.sample "unused") 60000 Service.household hroute).2 a hadmits
    generalize run logout = ended at hserved ⊢
    cases hserved with
    | rejected read _ =>
      rw [hread] at read
      cases read
    | blank read blank _ =>
      rw [hread] at read
      cases read
      cases blank
    | loggedOut read _ =>
      rw [hread] at read
      cases read
      rw [hid]
  have hshown : run profile = (.ok (.json 200 (a.profileAt 60000).toJson), Service.household) := by
    have hserved : Served 60000 Service.household profile a .currentProfile (run profile) :=
      (guarded_for_bearer .sample (.sample "unused") 60000 Service.household hroute').2 a hadmits'
    generalize run profile = ended at hserved ⊢
    cases hserved
    rfl
  refine ⟨hroute, hroute', hroute'', ⟨a, hadmits, hid⟩, ?_, ?_, ?_, ?_⟩
  · exact ⟨_, congrArg Prod.fst hended, rfl⟩
  · rw [hended]
    decide +kernel
  · exact ⟨_, hshown, rfl⟩
  · exact (guarded_for_bearer .sample (.sample "unused") 60000 Service.household hroute'').1
      hstranger

end Latchkey.Http
