/-
The lifetime that a token response tells. It is the lifetime of access tokens in whole seconds,
while a token says the seconds of two instants. Both round in their own way, so they agree up to a
second, and exactly where the lifetime is a number of whole seconds (`tellsLifetime_of_issue?`). For
as long as a caller is told, the token is accepted (`told_lifetime_agrees`).
-/
import Latchkey.Proofs.Http.Exactness
import Latchkey.Proofs.Service.Authentication
import Latchkey.Proofs.Settings

namespace Latchkey

/-! ## Whole seconds -/

namespace Clock

theorem seconds_add (t d : Int) :
    seconds d ≤ seconds (t + d) - seconds t ∧ seconds (t + d) - seconds t ≤ seconds d + 1 := by
  unfold seconds
  omega

theorem seconds_add_of_dvd (t : Int) {d : Int} (h : 1000 ∣ d) :
    seconds (t + d) - seconds t = seconds d := by
  unfold seconds
  omega

end Clock

namespace Http

open Program

/-! ## What is told -/

/-- What a token response tells of the lifetime goes with the access token in it, which was issued
at `t₀` and makes `claims`. -/
structure TellsLifetime (issuer : Issuer) (t₀ : Instant) (claims : Claims)
    (body : TokenResponse) : Prop where
  issued : ∃ p, issuer.issue? p t₀ = some body.tokens.access
  claimed : body.tokens.access = issuer.tokenOf claims
  inSeconds : body.expiresIn.toInt = issuer.lifetimeSeconds
  atLeast : body.expiresIn.toInt ≤ claims.expiresAt.toInt - claims.issuedAt.toInt
  atMost : claims.expiresAt.toInt - claims.issuedAt.toInt ≤ body.expiresIn.toInt + 1
  exactly : 1000 ∣ issuer.lifetime →
    claims.expiresAt.toInt - claims.issuedAt.toInt = body.expiresIn.toInt
  accepted : ∀ t, 60000 ≤ t → t ≤ t₀ + 1000 * body.expiresIn.toInt →
    issuer.verify body.tokens.access t = some claims

variable {s : Service} {shown : Instant → Prop} {p : Profile} {t₀ : Instant} {tokens : Tokens}

theorem tellsLifetime_of_issue? (h : s.issuer.issue? p t₀ = some tokens.access) (h₀ : 0 ≤ t₀) :
    ∃ claims, TellsLifetime s.issuer t₀ claims (tokenResponse s tokens) := by
  obtain ⟨claims, htoken, -, -, hexpiry, hissue⟩ := Issuer.claims_of_issue? h
  have hfits : t₀ + s.issuer.lifetime ≤ Clock.latest := by
    refine Int.not_lt.1 fun hlate => ?_
    rw [(Issuer.issue?_eq_none_iff h₀).2 hlate] at h
    cases h
  have hpos := s.issuer.lifetime_pos
  have hissued : claims.issuedAt.toInt = Clock.seconds t₀ := by
    rw [hissue]
    refine Int64.toInt_ofInt_of_le ?_ ?_ <;>
      · unfold Clock.latest Clock.seconds Instant Duration at *
        omega
  have htold : (tokenResponse s tokens).expiresIn.toInt = s.issuer.lifetimeSeconds := by
    refine Int64.toInt_ofInt_of_le ?_ ?_ <;>
      · unfold Issuer.lifetimeSeconds Clock.latest Clock.seconds Instant Duration at *
        omega
  obtain ⟨hleast, hmost⟩ := Clock.seconds_add t₀ s.issuer.lifetime
  refine ⟨claims, ⟨p, h⟩, htoken, htold, ?_, ?_, fun hwhole => ?_, fun t ht hlast => ?_⟩
  · rw [htold, hexpiry, hissued]
    exact hleast
  · rw [htold, hexpiry, hissued]
    exact hmost
  · rw [htold, hexpiry, hissued]
    exact Clock.seconds_add_of_dvd t₀ hwhole
  · show s.issuer.verify tokens.access t = some claims
    rw [htoken, Issuer.verify_tokenOf]
    refine if_pos ?_
    rw [htold] at hlast
    -- the last second that is told is not after the one that is claimed
    rw [AccessToken.expired, decide_eq_true_iff, hexpiry]
    unfold AccessToken.leeway Issuer.lifetimeSeconds Clock.seconds Instant Duration at *
    omega

/-! ## Over the wire -/

/-- The access token in a response was issued while the request was answered, and is told of as it
is. -/
def Told (s : Service) (shown : Instant → Prop) (response : Response) : Prop :=
  ∃ t₀ claims body, shown t₀ ∧ TokenResponse.decode (Bytes.ofString response.body) = .ok body ∧
    TellsLifetime s.issuer t₀ claims body

theorem yields_answerTokens {α : Type} {r : Request} {form : Json.Form α} {act : α → Program Tokens}
    (h : ∀ a, (act a).Yields shown fun tokens => s.AnswersWhile shown (.tokens tokens))
    (h₀ : ∀ t, shown t → 0 ≤ t) :
    (answerTokens s r form act).Yields shown fun response =>
      response.status = 200 → Told s shown response := by
  have hfails : ∀ e : ApiError, e.response.status ≠ 200 := by
    intro e
    cases e <;> simp [ApiError.response, ApiError.status, Response.json]
  unfold answerTokens answerWith
  cases r.read form with
  | error rejection => exact fun hstatus => absurd hstatus (hfails _)
  | ok a =>
    refine yields_bind.2 ?_
    unfold attempt
    refine yields_bind.2 (yields_result ((h a).mono fun tokens hanswers _ => ?_) fun e hstatus =>
      absurd hstatus (hfails _))
    obtain ⟨t₀, p, ht₀, hissue⟩ := hanswers tokens rfl
    obtain ⟨claims, htells⟩ := tellsLifetime_of_issue? hissue (h₀ t₀ ht₀)
    exact ⟨t₀, claims, _, ht₀, TokenResponse.decode_written _, htells⟩

theorem yields_answerFree {draws : Draws} {r : Request} {e : FreeEndpoint} (he : e ≠ .health)
    (h₀ : ∀ t, shown t → 0 ≤ t) :
    (answerFree s draws r e).Yields shown fun response =>
      response.status = 200 → Told s shown response := by
  cases e with
  | health => exact absurd rfl he
  | loginUsername =>
    refine yields_answerTokens (fun a => ?_) h₀
    exact yields_bind.1
      (s.yields_perform (.loginUsername draws a.username a.password a.deviceKey) shown)
  | register =>
    refine yields_answerTokens (fun a => ?_) h₀
    exact yields_bind.1
      (s.yields_perform (.registerUsername draws a.username a.password a.deviceKey) shown)
  | loginAnonymous =>
    refine yields_answerTokens (fun a => ?_) h₀
    exact yields_bind.1 (s.yields_perform (.loginAnonymous draws a.deviceKey) shown)
  | refresh =>
    refine yields_answerTokens (fun a => ?_) h₀
    exact yields_bind.1 (s.yields_perform (.refresh draws a.refreshToken a.deviceKey) shown)

/-- What callers are told of the lifetime agrees with the token that they are given. Settings only
ask for whole seconds; a token that is issued within the calendar is told of as it is; and so it is
over HTTP, however the clock goes on and whatever the store answers, at every endpoint that answers
with tokens. -/
theorem told_lifetime_agrees :
    (∀ (c : Settings) (issuer : Issuer), c.issuer = .ok issuer → 1000 ∣ issuer.lifetime) ∧
    (∀ (s : Service) (p : Profile) (t₀ : Instant) (refresh : Option String), 0 ≤ t₀ →
      t₀ + s.issuer.lifetime ≤ Clock.latest →
      ∃ access claims, s.issuer.issue? p t₀ = some access ∧
        TellsLifetime s.issuer t₀ claims (tokenResponse s ⟨access, refresh⟩)) ∧
    ∀ (s : Service) (draws : Draws) (r : Request) (e : FreeEndpoint) (shown : Instant → Prop),
      r.method = "POST" → r.path = (Endpoint.free e).path → e ≠ .health →
      (∀ t, shown t → 0 ≤ t) →
      (handle s draws r).Yields shown fun response =>
        response.status = 200 → Told s shown response := by
  refine ⟨fun _ _ => Settings.dvd_lifetime, ?_, ?_⟩
  · intro s p t₀ refresh h₀ hrange
    have hissues : s.issuer.issue? p t₀ ≠ none := by
      rw [ne_eq, Issuer.issue?_eq_none_iff h₀]
      exact Int.not_lt.2 hrange
    obtain ⟨access, hissue⟩ := Option.ne_none_iff_exists'.1 hissues
    have htoken : s.issuer.issue? p t₀ = some (Tokens.mk access refresh).access := hissue
    obtain ⟨claims, htells⟩ := tellsLifetime_of_issue? htoken h₀
    exact ⟨access, claims, hissue, htells⟩
  · intro s draws r e shown hmethod hpath he h₀
    have hcalls : ∃ call, e.call? s draws r = some call := by
      cases e with
      | health => exact absurd rfl he
      | loginUsername | register | loginAnonymous | refresh => exact ⟨_, rfl⟩
    obtain ⟨call, hcall⟩ := hcalls
    rw [handle_of_call? hmethod hpath hcall]
    exact yields_answerFree he h₀

/-- The service whose access tokens live for a second and a half. -/
def shortLived : Service :=
  ⟨⟨[1], [1], 1500, List.cons_ne_nil _ _, List.cons_ne_nil _ _, by decide⟩, 1000⟩

/-- Settings that give an issuer, a token for a known profile, and a first login on a device: its
token is told to live for a second, and a second later it is accepted. -/
theorem shortLived_told :
    let r := posted "/v1/auth/login/anonymous" [] (.object [("device_key", .text "tablet")])
    (∃ issuer, (⟨"secret", none, 15⟩ : Settings).issuer = .ok issuer ∧ 1000 ∣ issuer.lifetime) ∧
    (∃ access claims, shortLived.issuer.issue? Issuer.quotedName 999 = some access ∧
      TellsLifetime shortLived.issuer 999 claims (tokenResponse shortLived ⟨access, none⟩)) ∧
    r.method = "POST" ∧ r.path = (Endpoint.free .loginAnonymous).path ∧
    ∃ response claims body,
      ((handle shortLived (.sample "first") r).run 60999 .empty).1 = .ok response ∧
      response.status = 200 ∧ TokenResponse.decode (Bytes.ofString response.body) = .ok body ∧
      shortLived.issuer.verify body.tokens.access 61999 = some claims := by
  intro r
  obtain ⟨hsettings, hissues, hhandles⟩ := told_lifetime_agrees
  have haccepted : ∃ issuer, (⟨"secret", none, 15⟩ : Settings).issuer = .ok issuer := ⟨_, rfl⟩
  obtain ⟨issuer, hissuer⟩ := haccepted
  have hpath : r.path = (Endpoint.free .loginAnonymous).path := by decide +kernel
  have hcall := call?_tabletLogin shortLived (.sample "first")
  have hnow : shortLived.InCalendar 60999 := by decide
  obtain ⟨response, hrun, hreports⟩ := (answers_answerFree hcall).reported _ rfl Store
    (Store.apply 60999) 60999 .empty (runWith_ne_overflow (fits_of_call? hnow hcall) Store.empty)
  have hresponse : ((handle shortLived (.sample "first") r).run 60999 .empty).1 = .ok response := by
    rw [handle_of_call? rfl hpath hcall, run, hrun]
  have hstatus : response.status = 200 := hreports.ok_iff.2 ⟨_, rfl⟩
  have hyields := hhandles shortLived (.sample "first") r .loginAnonymous (· = 60999) rfl hpath
    (by decide) (by rintro _ rfl; decide)
  obtain ⟨_, claims, body, rfl, hdecode, htells⟩ :=
    of_run_ensures (ensures_of_yields hyields) hresponse hstatus
  exact ⟨⟨issuer, hissuer, hsettings _ _ hissuer⟩, hissues shortLived Issuer.quotedName 999 none
    (by decide) (by decide), rfl, hpath, response, claims, body, hresponse, hstatus, hdecode,
    htells.accepted 61999 (by decide) (by rw [htells.inSeconds]; decide)⟩

end Http

end Latchkey
