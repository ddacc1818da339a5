/-
Which refresh tokens a service accepts, read off its history: a refresh goes through exactly if its
token is current for some account on the device and has not expired (`refresh_ok_iff_redeemable`).
-/
import Latchkey.Proofs.Service.Bookkeeping
import Latchkey.Proofs.Service.Refresh
import Latchkey.Proofs.Store.Session
import Latchkey.Proofs.Text.Trim

namespace Latchkey

open Operation (Result)

/-! ## Tokens that can be redeemed -/

/-- The token is current and has not expired at `t`. -/
def Redeemable (s : Service) (history : List Entry) (userId deviceKey raw : String)
    (t : Instant) : Prop :=
  ∃ t₀, Current s.issuer history userId deviceKey raw t₀ ∧ t < t₀ + s.refreshLifetime

variable {s : Service} {deeds : List (Instant × Deed)} {l : Life} {draws : Draws}
  {userId deviceKey raw : String} {t : Instant}

/-- A token that can be redeemed has a valid row, which has its hash to itself, and a live
account. -/
theorem row_of_redeemable (h : Kept s deeds l)
    (hr : Redeemable s l.history userId deviceKey raw t) :
    (l.store.accountById userId).isSome ∧
    ∃ r, l.store.Sole r ∧ r.validAt t = true ∧ r.userId = userId ∧ r.deviceKey = deviceKey ∧
      r.tokenHash = s.issuer.hashToken raw := by
  obtain ⟨t₀, hc, hlt⟩ := hr
  obtain ⟨-, haccount, r, hmem, hn, hof⟩ := h.live userId deviceKey raw t₀ hc
  refine ⟨haccount, r, Store.sole_of_mem h.distinct hmem, RefreshRow.validAt_iff.2 ⟨hn, ?_⟩,
    hof.userId, hof.deviceKey, hof.tokenHash⟩
  rw [hof.expiresAt]
  exact hlt

/-- A token can be redeemed for one account. -/
theorem redeemable_unique (h : Kept s deeds l) {u : String}
    (hr : Redeemable s l.history userId deviceKey raw t)
    (hr' : Redeemable s l.history u deviceKey raw t) : u = userId := by
  obtain ⟨-, r, hs, -, rfl, -, hhash⟩ := row_of_redeemable h hr
  obtain ⟨-, r', hs', -, rfl, -, hhash'⟩ := row_of_redeemable h hr'
  rw [hs.eq r' hs'.mem (hhash'.trans hhash.symm)]

theorem run_of_redeemable (h : Kept s deeds l) (hc : s.InCalendar t)
    (hraw : Text.isBlank raw = false) (hr : Redeemable s l.history userId deviceKey raw t) :
    ∃ access, ((s.perform (.refresh draws raw deviceKey)).run t l.store).1 =
      .ok (.tokens ⟨access, some draws.token⟩) := by
  obtain ⟨haccount, r, hs, hv, rfl, rfl, hhash⟩ := row_of_redeemable h hr
  have howner := Store.ownerOf_sole hs hv
  have hheld := Store.holds_sole hs hv
  rw [hhash] at howner hheld
  have hrun := Service.run_of_refreshing
    (Service.refreshing_perform s draws hraw (h.devices r hs.mem)) hc l.store
  rcases hrun with hok | ⟨-, hlost⟩
  · exact hok
  · rw [hlost r.userId (Or.inl rfl) howner haccount] at hheld
    cases hheld

/-- A refresh that goes through redeems its token: that could be redeemed for some account, the
access token names the account, and the token that was drawn is what is current from then on. -/
theorem redeemable_of_run (h : Kept s deeds l) (hlast : ∀ deed ∈ deeds, deed.1 ≤ t)
    (hinj : ∀ token ∈ Life.drawn deeds,
      s.issuer.hashToken token = s.issuer.hashToken raw → token = raw) {result : Result}
    (hrun : ((s.perform (.refresh draws raw deviceKey)).run t l.store).1 = .ok result) :
    ∃ userId access, result = .tokens ⟨access, some draws.token⟩ ∧
      s.issuer.Names access userId ∧ Redeemable s l.history userId deviceKey raw t ∧
      Current s.issuer (l.after s t (.call (.refresh draws raw deviceKey))).history userId deviceKey
        draws.token t := by
  obtain ⟨m, store, hc, ⟨-, hout⟩ | ⟨result', hok, hd⟩⟩ :=
    Service.underway_run (calm_quiet fun _ _ he => by cases he)
      (s.underway_perform (.refresh draws raw deviceKey)) (calm_nothing h.ids t)
  · cases (hout result hrun).2
  rw [hrun] at hok
  cases hok
  generalize ((s.perform _).run t l.store).2 = store' at hd
  obtain ⟨draws_eq, device_eq, -, known, -, -, names, held⟩ := hd
  rename_i userId t' expiresAt access
  cases draws_eq
  cases device_eq
  -- the row for which the token held is not revoked, so the history knows of it
  obtain ⟨r, hr, rfl, rfl, hhash, hn, hlt⟩ := Store.holds_iff.1 (held raw rfl)
  rw [hc.rows] at hr
  have hlive := hc.account r.userId known
  rcases h.current r hr hn with ⟨deed, hdeed, he⟩ | hg | ⟨raw', t₀, hcurrent, hof⟩
  · exact absurd hlt (Int.not_lt.2 (Int.le_trans he (hlast deed hdeed)))
  · rw [(hc.outlasts.gone _ hg).2] at hlive
    cases hlive
  · obtain ⟨hdrawn, -⟩ := h.live _ _ _ _ hcurrent
    obtain rfl := hinj raw' hdrawn (hof.tokenHash.symm.trans hhash)
    refine ⟨r.userId, access, rfl, names, ⟨t₀, hcurrent, hof.expiresAt ▸ hlt⟩, ?_⟩
    simp only [Life.after]
    rw [hrun]
    exact (current_delivered_iff rfl rfl names).2
      (Or.inl ⟨⟨⟨rfl, rfl⟩, rfl, rfl⟩, hcurrent.2⟩)

/-! ## What is accepted -/

/-- Whatever has been done up to `t`, by calls that drew opaque tokens which differ and whose hashes
differ: a refresh at `t` goes through exactly if its token can be redeemed for some account on the
device. The access token then names that account, and the new token is what is current there.
Otherwise a refresh whose arguments are not blank is told that its token is bad. -/
theorem refresh_ok_iff_redeemable (s : Service) (deeds : List (Instant × Deed)) (draws : Draws)
    (raw deviceKey : String) (t : Instant) (hlast : ∀ deed ∈ deeds, deed.1 ≤ t)
    (hcalendar : s.InCalendar t) (htokens : (Life.drawn deeds).Nodup)
    (hgenerated : ∀ token ∈ Life.drawn deeds, ∃ bytes : Bytes,
      bytes.length = OpaqueToken.length ∧ OpaqueToken.ofBytes bytes = token)
    (hhash : ∀ a ∈ raw :: Life.drawn deeds, ∀ b ∈ raw :: Life.drawn deeds,
      s.issuer.hashToken a = s.issuer.hashToken b → a = b) :
    let life := Life.new.run s deeds
    let next := life.after s t (.call (.refresh draws raw deviceKey))
    let answer := ((s.perform (.refresh draws raw deviceKey)).run t life.store).1
    ((∃ result, answer = .ok result) ↔
      ∃ userId, Redeemable s life.history userId deviceKey raw t) ∧
    (∀ userId, Redeemable s life.history userId deviceKey raw t →
      ∃ access, answer = .ok (.tokens ⟨access, some draws.token⟩) ∧
        s.issuer.Names access userId ∧
        Current s.issuer next.history userId deviceKey draws.token t) ∧
    ((¬ ∃ userId, Redeemable s life.history userId deviceKey raw t) →
      Text.isBlank raw = false → Text.isBlank deviceKey = false →
      answer = .error .badRefreshToken) := by
  intro life next answer
  have hkept : Kept s deeds life := kept_run ⟨htokens, fun a ha b hb =>
    hhash a (List.mem_cons_of_mem raw ha) b (List.mem_cons_of_mem raw hb)⟩
  have hinj : ∀ token ∈ Life.drawn deeds,
      s.issuer.hashToken token = s.issuer.hashToken raw → token = raw :=
    fun token htoken => hhash token (List.mem_cons_of_mem raw htoken) raw List.mem_cons_self
  -- what was drawn is not blank, so a token that can be redeemed is not refused as blank
  have hgiven : ∀ userId, Redeemable s life.history userId deviceKey raw t →
      Text.isBlank raw = false := by
    intro userId hr
    obtain ⟨t₀, hcurrent, -⟩ := hr
    obtain ⟨bytes, hlength, rfl⟩ := hgenerated raw (hkept.live _ _ _ _ hcurrent).1
    refine OpaqueToken.isBlank_ofBytes fun hnil => ?_
    rw [hnil] at hlength
    cases hlength
  refine ⟨⟨fun ⟨result, hrun⟩ => ?_, fun ⟨userId, hr⟩ => ?_⟩, fun userId hr => ?_,
    fun hnone hraw hdevice => ?_⟩
  · obtain ⟨userId, access, -, -, hr, -⟩ := redeemable_of_run hkept hlast hinj hrun
    exact ⟨userId, hr⟩
  · obtain ⟨access, hrun⟩ := run_of_redeemable hkept hcalendar (hgiven userId hr) hr
    exact ⟨_, hrun⟩
  · obtain ⟨access, hrun⟩ := run_of_redeemable hkept hcalendar (hgiven userId hr) hr
    -- the run redeems the token for some account, which can only be this one
    obtain ⟨u, access', he, hn, hr', hcurrent⟩ := redeemable_of_run hkept hlast hinj hrun
    cases he
    obtain rfl := redeemable_unique hkept hr hr'
    exact ⟨access, hrun, hn, hcurrent⟩
  · have hrefresh := Service.run_of_refreshing
      (Service.refreshing_perform s draws hraw hdevice) hcalendar life.store
    rcases hrefresh with ⟨access, hrun⟩ | ⟨herror, -⟩
    · obtain ⟨userId, -, -, -, hr, -⟩ := redeemable_of_run hkept hlast hinj hrun
      exact absurd ⟨userId, hr⟩ hnone
    · exact herror

/-- The draws of a call that gets nothing but zeros. -/
def Draws.zero : Draws := .ofBytes 0 (List.replicate Draws.size 0)

/-- Somebody logs in on a phone. -/
def phoneLogin : List (Instant × Deed) := [(0, .call (.loginAnonymous .zero "phone"))]

theorem phoneLogin_redeemable :
    let life := Life.new.run .sample phoneLogin
    ∃ userId access, Redeemable .sample life.history userId "phone" Draws.zero.token 999 ∧
      ((Service.sample.perform (.refresh (.sample "second") Draws.zero.token "phone")).run 999
        life.store).1 = .ok (.tokens ⟨access, some "second token"⟩) := by
  intro life
  have h := refresh_ok_iff_redeemable .sample phoneLogin (.sample "second") Draws.zero.token "phone"
    999 (by decide) (by decide) (by decide) (fun token htoken => ⟨List.replicate 64 0, rfl, by
      rw [List.mem_singleton.1 htoken]; rfl⟩)
    (fun a ha b hb _ => by
      have hdrawn : ∀ c ∈ Draws.zero.token :: Life.drawn phoneLogin, c = Draws.zero.token := by
        decide
      rw [hdrawn a ha, hdrawn b hb])
  have hredeemable : ∃ userId,
      Redeemable .sample life.history userId "phone" Draws.zero.token 999 := by
    by_contra hnone
    exact absurd (h.2.2 hnone (by decide) (by decide)) (by decide +kernel)
  obtain ⟨userId, hr⟩ := hredeemable
  obtain ⟨access, hok, -, -⟩ := h.2.1 userId hr
  exact ⟨userId, access, hr, hok⟩

end Latchkey
