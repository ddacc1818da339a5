/-
What an access token is worth. Every access token in a history was issued by the call that returned
it, at its instant, for an account that is still in the store (`traced_run`). So it authenticates
that account, as it is stored now, until the account is deleted or a minute has gone by since the
token expired (`authenticate_returned_token`).
-/
import Latchkey.Proofs.AccessToken.RoundTrip
import Latchkey.Proofs.Program.Alone
import Latchkey.Proofs.Service.Bookkeeping
import Latchkey.Proofs.Service.Refresh

namespace Latchkey

open Operation (Result)

/-! ## When a token was issued -/

namespace Service

open Program

variable {s : Service} {shown : Instant → Prop}

/-- The access token in an answer, if there is one, was issued at `now`. -/
def AnswersAt (s : Service) (now : Instant) (result : Result) : Prop :=
  ∀ tokens, result = .tokens tokens → ∃ p, s.issuer.issue? p now = some tokens.access

/-- The access token in an answer, if there is one, was issued at an instant that the clock
showed. -/
def AnswersWhile (s : Service) (shown : Instant → Prop) (result : Result) : Prop :=
  ∀ tokens, result = .tokens tokens → ∃ t₀ p, shown t₀ ∧ s.issuer.issue? p t₀ = some tokens.access

theorem yields_issueAccess {p : Profile} {post : String → Prop}
    (h : ∀ t₀ access, shown t₀ → s.issuer.issue? p t₀ = some access → post access) :
    (s.issueAccess p).Yields shown post := by
  rw [issueAccess_eq]
  intro t₀ ht₀
  show Yields shown post ((s.issuer.issue? p t₀).elim .overflow .done)
  cases hi : s.issuer.issue? p t₀ with
  | none => trivial
  | some access => exact h t₀ access ht₀ hi

theorem answersWhile_tokens {p : Profile} {t₀ : Instant} {access : String}
    {refresh : Option String} (ht₀ : shown t₀) (h : s.issuer.issue? p t₀ = some access) :
    s.AnswersWhile shown (.tokens ⟨access, refresh⟩) := by
  rintro tokens he
  cases he
  exact ⟨t₀, p, ht₀, h⟩

theorem yields_issueTokens (draws : Draws) (p : Profile) (deviceKey : Option String) :
    (do return Result.tokens (← s.issueTokens draws p deviceKey)).Yields shown
      (s.AnswersWhile shown) := by
  cases deviceKey with
  | none =>
    simp only [issueTokens, bind_assoc, pure_bind]
    exact yields_bind.2 (yields_issueAccess fun t₀ access ht₀ hi => answersWhile_tokens ht₀ hi)
  | some deviceKey =>
    simp only [issueTokens, bind_assoc, pure_bind]
    refine yields_bind.2 (yields_issueAccess fun t₀ access ht₀ hi => ?_)
    exact yields_bind_of_forall fun refresh => answersWhile_tokens ht₀ hi

/-- Whatever the store answers, an operation returns access tokens that it has issued itself. -/
theorem yields_perform (s : Service) (op : Operation) (shown : Instant → Prop) :
    (s.perform op).Yields shown (s.AnswersWhile shown) := by
  cases op with
  | loginUsername draws username password deviceKey =>
    simp only [perform, loginUsername, bind_assoc]
    refine yields_bind_of_forall fun _ => yields_bind_of_forall fun _ => ?_
    refine yields_bind_of_forall fun _ => yields_bind_of_forall fun p => ?_
    exact yields_issueTokens draws p deviceKey
  | registerUsername draws username password deviceKey =>
    simp only [perform, registerUsername, bind_assoc]
    refine yields_bind_of_forall fun _ => yields_bind_of_forall fun _ => ?_
    refine yields_bind_of_forall fun _ => yields_bind_of_forall fun p => ?_
    exact yields_issueTokens draws p deviceKey
  | loginAnonymous draws deviceKey =>
    simp only [perform, loginAnonymous, bind_assoc]
    refine yields_bind_of_forall fun _ => yields_bind_of_forall fun p => ?_
    exact yields_issueTokens draws p (some deviceKey)
  | refresh draws token deviceKey =>
    simp only [perform, refresh, bind_assoc, pure_bind]
    refine yields_bind_of_forall fun _ => yields_bind_of_forall fun _ => ?_
    refine yields_bind_of_forall fun userId => yields_bind_of_forall fun p? => ?_
    refine yields_bind_of_forall fun p => yields_bind.2 (yields_issueAccess ?_)
    intro t₀ access ht₀ hi
    exact yields_bind_of_forall fun renewed => answersWhile_tokens ht₀ hi
  | logout userId deviceKey =>
    refine yields_bind_of_forall fun _ tokens he => ?_
    cases he
  | authenticate token =>
    refine yields_bind_of_forall fun p tokens he => ?_
    cases he

theorem ensures_perform (s : Service) (op : Operation) (now : Instant) :
    (s.perform op).Ensures now (s.AnswersAt now) := by
  refine ensures_of_yields ((s.yields_perform op (· = now)).mono fun result h tokens he => ?_)
  obtain ⟨_, p, rfl, hi⟩ := h tokens he
  exact ⟨p, hi⟩

end Service

/-! ## Whom a token was issued for -/

/-- What an answer is about is an account that is live when the call ends. -/
theorem Service.about_of_run {s : Service} {op : Operation} {m : Knowledge} {p : Program Result}
    (h : s.Underway op m p) {now : Instant} {store : Store}
    (hm : ∀ u, m.account = some u → (store.accountById u).isSome) {result : Result}
    (hrun : (p.run now store).1 = .ok result) :
    result = .loggedOut ∨ ∃ u, result.About s.issuer u ∧
      ((p.run now store).2.accountById u).isSome := by
  induction h generalizing store with
  | answered _ _ known =>
    cases hrun
    rcases known with hout | ⟨u, hu, habout⟩
    · exact Or.inl hout
    · exact Or.inr ⟨u, habout, hm u hu⟩
  | failed => cases hrun
  | overflowed => cases hrun
  | reading next ih => exact ih now hm hrun
  | asking may next ih => exact ih _ (fun u hu => accountById_of_heard may hm hu) hrun
  | @storing m draws userId deviceKey t expiresAt access k hd hk given known clock expiry names
      refused stored =>
    rw [← Program.run_advance] at hrun ⊢
    rcases rotate_rotationOf s op draws userId deviceKey expiresAt now store with
      ⟨hr, -⟩ | ⟨hr, -⟩
    · rw [Program.advance_rotate_ok hr, stored] at hrun ⊢
      cases hrun
      exact Or.inr ⟨userId, names, hm userId known⟩
    · rw [Program.advance_rotate_error hr, refused] at hrun
      cases hrun

/-! ## Tokens in a history -/

/-- Ids are not shared, and every access token in the history was issued at the instant of its call
for an account that is in the store. -/
structure Traced (s : Service) (l : Life) : Prop where
  ids : l.store.DistinctIds
  issued : ∀ t op tokens, Entry.call t op (.ok (.tokens tokens)) ∈ l.history →
    ∃ p, s.issuer.issue? p t = some tokens.access ∧ p.id ∈ l.store.accounts.map (·.id)

theorem Life.store_after (s : Service) (l : Life) (t : Instant) (deed : Deed) :
    ∃ events, (l.after s t deed).store = l.store.replay events := by
  cases deed with
  | call op => exact Program.store_run t _ l.store
  | insertAccount account => exact ⟨[(t, .request (.insertAccount account))], rfl⟩
  | softDelete id => exact ⟨[(t, .softDelete id)], rfl⟩

theorem traced_after {s : Service} {l : Life} (h : Traced s l) (t : Instant) (deed : Deed) :
    Traced s (l.after s t deed) := by
  obtain ⟨events, hstore⟩ := l.store_after s t deed
  have hids : (l.after s t deed).store.DistinctIds := hstore ▸ Store.distinctIds_replay h.ids events
  have hold : ∀ t' op tokens, Entry.call t' op (.ok (.tokens tokens)) ∈ l.history →
      ∃ p, s.issuer.issue? p t' = some tokens.access ∧
        p.id ∈ (l.after s t deed).store.accounts.map (·.id) := by
    intro t' op tokens hmem
    obtain ⟨p, hissue, hid⟩ := h.issued t' op tokens hmem
    exact ⟨p, hissue, hstore ▸ Store.idTaken_replay hid events⟩
  refine ⟨hids, fun t' op tokens hmem => ?_⟩
  cases deed with
  | insertAccount account =>
    rcases List.mem_cons.1 hmem with he | hmem
    · cases he
    · exact hold t' op tokens hmem
  | softDelete id =>
    rcases List.mem_cons.1 hmem with he | hmem
    · cases he
    · exact hold t' op tokens hmem
  | call op' =>
    rcases List.mem_cons.1 hmem with he | hmem
    · injection he with ht hop hrun
      subst ht hop
      obtain ⟨p, hissue⟩ :=
        Program.of_run_ensures (s.ensures_perform op t') hrun.symm tokens rfl
      rcases Service.about_of_run (s.underway_perform op) (fun u hu => by cases hu) hrun.symm with
        hout | ⟨u, hnames, hlive⟩
      · cases hout
      · -- the token names the account that the store vouched for
        obtain rfl := Issuer.names_unique (Issuer.names_of_issue? hissue) hnames
        obtain ⟨a, ha, hid, -⟩ := Store.accountById_isSome_iff.1 hlive
        exact ⟨p, hissue, List.mem_map.2 ⟨a, ha, hid⟩⟩
    · exact hold t' op tokens hmem

theorem traced_run (s : Service) (deeds : List (Instant × Deed)) :
    Traced s (Life.new.run s deeds) := by
  induction deeds using List.reverseRecOn with
  | nil => exact ⟨List.nodup_nil, fun _ _ _ h => by cases h⟩
  | append_singleton deeds deed ih =>
    rw [Life.run_concat]
    exact traced_after ih deed.1 deed.2

/-! ## What a profile shows -/

/-- A limit that is not there or lies ahead. -/
def Ahead (limit : Option Instant) (t : Instant) : Prop := ∀ u, limit = some u → t < u

/-- At `t` the profile shows the account: its credits unless they have lapsed, and its subscription
exactly if it is active, has not lapsed and is completely described. -/
structure Account.ShownAt (a : Account) (t : Instant) (p : Profile) : Prop where
  id : p.id = a.id
  name : p.name = a.name
  authMethod : p.authMethod = a.authMethod
  isNewUser : p.isNewUser = a.isNewUser
  customerId : p.customerId = a.customerId
  credits : Ahead a.creditsExpireAt t → p.credits = a.credits
  lapsedCredits : ¬ Ahead a.creditsExpireAt t → p.credits = 0
  subscription : ∀ sub, p.subscription = some sub ↔
    a.status = some activeStatus ∧ Ahead a.subscriptionExpiresAt t ∧ a.plan = some sub.plan ∧
      a.planType = some sub.planType ∧ a.period = some sub.period ∧ sub.status = activeStatus

theorem lapsed_eq_false_iff {limit : Option Instant} {t : Instant} :
    lapsed limit t = false ↔ Ahead limit t := by
  cases limit with
  | none => exact ⟨fun _ u hu => (by cases hu), fun _ => rfl⟩
  | some u =>
    show decide (u ≤ t) = false ↔ _
    rw [decide_eq_false_iff_not, Int.not_le]
    exact ⟨fun h v hv => Option.some.inj hv ▸ h, fun h => h u rfl⟩

theorem Account.shownAt_profileAt (a : Account) (t : Instant) : a.ShownAt t (a.profileAt t) := by
  refine ⟨rfl, rfl, rfl, rfl, rfl, fun h => ?_, fun h => ?_, fun sub => ?_⟩
  · exact if_neg (by rw [lapsed_eq_false_iff.2 h]; exact Bool.false_ne_true)
  · exact if_pos (Bool.not_eq_false _ ▸ mt lapsed_eq_false_iff.1 h)
  · show a.subscriptionAt t = some sub ↔ _
    unfold subscriptionAt
    rw [← lapsed_eq_false_iff]
    by_cases hstatus : a.status = some activeStatus
    · cases hlapsed : lapsed a.subscriptionExpiresAt t with
      | true => simp
      | false =>
        rw [if_neg (by simp [hstatus])]
        simp only [hstatus, Option.bind_eq_bind, Option.bind_eq_some_iff, Option.pure_def,
          Option.some.injEq, true_and]
        constructor
        · rintro ⟨plan, hplan, planType, htype, period, hperiod, status, rfl, rfl⟩
          exact ⟨hplan, htype, hperiod, rfl⟩
        · rintro ⟨hplan, htype, hperiod, hactive⟩
          exact ⟨_, hplan, _, htype, _, hperiod, _, rfl, by rw [← hactive]⟩
    · simp [hstatus]

/-! ## Authentication -/

theorem Identity.run_resolveById (id : String) (t : Instant) (store : Store) :
    (resolveById id).run t store =
      (.ok ((store.accountById id).map (·.profileAt t)), store) := by
  have hanswer : Store.apply t (.accountById id) store = (.ok (store.accountById id), store) := rfl
  show Program.run t (.call (.accountById id) _) store = _
  rw [Program.run_call, hanswer]
  cases store.accountById id <;> rfl

/-- Authentication looks up the account that a verified token names. -/
theorem Service.run_authenticate (s : Service) (token : String) (t : Instant) (store : Store) :
    (s.authenticate token).run t store =
      (match (s.issuer.verify token t).bind fun claims => store.accountById claims.id with
        | some a => .ok (a.profileAt t)
        | none => .error .badAccessToken, store) := by
  show Program.run t (do
    let claims ← Program.orFail (s.issuer.verify token t) .badAccessToken
    let p? ← Identity.resolveById claims.id
    Program.orFail p? .badAccessToken) store = _
  cases s.issuer.verify token t with
  | none => rfl
  | some claims =>
    show Program.run t (do
      let p? ← Identity.resolveById claims.id
      Program.orFail p? .badAccessToken) store = _
    rw [Program.run_bind, Identity.run_resolveById]
    show Program.run t (Program.orFail ((store.accountById claims.id).map _) _) store =
      (match store.accountById claims.id with | some a => _ | none => _, store)
    cases store.accountById claims.id <;> rfl

/-- Whatever has been done since a call at `t₀` returned an access token: the token names one
account of the store, and it authenticates this account as it is stored now exactly as long as the
account has not been deleted and no minute has gone by since the token expired. -/
theorem authenticate_returned_token (s : Service) (deeds : List (Instant × Deed)) {t₀ : Instant}
    {op : Operation} {tokens : Tokens}
    (hreturned : Entry.call t₀ op (.ok (.tokens tokens)) ∈ (Life.new.run s deeds).history)
    {t : Instant} (ht : 60000 ≤ t) :
    let store := (Life.new.run s deeds).store
    ∃ a ∈ store.accounts, (∀ b ∈ store.accounts, b.id = a.id → b = a) ∧
      s.issuer.Names tokens.access a.id ∧ a.ShownAt t (a.profileAt t) ∧
      (s.authenticate tokens.access).run t store =
        (if a.deletedAt = none ∧ t / 1000 ≤ (t₀ + s.issuer.lifetime) / 1000 + 60 then
            .ok (a.profileAt t)
          else .error .badAccessToken, store) := by
  intro store
  have htraced := traced_run s deeds
  obtain ⟨p, hissue, hid⟩ := htraced.issued t₀ op tokens hreturned
  obtain ⟨a, ha, hid⟩ := List.mem_map.1 hid
  obtain ⟨claims, -, hclaims, -, -, -, hverify⟩ := Issuer.verify_of_issue? hissue ht
  refine ⟨a, ha, fun b hb => htraced.ids.eq ha hb, hid ▸ Issuer.names_of_issue? hissue,
    a.shownAt_profileAt t, ?_⟩
  change s.issuer.verify tokens.access t =
    if t / 1000 ≤ (t₀ + s.issuer.lifetime) / 1000 + 60 then some claims else none at hverify
  rw [s.run_authenticate, hverify]
  by_cases hwindow : t / 1000 ≤ (t₀ + s.issuer.lifetime) / 1000 + 60
  · rw [if_pos hwindow, Option.bind_some, hclaims, ← hid, Store.accountById_of_mem htraced.ids ha]
    cases hlive : a.deletedAt with
    | none => simp [Account.live, hlive, hwindow]
    | some u => simp [Account.live, hlive]
  · rw [if_neg hwindow, if_neg fun h => hwindow h.2]
    rfl

/-- A subscriber from elsewhere, whose credits and subscription will lapse. -/
def subscriber : Account :=
  { Account.fresh "subscriber" "customer" .anonymous "phone" none 0 with
    credits := 40, creditsExpireAt := some 200000, plan := some "premium",
    planType := some "single", period := some "monthly", status := some activeStatus,
    subscriptionExpiresAt := some 121999 }

/-- The subscriber logs in, refreshes and logs out. -/
def subscriberLife : List (Instant × Deed) :=
  [(0, .insertAccount subscriber), (1000, .call (.loginAnonymous (.sample "first") "phone")),
    (1500, .call (.refresh (.sample "second") "first token" "phone")),
    (1600, .call (.logout "subscriber" "phone"))]

theorem subscriber_authenticated :
    let life := Life.new.run .sample subscriberLife
    ∃ tokens, Entry.call 1000 (.loginAnonymous (.sample "first") "phone") (.ok (.tokens tokens)) ∈
        life.history ∧
      (60000 : Instant) ≤ 121999 ∧ (60000 : Instant) ≤ 122000 ∧
      Service.sample.issuer.Names tokens.access "subscriber" ∧
      (∃ p, ((Service.sample.authenticate tokens.access).run 121999 life.store).1 = .ok p ∧
        p.credits = 40 ∧ p.subscription = none) ∧
      ((Service.sample.authenticate tokens.access).run 122000 life.store).1 =
        .error .badAccessToken := by
  intro life
  have hlogin : ∃ tokens, Entry.call 1000 (.loginAnonymous (.sample "first") "phone")
      (.ok (.tokens tokens)) ∈ life.history := by
    have hrun : ∃ tokens, ((Service.sample.perform
        (.loginAnonymous (.sample "first") "phone")).run 1000 ⟨[subscriber], []⟩).1 =
          .ok (.tokens tokens) := ⟨_, rfl⟩
    obtain ⟨tokens, hrun⟩ := hrun
    exact ⟨tokens, hrun ▸ List.mem_cons_of_mem _ (List.mem_cons_of_mem _ List.mem_cons_self)⟩
  obtain ⟨tokens, hreturned⟩ := hlogin
  have haccounts : life.store.accounts = [subscriber] := by decide +kernel
  obtain ⟨a, ha, -, hnames, -, hrun⟩ :=
    authenticate_returned_token .sample subscriberLife hreturned (t := 121999) (by decide)
  obtain ⟨b, hb, -, -, -, hlate⟩ :=
    authenticate_returned_token .sample subscriberLife hreturned (t := 122000) (by decide)
  obtain rfl := List.mem_singleton.1 (haccounts ▸ ha)
  obtain rfl := List.mem_singleton.1 (haccounts ▸ hb)
  refine ⟨tokens, hreturned, by decide, by decide, hnames,
    ⟨subscriber.profileAt 121999, ?_, ?_, ?_⟩, ?_⟩
  · rw [hrun]
    rfl
  · decide
  · decide
  · rw [hlate]
    rfl

end Latchkey
