/-
The two secrets of a service serve apart. Two services that differ in their signing secrets only
make the same store calls and give the same answers, but for the signatures of their access tokens
(`inStep_perform`), and so their stores stay equal through any traffic (`paired_run`): no session
hangs on the signing secret. The hash secret, in turn, has no part in access tokens, and without a
dedicated one the signing secret takes its place (`secrets_serve_apart`).
-/
import Latchkey.Proofs.Program.InStep
import Latchkey.Proofs.Service.Failure
import Latchkey.Proofs.Service.Traffic
import Latchkey.Proofs.Settings

namespace Latchkey

open Operation (Result)

/-! ## Another signing secret -/

/-- The services differ in their signing secrets at most. -/
structure Service.Rekeyed (s s' : Service) : Prop where
  hashSecret : s'.issuer.hashSecret = s.issuer.hashSecret
  lifetime : s'.issuer.lifetime = s.issuer.lifetime
  refreshLifetime : s'.refreshLifetime = s.refreshLifetime

namespace Operation

/-- The same operation, but for the access token that is shown. -/
inductive Matches : Operation → Operation → Prop
  | same {op} : Matches op op
  | authenticate {a b} : Matches (.authenticate a) (.authenticate b)

/-- If access tokens are shown, they are worth the same, each to the issuer on its side. -/
def ShowsAlike (i j : Issuer) (op op' : Operation) : Prop :=
  ∀ a b, op = .authenticate a → op' = .authenticate b → ∀ t, j.verify b t = i.verify a t

/-- Two answers say the same: the same refresh token, and an access token of either issuer that
makes the same claims. -/
inductive Result.SaysSame (i j : Issuer) : Result → Result → Prop
  | tokens {claims : Claims} {refresh : Option String} :
      SaysSame i j (.tokens ⟨i.tokenOf claims, refresh⟩) (.tokens ⟨j.tokenOf claims, refresh⟩)
  | loggedOut : SaysSame i j .loggedOut .loggedOut
  | profile {p : Profile} : SaysSame i j (.profile p) (.profile p)

end Operation

namespace Service

open Program

variable {s s' : Service}

namespace Rekeyed

theorem hashToken_eq (h : s.Rekeyed s') : s'.issuer.hashToken = s.issuer.hashToken := by
  funext raw
  unfold Issuer.hashToken
  rw [h.hashSecret]

theorem claimsAt?_eq (h : s.Rekeyed s') : s'.issuer.claimsAt? = s.issuer.claimsAt? := by
  funext p t
  unfold Issuer.claimsAt?
  rw [h.lifetime]

theorem storeDrawn_eq (h : s.Rekeyed s') :
    Session.storeDrawn s'.issuer s'.refreshLifetime =
      Session.storeDrawn s.issuer s.refreshLifetime := by
  funext draws deviceKey userId previousHash
  unfold Session.storeDrawn
  rw [h.hashToken_eq, h.refreshLifetime]

theorem validate_eq (h : s.Rekeyed s') :
    Session.validate s'.issuer = Session.validate s.issuer := by
  funext deviceKey raw
  unfold Session.validate
  rw [h.hashToken_eq]

end Rekeyed

/-- Two access tokens make the same claims, one of either issuer. -/
def ClaimAlike (s s' : Service) (a b : String) : Prop :=
  ∃ claims, a = s.issuer.tokenOf claims ∧ b = s'.issuer.tokenOf claims

theorem inStep_issueAccess (h : s.Rekeyed s') (p : Profile) :
    (s.issueAccess p).InStep (ClaimAlike s s') (s'.issueAccess p) := by
  rw [issueAccess_eq, issueAccess_eq]
  refine .reading fun t => ?_
  unfold Issuer.issue?
  rw [h.claimsAt?_eq]
  cases s.issuer.claimsAt? p t with
  | none => exact .overflowed
  | some claims => exact .done ⟨claims, rfl, rfl⟩

theorem inStep_issueTokens (h : s.Rekeyed s') (draws : Draws) (p : Profile)
    (deviceKey : Option String) :
    (do return Result.tokens (← s.issueTokens draws p deviceKey)).InStep
      (Result.SaysSame s.issuer s'.issuer)
      (do return Result.tokens (← s'.issueTokens draws p deviceKey)) := by
  cases deviceKey with
  | none =>
    simp only [issueTokens, bind_assoc, pure_bind]
    refine inStep_bind (inStep_issueAccess h p) ?_
    rintro _ _ ⟨claims, rfl, rfl⟩
    exact .done .tokens
  | some deviceKey =>
    simp only [issueTokens, Session.rotate, h.storeDrawn_eq, bind_assoc, pure_bind]
    refine inStep_bind (inStep_issueAccess h p) ?_
    rintro _ _ ⟨claims, rfl, rfl⟩
    exact inStep_bind_self _ fun refresh => .done .tokens

/-- Whatever the clock shows and the store answers, an operation does the same under either signing
secret, and its answers say the same. -/
theorem inStep_perform (h : s.Rekeyed s') {op op' : Operation} (hop : op.Matches op')
    (hshow : op.ShowsAlike s.issuer s'.issuer op') :
    (s.perform op).InStep (Result.SaysSame s.issuer s'.issuer) (s'.perform op') := by
  have hauthenticate : ∀ a b, (∀ t, s'.issuer.verify b t = s.issuer.verify a t) →
      (s.perform (.authenticate a)).InStep (Result.SaysSame s.issuer s'.issuer)
        (s'.perform (.authenticate b)) := by
    intro a b hverify
    simp only [perform, authenticate, hverify]
    exact inStep_bind_self _ fun p => .done .profile
  cases hop with
  | @authenticate a b => exact hauthenticate a b (hshow a b rfl rfl)
  | same =>
    cases op with
    | loginUsername draws username password deviceKey =>
      simp only [perform, loginUsername, bind_assoc]
      refine inStep_bind_self _ fun _ => inStep_bind_self _ fun _ => inStep_bind_self _ fun _ => ?_
      exact inStep_bind_self _ fun p => inStep_issueTokens h draws p deviceKey
    | registerUsername draws username password deviceKey =>
      simp only [perform, registerUsername, bind_assoc]
      refine inStep_bind_self _ fun _ => inStep_bind_self _ fun _ => inStep_bind_self _ fun _ => ?_
      exact inStep_bind_self _ fun p => inStep_issueTokens h draws p deviceKey
    | loginAnonymous draws deviceKey =>
      simp only [perform, loginAnonymous, bind_assoc]
      refine inStep_bind_self _ fun _ => inStep_bind_self _ fun p => ?_
      exact inStep_issueTokens h draws p (some deviceKey)
    | refresh draws token deviceKey =>
      -- what is hashed does not depend on the signing secret, so only the issuing is left
      simp only [perform, refresh, Session.renew, h.validate_eq, h.hashToken_eq, h.storeDrawn_eq,
        bind_assoc, pure_bind]
      refine inStep_bind_self _ fun _ => inStep_bind_self _ fun _ => inStep_bind_self _ fun _ => ?_
      refine inStep_bind_self _ fun p? => inStep_bind_self _ fun p => ?_
      refine inStep_bind (inStep_issueAccess h p) ?_
      rintro _ _ ⟨claims, rfl, rfl⟩
      exact inStep_bind_self _ fun renewed => .done .tokens
    | logout userId deviceKey => exact inStep_bind_self _ fun _ => .done .loggedOut
    | authenticate token => exact hauthenticate token token (hshow token token rfl rfl)

theorem reads_authenticate (s : Service) (token : String) :
    (s.perform (.authenticate token)).Reads := by
  simp only [perform, authenticate, bind_assoc]
  refine reads_bind reads_now fun t => reads_bind (reads_orFail _ _) fun claims => ?_
  exact reads_bind (reads_resolveById _) fun p? => reads_bind (reads_orFail p? _) fun p => trivial

end Service

/-! ## Two services side by side -/

/-- What is left of two calls, one under either signing secret: they go in step, unless they show
access tokens of different worth; then all that they do is ask. -/
structure Call.Paired (s s' : Service) (c c' : Call) : Prop where
  operation : c.operation.Matches c'.operation
  inStep : c.operation.ShowsAlike s.issuer s'.issuer c'.operation →
    c.rest.InStep (Result.SaysSame s.issuer s'.issuer) c'.rest
  reads : ¬ c.operation.ShowsAlike s.issuer s'.issuer c'.operation → c.rest.Reads ∧ c'.rest.Reads

/-- The calls have ended in the same way or not yet, if they show access tokens of the same worth,
or none. -/
structure Call.AnswersSame (i j : Issuer) (c c' : Call) : Prop where
  operation : c.operation.Matches c'.operation
  outcome : c.operation.ShowsAlike i j c'.operation →
    Option.Rel (Outcome.Alike (Result.SaysSame i j)) c.rest.outcome? c'.rest.outcome?

namespace Call

variable {s s' : Service} {c c' : Call}

theorem paired_start (h : s.Rekeyed s') {op op' : Operation} (hop : op.Matches op') :
    Paired s s' (.start s op) (.start s' op') where
  operation := hop
  inStep := Service.inStep_perform h hop
  reads := by
    intro hshow
    cases hop with
    | authenticate => exact ⟨s.reads_authenticate _, s'.reads_authenticate _⟩
    | @same op =>
      -- only authentication shows an access token
      cases op with
      | authenticate => exact ⟨s.reads_authenticate _, s'.reads_authenticate _⟩
      | loginUsername | registerUsername | loginAnonymous | refresh | logout =>
        exact absurd (fun a b ha => by cases ha) hshow

theorem Paired.advance (h : Paired s s' c c') (now : Instant) (store : Store) :
    (c'.rest.advance now store).2 = (c.rest.advance now store).2 ∧
      Paired s s' (c.advance now store) (c'.advance now store) := by
  by_cases hshow : c.operation.ShowsAlike s.issuer s'.issuer c'.operation
  · obtain ⟨hstore, hnext⟩ := (h.inStep hshow).advance now store
    exact ⟨hstore, h.operation, fun _ => hnext, fun hnot => absurd hshow hnot⟩
  · obtain ⟨hc, hc'⟩ := h.reads hshow
    obtain ⟨hstore, hnext⟩ := Program.reads_advance hc now store
    obtain ⟨hstore', hnext'⟩ := Program.reads_advance hc' now store
    exact ⟨hstore'.trans hstore.symm, h.operation, fun hyes => absurd hyes hshow,
      fun _ => ⟨hnext, hnext'⟩⟩

theorem Paired.answersSame (h : Paired s s' c c') : AnswersSame s.issuer s'.issuer c c' :=
  ⟨h.operation, fun hshow => (h.inStep hshow).outcome?⟩

end Call

namespace Traffic

/-- The same event, but for the access token that a call shows. -/
inductive Event.Matches : Event → Event → Prop
  | start {op op'} (operation : op.Matches op') : Matches (.start op) (.start op')
  | advance {i} : Matches (.advance i) (.advance i)
  | other {e} : Matches (.other e) (.other e)

/-- Events at the same instants. -/
def Simultaneous (events events' : List (Instant × Event)) : Prop :=
  List.Forall₂ (fun e e' => e'.1 = e.1 ∧ e.2.Matches e'.2) events events'

/-- The stores are equal, and the calls go in pairs. -/
structure Paired (s s' : Service) (w w' : Traffic) : Prop where
  store : w'.store = w.store
  calls : List.Forall₂ (Call.Paired s s') w.calls w'.calls

theorem forall₂_getElem? {α β : Type} {R : α → β → Prop} {l : List α} {m : List β}
    (h : List.Forall₂ R l m) (i : Nat) : Option.Rel R l[i]? m[i]? := by
  induction h generalizing i with
  | nil => exact .none
  | cons hab _ ih =>
    cases i with
    | zero => exact .some hab
    | succ i => exact ih i

theorem forall₂_set {α β : Type} {R : α → β → Prop} {l : List α} {m : List β} {a : α} {b : β}
    (h : List.Forall₂ R l m) (hab : R a b) (i : Nat) : List.Forall₂ R (l.set i a) (m.set i b) := by
  induction h generalizing i with
  | nil => exact .nil
  | cons hxy hrest ih =>
    cases i with
    | zero => exact .cons hab hrest
    | succ i => exact .cons hxy (ih i)

variable {s s' : Service} {w w' : Traffic}

theorem paired_after (hkeys : s.Rekeyed s') (h : Paired s s' w w') (now : Instant) {e e' : Event}
    (he : e.Matches e') : Paired s s' (w.after s now e) (w'.after s' now e') := by
  cases he with
  | start operation =>
    exact ⟨h.store, List.rel_append h.calls (.cons (Call.paired_start hkeys operation) .nil)⟩
  | other => exact ⟨congrArg (Store.after · now _) h.store, h.calls⟩
  | @advance i =>
    have hcall := forall₂_getElem? h.calls i
    generalize hc : w.calls[i]? = c? at hcall
    generalize hc' : w'.calls[i]? = c'? at hcall
    cases hcall with
    | none =>
      rw [after_advance_none hc, after_advance_none hc']
      exact h
    | some hpair =>
      obtain ⟨hstore, hnext⟩ := hpair.advance now w.store
      rw [after_advance hc, after_advance hc', h.store]
      exact ⟨hstore, forall₂_set h.calls hnext i⟩

/-- Whatever happens, the stores stay equal and the calls go in pairs. -/
theorem paired_run (hkeys : s.Rekeyed s') (h : Paired s s' w w')
    {events events' : List (Instant × Event)} (he : Simultaneous events events') :
    Paired s s' (w.run s events) (w'.run s' events') := by
  unfold Simultaneous at he
  induction he generalizing w w' with
  | nil => exact h
  | @cons e e' _ _ hfirst _ ih =>
    obtain ⟨hnow, hmatch⟩ := hfirst
    refine ih ?_
    show Paired s s' (w.after s e.1 e.2) (w'.after s' e'.1 e'.2)
    rw [hnow]
    exact paired_after hkeys h e.1 hmatch

end Traffic

/-! ## What the secrets are for -/

namespace Issuer

variable {i j : Issuer}

theorem issue?_congr (hsecret : j.signingSecret = i.signingSecret)
    (hlifetime : j.lifetime = i.lifetime) : j.issue? = i.issue? := by
  funext p now
  unfold issue? claimsAt? tokenOf
  rw [hsecret, hlifetime]

theorem verify_congr (hsecret : j.signingSecret = i.signingSecret) : j.verify = i.verify := by
  funext token now
  unfold verify
  rw [hsecret]

/-- A token that makes certain claims is worth the same to whoever signed it. -/
theorem verify_own (i j : Issuer) (claims : Claims) (now : Instant) :
    j.verify (j.tokenOf claims) now = i.verify (i.tokenOf claims) now := by
  rw [verify_tokenOf, verify_tokenOf]

end Issuer

/-- The signing secret and the hash secret serve apart. From the same store, and with the same calls
at the same instants, two services that differ in their signing secrets have equal stores, and their
calls end alike, with the same refresh tokens and with access tokens of either that make the same
claims; and these are what each verifies its token to, up to the same instant. Two issuers that
differ in their hash secrets issue and accept the same access tokens. Settings without a hash secret
are as good as those that repeat the signing secret. -/
theorem secrets_serve_apart :
    (∀ s s' : Service, s.Rekeyed s' →
      (∀ (store : Store) (events events' : List (Instant × Traffic.Event)),
        Traffic.Simultaneous events events' →
        (Traffic.run s' ⟨store, []⟩ events').store = (Traffic.run s ⟨store, []⟩ events).store ∧
        List.Forall₂ (Call.AnswersSame s.issuer s'.issuer)
          (Traffic.run s ⟨store, []⟩ events).calls (Traffic.run s' ⟨store, []⟩ events').calls) ∧
      ∀ claims now, s'.issuer.verify (s'.issuer.tokenOf claims) now =
        s.issuer.verify (s.issuer.tokenOf claims) now ∧
        s.issuer.verify (s.issuer.tokenOf claims) now =
          if 0 ≤ claims.expiresAt.toInt ∧ ¬ AccessToken.expired claims.expiresAt now then
            some claims
          else none) ∧
    (∀ i j : Issuer, j.signingSecret = i.signingSecret → j.lifetime = i.lifetime →
      j.issue? = i.issue? ∧ j.verify = i.verify) ∧
    ∀ c : Settings, c.hashSecret = none ∨ c.hashSecret = some "" →
      c.issuer = { c with hashSecret := some c.signingSecret }.issuer := by
  refine ⟨fun s s' hkeys => ⟨?_, fun claims now => ?_⟩, ?_, fun _ =>
    Settings.issuer_of_no_hashSecret⟩
  · intro store events events' he
    have hstart : Traffic.Paired s s' ⟨store, []⟩ ⟨store, []⟩ := ⟨rfl, .nil⟩
    have hpaired := Traffic.paired_run hkeys hstart he
    exact ⟨hpaired.store, hpaired.calls.imp fun _ _ => Call.Paired.answersSame⟩
  · exact ⟨Issuer.verify_own _ _ claims now, s.issuer.verify_tokenOf claims now⟩
  · intro i j hsecret hlifetime
    exact ⟨Issuer.issue?_congr hsecret hlifetime, Issuer.verify_congr hsecret⟩

/-- The service with another signing secret. -/
def Service.rekeyed : Service :=
  ⟨{ Service.sample.issuer with signingSecret := [2], signingSecret_ne_nil := by decide }, 1000⟩

/-- Somebody logs in on a phone and refreshes, and shows an access token. -/
def phoneVisit (access : String) : List (Instant × Traffic.Event) :=
  ((0, .start (.loginAnonymous (.sample "first") "phone")) :: List.replicate 7 (0, .advance 0) ++
    (1, .start (.refresh (.sample "second") "first token" "phone")) ::
      List.replicate 6 (1, .advance 1)) ++
    (2, .start (.authenticate access)) :: List.replicate 3 (2, .advance 2)

theorem simultaneous_phoneVisit (a b : String) :
    Traffic.Simultaneous (phoneVisit a) (phoneVisit b) := by
  have hself : ∀ events, Traffic.Simultaneous events events := fun events =>
    List.forall₂_same.2 fun e _ => ⟨rfl, by
      cases e.2 with
      | start => exact .start .same
      | advance => exact .advance
      | other => exact .other⟩
  exact List.rel_append (hself _) (.cons ⟨rfl, .start .authenticate⟩ (hself _))

set_option maxRecDepth 100000 in
theorem phoneVisit_rekeyed :
    let claims : Claims := ⟨"first account", "User0", 60, 0⟩
    let events := phoneVisit (Service.sample.issuer.tokenOf claims)
    let events' := phoneVisit (Service.rekeyed.issuer.tokenOf claims)
    let w := Traffic.run .sample ⟨.empty, []⟩ events
    let w' := Traffic.run .rekeyed ⟨.empty, []⟩ events'
    let rehashing : Issuer := ⟨[1], [3], 60000, by decide, by decide, by decide⟩
    Service.sample.Rekeyed .rekeyed ∧ Traffic.Simultaneous events events' ∧
      w'.store = w.store ∧ w.store.rows.length = 2 ∧
      List.Forall₂ (Call.AnswersSame Service.sample.issuer Service.rekeyed.issuer)
        w.calls w'.calls ∧
      Service.rekeyed.issuer.verify (Service.rekeyed.issuer.tokenOf claims) 60000 = some claims ∧
      (rehashing.issue? = Service.sample.issuer.issue? ∧
        rehashing.verify = Service.sample.issuer.verify) ∧
      (⟨"secret", some "", 15⟩ : Settings).issuer =
        (⟨"secret", some "secret", 15⟩ : Settings).issuer := by
  intro claims events events' w w' rehashing
  obtain ⟨hrekeyed, hrehashed, hsettings⟩ := secrets_serve_apart
  have hkeys : Service.sample.Rekeyed .rekeyed := ⟨rfl, rfl, rfl⟩
  have hevents : Traffic.Simultaneous events events' := simultaneous_phoneVisit _ _
  obtain ⟨hrun, hverify⟩ := hrekeyed _ _ hkeys
  obtain ⟨hstore, hcalls⟩ := hrun .empty events events' hevents
  obtain ⟨hworth, hclaims⟩ := hverify claims 60000
  rw [if_pos (by decide)] at hclaims
  exact ⟨hkeys, hevents, hstore, by decide +kernel, hcalls, hworth.trans hclaims,
    hrehashed _ rehashing rfl rfl, hsettings ⟨"secret", some "", 15⟩ (.inr rfl)⟩

end Latchkey
