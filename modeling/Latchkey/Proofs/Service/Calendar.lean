/-
The calendar and the operations: while the clock shows an instant from which both kinds of tokens
expire within the calendar, no operation overflows, whatever the store answers.
-/
import Latchkey.Proofs.Service.Enrolment

namespace Latchkey

namespace Program

variable {α β : Type} {now : Instant}

/-- While the clock shows `now`, the program does not overflow, whatever the store answers. -/
def Fits (now : Instant) : Program α → Prop
  | done _ => True
  | fail _ => True
  | overflow => False
  | clock k => (k now).Fits now
  | call _ k => ∀ a, (k a).Fits now

theorem fits_bind {p : Program α} {f : α → Program β} (hp : p.Fits now)
    (hf : ∀ a, (f a).Fits now) : (p >>= f).Fits now := by
  show (p.bind f).Fits now
  induction p with
  | done a => exact hf a
  | fail e => trivial
  | overflow => exact hp.elim
  | clock k ih => exact ih now hp
  | call r k ih => exact fun a => ih a (hp a)

theorem fits_orFail (a : Option α) (e : AuthError) : (orFail a e).Fits now := by
  cases a <;> trivial

theorem fits_ofExcept (a : Except AuthError α) : (ofExcept a).Fits now := by
  cases a <;> trivial

theorem fits_ask (r : Request) : (ask r).Fits now := fits_ofExcept

theorem fits_now : Fits now Program.now := trivial

/-- A run of a program that fits does not overflow. -/
theorem runWith_ne_overflow {σ : Type} {answer : (r : Request) → σ → r.Answer × σ} {p : Program α}
    (h : p.Fits now) (s : σ) : (p.runWith answer now s).1 ≠ .overflow := by
  induction p generalizing s with
  | done a => exact fun he => by cases he
  | fail e => exact fun he => by cases he
  | overflow => exact h.elim
  | clock k ih => exact ih now h s
  | call r k ih => exact ih _ (h _) _

end Program

namespace Service

open Program

variable {s : Service} {now : Instant}

theorem fits_require (field : Field) (value : String) : (require field value).Fits now := by
  unfold require
  split <;> trivial

theorem fits_requireIfGiven (field : Field) (value : Option String) :
    (requireIfGiven field value).Fits now := by
  cases value with
  | none => trivial
  | some v => exact fits_require field v

theorem fits_insertNew (draws : Draws) (method : AuthMethod) (authId : String)
    (hash : Option String) : (Identity.insertNew draws method authId hash).Fits now := by
  unfold Identity.insertNew
  refine fits_bind fits_now fun t => fits_bind (fits_ask _) fun written => ?_
  cases written with
  | false => trivial
  | true => exact fits_bind fits_now fun t => trivial

theorem fits_resolveAnonymous (draws : Draws) (deviceKey : String) :
    (Identity.resolveAnonymous draws deviceKey).Fits now := by
  unfold Identity.resolveAnonymous
  refine fits_bind (fits_ask _) fun known => ?_
  cases known with
  | some a => exact fits_bind fits_now fun t => trivial
  | none =>
    refine fits_bind (fits_insertNew _ _ _ _) fun made => ?_
    cases made <;> trivial

theorem fits_resolveByPassword (username password : String) :
    (Identity.resolveByPassword username password).Fits now := by
  unfold Identity.resolveByPassword
  refine fits_bind (fits_ask _) fun known => fits_bind (fits_orFail _ _) fun a => ?_
  refine fits_bind (fits_orFail _ _) fun hash => fits_bind (fits_ofExcept _) fun accepted => ?_
  cases accepted with
  | false => trivial
  | true => exact fits_bind fits_now fun t => trivial

theorem fits_register (draws : Draws) (username password : String) :
    (Identity.register draws username password).Fits now := by
  unfold Identity.register
  split
  · trivial
  · refine fits_bind (fits_ask _) fun known => ?_
    cases known with
    | some a => trivial
    | none =>
      refine fits_bind (fits_insertNew _ _ _ _) fun made => ?_
      cases made <;> trivial

theorem fits_resolveById (id : String) : (Identity.resolveById id).Fits now := by
  unfold Identity.resolveById
  refine fits_bind (fits_ask _) fun known => ?_
  cases known with
  | some a => exact fits_bind fits_now fun t => trivial
  | none => trivial

/-! ## Tokens -/

theorem fits_issueAccess (h : s.InCalendar now) (p : Profile) : (s.issueAccess p).Fits now := by
  obtain ⟨access, hissue⟩ := issue?_isSome h p
  rw [issueAccess_eq]
  show Fits now ((s.issuer.issue? p now).elim _ _)
  rw [hissue]
  trivial

theorem fits_storeDrawn (h : s.InCalendar now) (draws : Draws) (deviceKey userId : String)
    (previousHash : Option String) :
    (Session.storeDrawn s.issuer s.refreshLifetime draws deviceKey userId previousHash).Fits
      now := by
  obtain ⟨expiresAt, hshift⟩ := Option.isSome_iff_exists.1 h.2
  unfold Session.storeDrawn
  simp only [after_eq]
  show Fits now ((Clock.shift? now s.refreshLifetime).elim overflow done >>= _)
  rw [hshift]
  exact fits_bind (p := done expiresAt) trivial fun e => fits_bind (fits_ask _) fun _ => trivial

theorem fits_issueTokens (h : s.InCalendar now) (draws : Draws) (p : Profile)
    (deviceKey : Option String) : (s.issueTokens draws p deviceKey).Fits now := by
  cases deviceKey with
  | none => exact fits_bind (fits_issueAccess h p) fun access => trivial
  | some deviceKey =>
    refine fits_bind (fits_issueAccess h p) fun access => ?_
    exact fits_bind (fits_storeDrawn h _ _ _ _) fun refresh => trivial

/-! ## Operations -/

theorem fits_loginUsername (h : s.InCalendar now) (draws : Draws) (username password : String)
    (deviceKey : Option String) : (s.loginUsername draws username password deviceKey).Fits now := by
  unfold loginUsername
  refine fits_bind (fits_require _ _) fun _ => fits_bind (fits_require _ _) fun _ => ?_
  refine fits_bind (fits_requireIfGiven _ _) fun _ => ?_
  exact fits_bind (fits_resolveByPassword _ _) fun p => fits_issueTokens h draws p deviceKey

theorem fits_registerUsername (h : s.InCalendar now) (draws : Draws) (username password : String)
    (deviceKey : Option String) :
    (s.registerUsername draws username password deviceKey).Fits now := by
  unfold registerUsername
  refine fits_bind (fits_require _ _) fun _ => fits_bind (fits_require _ _) fun _ => ?_
  refine fits_bind (fits_requireIfGiven _ _) fun _ => ?_
  exact fits_bind (fits_register _ _ _) fun p => fits_issueTokens h draws p deviceKey

theorem fits_loginAnonymous (h : s.InCalendar now) (draws : Draws) (deviceKey : String) :
    (s.loginAnonymous draws deviceKey).Fits now := by
  unfold loginAnonymous
  refine fits_bind (fits_require _ _) fun _ => fits_bind (fits_resolveAnonymous _ _) fun p => ?_
  exact fits_issueTokens h draws p (some deviceKey)

theorem fits_refresh (h : s.InCalendar now) (draws : Draws) (token deviceKey : String) :
    (s.refresh draws token deviceKey).Fits now := by
  unfold refresh Session.validate Session.renew
  refine fits_bind (fits_require _ _) fun _ => fits_bind (fits_require _ _) fun _ => ?_
  refine fits_bind (fits_bind (fits_ask _) fun owner => fits_orFail _ _) fun userId => ?_
  refine fits_bind (fits_resolveById _) fun p? => fits_bind (fits_orFail _ _) fun p => ?_
  refine fits_bind (fits_issueAccess h p) fun access => ?_
  exact fits_bind (fits_storeDrawn h _ _ _ _) fun renewed => trivial

end Service

end Latchkey
