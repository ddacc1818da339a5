/-
The operations of a service as data, and what every one of them may do, step by step: it asks the
store for accounts, a registration or a first login adds one, a logout ends a session, and a login
or a refresh stores at most one row. It does so with its last request, for the account that the
store vouched for, and hands out the token of that row exactly if the row was stored
(`underway_perform`).
-/
import Latchkey.Proofs.AccessToken.Names
import Latchkey.Proofs.Program.Knowledge
import Latchkey.Proofs.Program.Steps
import Latchkey.Service

namespace Latchkey

/-! ## Operations -/

/-- An operation with its arguments and the draws that it may need. -/
inductive Operation
  | loginUsername (draws : Draws) (username password : String) (deviceKey : Option String)
  | registerUsername (draws : Draws) (username password : String) (deviceKey : Option String)
  | loginAnonymous (draws : Draws) (deviceKey : String)
  | refresh (draws : Draws) (token deviceKey : String)
  | logout (userId deviceKey : String)
  | authenticate (token : String)
deriving DecidableEq, Repr

namespace Operation

/-- What an operation answers. -/
inductive Result
  | tokens (tokens : Tokens)
  | loggedOut
  | profile (profile : Profile)
deriving DecidableEq, Repr

/-- The refresh token in an answer. -/
def Result.refreshToken? : Result → Option String
  | .tokens t => t.refresh
  | .loggedOut | .profile _ => none

/-- The draws of an operation that may store a row. -/
def draws? : Operation → Option Draws
  | loginUsername draws _ _ _ | registerUsername draws _ _ _ | loginAnonymous draws _
  | refresh draws _ _ => some draws
  | logout _ _ | authenticate _ => none

/-- The device on which an operation opens a session. -/
def deviceKey? : Operation → Option String
  | loginUsername _ _ _ deviceKey | registerUsername _ _ _ deviceKey => deviceKey
  | loginAnonymous _ deviceKey | refresh _ _ deviceKey => some deviceKey
  | logout _ _ | authenticate _ => none

/-- The refresh token that an operation presents. -/
def presented? : Operation → Option String
  | refresh _ token _ => some token
  | _ => none

end Operation

namespace Service

open Operation (Result)

/-- The program of an operation. -/
def perform (s : Service) : Operation → Program Result
  | .loginUsername draws username password deviceKey => do
    return .tokens (← s.loginUsername draws username password deviceKey)
  | .registerUsername draws username password deviceKey => do
    return .tokens (← s.registerUsername draws username password deviceKey)
  | .loginAnonymous draws deviceKey => do return .tokens (← s.loginAnonymous draws deviceKey)
  | .refresh draws token deviceKey => do return .tokens (← s.refresh draws token deviceKey)
  | .logout userId deviceKey => do
    logout userId deviceKey
    return .loggedOut
  | .authenticate token => do return .profile (← s.authenticate token)

end Service

/-! ## What may be left of an operation -/

/-- The account that an answer is about. -/
def Operation.Result.About (issuer : Issuer) : Result → String → Prop
  | .tokens t, id => issuer.Names t.access id
  | .loggedOut, _ => False
  | .profile p, id => p.id = id

/-- The requests of an operation that store no row. -/
def Operation.MayAsk (op : Operation) : Request → Prop
  | .rotate _ => False
  | .invalidate userId deviceKey => op = .logout userId deviceKey
  | .insertAccount a =>
    op.presented? = none ∧ a.live = true ∧ ∃ draws, op.draws? = some draws ∧ a.id = draws.accountId
  | .accountByDeviceKey _ | .accountByUsername _ | .accountById _ | .validate _ _ => True

/-- The row that an operation with certain draws stores for an account on a device. -/
def Service.rotationOf (s : Service) (op : Operation) (draws : Draws) (userId deviceKey : String)
    (expiresAt : Instant) : Rotation where
  rowId := draws.rowId
  deviceKey := deviceKey
  userId := userId
  previousHash := op.presented?.map s.issuer.hashToken
  tokenHash := s.issuer.hashToken draws.token
  expiresAt := expiresAt

/-- `s.Underway op m p`: when a call of `op` has learnt `m`, `p` may be what is left of it. It ends
without a refresh token, or behind a rotation, which is for the account and at the time that are
known and which is its last request. -/
inductive Service.Underway (s : Service) (op : Operation) :
    Knowledge → Program Operation.Result → Prop
  | answered {m result} (stateless : result.refreshToken? = none) (fresh : op.presented? = none)
      (known : result = .loggedOut ∨ ∃ id, m.account = some id ∧ result.About s.issuer id) :
      Underway s op m (.done result)
  | failed {m e} : Underway s op m (.fail e)
  | overflowed {m} : Underway s op m .overflow
  | reading {m k} (next : ∀ t, Underway s op (m.read t) (k t)) : Underway s op m (.clock k)
  | asking {m r k} (may : op.MayAsk r) (next : ∀ a, Underway s op (m.hear r a) (k a)) :
      Underway s op m (.call r k)
  | storing {m draws userId deviceKey t expiresAt access k}
      (draws_eq : op.draws? = some draws) (device_eq : op.deviceKey? = some deviceKey)
      (device_given : Text.isBlank deviceKey = false) (known : m.account = some userId)
      (clock : m.clock = some t)
      (expiry : Clock.shift? t s.refreshLifetime = some expiresAt)
      (names : s.issuer.Names access userId) (refused : ∀ e, k (.error e) = .fail e)
      (stored : k (.ok ()) = .done (.tokens ⟨access, some draws.token⟩)) :
      Underway s op m (.call (.rotate (s.rotationOf op draws userId deviceKey expiresAt)) k)

namespace Service

open Program
open Operation (Result)

variable {s : Service} {op : Operation} {m : Knowledge}

theorem underway_bind {α : Type} {p : Program α} {f : α → Program Result}
    (h : p.Gathers op.MayAsk (fun m a => s.Underway op m (f a)) m) :
    s.Underway op m (p >>= f) := by
  show s.Underway op m (p.bind f)
  -- `p` learns on its way, so what is known must be free to change
  induction p generalizing m with
  | done a => exact h
  | fail e => exact .failed
  | overflow => exact .overflowed
  | clock k ih => exact .reading fun t => ih t (h t)
  | call r k ih => exact .asking h.1 fun a => ih a (h.2 a)

/-! ## Finding out who is calling -/

theorem gathers_require {may : Request → Prop} {post : Knowledge → Unit → Prop} {field : Field}
    {value : String} (h : Text.isBlank value = false → post m ()) :
    (require field value).Gathers may post m := by
  unfold require
  cases hb : Text.isBlank value with
  | true => trivial
  | false => exact h hb

theorem gathers_requireIfGiven {may : Request → Prop} {post : Knowledge → Unit → Prop}
    {field : Field} {value : Option String}
    (h : (∀ v, value = some v → Text.isBlank v = false) → post m ()) :
    (requireIfGiven field value).Gathers may post m := by
  cases value with
  | none => exact h fun v hv => by cases hv
  | some v => exact gathers_require fun hb => h fun v' hv' => by cases hv'; exact hb

/-- The store vouched for the account of the profile. -/
def Resolved (m : Knowledge) (p : Profile) : Prop := m.account = some p.id

theorem gathers_insertNew {draws : Draws} {method : AuthMethod} {authId : String}
    {hash : Option String} (hd : op.draws? = some draws) (hp : op.presented? = none) :
    (Identity.insertNew draws method authId hash).Gathers op.MayAsk
      (fun m p? => ∀ p, p? = some p → Resolved m p) m := by
  unfold Identity.insertNew
  refine gathers_bind (gathers_now fun t => gathers_bind (gathers_ask ⟨hp, rfl, draws, hd, rfl⟩ ?_))
  intro written
  cases written with
  | false => exact fun p hp => by cases hp
  | true => exact gathers_bind (gathers_now fun t p hp => by cases hp; rfl)

theorem gathers_resolveAnonymous {draws : Draws} {deviceKey : String}
    (hd : op.draws? = some draws) (hp : op.presented? = none) :
    (Identity.resolveAnonymous draws deviceKey).Gathers op.MayAsk Resolved m := by
  unfold Identity.resolveAnonymous
  refine gathers_bind (gathers_ask trivial fun known => ?_)
  cases known with
  | some a => exact gathers_bind (gathers_now fun t => rfl)
  | none =>
    refine gathers_bind (gathers_mono (fun m p? h => ?_) (gathers_insertNew hd hp))
    cases p? with
    | some p => exact h p rfl
    | none => trivial

theorem gathers_resolveByPassword {username password : String} :
    (Identity.resolveByPassword username password).Gathers op.MayAsk Resolved m := by
  unfold Identity.resolveByPassword
  refine gathers_bind (gathers_ask trivial fun known => ?_)
  refine gathers_bind (gathers_orFail fun a ha => ?_)
  subst ha
  refine gathers_bind (gathers_orFail fun hash _ => gathers_bind (gathers_ofExcept fun ok _ => ?_))
  cases ok with
  | true => exact gathers_bind (gathers_now fun t => rfl)
  | false => trivial

theorem gathers_register {draws : Draws} {username password : String}
    (hd : op.draws? = some draws) (hp : op.presented? = none) :
    (Identity.register draws username password).Gathers op.MayAsk Resolved m := by
  unfold Identity.register
  split
  · trivial
  · refine gathers_bind (gathers_ask trivial fun known => ?_)
    cases known with
    | some a => trivial
    | none =>
      refine gathers_bind (gathers_mono (fun m p? h => ?_) (gathers_insertNew hd hp))
      cases p? with
      | some p => exact h p rfl
      | none => trivial

theorem gathers_resolveById {id : String} :
    (Identity.resolveById id).Gathers op.MayAsk
      (fun m p? => ∀ p, p? = some p → Resolved m p) m := by
  unfold Identity.resolveById
  refine gathers_bind (gathers_ask trivial fun known => ?_)
  cases known with
  | some a => exact gathers_bind (gathers_now fun t p hp => by cases hp; rfl)
  | none => exact fun p hp => by cases hp

theorem gathers_validate {deviceKey raw : String} :
    (Session.validate s.issuer deviceKey raw).Gathers op.MayAsk (fun _ _ => True) m := by
  unfold Session.validate
  exact gathers_bind (gathers_ask trivial fun owner => gathers_orFail fun _ _ => trivial)

/-! ## Issuing tokens -/

/-- Issuing an access token reads the clock and asks nothing. -/
theorem gathers_issueAccess {p : Profile} (h : Resolved m p) :
    (s.issueAccess p).Gathers op.MayAsk
      (fun m access => Resolved m p ∧ s.issuer.Names access p.id) m := by
  unfold issueAccess
  refine gathers_bind (gathers_now fun t => ?_)
  cases hi : s.issuer.issue? p t with
  | none => trivial
  | some access => exact ⟨h, Issuer.names_of_issue? hi⟩

/-- Storing the token that was drawn is the last thing that a call does. -/
theorem underway_storeDrawn {draws : Draws} {deviceKey access : String} {p : Profile}
    (hd : op.draws? = some draws) (hk : op.deviceKey? = some deviceKey)
    (hb : Text.isBlank deviceKey = false) (hm : Resolved m p) (hn : s.issuer.Names access p.id) :
    s.Underway op m (do
      let refresh ← Session.storeDrawn s.issuer s.refreshLifetime draws deviceKey p.id
        (op.presented?.map s.issuer.hashToken)
      return .tokens ⟨access, some refresh⟩) := by
  refine .reading fun t => ?_
  show s.Underway op (m.read t) ((after t s.refreshLifetime).bind _ |>.bind _)
  unfold after
  cases he : Clock.shift? t s.refreshLifetime with
  | none => exact .overflowed
  | some expiresAt => exact .storing hd hk hb hm rfl he hn (fun e => rfl) rfl

theorem underway_issueTokens {draws : Draws} {p : Profile} (hd : op.draws? = some draws)
    (hp : op.presented? = none) (hb : ∀ k, op.deviceKey? = some k → Text.isBlank k = false)
    (hm : Resolved m p) :
    s.Underway op m (do return .tokens (← s.issueTokens draws p op.deviceKey?)) := by
  cases hk : op.deviceKey? with
  | none =>
    simp only [issueTokens, bind_assoc, pure_bind]
    refine underway_bind (gathers_mono (fun m access h => ?_) (gathers_issueAccess hm))
    exact .answered rfl hp (.inr ⟨p.id, h.1, h.2⟩)
  | some deviceKey =>
    simp only [issueTokens, bind_assoc, pure_bind]
    refine underway_bind (gathers_mono (fun m access h => ?_) (gathers_issueAccess hm))
    have hstore := underway_storeDrawn hd hk (hb deviceKey hk) h.1 h.2
    rw [hp] at hstore
    exact hstore

/-! ## Operations -/

/-- What is left of a call that has just begun. -/
theorem underway_perform (s : Service) (op : Operation) :
    s.Underway op .nothing (s.perform op) := by
  cases op with
  | loginUsername draws username password deviceKey =>
    simp only [perform, loginUsername, bind_assoc]
    refine underway_bind (gathers_require fun _ => underway_bind (gathers_require fun _ => ?_))
    refine underway_bind (gathers_requireIfGiven fun hb => underway_bind ?_)
    exact gathers_mono (fun m p h => underway_issueTokens rfl rfl hb h) gathers_resolveByPassword
  | registerUsername draws username password deviceKey =>
    simp only [perform, registerUsername, bind_assoc]
    refine underway_bind (gathers_require fun _ => underway_bind (gathers_require fun _ => ?_))
    refine underway_bind (gathers_requireIfGiven fun hb => underway_bind ?_)
    exact gathers_mono (fun m p h => underway_issueTokens rfl rfl hb h) (gathers_register rfl rfl)
  | loginAnonymous draws deviceKey =>
    simp only [perform, loginAnonymous, bind_assoc]
    refine underway_bind (gathers_require fun hb => underway_bind ?_)
    refine gathers_mono (fun m p h => underway_issueTokens rfl rfl (fun k hk => ?_) h)
      (gathers_resolveAnonymous rfl rfl)
    cases hk
    exact hb
  | refresh draws token deviceKey =>
    simp only [perform, refresh, bind_assoc, pure_bind]
    refine underway_bind (gathers_require fun hb => underway_bind (gathers_require fun _ => ?_))
    refine underway_bind (gathers_mono (fun m userId _ => underway_bind ?_) gathers_validate)
    -- whom the store vouches for is the account that is looked up, not the owner of the row
    refine gathers_mono (fun m p? h => underway_bind ?_) gathers_resolveById
    refine gathers_orFail fun p hp => underway_bind ?_
    refine gathers_mono (fun m access h => ?_) (gathers_issueAccess (h p hp))
    exact underway_storeDrawn rfl rfl hb h.1 h.2
  | logout userId deviceKey =>
    simp only [perform, logout, bind_assoc]
    refine underway_bind (gathers_require fun _ => underway_bind ?_)
    refine gathers_ask (r := .invalidate userId deviceKey) rfl fun _ => ?_
    exact .answered rfl rfl (.inl rfl)
  | authenticate token =>
    simp only [perform, authenticate, bind_assoc]
    refine underway_bind (gathers_now fun t => underway_bind (gathers_orFail fun claims _ => ?_))
    refine underway_bind (gathers_mono (fun m p? h => underway_bind ?_) gathers_resolveById)
    exact gathers_orFail fun p hp => .answered rfl rfl (.inr ⟨p.id, h p hp, rfl⟩)

end Service

/-! ## Samples -/

/-- A service to try things out with: a refresh token lives for a second. -/
def Service.sample : Service :=
  ⟨⟨[1], [1], 60000, by decide, by decide, by decide⟩, 1000⟩

/-- Draws that can be told apart by a name. -/
def Draws.sample (name : String) : Draws :=
  ⟨name ++ " account", name ++ " customer", name ++ " row", name ++ " token", []⟩

end Latchkey
