/-
What an operation comes to at one instant. All that the store decides is who is calling
(`Service.caller`); the rest follows from the caller and the arguments: the answer, and what the
call leaves behind, which is at most one account and a change of at most one session (`Footprint`).
So a run is a function of its caller (`run_perform`).
-/
import Latchkey.Proofs.Service.Authentication
import Latchkey.Proofs.Service.Login
import Latchkey.Proofs.Store.Session

namespace Latchkey

open Operation (Result)

/-! ## Callers -/

/-- Who is calling, as far as the store can tell. -/
inductive Caller
  /-- Nobody that the service has anything for. -/
  | rejected (cause : AuthError)
  /-- Whoever says so: a logout names its account itself. -/
  | owner (userId deviceKey : String)
  /-- A live account of the store. -/
  | known (a : Account)
  /-- An account that the call makes. -/
  | new (a : Account)
deriving DecidableEq

namespace Caller

/-- The account that was looked for. -/
def ofFound (cause : AuthError) : Option Account → Caller
  | some a => known a
  | none => rejected cause

/-- The account of a name, if the password is its own. -/
def ofPassword (password : String) (a : Account) : Caller :=
  match a.passwordHash with
  | none => rejected .badCredentials
  | some hash =>
    match Identity.checkPassword password hash with
    | .ok true => known a
    | .ok false => rejected .badCredentials
    | .error cause => rejected cause

/-- The account of an identity, which is made if there is none. -/
def ofEnrolment (e : Enrolment) (now : Instant) (store : Store) : Caller :=
  match store.accountWith e.method e.authId with
  | some a => if e.joins then known a else rejected e.refusal
  | none => if store.conflicts (e.account now) then rejected e.refusal else new (e.account now)

/-- The account that the call is for. -/
def account? : Caller → Option Account
  | known a | new a => some a
  | rejected _ | owner _ _ => none

end Caller

namespace Service

/-- Who calls an operation whose arguments are acceptable. -/
def lookUp (s : Service) (now : Instant) (store : Store) : Operation → Caller
  | .loginUsername _ username password _ =>
    match store.accountWith .password username with
    | some a => .ofPassword password a
    | none => .rejected .badCredentials
  | .registerUsername draws username password deviceKey =>
    .ofEnrolment (.byName draws username password deviceKey) now store
  | .loginAnonymous draws deviceKey => .ofEnrolment (.onDevice draws deviceKey) now store
  | .refresh _ token deviceKey => .ofFound .badRefreshToken
      ((store.ownerOf deviceKey (s.issuer.hashToken token) now).bind store.accountById)
  | .logout userId deviceKey => .owner userId deviceKey
  | .authenticate token => .ofFound .badAccessToken
      ((s.issuer.verify token now).bind fun claims => store.accountById claims.id)

/-- Who calls an operation. -/
def caller (s : Service) (now : Instant) (store : Store) (op : Operation) : Caller :=
  match op.refusal? with
  | some cause => .rejected (.refused cause)
  | none => s.lookUp now store op

end Service

/-! ## Footprints -/

/-- What a call does to the refresh rows. -/
inductive Change
  | nothing
  | opens (rot : Rotation)
  | ends (userId deviceKey : String)

namespace Change

/-- The row in the place of `r`. -/
def mark (now : Instant) : Change → RefreshRow → RefreshRow
  | nothing => id
  | opens rot => Store.revokedRow rot.userId rot.deviceKey (·.revokedAt.isNone) now
  | ends userId deviceKey => Store.revokedRow userId deviceKey (·.validAt now) now

/-- The row that is added. -/
def row? (now : Instant) : Change → Option RefreshRow
  | opens rot => some (rot.row now)
  | nothing | ends _ _ => none

/-- The session that is changed, by its account and its device. -/
def session? : Change → Option (String × String)
  | nothing => none
  | opens rot => some (rot.userId, rot.deviceKey)
  | ends userId deviceKey => some (userId, deviceKey)

def left (c : Change) (now : Instant) (rows : List RefreshRow) : List RefreshRow :=
  rows.map (c.mark now) ++ (c.row? now).toList

@[simp] theorem left_nothing (now : Instant) (rows : List RefreshRow) :
    nothing.left now rows = rows := by
  simp [left, mark, row?]

end Change

/-- What a call leaves behind: the account that it has made, and its change of a session. -/
structure Footprint where
  account : Option Account
  change : Change

def Footprint.left (f : Footprint) (now : Instant) (store : Store) : Store :=
  ⟨store.accounts ++ f.account.toList, f.change.left now store.rows⟩

@[simp] theorem Footprint.left_none (c : Change) (now : Instant) (store : Store) :
    Footprint.left ⟨none, c⟩ now store = ⟨store.accounts, c.left now store.rows⟩ := by
  simp [left]

namespace Service

/-! ## What follows from the caller -/

/-- What an account is answered, and the change of its session. -/
def welcome (s : Service) (now : Instant) (op : Operation) (a : Account) :
    Outcome Result × Change :=
  match op.draws? with
  | none => (.ok (.profile (a.profileAt now)), .nothing)
  | some draws =>
    match s.issuer.issue? (a.profileAt now) now, op.deviceKey? with
    | none, _ => (.overflow, .nothing)
    | some access, none => (.ok (.tokens ⟨access, none⟩), .nothing)
    | some access, some deviceKey =>
      match Clock.shift? now s.refreshLifetime with
      | none => (.overflow, .nothing)
      | some expiresAt => (.ok (.tokens ⟨access, some draws.token⟩),
          .opens (s.rotationOf op draws a.id deviceKey expiresAt))

/-- How an operation ends for its caller, and what it leaves behind. -/
def conclude (s : Service) (now : Instant) (op : Operation) : Caller → Outcome Result × Footprint
  | .rejected cause => (.error cause, ⟨none, .nothing⟩)
  | .owner userId deviceKey => (.ok .loggedOut, ⟨none, .ends userId deviceKey⟩)
  | .known a => ((s.welcome now op a).1, ⟨none, (s.welcome now op a).2⟩)
  | .new a => ((s.welcome now op a).1, ⟨some a, (s.welcome now op a).2⟩)

/-- How an operation ends at an instant, and what it leaves behind. -/
def answer (s : Service) (now : Instant) (store : Store) (op : Operation) :
    Outcome Result × Footprint :=
  s.conclude now op (s.caller now store op)

open Program

variable {s : Service} {op : Operation} {now : Instant} {store : Store}

/-! ## Runs of the parts -/

theorem run_issueAccess (p : Profile) :
    (s.issueAccess p).run now store =
      ((s.issuer.issue? p now).elim .overflow .ok, store) := by
  rw [issueAccess_eq]
  cases h : s.issuer.issue? p now <;> simp [h]

/-- A row is stored, unless it would expire behind the calendar. -/
theorem run_storeDrawn {draws : Draws} {userId deviceKey : String}
    (held : ∀ raw, op.presented? = some raw →
      store.holds userId deviceKey (s.issuer.hashToken raw) now = true) :
    (Session.storeDrawn s.issuer s.refreshLifetime draws deviceKey userId
      (op.presented?.map s.issuer.hashToken)).run now store =
      match Clock.shift? now s.refreshLifetime with
      | none => (.overflow, store)
      | some expiresAt => (.ok draws.token,
          store.rotated (s.rotationOf op draws userId deviceKey expiresAt) now) := by
  unfold Session.storeDrawn
  simp only [after_eq]
  show ((Clock.shift? now s.refreshLifetime).elim overflow done >>= _).run now store = _
  cases Clock.shift? now s.refreshLifetime with
  | none => rfl
  | some expiresAt =>
    -- what has been presented is still held, so the rotation is not refused
    have hrotate : store.rotate (s.rotationOf op draws userId deviceKey expiresAt) now =
        (.ok (), store.rotated (s.rotationOf op draws userId deviceKey expiresAt) now) := by
      rcases rotate_rotationOf s op draws userId deviceKey expiresAt now store with
        ⟨h, -⟩ | ⟨-, raw, hraw, hlost⟩
      · exact h
      · rw [held raw hraw] at hlost
        cases hlost
    show (ofExcept (store.rotate (s.rotationOf op draws userId deviceKey expiresAt) now).1 >>=
      _).run now (store.rotate (s.rotationOf op draws userId deviceKey expiresAt) now).2 = _
    rw [hrotate]
    rfl

/-- The tokens of a session, behind an access token that is issued first. -/
theorem run_session (s : Service) (now : Instant) (store : Store) (op : Operation) (a : Account)
    {draws : Draws} {deviceKey : String} (hd : op.draws? = some draws)
    (hk : op.deviceKey? = some deviceKey) (held : ∀ raw, op.presented? = some raw →
      store.holds a.id deviceKey (s.issuer.hashToken raw) now = true) :
    (do
      let access ← s.issueAccess (a.profileAt now)
      let refresh ← Session.storeDrawn s.issuer s.refreshLifetime draws deviceKey a.id
        (op.presented?.map s.issuer.hashToken)
      return Result.tokens ⟨access, some refresh⟩).run now store =
      ((s.welcome now op a).1, ⟨store.accounts, (s.welcome now op a).2.left now store.rows⟩) := by
  rw [run_bind, run_issueAccess]
  unfold welcome
  rw [hd, hk]
  cases s.issuer.issue? (a.profileAt now) now with
  | none => simp
  | some access =>
    simp only [Option.elim_some, run_bind, run_storeDrawn held]
    cases Clock.shift? now s.refreshLifetime with
    | none => simp
    | some expiresAt => rfl

theorem run_issueTokens {draws : Draws} (a : Account) (hd : op.draws? = some draws)
    (hp : op.presented? = none) :
    (do return Result.tokens (← s.issueTokens draws (a.profileAt now) op.deviceKey?)).run now
      store =
      ((s.welcome now op a).1, ⟨store.accounts, (s.welcome now op a).2.left now store.rows⟩) := by
  cases hk : op.deviceKey? with
  | none =>
    simp only [issueTokens, bind_assoc, pure_bind, run_bind, run_issueAccess]
    unfold welcome
    rw [hd, hk]
    cases s.issuer.issue? (a.profileAt now) now with
    | none => simp
    | some access =>
      simp only [Option.elim_some, Change.left_nothing]
      rfl
  | some deviceKey =>
    have h := run_session s now store op a hd hk fun raw hraw => by
      rw [hp] at hraw
      cases hraw
    rw [hp] at h
    simpa only [issueTokens, bind_assoc, pure_bind, Session.rotate, Option.map_none,
      Account.profileAt_id] using h

theorem run_insertNew (e : Enrolment) :
    (Identity.insertNew e.draws e.method e.authId e.passwordHash).run now store =
      if store.conflicts (e.account now) then (.ok none, store)
      else (.ok (some ((e.account now).profileAt now)),
        { store with accounts := store.accounts ++ [e.account now] }) := by
  unfold Identity.insertNew
  show (ofExcept (.ok (store.insertAccount (e.account now)).1) >>= _).run now
    (store.insertAccount (e.account now)).2 = _
  unfold Store.insertAccount
  cases store.conflicts (e.account now) <;> rfl

/-! ## Finding the caller -/

/-- The program finds out that the caller is the one that is named, and makes its account if it is
new. -/
inductive Resolves (now : Instant) (store : Store) (p : Program Profile) : Caller → Prop
  | rejected {cause} (run_eq : p.run now store = (.error cause, store)) :
      Resolves now store p (.rejected cause)
  | known {a} (run_eq : p.run now store = (.ok (a.profileAt now), store)) :
      Resolves now store p (.known a)
  | new {a} (run_eq : p.run now store =
        (.ok (a.profileAt now), { store with accounts := store.accounts ++ [a] })) :
      Resolves now store p (.new a)

theorem resolves_byPassword (username password : String) :
    Resolves now store (Identity.resolveByPassword username password)
      (match store.accountWith .password username with
        | some a => .ofPassword password a
        | none => .rejected .badCredentials) := by
  have hrun : (Identity.resolveByPassword username password).run now store =
      (orFail (store.accountWith .password username) .badCredentials >>= fun a =>
        compare a password).run now store := rfl
  cases hfound : store.accountWith .password username with
  | none =>
    rw [hfound] at hrun
    exact .rejected hrun
  | some a =>
    rw [hfound] at hrun
    change _ = (compare a password).run now store at hrun
    unfold compare at hrun
    simp only [Caller.ofPassword]
    cases hhash : a.passwordHash with
    | none =>
      rw [hhash] at hrun
      exact .rejected hrun
    | some hash =>
      simp only
      rw [hhash] at hrun
      change _ = (ofExcept (Identity.checkPassword password hash) >>= _).run now store at hrun
      -- the comparison can go wrong, and it can come out either way
      cases hcheck : Identity.checkPassword password hash with
      | error cause => exact .rejected (by rw [hrun, hcheck]; rfl)
      | ok accepted =>
        cases accepted with
        | false => exact .rejected (by rw [hrun, hcheck]; rfl)
        | true => exact .known (by rw [hrun, hcheck]; rfl)

/-- Makes the account of an identity that has none. -/
def make (e : Enrolment) : Program Profile := do
  match ← Identity.insertNew e.draws e.method e.authId e.passwordHash with
  | some p => return p
  | none => fail e.refusal

theorem resolves_enrolment {e : Enrolment} {p : Program Profile}
    (hrun : p.run now store = match store.accountWith e.method e.authId with
      | some a => if e.joins then (.ok (a.profileAt now), store) else (.error e.refusal, store)
      | none => (make e).run now store) :
    Resolves now store p (.ofEnrolment e now store) := by
  unfold Caller.ofEnrolment
  cases hfound : store.accountWith e.method e.authId with
  | some a =>
    -- a registration finds the name taken, a login joins the account
    simp only [hfound] at hrun ⊢
    by_cases hjoins : e.joins = true
    · rw [if_pos hjoins] at hrun ⊢
      exact .known hrun
    · rw [if_neg hjoins] at hrun ⊢
      exact .rejected hrun
  | none =>
    simp only [hfound] at hrun ⊢
    rw [make, run_bind, run_insertNew] at hrun
    cases hconflict : store.conflicts (e.account now) with
    | true => exact .rejected (by rw [hrun, hconflict]; rfl)
    | false => exact .new (by rw [hrun, hconflict]; rfl)

theorem resolves_register {draws : Draws} {username password : String} (deviceKey : Option String)
    (hlong : minPasswordLength ≤ password.length) :
    Resolves now store (Identity.register draws username password)
      (.ofEnrolment (.byName draws username password deviceKey) now store) := by
  refine resolves_enrolment ?_
  unfold Identity.register
  rw [if_neg (Nat.not_lt.2 hlong)]
  show (ofExcept (.ok (store.accountWith .password username)) >>= _).run now store =
    match store.accountWith .password username with | some _ => _ | none => _
  cases store.accountWith .password username <;> rfl

theorem resolves_anonymous (draws : Draws) (deviceKey : String) :
    Resolves now store (Identity.resolveAnonymous draws deviceKey)
      (.ofEnrolment (.onDevice draws deviceKey) now store) := by
  refine resolves_enrolment ?_
  unfold Identity.resolveAnonymous
  show (ofExcept (.ok (store.accountWith .anonymous deviceKey)) >>= _).run now store =
    match store.accountWith .anonymous deviceKey with | some _ => _ | none => _
  cases store.accountWith .anonymous deviceKey <;> rfl

/-! ## Whole operations -/

/-- A login of whoever has been found. -/
theorem run_of_resolves (op : Operation) {draws : Draws} {p : Program Profile} {c : Caller}
    (h : Resolves now store p c) (hd : op.draws? = some draws) (hp : op.presented? = none) :
    (do
      let profile ← p
      return Result.tokens (← s.issueTokens draws profile op.deviceKey?)).run now store =
      ((s.conclude now op c).1, (s.conclude now op c).2.left now store) := by
  rw [run_bind]
  cases h with
  | rejected run_eq =>
    rw [run_eq]
    simp [conclude]
  | known run_eq =>
    rw [run_eq]
    simp only [conclude, Footprint.left_none]
    exact run_issueTokens _ hd hp
  | new run_eq =>
    rw [run_eq]
    exact run_issueTokens _ hd hp

/-- The owner that the store names has the token. -/
theorem holds_of_ownerOf {userId deviceKey hash : String}
    (h : store.ownerOf deviceKey hash now = some userId) :
    store.holds userId deviceKey hash now = true := by
  obtain ⟨r, hr, hu, hd, hh, hv⟩ := Store.ownerOf_some h
  exact Store.holds_iff.2 ⟨r, hr, hu, hd, hh, RefreshRow.validAt_iff.1 hv⟩

theorem run_refresh {draws : Draws} {token deviceKey : String}
    (hd : Text.isBlank deviceKey = false) (ht : Text.isBlank token = false) :
    let op := Operation.refresh draws token deviceKey
    (s.perform op).run now store =
      ((s.conclude now op (s.lookUp now store op)).1,
        (s.conclude now op (s.lookUp now store op)).2.left now store) := by
  intro op
  have hperform : (s.perform op).run now store =
      (orFail (store.ownerOf deviceKey (s.issuer.hashToken token) now) .badRefreshToken >>= fun u =>
        Identity.resolveById u >>= fun p? => orFail p? .badRefreshToken >>= fun p => do
          let access ← s.issueAccess p
          let renewed ← Session.renew s.issuer s.refreshLifetime draws deviceKey p.id token
          return Result.tokens ⟨access, some renewed⟩).run now store := by
    simp only [op, perform, refresh, require_given hd, require_given ht, bind_assoc, pure_bind]
    rfl
  rw [hperform]
  unfold lookUp
  cases howner : store.ownerOf deviceKey (s.issuer.hashToken token) now with
  | none =>
    simp only [op, howner, Option.bind_none, Caller.ofFound, conclude, Footprint.left_none,
      Change.left_nothing]
    rfl
  | some u =>
    simp only [op, howner, Option.bind_some]
    show (Identity.resolveById u >>= _).run now store = _
    rw [run_bind, Identity.run_resolveById]
    cases hfound : store.accountById u with
    | none =>
      simp only [Caller.ofFound, conclude, Footprint.left_none, Change.left_nothing]
      rfl
    | some a =>
      obtain ⟨-, rfl, -⟩ := Store.accountById_some hfound
      simp only [Caller.ofFound, conclude, Footprint.left_none, Option.map_some]
      refine run_session s now store (.refresh draws token deviceKey) a rfl rfl fun raw hraw => ?_
      cases hraw
      exact holds_of_ownerOf howner

/-- At one instant an operation ends as its caller has it, and leaves what its caller leaves. -/
theorem run_perform (s : Service) (now : Instant) (store : Store) (op : Operation) :
    (s.perform op).run now store =
      ((s.answer now store op).1, (s.answer now store op).2.left now store) := by
  unfold answer caller
  cases hrefusal : op.refusal? with
  | some cause =>
    rw [perform_of_refusal? s hrefusal]
    simp [conclude]
  | none =>
    obtain ⟨hblank, hlong⟩ := Operation.refusal?_eq_none_iff.1 hrefusal
    have hgiven := given_of_firstBlank? hblank
    simp only
    cases op with
    | loginUsername draws username password deviceKey =>
      have hperform := perform_login s (l := ⟨draws, username, password, deviceKey⟩) hblank
      simp only [Login.operation] at hperform
      rw [hperform]
      exact run_of_resolves (.loginUsername draws username password deviceKey)
        (resolves_byPassword username password) rfl rfl
    | registerUsername draws username password deviceKey =>
      rw [perform_registerUsername s hblank]
      exact run_of_resolves (.registerUsername draws username password deviceKey)
        (resolves_register deviceKey (hlong password rfl)) rfl rfl
    | loginAnonymous draws deviceKey =>
      have hd := hgiven (.deviceKey, deviceKey) (List.mem_singleton_self _)
      simp only [perform, loginAnonymous, require_given hd, bind_assoc, pure_bind]
      exact run_of_resolves (.loginAnonymous draws deviceKey)
        (resolves_anonymous draws deviceKey) rfl rfl
    | refresh draws token deviceKey =>
      have hd := hgiven (.deviceKey, deviceKey) List.mem_cons_self
      have ht := hgiven (.refreshToken, token) (List.mem_cons_of_mem _ List.mem_cons_self)
      exact run_refresh hd ht
    | logout userId deviceKey =>
      have hd := hgiven (.deviceKey, deviceKey) (List.mem_singleton_self _)
      rw [run_logout, if_neg (by simpa using hd)]
      simp [lookUp, conclude, Change.left, Change.mark, Change.row?, Store.invalidate,
        Store.revokeRows_eq_map]
    | authenticate token =>
      simp only [perform]
      rw [run_bind, run_authenticate]
      simp only [lookUp]
      cases (s.issuer.verify token now).bind fun claims => store.accountById claims.id with
      | none => simp [Caller.ofFound, conclude]
      | some a =>
        simp only [Caller.ofFound, conclude, welcome, Operation.draws?, Footprint.left_none,
          Change.left_nothing]
        rfl

/-! ## Samples -/

/-- Two accounts that share a tablet; one of them has a phone, too. -/
def household : Store :=
  let row (name deviceKey userId : String) : RefreshRow :=
    ⟨name ++ " row", deviceKey, userId, sample.issuer.hashToken (name ++ " token"), 0, 90000, none⟩
  ⟨[.fresh "alice" "first customer" .password "alice" none 0,
      .fresh "guest" "second customer" .anonymous "tablet" none 0],
    [row "old" "phone" "alice", row "shared" "tablet" "alice", row "other" "tablet" "guest"]⟩

end Service

end Latchkey
