/-
Calls that may make an account: registrations, for which it must be new, and logins on a device,
which make it on first sight. Such a call looks for the account of its identity (`Looking`), makes
one if there is none (`Making`) and opens a session for it (`Opening`). Nothing is written before
the account, and nothing fails between the account and the session but the calendar
(`ends_of_enrolment`).
-/
import Latchkey.Proofs.Program.Alone
import Latchkey.Proofs.Service.Refresh

namespace Latchkey

open Operation (Result)

/-! ## Arguments -/

namespace Operation

/-- The arguments that must not be blank, in the order in which they are looked at. -/
def required : Operation → List (Field × String)
  | loginUsername _ username password deviceKey | registerUsername _ username password deviceKey =>
    [(.username, username), (.password, password)] ++ (deviceKey.map (Field.deviceKey, ·)).toList
  | loginAnonymous _ deviceKey | logout _ deviceKey => [(.deviceKey, deviceKey)]
  | refresh _ token deviceKey => [(.deviceKey, deviceKey), (.refreshToken, token)]
  | authenticate _ => []

/-- The first of the arguments that must not be blank and is. -/
def firstBlank? (op : Operation) : Option Field :=
  (op.required.find? fun argument => Text.isBlank argument.2).map (·.1)

/-- The password that an operation would store. -/
def newPassword? : Operation → Option String
  | registerUsername _ _ password _ => some password
  | _ => none

/-- Why an operation is refused for its arguments alone. -/
def refusal? (op : Operation) : Option Refusal :=
  match op.firstBlank? with
  | some field => some (.blank field)
  | none => if op.newPassword?.any (·.length < minPasswordLength) then some .shortPassword else none

/-- An operation passes if no argument is blank that must not be and its new password is long
enough. -/
theorem refusal?_eq_none_iff {op : Operation} : op.refusal? = none ↔
    op.firstBlank? = none ∧ ∀ p, op.newPassword? = some p → minPasswordLength ≤ p.length := by
  unfold refusal?
  cases op.firstBlank? with
  | some field => simp
  | none => cases op.newPassword? <;> simp

end Operation

/-- What a call brings along that may make an account. -/
structure Enrolment where
  draws : Draws
  method : AuthMethod
  authId : String
  passwordHash : Option String
  deviceKey : Option String
  /-- The call logs in an account that has the identity already. -/
  joins : Bool
  /-- What the call is told if the identity is taken and it cannot join. -/
  refusal : AuthError

namespace Enrolment

/-- A registration makes an account or is refused. -/
def byName (draws : Draws) (username password : String) (deviceKey : Option String) :
    Enrolment where
  draws := draws
  method := .password
  authId := username
  passwordHash := some (Password.hash password draws.salt)
  deviceKey := deviceKey
  joins := false
  refusal := .refused .usernameTaken

/-- A login on a device joins whoever is there. -/
def onDevice (draws : Draws) (deviceKey : String) : Enrolment where
  draws := draws
  method := .anonymous
  authId := deviceKey
  passwordHash := none
  deviceKey := some deviceKey
  joins := true
  refusal := .nothingWritten "no anonymous user added"

/-- The account that is made at an instant. -/
def account (e : Enrolment) (t : Instant) : Account :=
  .fresh e.draws.accountId e.draws.customerId e.method e.authId e.passwordHash t

/-- The row that the session of an account begins with. -/
def rotation (e : Enrolment) (s : Service) (userId deviceKey : String) (expiresAt : Instant) :
    Rotation where
  rowId := e.draws.rowId
  deviceKey := deviceKey
  userId := userId
  previousHash := none
  tokenHash := s.issuer.hashToken e.draws.token
  expiresAt := expiresAt

end Enrolment

/-- The operations that may make an account. -/
def Operation.enrolment? : Operation → Option Enrolment
  | registerUsername draws username password deviceKey =>
    some (.byName draws username password deviceKey)
  | loginAnonymous draws deviceKey => some (.onDevice draws deviceKey)
  | loginUsername _ _ _ _ | refresh _ _ _ | logout _ _ | authenticate _ => none

namespace Service

open Program

variable {s : Service} {e : Enrolment} {userId : String} {p : Program Result}

/-! ## Stages -/

/-- `s.Opening e userId p`: for the login of the account `userId`, `p` is left to do. Without a
device it ends with the access token, on a device it stores a session last. -/
inductive Opening (s : Service) (e : Enrolment) (userId : String) : Program Result → Prop
  | reading {k} (answers : ∀ t, s.InCalendar t → k t ≠ .overflow)
      (next : ∀ t, k t ≠ .overflow → Opening s e userId (k t)) : Opening s e userId (.clock k)
  | storing {deviceKey expiresAt access k} (device_eq : e.deviceKey = some deviceKey)
      (names : s.issuer.Names access userId)
      (stored : k (.ok ()) = .done (.tokens ⟨access, some e.draws.token⟩)) :
      Opening s e userId (.call (.rotate (e.rotation s userId deviceKey expiresAt)) k)
  | answered {access} (stateless : e.deviceKey = none) (names : s.issuer.Names access userId) :
      Opening s e userId (.done (.tokens ⟨access, none⟩))

/-- `s.Making e p`: of a call that has not found the account of its identity, `p` is left to do. -/
inductive Making (s : Service) (e : Enrolment) : Program Result → Prop
  | stamping {k} (next : ∀ t, Making s e (k t)) : Making s e (.clock k)
  | inserting {t k} (taken : k (.ok false) = .fail e.refusal)
      (made : s.Opening e e.draws.accountId (k (.ok true))) :
      Making s e (.call (.insertAccount (e.account t)) k)

/-- What a call does that has found an account with its identity. -/
def Found (s : Service) (e : Enrolment) (userId : String) (p : Program Result) : Prop :=
  if e.joins then s.Opening e userId p else p = .fail e.refusal

theorem found_cases (h : s.Found e userId p) :
    (e.joins = true ∧ s.Opening e userId p) ∨ (e.joins = false ∧ p = .fail e.refusal) := by
  unfold Found at h
  split at h
  · exact Or.inl ⟨by assumption, h⟩
  · exact Or.inr ⟨Bool.eq_false_iff.2 (by assumption), h⟩

/-- With its next step the call looks for the account of its identity. -/
inductive Looking (s : Service) (e : Enrolment) : Program Result → Prop
  | onDevice {k} (method : e.method = .anonymous) (absent : s.Making e (k (.ok none)))
      (present : ∀ a : Account, s.Found e a.id (k (.ok (some a)))) :
      Looking s e (.call (.accountByDeviceKey e.authId) k)
  | byName {k} (method : e.method = .password) (absent : s.Making e (k (.ok none)))
      (present : ∀ a : Account, s.Found e a.id (k (.ok (some a)))) :
      Looking s e (.call (.accountByUsername e.authId) k)

theorem outcome?_of_looking (h : s.Looking e p) : p.outcome? = none := by
  cases h <;> rfl

/-- A login on a device ends when its session is stored, not before. -/
theorem outcome?_of_opening (h : s.Opening e userId p) (hd : e.deviceKey ≠ none) :
    p.outcome? = none := by
  cases h with
  | reading | storing => rfl
  | answered stateless => exact absurd stateless hd

theorem outcome?_of_making (h : s.Making e p) : p.outcome? = none := by
  cases h <;> rfl

/-! ## The stages of an operation -/

theorem ne_overflow_of_opening (h : s.Opening e userId p) : p ≠ .overflow := by
  rintro rfl
  cases h

theorem opening_clock {k : Instant → Program Result} (h : ∀ t, s.Opening e userId (k t)) :
    s.Opening e userId (.clock k) :=
  .reading (fun t _ => ne_overflow_of_opening (h t)) fun t _ => h t

/-- What can leave the calendar, and goes on if it does not. -/
theorem opening_calendar {α : Type} {a : Instant → Option α} {f : α → Program Result}
    (answers : ∀ t, s.InCalendar t → (a t).isSome)
    (next : ∀ t x, a t = some x → s.Opening e userId (f x)) :
    s.Opening e userId (.clock fun t => Program.bind ((a t).elim .overflow .done) f) := by
  refine .reading (fun t ht => ?_) fun t h => ?_
  · obtain ⟨x, hx⟩ := Option.isSome_iff_exists.1 (answers t ht)
    rw [hx]
    exact ne_overflow_of_opening (next t x hx)
  · cases hx : a t with
    | none => rw [hx] at h; exact absurd rfl h
    | some x => exact next t x hx

theorem after_eq (t : Instant) (d : Duration) :
    after t d = (Clock.shift? t d).elim .overflow .done := by
  unfold after
  cases Clock.shift? t d <;> rfl

theorem opening_rotate {deviceKey access : String} (hd : e.deviceKey = some deviceKey)
    (hn : s.issuer.Names access userId) :
    s.Opening e userId (do
      let refresh ← Session.rotate s.issuer s.refreshLifetime e.draws deviceKey userId
      return .tokens ⟨access, some refresh⟩) := by
  simp only [Session.rotate, Session.storeDrawn, after_eq, bind_assoc]
  refine opening_calendar (fun t ht => ht.2) fun t expiresAt _ => ?_
  exact @Opening.storing s e userId deviceKey expiresAt access _ hd hn rfl

theorem opening_issueTokens (s : Service) (e : Enrolment) (p : Profile) :
    s.Opening e p.id (do return .tokens (← s.issueTokens e.draws p e.deviceKey)) := by
  have hissue : ∀ t, s.InCalendar t → (s.issuer.issue? p t).isSome := fun t ht =>
    Option.isSome_iff_exists.2 (issue?_isSome ht p)
  cases hd : e.deviceKey with
  | none =>
    simp only [issueTokens, bind_assoc, pure_bind, issueAccess_eq]
    refine opening_calendar hissue fun t access hi => ?_
    exact .answered hd (Issuer.names_of_issue? hi)
  | some deviceKey =>
    simp only [issueTokens, bind_assoc, pure_bind, issueAccess_eq]
    exact opening_calendar hissue fun t access hi => opening_rotate hd (Issuer.names_of_issue? hi)

theorem opening_made (s : Service) (e : Enrolment) (t t' : Instant) :
    s.Opening e e.draws.accountId (do
      return .tokens (← s.issueTokens e.draws ((e.account t).profileAt t') e.deviceKey)) :=
  opening_issueTokens s e ((e.account t).profileAt t')

/-! ## Operations -/

/-- If one of the arguments is blank, all that the program does is to refuse the first of them. -/
def Refuses {α : Type} (arguments : List (Field × String)) (p : Program α) : Prop :=
  ∀ argument, arguments.find? (fun argument => Text.isBlank argument.2) = some argument →
    p = .fail (.refused (.blank argument.1))

theorem refuses_nil {α : Type} {p : Program α} : Refuses [] p := fun _ h => by cases h

theorem refuses_bind {α β : Type} {arguments : List (Field × String)} {p : Program α}
    {f : α → Program β} (h : Refuses arguments p) : Refuses arguments (p >>= f) := by
  intro argument ha
  rw [h argument ha]
  rfl

theorem refuses_require {α : Type} {field : Field} {value : String}
    {arguments : List (Field × String)} {f : Unit → Program α} (h : Refuses arguments (f ())) :
    Refuses ((field, value) :: arguments) (require field value >>= f) := by
  intro argument ha
  unfold require
  cases hb : Text.isBlank value with
  | true =>
    rw [List.find?_cons_of_pos (a := (field, value)) hb] at ha
    cases ha
    rfl
  | false =>
    rw [List.find?_cons_of_neg (by simp [hb])] at ha
    exact h argument ha

theorem refuses_requireIfGiven {α : Type} {field : Field} {value : Option String}
    {f : Unit → Program α} :
    Refuses (value.map (field, ·)).toList (requireIfGiven field value >>= f) := by
  cases value with
  | none => exact refuses_nil
  | some v => exact refuses_require refuses_nil

theorem refuses_perform (s : Service) (op : Operation) : Refuses op.required (s.perform op) := by
  cases op with
  | loginUsername | registerUsername =>
    exact refuses_bind (refuses_require (refuses_require refuses_requireIfGiven))
  | loginAnonymous draws deviceKey => exact refuses_bind (refuses_require refuses_nil)
  | refresh draws token deviceKey =>
    exact refuses_bind (refuses_require (refuses_require refuses_nil))
  | logout userId deviceKey => exact refuses_bind (refuses_require refuses_nil)
  | authenticate token => exact refuses_nil

/-- An operation refuses the first blank argument and does nothing else. -/
theorem perform_of_firstBlank? (s : Service) {op : Operation} {field : Field}
    (h : op.firstBlank? = some field) : s.perform op = .fail (.refused (.blank field)) := by
  obtain ⟨argument, ha, rfl⟩ := Option.map_eq_some_iff.1 h
  exact refuses_perform s op argument ha

theorem firstBlank?_loginAnonymous (draws : Draws) {deviceKey : String}
    (h : Text.isBlank deviceKey = true) :
    (Operation.loginAnonymous draws deviceKey).firstBlank? = some .deviceKey := by
  simp [Operation.firstBlank?, Operation.required, h]

theorem require_given {field : Field} {value : String} (h : Text.isBlank value = false) :
    require field value = pure () := if_neg (by rw [h]; exact Bool.false_ne_true)

theorem requireIfGiven_given {field : Field} {value : Option String}
    (h : ∀ v, value = some v → Text.isBlank v = false) : requireIfGiven field value = pure () := by
  cases value with
  | none => rfl
  | some v => exact require_given (h v rfl)

/-- Where no argument is refused for being blank, none is. -/
theorem given_of_firstBlank? {op : Operation} (h : op.firstBlank? = none) :
    ∀ argument ∈ op.required, Text.isBlank argument.2 = false := by
  intro argument ha
  have hb := List.find?_eq_none.1 (Option.map_eq_none_iff.1 h) argument ha
  exact Bool.not_eq_true _ ▸ hb

theorem perform_registerUsername (s : Service) {draws : Draws} {username password : String}
    {deviceKey : Option String}
    (h : (Operation.registerUsername draws username password deviceKey).firstBlank? = none) :
    s.perform (.registerUsername draws username password deviceKey) = (do
      let p ← Identity.register draws username password
      return .tokens (← s.issueTokens draws p deviceKey)) := by
  have hgiven := given_of_firstBlank? h
  simp only [Operation.required, List.cons_append, List.nil_append, List.forall_mem_cons] at hgiven
  obtain ⟨hu, hp, hd⟩ := hgiven
  have hd : requireIfGiven .deviceKey deviceKey = pure () := requireIfGiven_given fun v hv =>
    hd (.deviceKey, v) (by rw [hv]; exact List.mem_singleton_self _)
  simp only [perform, registerUsername, require_given hu, require_given hp, hd, bind_assoc,
    pure_bind]

/-- An operation that is refused for its arguments does nothing else. -/
theorem perform_of_refusal? (s : Service) {op : Operation} {cause : Refusal}
    (h : op.refusal? = some cause) : s.perform op = .fail (.refused cause) := by
  unfold Operation.refusal? at h
  cases hb : op.firstBlank? with
  | some field =>
    rw [hb] at h
    cases h
    exact perform_of_firstBlank? s hb
  | none =>
    rw [hb] at h
    cases op with
    | loginUsername | loginAnonymous | refresh | logout | authenticate => cases h
    | registerUsername draws username password deviceKey =>
      by_cases hshort : password.length < minPasswordLength
      · simp only [Operation.newPassword?, Option.any_some, hshort, decide_true, if_true] at h
        cases h
        rw [perform_registerUsername s hb, Identity.register, if_pos hshort]
        rfl
      · simp [Operation.newPassword?, hshort] at h

theorem looking_loginAnonymous (s : Service) (draws : Draws) {deviceKey : String}
    (h : Text.isBlank deviceKey = false) :
    s.Looking (.onDevice draws deviceKey) (s.perform (.loginAnonymous draws deviceKey)) := by
  simp only [perform, loginAnonymous, require_given h, pure_bind]
  refine .onDevice rfl (.stamping fun t => .inserting (t := t) rfl ?_) fun a => ?_
  · exact opening_clock fun t' => opening_made s _ t t'
  · exact opening_clock fun t => opening_issueTokens s _ (a.profileAt t)

/-- A call whose arguments are acceptable begins with looking for the account of its identity. -/
theorem looking_perform (s : Service) {op : Operation} (henrol : op.enrolment? = some e)
    (h : op.refusal? = none) : s.Looking e (s.perform op) := by
  obtain ⟨hb, hlong⟩ := Operation.refusal?_eq_none_iff.1 h
  cases op with
  | loginUsername | refresh | logout | authenticate => cases henrol
  | loginAnonymous draws deviceKey =>
    cases henrol
    exact looking_loginAnonymous s draws
      (given_of_firstBlank? hb (.deviceKey, deviceKey) (List.mem_singleton_self _))
  | registerUsername draws username password deviceKey =>
    cases henrol
    rw [perform_registerUsername s hb, Identity.register, if_neg (Nat.not_lt.2 (hlong _ rfl))]
    refine .byName rfl (.stamping fun t => .inserting (t := t) rfl ?_) fun a => rfl
    exact opening_clock fun t' => opening_made s _ t t'

/-! ## Steps -/

/-- The tokens of a login of the account `userId`. -/
def Enters (s : Service) (e : Enrolment) (userId : String) (o : Outcome Result) : Prop :=
  ∃ access, s.issuer.Names access userId ∧
    o = .ok (.tokens ⟨access, e.deviceKey.map fun _ => e.draws.token⟩)

/-- What becomes of a login with its next step: it goes on, it leaves the calendar, or it stores its
session and is done. -/
inductive Opens (s : Service) (e : Enrolment) (userId : String) (now : Instant) (store : Store) :
    Program Result → Store → Prop
  | onward {p : Program Result} (opening : s.Opening e userId p) :
      Opens s e userId now store p store
  | overflowed (outside : ¬ s.InCalendar now) : Opens s e userId now store .overflow store
  | stored {deviceKey : String} {expiresAt : Instant} {p : Program Result} {o : Outcome Result}
      (device_eq : e.deviceKey = some deviceKey) (ended : p.outcome? = some o)
      (enters : s.Enters e userId o) :
      Opens s e userId now store p
        (store.rotated (e.rotation s userId deviceKey expiresAt) now)

/-- A session that begins replaces whatever was there. -/
theorem rotate_rotation (s : Service) (e : Enrolment) (userId deviceKey : String)
    (expiresAt now : Instant) (store : Store) :
    store.rotate (e.rotation s userId deviceKey expiresAt) now =
      (.ok (), store.rotated (e.rotation s userId deviceKey expiresAt) now) := by
  rcases Store.rotate_cases store (e.rotation s userId deviceKey expiresAt) now with
    ⟨h, -⟩ | ⟨-, hash, hp, -⟩
  · exact h
  · cases hp

theorem opening_advance (h : s.Opening e userId p) (now : Instant) (store : Store) :
    s.Opens e userId now store (p.advance now store).1 (p.advance now store).2 := by
  cases h with
  | @reading k answers next =>
    show s.Opens e userId now store (k now) store
    by_cases hk : k now = .overflow
    · rw [hk]
      exact .overflowed fun hc => answers now hc hk
    · exact .onward (next now hk)
  | @storing deviceKey expiresAt access k device_eq names stored =>
    rw [advance_rotate_ok (rotate_rotation s e userId deviceKey expiresAt now store), stored]
    exact .stored device_eq rfl ⟨access, names, by rw [device_eq]; rfl⟩
  | answered stateless names => exact .onward (.answered stateless names)

/-- What becomes of a call that is about to make an account: it goes on, its identity or its id
turns out to be taken, or it makes the account. -/
inductive Makes (s : Service) (e : Enrolment) (store : Store) : Program Result → Store → Prop
  | onward {p : Program Result} (making : s.Making e p) : Makes s e store p store
  | taken {t} (conflict : store.conflicts (e.account t) = true) :
      Makes s e store (.fail e.refusal) store
  | made {t : Instant} {p : Program Result} (free : store.conflicts (e.account t) = false)
      (opening : s.Opening e e.draws.accountId p) :
      Makes s e store p { store with accounts := store.accounts ++ [e.account t] }

theorem making_advance (h : s.Making e p) (now : Instant) (store : Store) :
    s.Makes e store (p.advance now store).1 (p.advance now store).2 := by
  cases h with
  | stamping next => exact .onward (next now)
  | @inserting t k taken made =>
    show s.Makes e store (k (.ok (store.insertAccount (e.account t)).1))
      (store.insertAccount (e.account t)).2
    rcases Store.insertAccount_cases store (e.account t) with ⟨hi, hfree⟩ | ⟨hi, hconflict⟩
    · rw [hi]
      exact .made hfree made
    · rw [hi, taken]
      exact .taken hconflict

theorem making_or_found {k : Except AuthError (Option Account) → Program Result}
    (absent : s.Making e (k (.ok none)))
    (present : ∀ a : Account, s.Found e a.id (k (.ok (some a)))) (known : Option Account) :
    (known = none ∧ s.Making e (k (.ok known))) ∨
      ∃ a, known = some a ∧ s.Found e a.id (k (.ok known)) := by
  cases known with
  | none => exact Or.inl ⟨rfl, absent⟩
  | some a => exact Or.inr ⟨a, rfl, present a⟩

/-- A call that looks for its account is about to make it, or has found it. -/
theorem looking_advance (h : s.Looking e p) (now : Instant) (store : Store) :
    (p.advance now store).2 = store ∧
      ((store.accountWith e.method e.authId = none ∧ s.Making e (p.advance now store).1) ∨
      ∃ a, store.accountWith e.method e.authId = some a ∧
        s.Found e a.id (p.advance now store).1) := by
  cases h with
  | onDevice method absent present | byName method absent present =>
    rw [method]
    exact ⟨rfl, making_or_found absent present _⟩

theorem making_of_unknown (h : s.Looking e p) {store : Store}
    (hnone : store.accountWith e.method e.authId = none) (now : Instant) :
    (p.advance now store).2 = store ∧ s.Making e (p.advance now store).1 := by
  obtain ⟨hquiet, ⟨-, hmaking⟩ | ⟨a, ha, -⟩⟩ := looking_advance h now store
  · exact ⟨hquiet, hmaking⟩
  · rw [hnone] at ha
    cases ha

theorem found_of_known (h : s.Looking e p) {store : Store} {a : Account}
    (ha : store.accountWith e.method e.authId = some a) (now : Instant) :
    (p.advance now store).2 = store ∧ s.Found e a.id (p.advance now store).1 := by
  obtain ⟨hquiet, ⟨hnone, -⟩ | ⟨b, hb, hfound⟩⟩ := looking_advance h now store
  · rw [ha] at hnone
    cases hnone
  · obtain rfl := Option.some.inj (ha.symm.trans hb)
    exact ⟨hquiet, hfound⟩

/-! ## Ends -/

/-- How a call can end, left to itself: it logs in the account of its identity, or one that it has
made; it is refused and has written nothing; or the clock has left the calendar, and then an account
that it has made stays behind. -/
inductive Concludes (s : Service) (e : Enrolment) (shown : Instant → Prop) (store : Store) :
    Outcome Result → Store → Prop
  | joined {a o store'} (known : store.accountWith e.method e.authId = some a)
      (enters : s.Enters e a.id o) (accounts : store'.accounts = store.accounts) :
      Concludes s e shown store o store'
  | enrolled {t o store'} (unknown : store.accountWith e.method e.authId = none)
      (enters : s.Enters e e.draws.accountId o)
      (accounts : store'.accounts = store.accounts ++ [e.account t]) :
      Concludes s e shown store o store'
  | refused {cause} : Concludes s e shown store (.error cause) store
  | overflowed {a t} (known : store.accountWith e.method e.authId = some a) (shows : shown t)
      (outside : ¬ s.InCalendar t) : Concludes s e shown store .overflow store
  | stranded {made t} (unknown : store.accountWith e.method e.authId = none) (shows : shown t)
      (outside : ¬ s.InCalendar t) :
      Concludes s e shown store .overflow
        { store with accounts := store.accounts ++ [e.account made] }

variable {shown : Instant → Prop} {store store' : Store} {o : Outcome Result}

/-- A login ends with its tokens, or the clock leaves the calendar and nothing is written. -/
theorem ends_of_opening (h : s.Opening e userId p) (he : p.Ends shown store o store') :
    (s.Enters e userId o ∧ store'.accounts = store.accounts) ∨
      (o = .overflow ∧ store' = store ∧ ∃ t, shown t ∧ ¬ s.InCalendar t) := by
  induction h with
  | @reading k answers next ih =>
    cases he with
    | @clock _ t _ _ _ shows he =>
      by_cases hk : k t = .overflow
      · rw [hk] at he
        cases he
        exact Or.inr ⟨rfl, rfl, t, shows, fun hc => answers t hc hk⟩
      · exact ih t hk he
  | @storing deviceKey expiresAt access k device_eq names stored =>
    obtain ⟨t, -, he⟩ := ends_advance rfl he
    rw [advance_rotate_ok (rotate_rotation s e userId deviceKey expiresAt t store), stored] at he
    cases he
    exact Or.inl ⟨⟨access, names, by rw [device_eq]; rfl⟩, rfl⟩
  | answered stateless names =>
    cases he
    exact Or.inl ⟨⟨_, names, by rw [stateless]; rfl⟩, rfl⟩

theorem ends_of_making (h : s.Making e p) (hnone : store.accountWith e.method e.authId = none)
    (he : p.Ends shown store o store') : s.Concludes e shown store o store' := by
  induction h with
  | stamping next ih =>
    cases he with
    | clock _ he => exact ih _ he
  | @inserting t k taken made =>
    cases he with
    | @call _ _ now _ _ _ _ he =>
      change (k (.ok (store.insertAccount (e.account t)).1)).Ends shown
        (store.insertAccount (e.account t)).2 o store' at he
      rcases Store.insertAccount_cases store (e.account t) with ⟨hi, -⟩ | ⟨hi, -⟩
      · rw [hi] at he
        rcases ends_of_opening made he with ⟨hin, haccounts⟩ | ⟨rfl, rfl, u, hu, hout⟩
        · exact .enrolled hnone hin haccounts
        · exact .stranded hnone hu hout
      · rw [hi, taken] at he
        cases he
        exact .refused

theorem ends_of_looking (h : s.Looking e p) (he : p.Ends shown store o store') :
    s.Concludes e shown store o store' := by
  obtain ⟨t, -, he⟩ := ends_advance (outcome?_of_looking h) he
  obtain ⟨hquiet, hnext⟩ := looking_advance h t store
  rw [hquiet] at he
  rcases hnext with ⟨hnone, hmaking⟩ | ⟨a, ha, hfound⟩
  · exact ends_of_making hmaking hnone he
  · rcases found_cases hfound with ⟨-, hopening⟩ | ⟨-, hfail⟩
    · rcases ends_of_opening hopening he with ⟨hin, haccounts⟩ | ⟨rfl, rfl, u, hu, hout⟩
      · exact .joined ha hin haccounts
      · exact .overflowed ha hu hout
    · rw [hfail] at he
      cases he
      exact .refused

/-- How a call of an operation that may make an account can end. -/
theorem ends_of_enrolment {op : Operation} (henrol : op.enrolment? = some e)
    (he : (s.perform op).Ends shown store o store') : s.Concludes e shown store o store' := by
  cases hr : op.refusal? with
  | some cause =>
    rw [perform_of_refusal? s hr] at he
    cases he
    exact .refused
  | none => exact ends_of_looking (looking_perform s henrol hr) he

end Service

end Latchkey
