/-
Logins with a name and a password. Such a call looks for the account of its name, compares the
password with the one that is stored, and opens a session for the account or is refused
(`Checking`). What it comes to depends on nothing else: while the name belongs to an account, a
login that has ended has entered it exactly if that account accepts the password, unless the clock
has left the calendar (`LoggingIn`).
-/
import Latchkey.Proofs.Service.Identities

namespace Latchkey

open Operation (Result)

/-- A password that the account has and that compares as equal. -/
def Account.Accepts (a : Account) (password : String) : Prop :=
  ∃ hash, a.passwordHash = some hash ∧ Password.verify password hash = .ok true

/-- A login with a name and a password. -/
structure Login where
  draws : Draws
  username : String
  password : String
  deviceKey : Option String

namespace Login

def operation (l : Login) : Operation := .loginUsername l.draws l.username l.password l.deviceKey

/-- What a login brings along: it joins the account of its name, or nobody. -/
def enrolment (l : Login) : Enrolment where
  draws := l.draws
  method := .password
  authId := l.username
  passwordHash := none
  deviceKey := l.deviceKey
  joins := true
  refusal := .badCredentials

/-- No argument is blank that must not be. -/
theorem firstBlank?_eq_none {l : Login} (hname : Text.isBlank l.username = false)
    (hpassword : Text.isBlank l.password = false)
    (hdevice : ∀ d, l.deviceKey = some d → Text.isBlank d = false) :
    l.operation.firstBlank? = none := by
  refine Option.map_eq_none_iff.2 (List.find?_eq_none.2 fun argument hargument => ?_)
  rw [Bool.not_eq_true]
  simp only [operation, Operation.required, List.cons_append, List.nil_append,
    List.mem_cons] at hargument
  rcases hargument with rfl | rfl | hargument
  · exact hname
  · exact hpassword
  · obtain ⟨d, hd, rfl⟩ := Option.map_eq_some_iff.1 (Option.mem_toList.1 hargument)
    exact hdevice d hd

end Login

namespace Service

open Program

variable {s : Service} {l : Login} {a : Account} {late : Prop} {p : Program Result}

/-! ## Stages -/

/-- With its next step the login looks for the account of its name, and it logs that in or fails,
as the account accepts its password or not. -/
inductive Checking (s : Service) (l : Login) : Program Result → Prop
  | asking {k} (accepted : ∀ a : Account, a.Accepts l.password →
        s.Opening l.enrolment a.id (k (.ok (some a))))
      (rejected : ∀ a : Account, ¬ a.Accepts l.password → ∃ cause, k (.ok (some a)) = .fail cause) :
      Checking s l (.call (.accountByUsername l.username) k)

/-- A login of which nothing is blank goes straight to the password. -/
theorem loginUsername_given (s : Service) {l : Login} (h : l.operation.firstBlank? = none) :
    s.loginUsername l.draws l.username l.password l.deviceKey = (do
      let p ← Identity.resolveByPassword l.username l.password
      s.issueTokens l.draws p l.deviceKey) := by
  have hgiven := given_of_firstBlank? h
  simp only [Login.operation, Operation.required, List.cons_append, List.nil_append,
    List.forall_mem_cons] at hgiven
  obtain ⟨hu, hp, hd⟩ := hgiven
  have hd : requireIfGiven .deviceKey l.deviceKey = pure () := requireIfGiven_given fun v hv =>
    hd (.deviceKey, v) (by rw [hv]; exact List.mem_singleton_self _)
  simp only [loginUsername, require_given hu, require_given hp, hd, pure_bind]

theorem perform_login (s : Service) {l : Login} (h : l.operation.firstBlank? = none) :
    s.perform l.operation = (do
      let p ← Identity.resolveByPassword l.username l.password
      return .tokens (← s.issueTokens l.draws p l.deviceKey)) := by
  simp only [Login.operation, perform, loginUsername_given s h, bind_assoc]

theorem checkPassword_eq_ok_true {password hash : String} :
    Identity.checkPassword password hash = .ok true ↔
      Password.verify password hash = .ok true := by
  unfold Identity.checkPassword
  generalize Password.verify password hash = checked
  cases checked <;> simp [Except.mapError]

/-- What a login does with the account of its name. -/
def compare (a : Account) (password : String) : Program Profile := do
  let hash ← orFail a.passwordHash .badCredentials
  if ← ofExcept (Identity.checkPassword password hash) then return a.profileAt (← now)
  else fail .badCredentials

theorem compare_of_accepts {a : Account} {password : String} (h : a.Accepts password) :
    compare a password = .clock fun t => .done (a.profileAt t) := by
  obtain ⟨hash, hhash, hverify⟩ := h
  rw [compare, hhash]
  show ((ofExcept (Identity.checkPassword password hash)).bind _ : Program Profile) = _
  rw [checkPassword_eq_ok_true.2 hverify]
  rfl

theorem compare_of_not_accepts {a : Account} {password : String} (h : ¬ a.Accepts password) :
    ∃ cause, compare a password = .fail cause := by
  unfold compare
  cases hhash : a.passwordHash with
  | none => exact ⟨_, rfl⟩
  | some hash =>
    show ∃ cause, ((ofExcept (Identity.checkPassword password hash)).bind _ : Program Profile) = _
    cases hcheck : Identity.checkPassword password hash with
    | error cause => exact ⟨cause, rfl⟩
    | ok accepted =>
      cases accepted with
      | false => exact ⟨_, rfl⟩
      | true => exact absurd ⟨hash, hhash, checkPassword_eq_ok_true.1 hcheck⟩ h

/-- A password that is not there to compare with and one that compares as different are told in the
same way as a name that nobody has. -/
theorem compare_of_different {a : Account} {password : String}
    (h : ∀ hash, a.passwordHash = some hash → Password.verify password hash = .ok false) :
    compare a password = .fail .badCredentials := by
  unfold compare
  cases hhash : a.passwordHash with
  | none => rfl
  | some hash =>
    show ((ofExcept (Identity.checkPassword password hash)).bind _ : Program Profile) = _
    rw [Identity.checkPassword, h hash hhash]
    rfl

theorem checking_perform (s : Service) {l : Login} (h : l.operation.firstBlank? = none) :
    s.Checking l (s.perform l.operation) := by
  rw [perform_login s h, Identity.resolveByPassword]
  -- nothing but the comparison tells what comes after the look-up
  refine .asking (fun a ha => ?_) fun a ha => ?_
  · show s.Opening l.enrolment a.id ((compare a l.password).bind _)
    rw [compare_of_accepts ha]
    exact opening_clock fun t => opening_issueTokens s l.enrolment (a.profileAt t)
  · obtain ⟨cause, hcause⟩ := compare_of_not_accepts ha
    refine ⟨cause, ?_⟩
    show (compare a l.password).bind _ = _
    rw [hcause]
    rfl

/-! ## Steps -/

theorem checking_advance (h : s.Checking l p) {store : Store}
    (ha : store.accountWith .password l.username = some a) (now : Instant) :
    (p.advance now store).2 = store ∧
      ((a.Accepts l.password ∧ s.Opening l.enrolment a.id (p.advance now store).1) ∨
      (¬ a.Accepts l.password ∧ ∃ cause, (p.advance now store).1 = .fail cause)) := by
  cases h with
  | @asking k accepted rejected =>
    refine ⟨rfl, ?_⟩
    show (_ ∧ s.Opening _ _ (k (.ok (store.accountWith .password l.username)))) ∨
      (_ ∧ ∃ cause, k (.ok (store.accountWith .password l.username)) = .fail cause)
    rw [ha]
    by_cases haccepts : a.Accepts l.password
    · exact Or.inl ⟨haccepts, accepted a haccepts⟩
    · exact Or.inr ⟨haccepts, rejected a haccepts⟩

theorem outcome?_of_checking (h : s.Checking l p) : p.outcome? = none := by
  cases h
  rfl

/-- How a login can end whose name belongs to an account: if the account accepts the password it is
logged in, unless the clock has left the calendar, and then the login is `late`. -/
inductive Decided (s : Service) (l : Login) (a : Account) (late : Prop) : Outcome Result → Prop
  | blank {field} (blank : l.operation.firstBlank? = some field) :
      Decided s l a late (.error (.refused (.blank field)))
  | entered {o} (accepts : a.Accepts l.password) (enters : s.Enters l.enrolment a.id o) :
      Decided s l a late o
  | overflowed (accepts : a.Accepts l.password) (overdue : late) : Decided s l a late .overflow
  | rejected {cause} (given : l.operation.firstBlank? = none) (rejects : ¬ a.Accepts l.password) :
      Decided s l a late (.error cause)

/-- What may be left of a login that began when its name belonged to an account. -/
inductive LoggingIn (s : Service) (l : Login) (a : Account) (late : Prop) : Program Result → Prop
  | checking {p : Program Result} (given : l.operation.firstBlank? = none)
      (checking : s.Checking l p) : LoggingIn s l a late p
  | opening {p : Program Result} (accepts : a.Accepts l.password)
      (opening : s.Opening l.enrolment a.id p) : LoggingIn s l a late p
  | ended {p : Program Result} {o : Outcome Result} (ended : p.outcome? = some o)
      (decided : s.Decided l a late o) : LoggingIn s l a late p

theorem loggingIn_start (s : Service) (l : Login) (a : Account) (late : Prop) :
    s.LoggingIn l a late (s.perform l.operation) := by
  cases hb : l.operation.firstBlank? with
  | none => exact .checking hb (checking_perform s hb)
  | some field =>
    rw [perform_of_firstBlank? s hb]
    exact .ended rfl (.blank hb)

theorem loggingIn_advance (h : s.LoggingIn l a late p) {store : Store}
    (ha : store.accountWith .password l.username = some a) {now : Instant}
    (hlate : ¬ s.InCalendar now → late) : s.LoggingIn l a late (p.advance now store).1 := by
  cases h with
  | checking given hchecking =>
    obtain ⟨-, ⟨haccepts, hopening⟩ | ⟨hrejects, cause, hfail⟩⟩ := checking_advance hchecking ha now
    · exact .opening haccepts hopening
    · rw [hfail]
      exact .ended rfl (.rejected given hrejects)
  | opening haccepts hopening =>
    have hstep := opening_advance hopening now store
    generalize p.advance now store = q at hstep
    obtain ⟨p', store'⟩ := q
    cases hstep with
    | onward hopening => exact .opening haccepts hopening
    | overflowed outside => exact .ended rfl (.overflowed haccepts (hlate outside))
    | stored _ ended enters => exact .ended ended (.entered haccepts enters)
  | ended hended decided =>
    rw [advance_of_outcome? hended]
    exact .ended hended decided

/-! ## Ends -/

variable {shown : Instant → Prop} {store store' : Store} {o : Outcome Result}

theorem decided_of_opening (h : s.Opening l.enrolment a.id p) (haccepts : a.Accepts l.password)
    (hlate : ∀ t, shown t → ¬ s.InCalendar t → late) (he : p.Ends shown store o store') :
    s.Decided l a late o := by
  rcases ends_of_opening h he with ⟨henters, -⟩ | ⟨rfl, -, t, hshown, hout⟩
  · exact .entered haccepts henters
  · exact .overflowed haccepts (hlate t hshown hout)

/-- Wherever a login has come to, left to itself it is decided. -/
theorem decided_of_ends (h : s.LoggingIn l a late p)
    (ha : store.accountWith .password l.username = some a)
    (hlate : ∀ t, shown t → ¬ s.InCalendar t → late) (he : p.Ends shown store o store') :
    s.Decided l a late o := by
  cases h with
  | checking given hchecking =>
    -- the first step is the look-up; it finds the account and writes nothing
    obtain ⟨t, -, he⟩ := ends_advance (outcome?_of_checking hchecking) he
    obtain ⟨-, ⟨haccepts, hopening⟩ | ⟨hrejects, cause, hfail⟩⟩ := checking_advance hchecking ha t
    · exact decided_of_opening hopening haccepts hlate he
    · rw [hfail] at he
      cases he
      exact .rejected given hrejects
  | opening haccepts hopening => exact decided_of_opening hopening haccepts hlate he
  | ended hended decided =>
    cases p with
    | done | fail | overflow =>
      cases hended
      cases he
      exact decided
    | clock | call => cases hended

/-- Left to itself within the calendar, a login enters the account of its name if that accepts its
password. -/
theorem enters_of_accepts (hgiven : l.operation.firstBlank? = none)
    (ha : store.accountWith .password l.username = some a) (haccepts : a.Accepts l.password)
    {now : Instant} (hnow : s.InCalendar now) :
    s.Enters l.enrolment a.id ((s.perform l.operation).run now store).1 := by
  have hlate : ∀ t, t = now → ¬ s.InCalendar t → False := fun t ht hout => hout (ht ▸ hnow)
  have hdecided := decided_of_ends (loggingIn_start s l a False) ha hlate (ends_run now _ store)
  generalize ((s.perform l.operation).run now store).1 = o at hdecided ⊢
  cases hdecided with
  | blank hblank =>
    rw [hgiven] at hblank
    cases hblank
  | entered _ enters => exact enters
  | overflowed _ overdue => exact overdue.elim
  | rejected _ hrejects => exact absurd haccepts hrejects

end Service

/-! ## Logins amid other calls -/

namespace Traffic

variable {s : Service} {name : String} {a : Account} {late : Prop} {first : Nat} {w : Traffic}

/-- The name belongs to the account `a`, and so do the logins from call `first` on. -/
structure Named (s : Service) (name : String) (a : Account) (late : Prop) (first : Nat)
    (w : Traffic) : Prop where
  ids : w.store.DistinctIds
  identities : w.store.DistinctIdentities
  known : w.store.accountWith .password name = some a
  logins : ∀ (j : Nat) (c : Call) (l : Login), first ≤ j → w.calls[j]? = some c →
    c.operation = l.operation → l.username = name → s.LoggingIn l a late c.rest

theorem named_after (h : w.Named s name a late first) {now : Instant} {e : Event}
    (he : e ≠ .other (.softDelete a.id)) (hlate : ¬ s.InCalendar now → late) :
    (w.after s now e).Named s name a late first := by
  have hknown := accountWith_after (s := s) h.identities h.known now he
  refine ⟨?_, hknown.1, hknown.2, fun j c' l hj hc' hop hname => ?_⟩
  · exact of_store_after (P := Store.DistinctIds) h.ids now (Store.distinctIds_after h.ids now) e
  · rcases call_after hc' with ⟨hc, -⟩ | ⟨-, c, hc, rfl⟩ | ⟨op, -, -, rfl⟩
    · exact h.logins j c' l hj hc hop hname
    · have hlogin := h.logins j c l hj hc hop hname
      exact Service.loggingIn_advance hlogin (hname ▸ h.known) hlate
    · obtain rfl : op = l.operation := hop
      exact Service.loggingIn_start s l a late

/-- While the account is live, its name is its own and so are the logins. -/
theorem named_run (h : w.Named s name a late first) {events : List (Instant × Event)}
    (hlate : ∀ e ∈ events, ¬ s.InCalendar e.1 → late)
    (hlive : ((w.run s events).store.accountById a.id).isSome) :
    (w.run s events).Named s name a late first := by
  induction events generalizing w with
  | nil => exact h
  | cons e rest ih =>
    -- a deletion now would be for good, but the account is live at the end
    have hspared : e.2 ≠ .other (.softDelete a.id) := by
      intro he
      obtain ⟨hmem, halive⟩ := Store.accountWith_some h.known
      have hfound : (w.store.accountById a.id).isSome :=
        Store.accountById_isSome_iff.2 ⟨a, hmem, rfl, halive⟩
      have hgone : (w.after s e.1 e.2).store.Gone a.id := by
        rw [he]
        exact Store.gone_softDelete h.ids (Store.softDelete_of_isSome hfound e.1)
      change (((w.after s e.1 e.2).run s rest).store.accountById a.id).isSome at hlive
      rw [(gone_run hgone rest).2] at hlive
      cases hlive
    exact ih (named_after h hspared (hlate e List.mem_cons_self))
      (fun e' he' => hlate e' (List.mem_cons_of_mem e he')) hlive

end Traffic

end Latchkey
