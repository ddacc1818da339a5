/-
What an operation leaves behind that does not succeed. One that fails leaves the store as it was,
and so does one that runs out of the calendar, unless it makes an account
(`failed_perform_leaves_store`). An account is made before its session: where the calendar ends in
between, it stays behind and its identity is taken (`enrolment_leaves_store_or_account`).
-/
import Latchkey.Proofs.Service.Enrolment

namespace Latchkey

open Operation (Result)

/-- If the operation is a refresh, it hands out the token that it has drawn. -/
def Operation.Redeems (op : Operation) (result : Result) : Prop :=
  ∀ draws raw deviceKey, op = .refresh draws raw deviceKey →
    ∃ access, result = .tokens ⟨access, some draws.token⟩

namespace Service

open Program

variable {s : Service} {op : Operation}

/-! ## Operations that make no account -/

theorem reads_require (field : Field) (value : String) : (require field value).Reads := by
  unfold require
  split <;> trivial

theorem reads_requireIfGiven (field : Field) (value : Option String) :
    (requireIfGiven field value).Reads := by
  cases value with
  | none => trivial
  | some v => exact reads_require field v

theorem reads_issueAccess (s : Service) (p : Profile) : (s.issueAccess p).Reads := by
  unfold issueAccess
  refine reads_bind reads_now fun t => ?_
  split <;> trivial

theorem reads_resolveByPassword (username password : String) :
    (Identity.resolveByPassword username password).Reads := by
  unfold Identity.resolveByPassword
  refine reads_bind (reads_ask trivial) fun known => reads_bind (reads_orFail known _) fun a => ?_
  refine reads_bind (reads_orFail _ _) fun hash => reads_bind (reads_ofExcept _) fun ok => ?_
  cases ok with
  | true => exact reads_bind reads_now fun t => trivial
  | false => trivial

theorem reads_resolveById (id : String) : (Identity.resolveById id).Reads := by
  unfold Identity.resolveById
  refine reads_bind (reads_ask trivial) fun known => ?_
  cases known with
  | some a => exact reads_bind reads_now fun t => trivial
  | none => trivial

theorem reads_validate (issuer : Issuer) (deviceKey raw : String) :
    (Session.validate issuer deviceKey raw).Reads := by
  unfold Session.validate
  exact reads_bind (reads_ask trivial) fun owner => reads_orFail owner _

theorem settles_storeDrawn (issuer : Issuer) (lifetime : Duration) (draws : Draws)
    (deviceKey userId : String) (previousHash : Option String) :
    (Session.storeDrawn issuer lifetime draws deviceKey userId previousHash).Settles
      (· = draws.token) := by
  unfold Session.storeDrawn
  refine settles_bind reads_now fun t => settles_bind (reads_after t lifetime) fun expiresAt => ?_
  exact settles_ask fun _ => rfl

/-- An operation that makes no account asks first, and only what it writes last can change the
store. -/
theorem settles_perform (s : Service) (h : op.enrolment? = none) :
    (s.perform op).Settles op.Redeems := by
  cases op with
  | registerUsername | loginAnonymous => cases h
  | loginUsername draws username password deviceKey =>
    have hpost : ∀ result, (Operation.loginUsername draws username password deviceKey).Redeems
        result := fun result draws raw deviceKey h => by cases h
    simp only [perform, loginUsername, bind_assoc]
    refine settles_bind (reads_require _ _) fun _ => settles_bind (reads_require _ _) fun _ => ?_
    refine settles_bind (reads_requireIfGiven _ _) fun _ => ?_
    refine settles_bind (reads_resolveByPassword _ _) fun p => ?_
    cases deviceKey with
    | none =>
      simp only [issueTokens, bind_assoc]
      exact settles_bind (reads_issueAccess s p) fun access => hpost _
    | some deviceKey =>
      simp only [issueTokens, bind_assoc, pure_bind]
      refine settles_bind (reads_issueAccess s p) fun access => ?_
      exact settles_map (settles_storeDrawn _ _ _ _ _ _) fun _ _ => hpost _
  | refresh draws token deviceKey =>
    simp only [perform, refresh, bind_assoc, pure_bind]
    refine settles_bind (reads_require _ _) fun _ => settles_bind (reads_require _ _) fun _ => ?_
    refine settles_bind (reads_validate _ _ _) fun userId => ?_
    refine settles_bind (reads_resolveById _) fun p? => settles_bind (reads_orFail p? _) fun p => ?_
    refine settles_bind (reads_issueAccess s p) fun access => ?_
    refine settles_map (settles_storeDrawn _ _ _ _ _ _) fun renewed hr draws' raw deviceKey' h => ?_
    cases h
    exact ⟨access, by rw [hr]⟩
  | logout userId deviceKey =>
    simp only [perform, logout, bind_assoc]
    refine settles_bind (reads_require _ _) fun _ => settles_ask fun _ => ?_
    exact fun draws raw deviceKey h => by cases h
  | authenticate token =>
    simp only [perform, authenticate, bind_assoc]
    refine settles_bind reads_now fun t => settles_bind (reads_orFail _ _) fun claims => ?_
    refine settles_bind (reads_resolveById _) fun p? => settles_bind (reads_orFail p? _) fun p => ?_
    exact fun draws raw deviceKey h => by cases h

/-! ## What is left behind -/

/-- An operation that fails leaves the store as it was, and so does one that runs out of the
calendar and makes no account. A refresh that changes the store returns the token that it has drawn,
and whichever argument is blank first, its name is all that there is to the answer. -/
theorem failed_perform_leaves_store (s : Service) (op : Operation) (store : Store) :
    (∀ (shown : Instant → Prop) (o : Outcome Result) (store' : Store),
      (s.perform op).Ends shown store o store' →
      (∀ e, o = .error e → store' = store) ∧
      (op.enrolment? = none → o = .overflow → store' = store) ∧
      (∀ draws raw deviceKey, op = .refresh draws raw deviceKey → store' ≠ store →
        ∃ access, o = .ok (.tokens ⟨access, some draws.token⟩))) ∧
    ∀ field, op.firstBlank? = some field → ∀ now,
      (s.perform op).run now store = (.error (.refused (.blank field)), store) ∧
      (AuthError.refused (.blank field)).message =
        "Validation error: " ++ field.label ++ " is required" := by
  refine ⟨fun shown o store' he => ?_, fun field hb now => ?_⟩
  · cases henrol : op.enrolment? with
    | some e =>
      -- what is left behind is left behind by a success, or where the calendar ends
      have hends := ends_of_enrolment henrol he
      refine ⟨fun e' ho => ?_, fun h => (by cases h), fun draws raw deviceKey h => ?_⟩
      · subst ho
        cases hends with
        | joined _ henters | enrolled _ henters =>
          obtain ⟨access, -, h⟩ := henters
          cases h
        | refused => rfl
      · rw [h] at henrol
        cases henrol
    | none =>
      rcases ends_of_settles (settles_perform s henrol) he with rfl | ⟨result, rfl, hredeems⟩
      · exact ⟨fun _ _ => rfl, fun _ _ => rfl, fun _ _ _ _ h => absurd rfl h⟩
      · refine ⟨fun e h => (by cases h), fun _ h => (by cases h), fun draws raw deviceKey h _ => ?_⟩
        obtain ⟨access, rfl⟩ := hredeems draws raw deviceKey h
        exact ⟨access, rfl⟩
  · rw [perform_of_firstBlank? s hb]
    exact ⟨rfl, rfl⟩

/-- A service whose access tokens would live beyond the end of the calendar. -/
def endless : Service :=
  ⟨{ Service.sample.issuer with lifetime := Clock.latest + 1, lifetime_pos := by decide }, 1000⟩

/-- A store with one account, which has a session on one device. -/
def singleSession : Store :=
  ⟨[.fresh "first account" "first customer" .anonymous "phone" none 0],
    [⟨"first row", "phone", "first account", endless.issuer.hashToken "first token", 0, 1000,
      none⟩]⟩

theorem endless_refresh_leaves_store :
    let op := Operation.refresh (.sample "second") "first token" "phone"
    let store' := ((endless.perform op).run 5 singleSession).2
    op.enrolment? = none ∧ (endless.perform op).Ends (· = 5) singleSession .overflow store' ∧
      store' = singleSession ∧
    (Operation.refresh (.sample "second") "" " ").firstBlank? = some .deviceKey ∧
      (endless.perform (.refresh (.sample "second") "" " ")).run 5 singleSession =
        (.error (.refused (.blank .deviceKey)), singleSession) := by
  intro op store'
  have hrun : ((endless.perform op).run 5 singleSession).1 = .overflow := by decide +kernel
  have he := ends_run 5 (endless.perform op) singleSession
  rw [hrun] at he
  have hleaves := (failed_perform_leaves_store endless op singleSession).1 _ _ _ he
  have hblank : (Operation.refresh (.sample "second") "" " ").firstBlank? = some .deviceKey := by
    decide
  exact ⟨rfl, he, hleaves.2.1 rfl rfl, hblank,
    ((failed_perform_leaves_store endless _ singleSession).2 _ hblank 5).1⟩

/-! ## Accounts without a session -/

/-- A call that may make an account returns tokens, or it fails and leaves the store as it was, or
it runs out of the calendar. Then nothing has changed if the account was there before, and else the
new account is all that has been written. -/
theorem enrolment_leaves_store_or_account (s : Service) {op : Operation} {e : Enrolment}
    (henrol : op.enrolment? = some e) {shown : Instant → Prop} {store store' : Store}
    {o : Outcome Result} (he : (s.perform op).Ends shown store o store') :
    (∃ tokens, o = .ok (.tokens tokens)) ∨
    ((∃ cause, o = .error cause) ∧ store' = store) ∨
    o = .overflow ∧ (∃ t, shown t ∧ ¬ s.InCalendar t) ∧
      (((store.accountWith e.method e.authId).isSome ∧ store' = store) ∨
      (store.accountWith e.method e.authId = none ∧
        ∃ t, store' = { store with accounts := store.accounts ++ [e.account t] })) := by
  cases ends_of_enrolment henrol he with
  | joined _ henters | enrolled _ henters =>
    obtain ⟨access, -, h⟩ := henters
    exact Or.inl ⟨_, h⟩
  | refused => exact Or.inr (Or.inl ⟨⟨_, rfl⟩, rfl⟩)
  | overflowed known shows outside =>
    exact Or.inr (Or.inr ⟨rfl, ⟨_, shows, outside⟩, Or.inl ⟨by rw [known]; rfl, rfl⟩⟩)
  | stranded unknown shows outside =>
    exact Or.inr (Or.inr ⟨rfl, ⟨_, shows, outside⟩, Or.inr ⟨unknown, _, rfl⟩⟩)

theorem endless_login_leaves_store :
    let op := Operation.loginAnonymous (.sample "second") "phone"
    let store' := ((endless.perform op).run 5 singleSession).2
    op.enrolment?.isSome ∧ (endless.perform op).Ends (· = 5) singleSession .overflow store' ∧
      store' = singleSession := by
  intro op store'
  have hrun : ((endless.perform op).run 5 singleSession).1 = .overflow := by decide +kernel
  have he := ends_run 5 (endless.perform op) singleSession
  rw [hrun] at he
  refine ⟨rfl, he, ?_⟩
  rcases enrolment_leaves_store_or_account endless rfl he with
    ⟨tokens, h⟩ | ⟨⟨cause, h⟩, -⟩ | ⟨-, -, ⟨-, h⟩ | ⟨hnone, -⟩⟩
  · cases h
  · cases h
  · exact h
  · exact absurd hnone (by decide +kernel)

/-- A registration that runs out of the calendar is not undone: the name is taken from then on. -/
theorem endless_registration_keeps_account :
    let first := (endless.perform
      (.registerUsername (.sample "first") "alice" "long enough" none)).run 0 .empty
    Issuer.ofSecret [1] (Clock.latest + 1) = .ok endless.issuer ∧
    first.1 = .overflow ∧ first.2.accounts.map (·.authId) = ["alice"] ∧
    ((endless.perform (.registerUsername (.sample "second") "alice" "long enough" none)).run 0
      first.2).1 = .error (.refused .usernameTaken) := by
  refine ⟨rfl, ?_, ?_, ?_⟩
  · decide +kernel
  · decide +kernel
  · decide +kernel

end Service

end Latchkey
