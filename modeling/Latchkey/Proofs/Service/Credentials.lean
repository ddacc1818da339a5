/-
Registered credentials. A registration that has returned has bound its name to an account with the
stored text of its password, and nothing but the deletion of the account loosens that
(`named_of_registered`). So from then on every login with the name and the password enters the
account (`registered_logs_in`), and so does every other password with the same key, and none
besides but for collisions of the digest (`logins_share_digest`).
-/
import Latchkey.Proofs.Password.RoundTrip
import Latchkey.Proofs.Service.Login

namespace Latchkey

open Operation (Result)

/-! ## Accounts that are remembered -/

namespace Store

/-- The account is in the store as it was made, or it has been there and is gone. -/
def Recalls (s : Store) (a : Account) : Prop := a ∈ s.accounts ∨ s.Gone a.id

theorem recalls_after {s : Store} (hids : s.DistinctIds) {a : Account} (hlive : a.live = true)
    (h : s.Recalls a) (now : Instant) (e : Event) : (s.after now e).Recalls a := by
  rcases h with hmem | hgone
  · by_cases he : e = .softDelete a.id
    · have hfound : (s.accountById a.id).isSome :=
        accountById_isSome_iff.2 ⟨a, hmem, rfl, hlive⟩
      rw [he]
      exact Or.inr (gone_softDelete hids (softDelete_of_isSome hfound now))
    · exact Or.inl (mem_accounts_after hmem now he)
  · exact Or.inr (gone_after hgone now e)

end Store

/-! ## Registrations -/

namespace Service

open Program

variable {s : Service} {e : Enrolment} {store store' : Store} {p : Program Result}

/-- What may be left of a registration. Once it has made its account, the store remembers that. -/
inductive Registering (s : Service) (e : Enrolment) (store : Store) : Program Result → Prop
  | looking {p : Program Result} (looking : s.Looking e p) : Registering s e store p
  | making {p : Program Result} (making : s.Making e p) : Registering s e store p
  | failed {cause} : Registering s e store (.fail cause)
  | overflowed : Registering s e store .overflow
  | opening {t} {p : Program Result} (made : store.Recalls (e.account t))
      (opening : s.Opening e e.draws.accountId p) : Registering s e store p
  | entered {t} {p : Program Result} {o : Outcome Result} (made : store.Recalls (e.account t))
      (ended : p.outcome? = some o) (enters : s.Enters e e.draws.accountId o) :
      Registering s e store p

theorem registering_perform (s : Service) {op : Operation} (he : op.enrolment? = some e)
    (store : Store) : s.Registering e store (s.perform op) := by
  cases hr : op.refusal? with
  | none => exact .looking (looking_perform s he hr)
  | some cause =>
    rw [perform_of_refusal? s hr]
    exact .failed

theorem Registering.mono (h : s.Registering e store p)
    (hrecalls : ∀ t, store.Recalls (e.account t) → store'.Recalls (e.account t)) :
    s.Registering e store' p := by
  cases h with
  | looking h => exact .looking h
  | making h => exact .making h
  | failed => exact .failed
  | overflowed => exact .overflowed
  | opening made h => exact .opening (hrecalls _ made) h
  | entered made ended enters => exact .entered (hrecalls _ made) ended enters

theorem registering_advance (h : s.Registering e store p) (hjoins : e.joins = false)
    (now : Instant) : s.Registering e (p.advance now store).2 (p.advance now store).1 := by
  cases h with
  | failed => exact .failed
  | overflowed => exact .overflowed
  | looking hlooking =>
    obtain ⟨-, ⟨-, hmaking⟩ | ⟨a, -, hfound⟩⟩ := looking_advance hlooking now store
    · exact .making hmaking
    · -- the name is taken, and a registration joins nobody
      rcases found_cases hfound with ⟨hjoins', -⟩ | ⟨-, hfail⟩
      · rw [hjoins] at hjoins'
        cases hjoins'
      · rw [hfail]
        exact .failed
  | making hmaking =>
    have hstep := making_advance hmaking now store
    generalize p.advance now store = q at hstep
    obtain ⟨p', store'⟩ := q
    cases hstep with
    | onward making => exact .making making
    | taken => exact .failed
    | made _ opening =>
      exact .opening (Or.inl (List.mem_append_right _ (List.mem_singleton_self _))) opening
  | @opening t _ made hopening =>
    have hstep := opening_advance hopening now store
    generalize p.advance now store = q at hstep
    obtain ⟨p', store'⟩ := q
    cases hstep with
    | onward opening => exact .opening made opening
    | overflowed => exact .overflowed
    | @stored deviceKey expiresAt _ _ _ ended enters =>
      -- a session that begins leaves the accounts alone
      have hmade : (store.rotated (e.rotation s e.draws.accountId deviceKey expiresAt) now).Recalls
          (e.account t) := made
      exact .entered hmade ended enters
  | entered made ended enters =>
    rw [advance_of_outcome? ended]
    exact .entered made ended enters

/-- A registration that has returned has made its account, and the tokens name it. -/
theorem recalls_of_registered {tokens : Tokens}
    (h : s.Registering e store (.done (.tokens tokens))) :
    ∃ t, store.Recalls (e.account t) ∧ s.issuer.Names tokens.access e.draws.accountId := by
  generalize hp : (Program.done (Result.tokens tokens)) = p at h
  cases h with
  | looking hlooking => cases hlooking <;> cases hp
  | making hmaking => cases hmaking <;> cases hp
  | failed | overflowed => cases hp
  | @opening t _ made hopening =>
    cases hopening with
    | reading | storing => cases hp
    | answered _ names =>
      cases hp
      exact ⟨t, made, names⟩
  | @entered t _ _ made ended enters =>
    obtain ⟨access, names, ho⟩ := enters
    rw [← hp, ho] at ended
    cases ended
    exact ⟨t, made, names⟩

end Service

/-- The account of a registration accepts the passwords whose digest is that of its own. -/
theorem Enrolment.accepts_iff {draws : Draws} (hsalt : draws.salt.length = 16)
    (name password : String) (deviceKey : Option String) (t : Instant) (password' : String) :
    ((byName draws name password deviceKey).account t).Accepts password' ↔
      Password.digest Password.cost draws.salt (Password.keyOf password') =
        Password.digest Password.cost draws.salt (Password.keyOf password) := by
  rw [← Password.verify_hash_eq_true_iff hsalt]
  constructor
  · rintro ⟨hash, hhash, hverify⟩
    obtain rfl := Option.some.inj hhash
    exact hverify
  · exact fun hverify => ⟨_, rfl, hverify⟩

namespace Traffic

variable {s : Service} {w : Traffic}

/-- Ids and identities are not shared, and the store remembers what registrations have made. -/
structure Registry (s : Service) (w : Traffic) : Prop where
  ids : w.store.DistinctIds
  identities : w.store.DistinctIdentities
  calls : ∀ (j : Nat) (c : Call) (e : Enrolment), w.calls[j]? = some c →
    c.operation.enrolment? = some e → e.joins = false → s.Registering e w.store c.rest

theorem registry_idle (s : Service) : idle.Registry s where
  ids := List.nodup_nil
  identities := List.nodup_nil
  calls := fun _ _ _ h => by cases h

theorem registry_after (h : w.Registry s) (now : Instant) (event : Event) :
    (w.after s now event).Registry s := by
  have hrecalls : ∀ a : Account, a.live = true → w.store.Recalls a →
      (w.after s now event).store.Recalls a := fun a hlive ha =>
    of_store_after (P := (·.Recalls a)) ha now (Store.recalls_after h.ids hlive ha now) event
  refine ⟨?_, ?_, fun j c' e hc' he hjoins => ?_⟩
  · exact of_store_after (P := Store.DistinctIds) h.ids now (Store.distinctIds_after h.ids now)
      event
  · exact of_store_after (P := Store.DistinctIdentities) h.identities now
      (Store.distinctIdentities_after h.identities now) event
  · rcases call_after hc' with ⟨hc, -⟩ | ⟨rfl, c, hc, rfl⟩ | ⟨op, -, -, rfl⟩
    · exact (h.calls j c' e hc he hjoins).mono fun t => hrecalls (e.account t) rfl
    · rw [after_advance hc]
      exact Service.registering_advance (h.calls j c e hc he hjoins) hjoins now
    · exact Service.registering_perform s he _

theorem registry_run (h : w.Registry s) (events : List (Instant × Event)) :
    (w.run s events).Registry s := by
  induction events generalizing w with
  | nil => exact h
  | cons e rest ih => exact ih (registry_after h e.1 e.2)

/-- A registration that has returned was not refused. -/
theorem refusal?_of_done (events : List (Instant × Event)) {i : Nat} {op : Operation}
    {result : Result} (hc : (idle.run s events).calls[i]? = some ⟨op, .done result⟩) :
    op.refusal? = none := by
  have hrefused : ∀ cause, op.refusal? = some cause →
      (Program.done result : Program Result) = .fail (.refused cause) := by
    refine calls_run (P := fun c => ∀ cause, c.operation.refusal? = some cause →
      c.rest = .fail (.refused cause)) (fun op cause h => ?_) (fun c now store hfail cause h => ?_)
      (fun j c hc => by cases hc) events i _ hc
    · exact Service.perform_of_refusal? s h
    · show (c.rest.advance now store).1 = _
      rw [hfail cause h]
      rfl
  cases hr : op.refusal? with
  | none => rfl
  | some cause => cases hrefused cause hr

/-- Once a registration has returned, its name belongs to its account, and the logins that begin
from then on are about that, until the account is deleted. -/
theorem named_of_registered {before : List (Instant × Event)} {i : Nat} {draws : Draws}
    {name password : String} {deviceKey : Option String} {tokens : Tokens}
    (hc : (idle.run s before).calls[i]? =
      some ⟨.registerUsername draws name password deviceKey, .done (.tokens tokens)⟩) :
    ∃ t, s.issuer.Names tokens.access draws.accountId ∧
      ∀ (later : List (Instant × Event)) (late : Prop),
        (∀ e ∈ later, ¬ s.InCalendar e.1 → late) →
        (((idle.run s before).run s later).store.accountById draws.accountId).isSome →
        ((idle.run s before).run s later).Named s name
          ((Enrolment.byName draws name password deviceKey).account t) late
          (idle.run s before).calls.length := by
  have hregistry := registry_run (registry_idle s) before
  obtain ⟨t, hrecalls, hnames⟩ :=
    Service.recalls_of_registered (hregistry.calls i _ _ hc rfl rfl)
  refine ⟨t, hnames, fun later late hlate hlive => ?_⟩
  generalize haccount : (Enrolment.byName draws name password deviceKey).account t = a at hrecalls ⊢
  have hid : a.id = draws.accountId := by rw [← haccount]; rfl
  have halive : a.live = true := by rw [← haccount]; rfl
  have hmem : a ∈ (idle.run s before).store.accounts := by
    rcases hrecalls with hmem | hgone
    · exact hmem
    · -- what is gone stays gone, but the account is live after `later`
      have hnone := (gone_run (s := s) hgone later).2
      rw [hid] at hnone
      rw [hnone] at hlive
      cases hlive
  have hknown : (idle.run s before).store.accountWith .password name = some a :=
    Store.accountWith_of_mem hregistry.identities hmem halive (by rw [← haccount]; rfl)
  have hnamed : (idle.run s before).Named s name a late (idle.run s before).calls.length := by
    refine ⟨hregistry.ids, hregistry.identities, hknown, fun j c l hj hc => ?_⟩
    -- no such login has begun yet
    rw [List.getElem?_eq_none hj] at hc
    cases hc
  exact named_run hnamed hlate (hid ▸ hlive)

/-! ## A registration -/

/-- What Alice draws when she registers; bcrypt's salt has sixteen bytes. -/
def aliceDraws : Draws := { Draws.sample "alice" with salt := List.replicate 16 7 }

/-- Alice registers with a password while nobody else calls. -/
def aliceRegisters (password : String) : List (Instant × Event) :=
  (0, .start (.registerUsername aliceDraws "alice" password none)) ::
    List.replicate 5 (0, .advance 0)

/-- What Alice is given. -/
def aliceTokens : Tokens :=
  ⟨Service.sample.issuer.tokenOf ⟨aliceDraws.accountId, "User0", 60, 0⟩, none⟩

/-- With any password that a registration accepts, Alice is given her tokens. -/
theorem alice_registered (password : String)
    (h : (Operation.registerUsername aliceDraws "alice" password none).refusal? = none) :
    (idle.run .sample (aliceRegisters password)).calls[0]? =
      some ⟨.registerUsername aliceDraws "alice" password none, .done (.tokens aliceTokens)⟩ := by
  obtain ⟨hblank, hlong⟩ := Operation.refusal?_eq_none_iff.1 h
  have hperform := Service.perform_registerUsername .sample hblank
  rw [Identity.register, if_neg (Nat.not_lt.2 (hlong password rfl))] at hperform
  show (run .sample ⟨.empty, [⟨_, Service.sample.perform _⟩]⟩ _).calls[0]? = _
  rw [hperform]
  rfl

theorem alice_named {userId : String} (h : Service.sample.issuer.Names aliceTokens.access userId) :
    userId = aliceDraws.accountId :=
  Issuer.names_unique h ⟨_, rfl, rfl⟩

/-- Somebody else logs in on the phone of Alice. -/
def visit : List (Instant × Event) :=
  (3, .start (.loginAnonymous (.sample "visitor") "phone")) :: List.replicate 7 (3, .advance 1)

/-! ## Logging in again -/

/-- Once a registration has returned, every later login with its name and password enters its
account until that is deleted, with a refresh token exactly on a device: one that begins now and is
left to itself within the calendar, and one that has begun amid other calls, wherever it has come
to, unless the clock has left the calendar. In particular the stored text of a password accepts it,
whatever the salt. -/
theorem registered_logs_in (s : Service) (before later : List (Instant × Event)) (i : Nat)
    (draws : Draws) (name password : String) (deviceKey : Option String) (tokens : Tokens)
    (hsalt : draws.salt.length = 16)
    (hregistered : (idle.run s before).calls[i]? =
      some ⟨.registerUsername draws name password deviceKey, .done (.tokens tokens)⟩) :
    let w := (idle.run s before).run s later
    (∃ userId, s.issuer.Names tokens.access userId ∧ ((w.store.accountById userId).isSome →
      ∀ l : Login, l.username = name → l.password = password →
        (∀ d, l.deviceKey = some d → Text.isBlank d = false) →
        (∀ t, s.InCalendar t →
          s.Enters l.enrolment userId ((s.perform l.operation).run t w.store).1) ∧
        ∀ j c, (idle.run s before).calls.length ≤ j → w.calls[j]? = some c →
          c.operation = l.operation → ∀ t,
            s.Enters l.enrolment userId (c.rest.run t w.store).1 ∨
              ((c.rest.run t w.store).1 = .overflow ∧
                (¬ s.InCalendar t ∨ ∃ e ∈ later, ¬ s.InCalendar e.1)))) ∧
    ∀ (password : String) (salt : Bytes), salt.length = 16 →
      Password.verify password (Password.hash password salt) = .ok true := by
  intro w
  refine ⟨?_, fun password salt h => Password.verify_hash_self password h⟩
  obtain ⟨made, hnames, hnamed⟩ := named_of_registered hregistered
  refine ⟨draws.accountId, hnames, fun hlive l hname hpassword hdevice => ?_⟩
  have haccepts : ((Enrolment.byName draws name password deviceKey).account made).Accepts
      l.password :=
    (Enrolment.accepts_iff hsalt name password deviceKey made l.password).2 (by rw [hpassword])
  -- what the registration was accepted with is not blank
  have hgiven : l.operation.firstBlank? = none := by
    have hblank := (Operation.refusal?_eq_none_iff.1 (refusal?_of_done before hregistered)).1
    have hrequired := Service.given_of_firstBlank? hblank
    refine Login.firstBlank?_eq_none ?_ ?_ hdevice
    · exact hname ▸ hrequired (.username, name) (List.mem_append_left _ List.mem_cons_self)
    · exact hpassword ▸ hrequired (.password, password)
        (List.mem_append_left _ (List.mem_cons_of_mem _ List.mem_cons_self))
  refine ⟨fun t ht => ?_, fun j c hj hc hop t => ?_⟩
  · have hw := hnamed later True (fun _ _ _ => trivial) hlive
    exact Service.enters_of_accepts hgiven (hname ▸ hw.known) haccepts ht
  · have hw := hnamed later (¬ s.InCalendar t ∨ ∃ e ∈ later, ¬ s.InCalendar e.1)
      (fun e he hout => Or.inr ⟨e, he, hout⟩) hlive
    have hdecided := Service.decided_of_ends (hw.logins j c l hj hc hop hname) (hname ▸ hw.known)
      (fun u (hu : u = t) hout => Or.inl (hu ▸ hout)) (Program.ends_run t c.rest w.store)
    generalize (c.rest.run t w.store).1 = o at hdecided ⊢
    cases hdecided with
    | blank hblank =>
      rw [hgiven] at hblank
      cases hblank
    | entered _ enters => exact Or.inl enters
    | overflowed _ overdue => exact Or.inr ⟨rfl, overdue⟩
    | rejected _ hrejects => exact absurd haccepts hrejects

set_option maxRecDepth 100000 in
theorem aliceRegisters_logs_in :
    let password := "correct horse"
    let w := (idle.run .sample (aliceRegisters password)).run .sample visit
    let l : Login := ⟨.sample "second", "alice", password, some "phone"⟩
    (idle.run .sample (aliceRegisters password)).calls[0]? =
      some ⟨.registerUsername aliceDraws "alice" password none, .done (.tokens aliceTokens)⟩ ∧
    (w.store.accountById aliceDraws.accountId).isSome ∧
    Service.sample.Enters l.enrolment aliceDraws.accountId
      ((Service.sample.perform l.operation).run 5 w.store).1 := by
  intro password w l
  have hregistered := alice_registered password (by decide)
  have hlive : (w.store.accountById aliceDraws.accountId).isSome := by decide +kernel
  obtain ⟨userId, hnames, hlogins⟩ := (registered_logs_in .sample (aliceRegisters password)
    visit 0 aliceDraws "alice" password none aliceTokens (by decide) hregistered).1
  obtain rfl := alice_named hnames
  exact ⟨hregistered, hlive, (hlogins hlive l rfl rfl (by decide)).1 5 (by decide)⟩

/-- Once a registration has returned, a later login with its name brings tokens only if the digest
of its password is that of the registered one, until the account is deleted; so if the digest does
not take two keys for the same, the passwords have the same key. Whoever has that key is let in.
Passwords of at most 71 bytes are the same if their keys are. -/
theorem logins_share_digest (s : Service) (before later : List (Instant × Event)) (i : Nat)
    (draws : Draws) (name password : String) (deviceKey : Option String) (tokens : Tokens)
    (hsalt : draws.salt.length = 16)
    (hregistered : (idle.run s before).calls[i]? =
      some ⟨.registerUsername draws name password deviceKey, .done (.tokens tokens)⟩) :
    let w := (idle.run s before).run s later
    (∃ userId, s.issuer.Names tokens.access userId ∧ ((w.store.accountById userId).isSome →
      ∀ l : Login, l.username = name →
        (∀ j c, (idle.run s before).calls.length ≤ j → w.calls[j]? = some c →
          c.operation = l.operation → ∀ t result, (c.rest.run t w.store).1 = .ok result →
            Password.digest Password.cost draws.salt (Password.keyOf l.password) =
              Password.digest Password.cost draws.salt (Password.keyOf password)) ∧
        (Password.keyOf l.password = Password.keyOf password →
          l.operation.firstBlank? = none → ∀ t, s.InCalendar t →
            s.Enters l.enrolment userId ((s.perform l.operation).run t w.store).1))) ∧
    ∀ password password' : String, (Bytes.ofString password).length ≤ 71 →
      (Bytes.ofString password').length ≤ 71 →
      Password.keyOf password = Password.keyOf password' → password = password' := by
  intro w
  refine ⟨?_, fun password password' h h' => Password.eq_of_keyOf_eq h h'⟩
  obtain ⟨made, hnames, hnamed⟩ := named_of_registered hregistered
  refine ⟨draws.accountId, hnames, fun hlive l hname => ?_⟩
  have hw := hnamed later True (fun _ _ _ => trivial) hlive
  have hknown : w.store.accountWith .password l.username =
      some ((Enrolment.byName draws name password deviceKey).account made) := hname ▸ hw.known
  have haccepts := Enrolment.accepts_iff hsalt name password deviceKey made l.password
  refine ⟨fun j c hj hc hop t result hresult => ?_, fun hkey hgiven t ht => ?_⟩
  · have hdecided := Service.decided_of_ends (hw.logins j c l hj hc hop hname) hknown
      (fun _ _ _ => trivial) (Program.ends_run t c.rest w.store)
    rw [hresult] at hdecided
    cases hdecided with
    | entered hlets _ => exact haccepts.1 hlets
  · exact Service.enters_of_accepts hgiven hknown (haccepts.2 (by rw [hkey])) ht

set_option maxRecDepth 100000 in
theorem aliceRegisters_shares_digest :
    let password := "correct horse"
    let w := (idle.run .sample (aliceRegisters password)).run .sample visit
    let l : Login := ⟨.sample "second", "alice", password, none⟩
    (idle.run .sample (aliceRegisters password)).calls[0]? =
      some ⟨.registerUsername aliceDraws "alice" password none, .done (.tokens aliceTokens)⟩ ∧
    (w.store.accountById aliceDraws.accountId).isSome ∧
    Service.sample.Enters l.enrolment aliceDraws.accountId
      ((Service.sample.perform l.operation).run 5 w.store).1 ∧
    ∀ other : String, (Bytes.ofString other).length ≤ 71 →
      Password.keyOf other = Password.keyOf password → other = password := by
  intro password w l
  have hregistered := alice_registered password (by decide)
  have hlive : (w.store.accountById aliceDraws.accountId).isSome := by decide +kernel
  obtain ⟨⟨userId, hnames, hlogins⟩, hkeys⟩ := logins_share_digest .sample (aliceRegisters password)
    visit 0 aliceDraws "alice" password none aliceTokens (by decide) hregistered
  obtain rfl := alice_named hnames
  exact ⟨hregistered, hlive, (hlogins hlive l rfl).2 rfl (by decide) 5 (by decide),
    fun other h => hkeys other password h (by decide)⟩

set_option maxRecDepth 100000 in
/-- What a password has behind its first 72 bytes is not compared: Alice is let in with a password
that is not hers and that she could have registered just as well. -/
theorem longer_password_enters :
    let password := String.ofList (List.replicate 72 'a')
    let other := String.ofList (List.replicate 73 'a')
    let w := idle.run .sample (aliceRegisters password)
    let l : Login := ⟨.sample "second", "alice", other, none⟩
    w.calls[0]? =
      some ⟨.registerUsername aliceDraws "alice" password none, .done (.tokens aliceTokens)⟩ ∧
    (w.store.accountById aliceDraws.accountId).isSome ∧
    Service.sample.Enters l.enrolment aliceDraws.accountId
      ((Service.sample.perform l.operation).run 5 w.store).1 ∧
    (Operation.registerUsername aliceDraws "alice" other none).refusal? = none ∧
    Password.keyOf other = Password.keyOf password ∧ other ≠ password := by
  intro password other w l
  have hsalt : aliceDraws.salt.length = 16 := by decide
  have hkey : Password.keyOf other = Password.keyOf password := by
    rw [Password.keyOf_of_length_ge (by decide), Password.keyOf_of_length_ge (by decide)]
    decide +kernel
  have hregistered := alice_registered password (by decide)
  have hlive : (w.store.accountById aliceDraws.accountId).isSome := by decide +kernel
  have hother : (Operation.registerUsername aliceDraws "alice" other none).refusal? = none := by
    decide
  have hgiven : l.operation.firstBlank? = none := by decide
  have hne : other ≠ password := by decide
  suffices henters : Service.sample.Enters l.enrolment aliceDraws.accountId
      ((Service.sample.perform l.operation).run 5 w.store).1 by
    exact ⟨hregistered, hlive, henters, hother, hkey, hne⟩
  -- what the passwords are does not matter any more
  clear_value password other
  obtain ⟨t, -, hnamed⟩ := named_of_registered hregistered
  have haccepts := (Enrolment.accepts_iff hsalt "alice" password none t other).2 (by rw [hkey])
  have hnow : Service.sample.InCalendar 5 := by decide
  have hw := hnamed [] True fun _ _ _ => trivial
  rw [run_nil] at hw
  exact Service.enters_of_accepts hgiven (hw hlive).known haccepts hnow

end Traffic

end Latchkey
