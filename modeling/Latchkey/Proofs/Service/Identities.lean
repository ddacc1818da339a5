/-
Whom a login on a device is about. From the moment when the device has its account, all logins on it
are about that account until it is deleted, in whatever order they and everything else happen
(`replay_tells_accounts_apart`).
-/
import Latchkey.Proofs.Service.Enrolment
import Latchkey.Proofs.Service.Traffic
import Latchkey.Proofs.Store.Identities

namespace Latchkey

open Operation (Result)

namespace Service

open Program

variable {s : Service} {e : Enrolment} {userId : String} {late : Prop} {p : Program Result}

/-! ## Logins that join an account -/

/-- What may be left of a login that joins the account `userId`. It ends with its tokens, or
because the clock has left the calendar, and then it is `late`. -/
inductive Joining (s : Service) (e : Enrolment) (userId : String) (late : Prop) :
    Program Result → Prop
  | looking {p : Program Result} (looking : s.Looking e p) : Joining s e userId late p
  | opening {p : Program Result} (opening : s.Opening e userId p) : Joining s e userId late p
  | ended {p : Program Result} {o : Outcome Result} (ended : p.outcome? = some o)
      (how : s.Enters e userId o ∨ (o = .overflow ∧ late)) : Joining s e userId late p

/-- A login whose account is there joins it. -/
theorem joining_advance (h : s.Joining e userId late p) (hjoins : e.joins = true) {store : Store}
    {a : Account} (ha : store.accountWith e.method e.authId = some a) (hid : a.id = userId)
    {now : Instant} (hlate : ¬ s.InCalendar now → late) :
    s.Joining e userId late (p.advance now store).1 := by
  cases h with
  | looking hlooking =>
    have hfound := (found_of_known hlooking ha now).2
    rw [Found, if_pos hjoins, hid] at hfound
    exact .opening hfound
  | opening hopening =>
    have hstep := opening_advance hopening now store
    generalize p.advance now store = q at hstep
    obtain ⟨p', store'⟩ := q
    cases hstep with
    | onward hopening => exact .opening hopening
    | overflowed outside => exact .ended rfl (Or.inr ⟨rfl, hlate outside⟩)
    | stored _ ended enters => exact .ended ended (Or.inl enters)
  | ended hended how =>
    rw [advance_of_outcome? hended]
    exact .ended hended how

/-- Left to itself, a call whose account is there logs it in if it can join it, unless the clock
leaves the calendar. -/
theorem enters_of_known (h : s.Looking e p) (hjoins : e.joins = true) {store store' : Store}
    {a : Account} (ha : store.accountWith e.method e.authId = some a) {shown : Instant → Prop}
    (hshown : ∀ t, shown t → s.InCalendar t) {o : Outcome Result}
    (he : p.Ends shown store o store') : s.Enters e a.id o := by
  obtain ⟨t, -, he⟩ := ends_advance (outcome?_of_looking h) he
  obtain ⟨hquiet, hfound⟩ := found_of_known h ha t
  rw [hquiet] at he
  rw [Found, if_pos hjoins] at hfound
  rcases ends_of_opening hfound he with ⟨hin, -⟩ | ⟨-, -, u, hu, hout⟩
  · exact hin
  · exact absurd (hshown u hu) hout

end Service

/-! ## Logins on a device -/

namespace Traffic

variable {s : Service} {deviceKey : String} {a : Account} {late : Prop} {w : Traffic}
  {now : Instant} {e : Event}

/-- The device has the account `a`, and the logins on it join that account. -/
structure Provisioned (s : Service) (deviceKey : String) (a : Account) (late : Prop)
    (w : Traffic) : Prop where
  identities : w.store.DistinctIdentities
  known : w.store.accountWith .anonymous deviceKey = some a
  logins : ∀ (j : Nat) (c : Call) (draws : Draws), w.calls[j]? = some c →
    c.operation = .loginAnonymous draws deviceKey →
    s.Joining (.onDevice draws deviceKey) a.id late c.rest

/-- Whatever happens but that the account is deleted, whoever has an identity keeps it. -/
theorem accountWith_after (hidentities : w.store.DistinctIdentities) {method : AuthMethod}
    {authId : String} (hknown : w.store.accountWith method authId = some a) (now : Instant)
    (he : e ≠ .other (.softDelete a.id)) :
    (w.after s now e).store.DistinctIdentities ∧
      (w.after s now e).store.accountWith method authId = some a := by
  have hevent : ∀ e' : Store.Event, e' ≠ .softDelete a.id →
      (w.store.after now e').DistinctIdentities ∧
        (w.store.after now e').accountWith method authId = some a := fun e' he' =>
    ⟨Store.distinctIdentities_after hidentities now e',
      Store.accountWith_after hidentities hknown now he'⟩
  cases e with
  | start op => exact ⟨hidentities, hknown⟩
  | other e' => exact hevent e' fun he' => he (by rw [he'])
  | advance i =>
    cases hi : w.calls[i]? with
    | none =>
      rw [after_advance_none hi]
      exact ⟨hidentities, hknown⟩
    | some c =>
      rw [after_advance hi]
      rcases advance_store now c.rest w.store with hs | ⟨r, hs⟩ <;> rw [hs]
      · exact ⟨hidentities, hknown⟩
      · exact hevent (.request r) fun he' => by cases he'

theorem provisioned_after (h : w.Provisioned s deviceKey a late)
    (hdevice : Text.isBlank deviceKey = false) (he : e ≠ .other (.softDelete a.id))
    (hlate : ¬ s.InCalendar now → late) : (w.after s now e).Provisioned s deviceKey a late := by
  obtain ⟨hidentities, hknown⟩ := accountWith_after h.identities h.known now he
  refine ⟨hidentities, hknown, fun j c' draws hc' hop => ?_⟩
  rcases call_after hc' with ⟨hc, -⟩ | ⟨-, c, hc, rfl⟩ | ⟨op, -, -, rfl⟩
  · exact h.logins j c' draws hc hop
  · exact Service.joining_advance (h.logins j c draws hc hop) rfl h.known rfl hlate
  · obtain rfl : op = .loginAnonymous draws deviceKey := hop
    exact .looking (Service.looking_loginAnonymous s draws hdevice)

theorem provisioned_run (hdevice : Text.isBlank deviceKey = false)
    (h : w.Provisioned s deviceKey a late) {events : List (Instant × Event)}
    (hevents : ∀ e ∈ events, e.2 ≠ .other (.softDelete a.id) ∧ (¬ s.InCalendar e.1 → late)) :
    (w.run s events).Provisioned s deviceKey a late := by
  induction events generalizing w with
  | nil => exact h
  | cons e rest ih =>
    obtain ⟨he, hlate⟩ := hevents e List.mem_cons_self
    exact ih (provisioned_after h hdevice he hlate) fun e' he' =>
      hevents e' (List.mem_cons_of_mem e he')

/-- Whatever else happens but that the account is deleted, a login on its device that has ended
names it, unless the clock has left the calendar; and one that is left to itself within the calendar
ends and names it. -/
theorem logins_name_account {store : Store} (hidentities : store.DistinctIdentities)
    (hknown : store.accountWith .anonymous deviceKey = some a)
    (hdevice : Text.isBlank deviceKey = false) {events : List (Instant × Event)}
    (hevents : ∀ e ∈ events, e.2 ≠ .other (.softDelete a.id)) :
    let w := run s ⟨store, []⟩ events
    (∀ c ∈ w.calls, ∀ draws, c.operation = .loginAnonymous draws deviceKey →
      ∀ o, c.rest.outcome? = some o → s.Enters (.onDevice draws deviceKey) a.id o ∨
        (o = .overflow ∧ ∃ e ∈ events, ¬ s.InCalendar e.1)) ∧
    ∀ draws t, s.InCalendar t → s.Enters (.onDevice draws deviceKey) a.id
      ((s.perform (.loginAnonymous draws deviceKey)).run t w.store).1 := by
  intro w
  have hstart : Provisioned s deviceKey a (∃ e ∈ events, ¬ s.InCalendar e.1) ⟨store, []⟩ :=
    ⟨hidentities, hknown, fun j c draws hc => by cases hc⟩
  have hw := provisioned_run hdevice hstart fun e he => ⟨hevents e he, fun hout => ⟨e, he, hout⟩⟩
  refine ⟨fun c hc draws hop o ho => ?_, fun draws t ht => ?_⟩
  · obtain ⟨j, hj⟩ := List.getElem?_of_mem hc
    cases hw.logins j c draws hj hop with
    | looking hlooking =>
      rw [Service.outcome?_of_looking hlooking] at ho
      cases ho
    | opening hopening =>
      rw [Service.outcome?_of_opening hopening (Option.some_ne_none deviceKey)] at ho
      cases ho
    | ended hended how =>
      obtain rfl := Option.some.inj (hended.symm.trans ho)
      exact how
  · exact Service.enters_of_known (Service.looking_loginAnonymous s draws hdevice) rfl hw.known
      (fun u (hu : u = t) => hu ▸ ht) (Program.ends_run t _ w.store)

end Traffic

/-- A login on a device leaves the device its account. -/
theorem Service.known_of_login {s : Service} {draws : Draws} {deviceKey : String} {now : Instant}
    {store : Store} {tokens : Tokens}
    (h : ((s.perform (.loginAnonymous draws deviceKey)).run now store).1 = .ok (.tokens tokens)) :
    Text.isBlank deviceKey = false ∧ ∃ a, s.issuer.Names tokens.access a.id ∧
      ((s.perform (.loginAnonymous draws deviceKey)).run now store).2.accountWith .anonymous
        deviceKey = some a := by
  have hdevice : Text.isBlank deviceKey = false := by
    by_contra hb
    rw [perform_of_firstBlank? s (firstBlank?_loginAnonymous draws (Bool.not_eq_false _ ▸ hb))] at h
    cases h
  refine ⟨hdevice, ?_⟩
  have he := Program.ends_run now (s.perform (.loginAnonymous draws deviceKey)) store
  rw [h] at he
  cases ends_of_looking (looking_loginAnonymous s draws hdevice) he with
  | joined known enters accounts =>
    obtain ⟨access, hnames, ho⟩ := enters
    cases ho
    exact ⟨_, hnames, (Store.accountWith_of_accounts accounts _ _).trans known⟩
  | enrolled unknown enters accounts =>
    obtain ⟨access, hnames, ho⟩ := enters
    cases ho
    exact ⟨_, hnames, Store.accountWith_append unknown accounts rfl rfl⟩

/-- Whatever has happened to a store that was empty, it tells accounts apart. A login on a device
leaves the device its account, and from then on all logins on the device name that account until it
is deleted. -/
theorem replay_tells_accounts_apart (events : List (Instant × Store.Event)) :
    let store := Store.empty.replay events
    store.TellsApart ∧
    (∀ (s : Service) (draws : Draws) (deviceKey : String) (now : Instant) (tokens : Tokens),
      let first := (s.perform (.loginAnonymous draws deviceKey)).run now store
      first.1 = .ok (.tokens tokens) →
      Text.isBlank deviceKey = false ∧
      (∃ a, s.issuer.Names tokens.access a.id ∧
        first.2.accountWith .anonymous deviceKey = some a) ∧
      ∃ more, first.2 = Store.empty.replay (events ++ more)) ∧
    ∀ (s : Service) (deviceKey : String) (a : Account) (later : List (Instant × Traffic.Event)),
      store.accountWith .anonymous deviceKey = some a → Text.isBlank deviceKey = false →
      (∀ e ∈ later, e.2 ≠ .other (.softDelete a.id)) →
      let w := Traffic.run s ⟨store, []⟩ later
      (∀ c ∈ w.calls, ∀ draws, c.operation = .loginAnonymous draws deviceKey →
        ∀ o, c.rest.outcome? = some o → s.Enters (.onDevice draws deviceKey) a.id o ∨
          (o = .overflow ∧ ∃ e ∈ later, ¬ s.InCalendar e.1)) ∧
      ∀ draws t, s.InCalendar t → s.Enters (.onDevice draws deviceKey) a.id
        ((s.perform (.loginAnonymous draws deviceKey)).run t w.store).1 := by
  intro store
  have hids : store.DistinctIds := Store.distinctIds_replay (s := .empty) List.nodup_nil events
  have hidentities : store.DistinctIdentities :=
    Store.distinctIdentities_replay (s := .empty) List.nodup_nil events
  refine ⟨Store.tellsApart hids hidentities, ?_, ?_⟩
  · intro s draws deviceKey now tokens first h
    obtain ⟨hdevice, hknown⟩ := Service.known_of_login h
    obtain ⟨more, hmore⟩ :=
      Program.store_run now (s.perform (.loginAnonymous draws deviceKey)) store
    refine ⟨hdevice, hknown, more, hmore.trans ?_⟩
    exact List.foldl_append.symm
  · intro s deviceKey a later hknown hdevice hlater
    exact Traffic.logins_name_account hidentities hknown hdevice hlater

/-- The account of the phone with a certain id. -/
def phoneAccount (id : String) : Account := .fresh id (id ++ " customer") .anonymous "phone" none 0

/-- The account of the phone is deleted and made once more. -/
def remadeAccount : List (Instant × Store.Event) :=
  [(1, .request (.insertAccount (phoneAccount "first account"))), (2, .softDelete "first account"),
    (3, .request (.insertAccount (phoneAccount "second account")))]

/-- A login on the phone, in whose middle the first account is deleted once more. -/
def loginAmidDeletion : List (Instant × Traffic.Event) :=
  [(4, .start (.loginAnonymous (.sample "third") "phone")), (4, .advance 0),
    (5, .other (.softDelete "first account")), (6, .advance 0), (6, .advance 0), (7, .advance 0),
    (7, .advance 0)]

theorem loginAmidDeletion_names_second :
    let w := Traffic.run .sample ⟨Store.empty.replay remadeAccount, []⟩ loginAmidDeletion
    (Store.empty.replay remadeAccount).accountWith .anonymous "phone" =
      some (phoneAccount "second account") ∧
    Text.isBlank "phone" = false ∧
    (∀ e ∈ loginAmidDeletion, e.2 ≠ .other (.softDelete "second account")) ∧
    ∃ c ∈ w.calls, ∃ o, c.rest.outcome? = some o ∧
      Service.sample.Enters (.onDevice (.sample "third") "phone") "second account" o := by
  intro w
  have hknown : (Store.empty.replay remadeAccount).accountWith .anonymous "phone" =
      some (phoneAccount "second account") := by decide +kernel
  have hspared : ∀ e ∈ loginAmidDeletion,
      e.2 ≠ .other (.softDelete (phoneAccount "second account").id) := by decide +kernel
  have hlogins := ((replay_tells_accounts_apart remadeAccount).2.2 .sample "phone" _
    loginAmidDeletion hknown (by decide) hspared).1
  have hended : ∃ c ∈ w.calls, c.operation = .loginAnonymous (.sample "third") "phone" ∧
      c.rest.outcome?.isSome := by decide +kernel
  have hcalendar : ∀ e ∈ loginAmidDeletion, Service.sample.InCalendar e.1 := by decide +kernel
  obtain ⟨c, hc, hop, ho⟩ := hended
  obtain ⟨o, ho⟩ := Option.isSome_iff_exists.1 ho
  refine ⟨hknown, by decide, hspared, c, hc, o, ho, ?_⟩
  rcases hlogins c hc _ hop o ho with henters | ⟨-, e, he, hout⟩
  · exact henters
  · exact absurd (hcalendar e he) hout

end Latchkey
