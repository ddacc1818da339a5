/-
Calls that race to make the account of one identity. While nobody has it they look for it or are
about to make an account (`Vacant`). The first insertion makes one, and from then on everybody else
joins that account or is turned away (`Occupied`). So of all that race exactly one makes an account
(`provisioning_makes_one_account`).
-/
import Latchkey.Proofs.Service.Enrolment
import Latchkey.Proofs.Service.Traffic
import Latchkey.Proofs.Store.Identities
import Latchkey.Proofs.Store.Session

namespace Latchkey

open Operation (Result)

/-- What a step changes that makes no account: it may begin a session of the account `userId`, and
no session of that account loses its live row. -/
structure Store.Keeps (userId : String) (store store' : Store) : Prop where
  accounts : store'.accounts = store.accounts
  seated : ∀ deviceKey, store.Seated userId deviceKey → store'.Seated userId deviceKey

theorem Store.Keeps.refl (userId : String) (store : Store) : Keeps userId store store :=
  ⟨rfl, fun _ h => h⟩

/-- The enrolment is for an identity, and for an account with an id that the store does not have. -/
structure Enrolment.Rivals (store : Store) (method : AuthMethod) (authId : String)
    (e : Enrolment) : Prop where
  method_eq : e.method = method
  authId_eq : e.authId = authId
  fresh : ∀ a ∈ store.accounts, a.id ≠ e.draws.accountId

namespace Service

open Program

variable {s : Service} {e : Enrolment} {userId : String} {p : Program Result} {store store' : Store}
  {now : Instant}

/-! ## Calls in the race -/

/-- The call looks for the account of its identity or is about to make it. -/
def Contends (s : Service) (e : Enrolment) (p : Program Result) : Prop :=
  s.Looking e p ∨ s.Making e p

/-- The call logs in the account `userId`. Once it has ended, its session has one live row. -/
inductive Seats (s : Service) (store : Store) (e : Enrolment) (userId : String) :
    Program Result → Prop
  | opening {p : Program Result} (opening : s.Opening e userId p) : Seats s store e userId p
  | seated {p : Program Result} {o : Outcome Result} (ended : p.outcome? = some o)
      (enters : s.Enters e userId o)
      (live : ∀ deviceKey, e.deviceKey = some deviceKey → store.Seated userId deviceKey) :
      Seats s store e userId p

/-- What may be left of a call when another one has made the account `userId` of its identity. -/
inductive Trails (s : Service) (store : Store) (e : Enrolment) (userId : String) :
    Program Result → Prop
  | contending {p : Program Result} (contends : s.Contends e p) : Trails s store e userId p
  | refused : Trails s store e userId (.fail e.refusal)
  | joining {p : Program Result} (joins : e.joins = true) (seats : s.Seats store e userId p) :
      Trails s store e userId p

theorem outcome?_of_contends (h : s.Contends e p) : p.outcome? = none := by
  rcases h with h | h
  · exact outcome?_of_looking h
  · exact outcome?_of_making h

theorem enters_of_seats (h : s.Seats store e userId p) {o : Outcome Result}
    (ho : p.outcome? = some o) : s.Enters e userId o ∧
      ∀ deviceKey, e.deviceKey = some deviceKey → store.Seated userId deviceKey := by
  cases h with
  | opening hopening =>
    cases hopening with
    | reading | storing => cases ho
    | answered stateless names =>
      cases ho
      exact ⟨⟨_, names, by rw [stateless]; rfl⟩, fun d hd => by rw [stateless] at hd; cases hd⟩
  | seated ended enters live =>
    obtain rfl := Option.some.inj (ended.symm.trans ho)
    exact ⟨enters, live⟩

theorem Seats.mono (h : s.Seats store e userId p) (hk : Store.Keeps userId store store') :
    s.Seats store' e userId p := by
  cases h with
  | opening hopening => exact .opening hopening
  | seated ended enters live =>
    exact .seated ended enters fun d hd => hk.seated d (live d hd)

theorem Trails.mono (h : s.Trails store e userId p) (hk : Store.Keeps userId store store') :
    s.Trails store' e userId p := by
  cases h with
  | contending hcontends => exact .contending hcontends
  | refused => exact .refused
  | joining joins seats => exact .joining joins (seats.mono hk)

/-! ## Steps -/

/-- A call that contends while nobody has the identity goes on contending or makes the account. -/
theorem contends_advance (h : s.Contends e p)
    (hnone : store.accountWith e.method e.authId = none)
    (hfresh : ∀ a ∈ store.accounts, a.id ≠ e.draws.accountId) (now : Instant) :
    (s.Contends e (p.advance now store).1 ∧ (p.advance now store).2 = store) ∨
    ∃ t, s.Opening e e.draws.accountId (p.advance now store).1 ∧
      (p.advance now store).2 = { store with accounts := store.accounts ++ [e.account t] } := by
  rcases h with h | h
  · obtain ⟨hquiet, hmaking⟩ := making_of_unknown h hnone now
    exact Or.inl ⟨Or.inr hmaking, hquiet⟩
  · have hstep := making_advance h now store
    generalize p.advance now store = q at hstep
    obtain ⟨p', store'⟩ := q
    cases hstep with
    | onward making => exact Or.inl ⟨Or.inr making, rfl⟩
    | taken conflict => exact absurd hnone (Store.accountWith_of_conflicts conflict rfl hfresh)
    | @made t _ free opening => exact Or.inr ⟨t, opening, rfl⟩

/-- A call that logs in an account within the calendar goes on or ends with a session. -/
theorem seats_advance (h : s.Seats store e userId p) (hc : s.InCalendar now) :
    s.Seats (p.advance now store).2 e userId (p.advance now store).1 ∧
      Store.Keeps userId store (p.advance now store).2 := by
  cases h with
  | seated ended enters live =>
    rw [advance_of_outcome? ended]
    exact ⟨.seated ended enters live, .refl userId store⟩
  | opening hopening =>
    have hstep := opening_advance hopening now store
    generalize p.advance now store = q at hstep
    obtain ⟨p', store'⟩ := q
    cases hstep with
    | onward opening => exact ⟨.opening opening, .refl userId _⟩
    | overflowed outside => exact absurd hc outside
    | @stored deviceKey expiresAt _ o device_eq ended enters =>
      refine ⟨.seated ended enters fun d hd => ?_, rfl, fun d hd => hd.rotated _ now⟩
      obtain rfl := Option.some.inj (device_eq.symm.trans hd)
      exact Store.seated_rotated store (e.rotation s userId deviceKey expiresAt) now

/-- A call whose identity has been taken joins the account or is turned away. -/
theorem trails_advance (h : s.Trails store e userId p) {a : Account}
    (hknown : store.accountWith e.method e.authId = some a) (hid : a.id = userId)
    (hc : s.InCalendar now) :
    s.Trails (p.advance now store).2 e userId (p.advance now store).1 ∧
      Store.Keeps userId store (p.advance now store).2 := by
  cases h with
  | refused => exact ⟨.refused, .refl userId store⟩
  | joining joins seats =>
    obtain ⟨hseats, hkeeps⟩ := seats_advance seats hc
    exact ⟨.joining joins hseats, hkeeps⟩
  | contending hcontends =>
    rcases hcontends with h | h
    · obtain ⟨hquiet, hfound⟩ := found_of_known h hknown now
      rw [hquiet]
      refine ⟨?_, .refl userId store⟩
      rcases found_cases hfound with ⟨hjoins, hopening⟩ | ⟨-, hfail⟩
      · exact .joining hjoins (.opening (hid ▸ hopening))
      · rw [hfail]
        exact .refused
    · have hstep := making_advance h now store
      generalize p.advance now store = q at hstep
      obtain ⟨p', store'⟩ := q
      cases hstep with
      | onward making => exact ⟨.contending (Or.inr making), .refl userId _⟩
      | taken conflict => exact ⟨.refused, .refl userId _⟩
      | made free _ =>
        rw [Store.conflicts_of_accountWith hknown rfl] at free
        cases free

end Service

/-! ## The race -/

namespace Traffic

/-- Calls of operations that have just begun. -/
def together (s : Service) (store : Store) (ops : List Operation) : Traffic :=
  ⟨store, ops.map (.start s)⟩

/-- Turns of calls, each at its instant. -/
def turns (events : List (Instant × Nat)) : List (Instant × Event) :=
  events.map fun e => (e.1, .advance e.2)

/-- Nobody has made the account yet. -/
structure Vacant (s : Service) (store : Store) (method : AuthMethod) (authId : String)
    (w : Traffic) : Prop where
  accounts : w.store.accounts = store.accounts
  calls : ∀ (j : Nat) (c : Call), w.calls[j]? = some c → ∃ e, c.operation.enrolment? = some e ∧
    e.Rivals store method authId ∧ s.Contends e c.rest

/-- Call `i` has made the account, and nobody else can. -/
structure Occupied (s : Service) (store : Store) (method : AuthMethod) (authId : String)
    (w : Traffic) (i : Nat) (e : Enrolment) (t : Instant) : Prop where
  rivals : e.Rivals store method authId
  accounts : w.store.accounts = store.accounts ++ [e.account t]
  maker : ∃ c, w.calls[i]? = some c ∧ c.operation.enrolment? = some e ∧
    s.Seats w.store e e.draws.accountId c.rest
  others : ∀ (j : Nat) (c : Call), j ≠ i → w.calls[j]? = some c →
    ∃ e', c.operation.enrolment? = some e' ∧ e'.Rivals store method authId ∧
      s.Trails w.store e' e.draws.accountId c.rest

variable {s : Service} {store : Store} {method : AuthMethod} {authId : String} {w : Traffic}
  {now : Instant}

theorem vacant_together {ops : List Operation} (hops : ∀ op ∈ ops, op.refusal? = none ∧
    ∃ e, op.enrolment? = some e ∧ e.Rivals store method authId) :
    (together s store ops).Vacant s store method authId := by
  refine ⟨rfl, fun j c hc => ?_⟩
  obtain ⟨op, hop, rfl⟩ := List.mem_map.1 (List.mem_of_getElem? hc)
  obtain ⟨hr, e, he, hrivals⟩ := hops op hop
  exact ⟨e, he, hrivals, Or.inl (Service.looking_perform s he hr)⟩

/-- A turn while nobody has made the account: nobody has made it then either, or the call has whose
turn it was. -/
theorem vacant_after (h : w.Vacant s store method authId)
    (hnone : store.accountWith method authId = none) (now : Instant) (i : Nat) :
    (w.after s now (.advance i)).Vacant s store method authId ∨
      ∃ e t, (w.after s now (.advance i)).Occupied s store method authId i e t := by
  cases hi : w.calls[i]? with
  | none =>
    rw [after_advance_none hi]
    exact Or.inl h
  | some c =>
    obtain ⟨e, he, hrivals, hcontends⟩ := h.calls i c hi
    obtain ⟨hlt, -⟩ := List.getElem?_eq_some_iff.1 hi
    have hfree : w.store.accountWith e.method e.authId = none := by
      rw [Store.accountWith_of_accounts h.accounts, hrivals.method_eq, hrivals.authId_eq, hnone]
    rw [after_advance hi]
    rcases Service.contends_advance hcontends hfree (h.accounts ▸ hrivals.fresh) now with
      ⟨hnext, hstore⟩ | ⟨t, hopening, hstore⟩
    · refine Or.inl ⟨(congrArg Store.accounts hstore).trans h.accounts, fun j c' hc' => ?_⟩
      rcases getElem?_set_cases hc' with ⟨rfl, rfl⟩ | ⟨-, hc'⟩
      · exact ⟨e, he, hrivals, hnext⟩
      · exact h.calls j c' hc'
    · refine Or.inr ⟨e, t, hrivals, ?_, ?_, fun j c' hj hc' => ?_⟩
      · rw [hstore, h.accounts]
      · exact ⟨c.advance now w.store, List.getElem?_set_self hlt, he, .opening hopening⟩
      · rcases getElem?_set_cases hc' with ⟨rfl, -⟩ | ⟨-, hc'⟩
        · exact absurd rfl hj
        · obtain ⟨e', he', hrivals', hcontends'⟩ := h.calls j c' hc'
          exact ⟨e', he', hrivals', .contending hcontends'⟩

/-- A turn when the account has been made: it is the only one. -/
theorem occupied_after {i : Nat} {e : Enrolment} {t : Instant}
    (h : w.Occupied s store method authId i e t) (hnone : store.accountWith method authId = none)
    (hc : s.InCalendar now) (j : Nat) :
    (w.after s now (.advance j)).Occupied s store method authId i e t := by
  cases hj : w.calls[j]? with
  | none => rw [after_advance_none hj]; exact h
  | some c =>
    obtain ⟨m, hm, hmop, hseats⟩ := h.maker
    obtain ⟨hlt, -⟩ := List.getElem?_eq_some_iff.1 hj
    rw [after_advance hj]
    by_cases hij : j = i
    · subst hij
      obtain rfl := Option.some.inj (hm.symm.trans hj)
      obtain ⟨hnext, hkeeps⟩ := Service.seats_advance hseats hc
      refine ⟨h.rivals, hkeeps.accounts.trans h.accounts, ?_, fun k c' hk hc' => ?_⟩
      · exact ⟨_, List.getElem?_set_self hlt, hmop, hnext⟩
      · rw [List.getElem?_set_ne fun heq => hk heq.symm] at hc'
        obtain ⟨e', he', hrivals, htrails⟩ := h.others k c' hk hc'
        exact ⟨e', he', hrivals, htrails.mono hkeeps⟩
    · obtain ⟨e', he', hrivals, htrails⟩ := h.others j c hij hj
      have hknown : w.store.accountWith e'.method e'.authId = some (e.account t) := by
        rw [hrivals.method_eq, hrivals.authId_eq]
        refine Store.accountWith_append hnone h.accounts rfl ?_
        rw [← h.rivals.method_eq, ← h.rivals.authId_eq]
        rfl
      obtain ⟨hnext, hkeeps⟩ := Service.trails_advance htrails hknown rfl hc
      refine ⟨h.rivals, hkeeps.accounts.trans h.accounts, ?_, fun k c' hk hc' => ?_⟩
      · exact ⟨m, (List.getElem?_set_ne hij).trans hm, hmop, hseats.mono hkeeps⟩
      · rcases getElem?_set_cases hc' with ⟨rfl, rfl⟩ | ⟨-, hc'⟩
        · exact ⟨e', he', hrivals, hnext⟩
        · obtain ⟨e'', he'', hrivals', htrails'⟩ := h.others k c' hk hc'
          exact ⟨e'', he'', hrivals', htrails'.mono hkeeps⟩

theorem contest_run (h : w.Vacant s store method authId ∨
      ∃ i e t, w.Occupied s store method authId i e t)
    (hnone : store.accountWith method authId = none) {events : List (Instant × Nat)}
    (hevents : ∀ e ∈ events, s.InCalendar e.1) :
    ((w.run s (turns events)).Vacant s store method authId ∨
      ∃ i e t, (w.run s (turns events)).Occupied s store method authId i e t) ∧
    (w.run s (turns events)).operations = w.operations := by
  induction events generalizing w with
  | nil => exact ⟨h, rfl⟩
  | cons e rest ih =>
    have hc := hevents e List.mem_cons_self
    have hstep : (w.after s e.1 (.advance e.2)).Vacant s store method authId ∨
        ∃ i m t, (w.after s e.1 (.advance e.2)).Occupied s store method authId i m t := by
      rcases h with h | ⟨i, m, t, h⟩
      · rcases vacant_after h hnone e.1 e.2 with h | ⟨m, t, h⟩
        · exact Or.inl h
        · exact Or.inr ⟨e.2, m, t, h⟩
      · exact Or.inr ⟨i, m, t, occupied_after h hnone hc e.2⟩
    obtain ⟨hrun, hops⟩ := ih hstep fun e' he' => hevents e' (List.mem_cons_of_mem e he')
    exact ⟨hrun, hops.trans (operations_advance w e.1 e.2)⟩

/-- When all that race have ended, one of them has made the account. -/
theorem occupied_of_ended {ops : List Operation} (hsome : ops ≠ [])
    (hops : ∀ op ∈ ops, op.refusal? = none ∧
      ∃ e, op.enrolment? = some e ∧ e.Rivals store method authId)
    (hnone : store.accountWith method authId = none) {events : List (Instant × Nat)}
    (hevents : ∀ e ∈ events, s.InCalendar e.1)
    (hended : ∀ c ∈ ((together s store ops).run s (turns events)).calls, c.rest.outcome? ≠ none) :
    let w := (together s store ops).run s (turns events)
    w.operations = ops ∧ ∃ i e t, w.Occupied s store method authId i e t := by
  intro w
  obtain ⟨hrun, hsame⟩ := contest_run (s := s) (Or.inl (vacant_together hops)) hnone hevents
  have hstart : (together s store ops).operations = ops := by
    rw [operations, together, List.map_map]
    exact List.map_id ops
  rw [hstart] at hsame
  refine ⟨hsame, ?_⟩
  rcases hrun with h | h
  · -- while nobody has made the account nobody has ended, and there is somebody
    cases hcalls : w.calls with
    | nil => exact absurd (hsame.symm.trans (congrArg (List.map _) hcalls)) hsome
    | cons c rest =>
      obtain ⟨e, -, -, hcontends⟩ := h.calls 0 c (by rw [hcalls]; rfl)
      refine absurd (Service.outcome?_of_contends hcontends) (hended c ?_)
      rw [hcalls]
      exact List.mem_cons_self
  · exact h

/-! ## Logins on a device -/

/-- The race of logins on a device has made one account. Each of them has logged it in or has been
told that it made none, and somebody has logged it in; its session has one live row. -/
structure JoinsOne (s : Service) (store : Store) (deviceKey : String) (w : Traffic)
    (account : Account) : Prop where
  made : w.store.accounts = store.accounts ++ [account]
  live : account.live = true
  identity : account.identity = (AuthMethod.anonymous.label, deviceKey)
  answers : ∀ c ∈ w.calls, ∃ draws o, c.operation = .loginAnonymous draws deviceKey ∧
    c.rest.outcome? = some o ∧ (s.Enters (.onDevice draws deviceKey) account.id o ∨
      o = .error (.nothingWritten "no anonymous user added"))
  entered : ∃ c ∈ w.calls, ∃ draws o, c.operation = .loginAnonymous draws deviceKey ∧
    c.rest.outcome? = some o ∧ s.Enters (.onDevice draws deviceKey) account.id o
  session : w.store.Seated account.id deviceKey

theorem joinsOne_of_ended {deviceKey : String} {ops : List Operation} (hsome : ops ≠ [])
    (hdevice : Text.isBlank deviceKey = false)
    (hnone : store.accountWith .anonymous deviceKey = none)
    (hops : ∀ op ∈ ops, ∃ draws, op = .loginAnonymous draws deviceKey ∧
      ∀ a ∈ store.accounts, a.id ≠ draws.accountId) {events : List (Instant × Nat)}
    (hevents : ∀ e ∈ events, s.InCalendar e.1)
    (hended : ∀ c ∈ ((together s store ops).run s (turns events)).calls, c.rest.outcome? ≠ none) :
    let w := (together s store ops).run s (turns events)
    w.operations = ops ∧ ∃ account, JoinsOne s store deviceKey w account := by
  have hrivals : ∀ op ∈ ops, op.refusal? = none ∧
      ∃ e, op.enrolment? = some e ∧ e.Rivals store .anonymous deviceKey := by
    intro op hop
    obtain ⟨draws, rfl, hfresh⟩ := hops op hop
    refine ⟨?_, .onDevice draws deviceKey, rfl, rfl, rfl, hfresh⟩
    simp [Operation.refusal?, Operation.firstBlank?, Operation.required, Operation.newPassword?,
      hdevice]
  obtain ⟨hsame, i, e, t, h⟩ := occupied_of_ended hsome hrivals hnone hevents hended
  generalize (together s store ops).run s (turns events) = w at hended hsame h ⊢
  -- every call is a login on the device
  have hlogin : ∀ c ∈ w.calls, ∀ e', c.operation.enrolment? = some e' →
      ∃ draws, c.operation = .loginAnonymous draws deviceKey ∧ e' = .onDevice draws deviceKey := by
    intro c hc e' he'
    obtain ⟨draws, hop, -⟩ := hops c.operation (hsame ▸ List.mem_map_of_mem hc)
    rw [hop] at he'
    exact ⟨draws, hop, (Option.some.inj he').symm⟩
  obtain ⟨m, hm, hmop, hseats⟩ := h.maker
  have hmem := List.mem_of_getElem? hm
  obtain ⟨draws, hop, rfl⟩ := hlogin m hmem e hmop
  obtain ⟨o, ho⟩ := Option.ne_none_iff_exists'.1 (hended m hmem)
  obtain ⟨henters, hseated⟩ := Service.enters_of_seats hseats ho
  refine ⟨hsame, (Enrolment.onDevice draws deviceKey).account t, h.accounts, rfl, rfl,
    fun c hc => ?_, ⟨m, hmem, draws, o, hop, ho, henters⟩, hseated deviceKey rfl⟩
  obtain ⟨j, hj⟩ := List.getElem?_of_mem hc
  obtain ⟨o', ho'⟩ := Option.ne_none_iff_exists'.1 (hended c hc)
  by_cases hij : j = i
  · subst hij
    obtain rfl := Option.some.inj (hm.symm.trans hj)
    exact ⟨draws, o, hop, ho, Or.inl henters⟩
  · obtain ⟨e', he', -, htrails⟩ := h.others j c hij hj
    obtain ⟨draws', hop', rfl⟩ := hlogin c hc e' he'
    refine ⟨draws', o', hop', ho', ?_⟩
    generalize c.rest = p at htrails ho'
    cases htrails with
    | contending hcontends =>
      rw [Service.outcome?_of_contends hcontends] at ho'
      cases ho'
    | refused =>
      cases ho'
      exact Or.inr rfl
    | joining _ seats => exact Or.inl (Service.enters_of_seats seats ho').1

/-! ## Registrations -/

/-- The race of registrations has made one account, that of call `i`, which has logged it in;
everybody else has been told that the name is taken. -/
structure RegistersOne (s : Service) (store : Store) (name : String) (w : Traffic) (i : Nat) :
    Prop where
  winner : ∃ (c : Call) (draws : Draws) (password : String) (deviceKey : Option String)
    (o : Outcome Result) (t : Instant), w.calls[i]? = some c ∧
    c.operation = .registerUsername draws name password deviceKey ∧ c.rest.outcome? = some o ∧
    s.Enters (.byName draws name password deviceKey) draws.accountId o ∧
    w.store.accounts = store.accounts ++ [.fresh draws.accountId draws.customerId .password name
      (some (Password.hash password draws.salt)) t]
  others : ∀ (j : Nat) (c : Call), j ≠ i → w.calls[j]? = some c →
    c.rest.outcome? = some (.error (.refused .usernameTaken))

theorem registersOne_of_ended {name : String} {ops : List Operation} (hsome : ops ≠ [])
    (hnone : store.accountWith .password name = none)
    (hops : ∀ op ∈ ops, op.refusal? = none ∧ ∃ draws password deviceKey,
      op = .registerUsername draws name password deviceKey ∧
      ∀ a ∈ store.accounts, a.id ≠ draws.accountId) {events : List (Instant × Nat)}
    (hevents : ∀ e ∈ events, s.InCalendar e.1)
    (hended : ∀ c ∈ ((together s store ops).run s (turns events)).calls, c.rest.outcome? ≠ none) :
    let w := (together s store ops).run s (turns events)
    w.operations = ops ∧ ∃ i, RegistersOne s store name w i := by
  have hrivals : ∀ op ∈ ops, op.refusal? = none ∧
      ∃ e, op.enrolment? = some e ∧ e.Rivals store .password name := by
    intro op hop
    obtain ⟨hr, draws, password, deviceKey, rfl, hfresh⟩ := hops op hop
    exact ⟨hr, .byName draws name password deviceKey, rfl, rfl, rfl, hfresh⟩
  obtain ⟨hsame, i, e, t, h⟩ := occupied_of_ended hsome hrivals hnone hevents hended
  generalize (together s store ops).run s (turns events) = w at hended hsame h ⊢
  -- every call is a registration of the name
  have hregistration : ∀ c ∈ w.calls, ∀ e', c.operation.enrolment? = some e' →
      ∃ draws password deviceKey, c.operation = .registerUsername draws name password deviceKey ∧
        e' = .byName draws name password deviceKey := by
    intro c hc e' he'
    obtain ⟨-, draws, password, deviceKey, hop, -⟩ :=
      hops c.operation (hsame ▸ List.mem_map_of_mem hc)
    rw [hop] at he'
    exact ⟨draws, password, deviceKey, hop, (Option.some.inj he').symm⟩
  obtain ⟨m, hm, hmop, hseats⟩ := h.maker
  have hmem := List.mem_of_getElem? hm
  obtain ⟨draws, password, deviceKey, hop, rfl⟩ := hregistration m hmem e hmop
  obtain ⟨o, ho⟩ := Option.ne_none_iff_exists'.1 (hended m hmem)
  have henters := (Service.enters_of_seats hseats ho).1
  refine ⟨hsame, i, ⟨m, draws, password, deviceKey, o, t, hm, hop, ho, henters, h.accounts⟩,
    fun j c hij hj => ?_⟩
  have hc := List.mem_of_getElem? hj
  obtain ⟨o', ho'⟩ := Option.ne_none_iff_exists'.1 (hended c hc)
  obtain ⟨e', he', -, htrails⟩ := h.others j c hij hj
  obtain ⟨draws', password', deviceKey', hop', rfl⟩ := hregistration c hc e' he'
  rw [ho']
  generalize c.rest = p at htrails ho'
  cases htrails with
  | contending hcontends =>
    rw [Service.outcome?_of_contends hcontends] at ho'
    cases ho'
  | refused => exact ho'.symm
  | joining joins _ => cases joins

/-! ## Calls that end at once -/

/-- When all calls have ended, turns change nothing. -/
theorem run_of_ended (h : ∀ c ∈ w.calls, c.rest.outcome? ≠ none) (events : List (Instant × Nat)) :
    w.run s (turns events) = w := by
  induction events with
  | nil => rfl
  | cons e rest ih =>
    have hstep : w.after s e.1 (.advance e.2) = w :=
      after_advance_ended fun c hc => h c (List.mem_of_getElem? hc)
    show (w.after s e.1 (.advance e.2)).run s (turns rest) = w
    rw [hstep]
    exact ih

/-- Logins under a blank device key are refused and write nothing. -/
theorem run_of_blankDevice {deviceKey : String} (hblank : Text.isBlank deviceKey = true)
    {ops : List Operation} (hops : ∀ op ∈ ops, ∃ draws, op = .loginAnonymous draws deviceKey)
    (events : List (Instant × Nat)) :
    ((together s store ops).run s (turns events)).store = store ∧
      ∀ c ∈ ((together s store ops).run s (turns events)).calls,
        c.rest.outcome? = some (.error (.refused (.blank .deviceKey))) := by
  have hstart : ∀ c ∈ (together s store ops).calls,
      c.rest.outcome? = some (.error (.refused (.blank .deviceKey))) := by
    intro c hc
    obtain ⟨op, hop, rfl⟩ := List.mem_map.1 hc
    obtain ⟨draws, rfl⟩ := hops op hop
    have hfirst := Service.firstBlank?_loginAnonymous draws hblank
    rw [Call.start, Service.perform_of_firstBlank? s hfirst]
    rfl
  rw [run_of_ended fun c hc => by rw [hstart c hc]; exact Option.some_ne_none _]
  exact ⟨rfl, hstart⟩

/-! ## The results -/

/-- Whoever races to make the account of an identity that nobody has, and in whatever order they
take their turns: when all have ended, one account has been made. Logins on a device have joined it or
made none, and of registrations of a name one has succeeded, with its own password. Only under a
blank device key there is no race: all are refused. -/
theorem provisioning_makes_one_account (s : Service) (store : Store) (ops : List Operation)
    (events : List (Instant × Nat)) (hsome : ops ≠ [])
    (hevents : ∀ e ∈ events, s.InCalendar e.1)
    (hended : ∀ c ∈ ((together s store ops).run s (turns events)).calls, c.rest.outcome? ≠ none) :
    let w := (together s store ops).run s (turns events)
    (∀ deviceKey, Text.isBlank deviceKey = false →
      store.accountWith .anonymous deviceKey = none →
      (∀ op ∈ ops, ∃ draws, op = .loginAnonymous draws deviceKey ∧
        ∀ a ∈ store.accounts, a.id ≠ draws.accountId) →
      w.operations = ops ∧ ∃ account, JoinsOne s store deviceKey w account) ∧
    (∀ name, store.accountWith .password name = none →
      (∀ op ∈ ops, op.refusal? = none ∧ ∃ draws password deviceKey,
        op = .registerUsername draws name password deviceKey ∧
        ∀ a ∈ store.accounts, a.id ≠ draws.accountId) →
      w.operations = ops ∧ ∃ i, RegistersOne s store name w i) ∧
    (∀ deviceKey, Text.isBlank deviceKey = true →
      (∀ op ∈ ops, ∃ draws, op = .loginAnonymous draws deviceKey) →
      w.store = store ∧
        ∀ c ∈ w.calls, c.rest.outcome? = some (.error (.refused (.blank .deviceKey)))) :=
  ⟨fun _ hdevice hnone hops => joinsOne_of_ended hsome hdevice hnone hops hevents hended,
    fun _ hnone hops => registersOne_of_ended hsome hnone hops hevents hended,
    fun _ hblank hops => run_of_blankDevice hblank hops events⟩

/-- Two calls take turns. -/
def alternating : List (Instant × Nat) := (List.replicate 8 [(5, 0), (6, 1)]).flatten

theorem alternating_make_one_account :
    let logins := [Operation.loginAnonymous (.sample "first") "phone",
      .loginAnonymous (.sample "second") "phone"]
    let registrations := [Operation.registerUsername (.sample "first") "alice" "long enough" none,
      .registerUsername (.sample "second") "alice" "other words" (some "phone")]
    let w := (together .sample .empty logins).run .sample (turns alternating)
    let w' := (together .sample .empty registrations).run .sample (turns alternating)
    (∀ e ∈ alternating, Service.sample.InCalendar e.1) ∧
    (∀ c ∈ w.calls, c.rest.outcome? ≠ none) ∧ (∀ c ∈ w'.calls, c.rest.outcome? ≠ none) ∧
    (∃ account, JoinsOne .sample .empty "phone" w account) ∧
    ∃ i, RegistersOne .sample .empty "alice" w' i := by
  intro logins registrations w w'
  have hcalendar : ∀ e ∈ alternating, Service.sample.InCalendar e.1 := by decide +kernel
  have hended : ∀ c ∈ w.calls, c.rest.outcome? ≠ none := by decide +kernel
  have hended' : ∀ c ∈ w'.calls, c.rest.outcome? ≠ none := by decide +kernel
  have hlogins : ∀ op ∈ logins, ∃ draws, op = .loginAnonymous draws "phone" ∧
      ∀ a ∈ Store.empty.accounts, a.id ≠ draws.accountId := by
    simp [logins, Store.empty]
  have hacceptable : ∀ op ∈ registrations, op.refusal? = none := by decide +kernel
  have hregistrations : ∀ op ∈ registrations, op.refusal? = none ∧ ∃ draws password deviceKey,
      op = .registerUsername draws "alice" password deviceKey ∧
      ∀ a ∈ Store.empty.accounts, a.id ≠ draws.accountId := by
    refine fun op hop => ⟨hacceptable op hop, ?_⟩
    simp only [registrations, List.mem_cons, List.not_mem_nil, or_false] at hop
    rcases hop with rfl | rfl <;> exact ⟨_, _, _, rfl, fun a ha => by cases ha⟩
  exact ⟨hcalendar, hended, hended',
    ((provisioning_makes_one_account .sample .empty logins alternating (by simp [logins]) hcalendar
      hended).1 "phone" (by decide) rfl hlogins).2,
    ((provisioning_makes_one_account .sample .empty registrations alternating
      (by simp [registrations]) hcalendar hended').2.1 "alice" rfl hregistrations).2⟩

/-- Under a blank device key nobody is logged in and no account is made. -/
theorem blankDevice_makes_no_account :
    let w := (together .sample .empty [.loginAnonymous (.sample "first") " "]).run .sample
      (turns alternating)
    Store.empty.accountWith .anonymous " " = none ∧
    w.calls.map (·.rest.outcome?) = [some (.error (.refused (.blank .deviceKey)))] ∧
    w.store = .empty := by
  decide +kernel

end Traffic

end Latchkey
