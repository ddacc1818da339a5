/-
Sessions are independent of each other. Two calls at one instant come to the same in either order,
if they do not concern the same session, neither makes an account that the other looks for, and
their draws are fresh: each is answered as if it were alone, and what they leave in the store
differs in nothing but the order of what they have added (`perform_commutes`).
-/
import Latchkey.Proofs.Service.Footprint
import Latchkey.Proofs.Store.Identities

namespace Latchkey

open Operation (Result)

/-! ## What a change leaves alone -/

namespace Change

variable {c c' : Change} {now : Instant}

/-- A row is marked as revoked, if at all. -/
theorem becomes_mark (c : Change) (now : Instant) (r : RefreshRow) :
    r.Becomes (c.mark now r) := by
  cases c with
  | nothing => exact .refl r
  | opens rot => exact Store.becomes_revokedRow Store.selectsUnrevoked_isNone _ _ now r
  | ends u d => exact Store.becomes_revokedRow (Store.selectsUnrevoked_validAt now) _ _ now r

/-- The rows of other sessions are left alone. -/
theorem mark_of_ne {r : RefreshRow} (h : c.session? ≠ some (r.userId, r.deviceKey)) :
    c.mark now r = r := by
  cases c with
  | nothing => rfl
  | opens rot | ends u d =>
    refine if_neg fun hp => h ?_
    obtain ⟨hu, hd⟩ := RefreshRow.belongsTo_iff.1 (Bool.and_eq_true_iff.1 hp).1
    simp [session?, hu, hd]

/-- The changes of different sessions do not meet. -/
def Apart (c c' : Change) : Prop :=
  ∀ session, c.session? = some session → c'.session? ≠ some session

theorem Apart.symm (h : c.Apart c') : c'.Apart c := fun x hx hx' => h x hx' hx

theorem mark_mark_of_session (h : c.Apart c') {r : RefreshRow}
    (hr : c.session? = some (r.userId, r.deviceKey)) :
    c'.mark now (c.mark now r) = c.mark now (c'.mark now r) := by
  have hb := becomes_mark c now r
  rw [mark_of_ne (r := c.mark now r), mark_of_ne (h _ hr)]
  rw [hb.userId, hb.deviceKey]
  exact h _ hr

theorem mark_comm (h : c.Apart c') (r : RefreshRow) :
    c'.mark now (c.mark now r) = c.mark now (c'.mark now r) := by
  -- a row of neither session stays as it is, and a row of one is not in the other
  by_cases hr : c.session? = some (r.userId, r.deviceKey)
  · exact mark_mark_of_session h hr
  · by_cases hr' : c'.session? = some (r.userId, r.deviceKey)
    · exact (mark_mark_of_session h.symm hr').symm
    · simp only [mark_of_ne hr, mark_of_ne hr']

theorem session?_of_row? {r : RefreshRow} (h : c.row? now = some r) :
    c.session? = some (r.userId, r.deviceKey) := by
  cases c with
  | nothing | ends => cases h
  | opens rot =>
    cases h
    rfl

/-- Behind a change of another session, a change leaves the rows that there were changed by both,
and both rows that are new. -/
theorem left_left (h : c.Apart c') (rows : List RefreshRow) :
    c'.left now (c.left now rows) =
      rows.map (fun r => c'.mark now (c.mark now r)) ++
        ((c.row? now).toList ++ (c'.row? now).toList) := by
  have hnew : ((c.row? now).toList).map (c'.mark now) = (c.row? now).toList := by
    refine (List.map_congr_left fun r hr => ?_).trans (List.map_id _)
    exact mark_of_ne (h _ (session?_of_row? (Option.mem_toList.1 hr)))
  simp only [left, List.map_append, List.map_map, hnew, List.append_assoc]
  rfl

/-- A look-up that tells rows apart by what stays as it is, and would not find a row that is revoked
instead of one that is not, finds what it would have found. -/
theorem find?_map_mark {p : RefreshRow → Bool}
    (hp : ∀ r r', r.Becomes r' → p r' = true → p r = true) {rows : List RefreshRow}
    (h : ∀ r, rows.find? p = some r → c.session? ≠ some (r.userId, r.deviceKey)) :
    (rows.map (c.mark now)).find? p = rows.find? p := by
  induction rows with
  | nil => rfl
  | cons r rest ih =>
    cases hr : p r with
    | true =>
      have hfound : (r :: rest).find? p = some r := List.find?_cons_of_pos hr
      rw [List.map_cons, mark_of_ne (h r hfound), List.find?_cons_of_pos hr, hfound]
    | false =>
      -- what is not found does not come to be found by being revoked
      have hmark : ¬ p (c.mark now r) = true := fun h =>
        Bool.false_ne_true (hr.symm.trans (hp _ _ (becomes_mark c now r) h))
      have hr : ¬ p r = true := by simp [hr]
      rw [List.find?_cons_of_neg hr] at h ⊢
      rw [List.map_cons, List.find?_cons_of_neg hmark, ih h]

end Change

/-! ## Stores that are alike -/

namespace Store

/-- Two stores that have been made of one, alike but for the order of what has been added. -/
structure AlikeSince (store t t' : Store) : Prop where
  accounts : ∃ new new', t.accounts = store.accounts ++ new ∧ t'.accounts = store.accounts ++ new' ∧
    new.Perm new'
  rows : ∃ old new new', old.length = store.rows.length ∧ t.rows = old ++ new ∧
    t'.rows = old ++ new' ∧ new.Perm new'

theorem alikeSince_left {f f' : Footprint} (h : f.change.Apart f'.change) (now : Instant)
    (store : Store) :
    AlikeSince store (f'.left now (f.left now store)) (f.left now (f'.left now store)) where
  accounts := ⟨f.account.toList ++ f'.account.toList, f'.account.toList ++ f.account.toList,
    by simp [Footprint.left], by simp [Footprint.left], List.perm_append_comm⟩
  rows := by
    refine ⟨store.rows.map fun r => f'.change.mark now (f.change.mark now r), _, _, ?_,
      Change.left_left h store.rows, ?_, List.perm_append_comm⟩
    · rw [List.length_map]
    · simp only [Change.mark_comm h]
      exact Change.left_left h.symm store.rows

end Store

/-! ## What a footprint leaves alone -/

namespace Footprint

variable {f : Footprint} {now : Instant} {store : Store}

theorem accountById_left {id : String} (h : ∀ a, f.account = some a → a.id ≠ id) :
    (f.left now store).accountById id = store.accountById id := by
  unfold Store.accountById left
  rw [List.find?_append]
  cases ha : f.account with
  | none => simp
  | some a => simp [h a ha]

/-- A look-up finds what it would have found, or else the account that has been made. -/
theorem accountWith_left_cases (f : Footprint) (now : Instant) (store : Store)
    (method : AuthMethod) (authId : String) :
    (f.left now store).accountWith method authId = store.accountWith method authId ∨
    (store.accountWith method authId = none ∧ ∃ a, f.account = some a ∧
      a.identity = (method.label, authId) ∧
      (f.left now store).accountWith method authId = some a) := by
  unfold Store.accountWith left
  rw [List.find?_append]
  cases hfound : store.accounts.find? _ with
  | some b => exact Or.inl rfl
  | none =>
    cases f.account with
    | none => exact Or.inl rfl
    | some a =>
      by_cases ha : (a.live && a.authMethod == method.label && a.authId == authId) = true
      · refine Or.inr ⟨rfl, a, rfl, ?_, by simp [ha]⟩
        simp only [Bool.and_eq_true, beq_iff_eq] at ha
        simp [Account.identity, ha]
      · exact Or.inl (by simp [ha])

theorem accountWith_left {method : AuthMethod} {authId : String}
    (h : ∀ a, f.account = some a → a.identity ≠ (method.label, authId)) :
    (f.left now store).accountWith method authId = store.accountWith method authId := by
  rcases accountWith_left_cases f now store method authId with hsame | ⟨-, a, ha, hid, -⟩
  · exact hsame
  · exact absurd hid (h a ha)

theorem conflicts_left {a : Account}
    (h : ∀ b, f.account = some b → b.id ≠ a.id ∧ b.identity ≠ a.identity) :
    (f.left now store).conflicts a = store.conflicts a := by
  unfold Store.conflicts left
  rw [List.any_append]
  cases hb : f.account with
  | none => simp
  | some b =>
    obtain ⟨hid, hidentity⟩ := h b hb
    have hother : ¬ (b.authMethod = a.authMethod ∧ b.authId = a.authId) := by
      rintro ⟨hm, hi⟩
      exact hidentity (by simp [Account.identity, hm, hi])
    have hfree : (b.id == a.id ||
        b.live && b.authMethod == a.authMethod && b.authId == a.authId) = false := by
      simp only [Bool.or_eq_false_iff, beq_eq_false_iff_ne, Bool.and_eq_false_imp,
        Bool.and_eq_true, beq_iff_eq, and_imp]
      exact ⟨hid, fun _ hm hi => hother ⟨hm, hi⟩⟩
    simp [hfree]

/-- The owner of a token stays its owner, if it is not the session of the owner that is changed and
the new row has another token. -/
theorem ownerOf_left {deviceKey hash : String}
    (hsession : ∀ u, store.ownerOf deviceKey hash now = some u →
      f.change.session? ≠ some (u, deviceKey))
    (hnew : ∀ r, f.change.row? now = some r → r.tokenHash ≠ hash) :
    (f.left now store).ownerOf deviceKey hash now = store.ownerOf deviceKey hash now := by
  unfold Store.ownerOf at hsession ⊢
  simp only [left, Change.left, List.find?_append]
  have hrow : (f.change.row? now).toList.find? (fun r =>
      r.deviceKey == deviceKey && r.tokenHash == hash && r.validAt now) = none := by
    refine List.find?_eq_none.2 fun r hr hp => ?_
    simp only [Bool.and_eq_true, beq_iff_eq] at hp
    exact hnew r (Option.mem_toList.1 hr) hp.1.2
  rw [hrow, Option.or_none, Change.find?_map_mark]
  · intro r r' hb hp
    simp only [Bool.and_eq_true, beq_iff_eq, hb.deviceKey, hb.tokenHash] at hp ⊢
    exact ⟨hp.1, hb.validAt hp.2⟩
  · intro r hr
    have hp := List.find?_some hr
    simp only [Bool.and_eq_true, beq_iff_eq] at hp
    rw [hp.1.1]
    exact hsession r.userId (by rw [hr]; rfl)

end Footprint

namespace Service

variable {s : Service} {op other : Operation} {now : Instant} {store : Store}

/-! ## What a call changes -/

theorem welcome_cases (s : Service) (now : Instant) (op : Operation) (a : Account) :
    (s.welcome now op a).2 = .nothing ∨
    ∃ draws deviceKey expiresAt, op.draws? = some draws ∧ op.deviceKey? = some deviceKey ∧
      (s.welcome now op a).2 = .opens (s.rotationOf op draws a.id deviceKey expiresAt) := by
  unfold welcome
  cases hdraws : op.draws? with
  | none => exact Or.inl rfl
  | some draws =>
    cases s.issuer.issue? (a.profileAt now) now with
    | none => exact Or.inl rfl
    | some access =>
      cases hdevice : op.deviceKey? with
      | none => exact Or.inl rfl
      | some deviceKey =>
        cases Clock.shift? now s.refreshLifetime with
        | none => exact Or.inl rfl
        | some expiresAt => exact Or.inr ⟨draws, deviceKey, expiresAt, rfl, rfl, rfl⟩

/-- Who can turn out to be calling. -/
inductive Calls (s : Service) (now : Instant) (store : Store) : Operation → Caller → Prop
  | rejected {op cause} : Calls s now store op (.rejected cause)
  | owner {userId deviceKey} :
      Calls s now store (.logout userId deviceKey) (.owner userId deviceKey)
  | known {op a} (fresh : op.presented? = none) : Calls s now store op (.known a)
  | holder {draws token deviceKey a}
      (holds : store.ownerOf deviceKey (s.issuer.hashToken token) now = some a.id) :
      Calls s now store (.refresh draws token deviceKey) (.known a)
  | new {op e} (enrols : op.enrolment? = some e) : Calls s now store op (.new (e.account now))

theorem calls_ofEnrolment {e : Enrolment} (h : op.enrolment? = some e)
    (hp : op.presented? = none) :
    s.Calls now store op (.ofEnrolment e now store) := by
  unfold Caller.ofEnrolment
  cases store.accountWith e.method e.authId with
  | some a =>
    by_cases hjoins : e.joins = true
    · simp only [hjoins, if_true]
      exact .known hp
    · simp only [hjoins]
      exact .rejected
  | none =>
    by_cases hconflict : store.conflicts (e.account now) = true
    · simp only [hconflict, if_true]
      exact .rejected
    · simp only [hconflict]
      exact .new h

theorem calls_ofPassword {password : String} (a : Account) (hp : op.presented? = none) :
    s.Calls now store op (.ofPassword password a) := by
  unfold Caller.ofPassword
  cases a.passwordHash with
  | none => exact .rejected
  | some hash =>
    simp only
    cases Identity.checkPassword password hash with
    | error cause => exact .rejected
    | ok accepted =>
      cases accepted with
      | false => exact .rejected
      | true => exact .known hp

theorem calls_caller (s : Service) (now : Instant) (store : Store) (op : Operation) :
    s.Calls now store op (s.caller now store op) := by
  unfold caller
  cases op.refusal? with
  | some cause => exact .rejected
  | none =>
    simp only
    cases op with
    | loginUsername draws username password deviceKey =>
      simp only [lookUp]
      cases store.accountWith .password username with
      | none => exact .rejected
      | some a => exact calls_ofPassword a rfl
    | registerUsername draws username password deviceKey => exact calls_ofEnrolment rfl rfl
    | loginAnonymous draws deviceKey => exact calls_ofEnrolment rfl rfl
    | refresh draws token deviceKey =>
      simp only [lookUp]
      cases hfound :
          (store.ownerOf deviceKey (s.issuer.hashToken token) now).bind store.accountById with
      | none => exact .rejected
      | some a =>
        obtain ⟨u, howner, hu⟩ := Option.bind_eq_some_iff.1 hfound
        obtain ⟨-, rfl, -⟩ := Store.accountById_some hu
        exact .holder howner
    | logout userId deviceKey => exact .owner
    | authenticate token =>
      simp only [lookUp]
      cases (s.issuer.verify token now).bind fun claims => store.accountById claims.id with
      | none => exact .rejected
      | some a => exact .known rfl

/-- The account that a call makes has the id that it has drawn. -/
theorem draws_of_new {a : Account} (h : s.caller now store op = .new a) :
    ∃ e, op.enrolment? = some e ∧ op.draws? = some e.draws ∧ a = e.account now := by
  have hcalls := s.calls_caller now store op
  rw [h] at hcalls
  cases hcalls with
  | @new _ e enrols =>
    refine ⟨e, enrols, ?_, rfl⟩
    cases op <;> cases enrols <;> rfl

/-- A call leaves the rows alone, it is a logout, or it opens a session for its caller. -/
theorem change_cases (s : Service) (now : Instant) (store : Store) (op : Operation) :
    (s.answer now store op).2.change = .nothing ∨
    (∃ userId deviceKey, op = .logout userId deviceKey ∧
      (s.answer now store op).2.change = .ends userId deviceKey) ∨
    ∃ a draws deviceKey expiresAt, (s.caller now store op).account? = some a ∧
      op.draws? = some draws ∧ op.deviceKey? = some deviceKey ∧
      (s.answer now store op).2.change =
        .opens (s.rotationOf op draws a.id deviceKey expiresAt) := by
  unfold answer
  cases hcaller : s.caller now store op with
  | rejected cause => exact Or.inl rfl
  | owner userId deviceKey =>
    have hcalls := s.calls_caller now store op
    rw [hcaller] at hcalls
    cases hcalls
    exact Or.inr (Or.inl ⟨userId, deviceKey, rfl, rfl⟩)
  | known a | new a =>
    rcases welcome_cases s now op a with h | ⟨draws, deviceKey, expiresAt, hd, hk, h⟩
    · exact Or.inl h
    · exact Or.inr (Or.inr ⟨a, draws, deviceKey, expiresAt, rfl, hd, hk, h⟩)

theorem account_of_answer {a : Account} (h : (s.answer now store op).2.account = some a) :
    s.caller now store op = .new a := by
  unfold answer at h
  cases hcaller : s.caller now store op with
  | new b =>
    rw [hcaller] at h
    cases h
    rfl
  | rejected | owner | known =>
    rw [hcaller] at h
    cases h

theorem row_of_answer {r : RefreshRow} (h : (s.answer now store op).2.change.row? now = some r) :
    ∃ draws, op.draws? = some draws ∧ r.tokenHash = s.issuer.hashToken draws.token := by
  rcases s.change_cases now store op with
    hc | ⟨u, d, -, hc⟩ | ⟨a, draws, d, expiresAt, -, hdraws, -, hc⟩
  · rw [hc] at h
    cases h
  · rw [hc] at h
    cases h
  · rw [hc] at h
    cases h
    exact ⟨draws, hdraws, rfl⟩

/-! ## Sessions and accounts that a call concerns -/

/-- The session that a call concerns, by its account and its device: a logout names it, a refresh
owns it with its token, and a login opens it for its account. -/
def session? (s : Service) (now : Instant) (store : Store) (op : Operation) :
    Option (String × String) :=
  match op with
  | .logout userId deviceKey => some (userId, deviceKey)
  | .refresh _ token deviceKey =>
    (store.ownerOf deviceKey (s.issuer.hashToken token) now).map fun userId => (userId, deviceKey)
  | .authenticate _ => none
  | .loginUsername _ _ _ _ | .registerUsername _ _ _ _ | .loginAnonymous _ _ => do
    return ((← (s.caller now store op).account?).id, ← op.deviceKey?)

/-- The account is one that the call would resolve, or would make itself, if it were in the store. A
login whose password it turns away does not resolve it. -/
def Seeks (s : Service) (now : Instant) (store : Store) (op : Operation) (a : Account) : Prop :=
  op.refusal? = none ∧
  match op with
  | .loginUsername _ username password _ =>
    a.identity = (AuthMethod.password.label, username) ∧
      Caller.ofPassword password a ≠ .rejected .badCredentials
  | .registerUsername _ username _ _ => a.identity = (AuthMethod.password.label, username)
  | .loginAnonymous _ deviceKey => a.identity = (AuthMethod.anonymous.label, deviceKey)
  | .refresh _ token deviceKey =>
    store.ownerOf deviceKey (s.issuer.hashToken token) now = some a.id
  | .logout _ _ => False
  | .authenticate token => ∃ claims, s.issuer.verify token now = some claims ∧ claims.id = a.id

theorem session_of_answer {session : String × String}
    (h : (s.answer now store op).2.change.session? = some session) :
    s.session? now store op = some session := by
  rcases s.change_cases now store op with
    hc | ⟨u, d, rfl, hc⟩ | ⟨a, draws, d, expiresAt, ha, hdraws, hdevice, hc⟩
  · rw [hc] at h
    cases h
  · rw [hc] at h
    exact h
  · rw [hc] at h
    cases h
    have hcalls := s.calls_caller now store op
    cases op with
    | logout | authenticate => cases hdevice
    | loginUsername | registerUsername | loginAnonymous =>
      simp only [session?, ha, hdevice]
      rfl
    | refresh draws' token deviceKey =>
      cases hdevice
      generalize s.caller now store _ = c at ha hcalls
      cases hcalls with
      | rejected => cases ha
      | known fresh => cases fresh
      | new enrols => cases enrols
      | holder holds =>
        cases ha
        simp only [session?, holds]
        rfl

/-- What one call does is no business of the other: it concerns another session, it does not make an
account that the other seeks, and it has drawn another account id and another token. -/
structure Spares (s : Service) (now : Instant) (store : Store) (op other : Operation) : Prop where
  session : s.session? now store op = none ∨
    s.session? now store op ≠ s.session? now store other
  account : ∀ a, s.caller now store op = .new a → ¬ s.Seeks now store other a
  ids : ∀ draws ∈ op.draws?, ∀ draws' ∈ other.draws?, draws.accountId ≠ draws'.accountId
  tokens : ∀ draws ∈ op.draws?, ∀ raw ∈ other.presented?,
    s.issuer.hashToken draws.token ≠ s.issuer.hashToken raw

/-! ## Calls that spare each other -/

theorem ofEnrolment_left {f : Footprint} {e : Enrolment}
    (h : ∀ a, f.account = some a →
      a.id ≠ e.draws.accountId ∧ a.identity ≠ (e.method.label, e.authId)) :
    Caller.ofEnrolment e now (f.left now store) = Caller.ofEnrolment e now store := by
  unfold Caller.ofEnrolment
  rw [Footprint.accountWith_left fun a ha => (h a ha).2, Footprint.conflicts_left h]

/-- Nobody else is calling because of a call that spares this one. -/
theorem caller_left (h : s.Spares now store op other) :
    s.caller now ((s.answer now store op).2.left now store) other = s.caller now store other := by
  have hseeks : ∀ a, (s.answer now store op).2.account = some a → ¬ s.Seeks now store other a :=
    fun a ha => h.account a (account_of_answer ha)
  have hids : ∀ a draws, (s.answer now store op).2.account = some a →
      other.draws? = some draws → a.id ≠ draws.accountId := by
    intro a draws ha hd
    obtain ⟨e, -, he, rfl⟩ := draws_of_new (account_of_answer ha)
    exact h.ids e.draws he draws hd
  unfold caller
  cases hrefusal : other.refusal? with
  | some cause => rfl
  | none =>
    simp only
    cases other with
    | logout userId deviceKey => rfl
    | registerUsername draws username password deviceKey =>
      refine ofEnrolment_left fun a ha => ⟨hids a draws ha rfl, fun hid => ?_⟩
      exact hseeks a ha ⟨hrefusal, hid⟩
    | loginAnonymous draws deviceKey =>
      refine ofEnrolment_left fun a ha => ⟨hids a draws ha rfl, fun hid => ?_⟩
      exact hseeks a ha ⟨hrefusal, hid⟩
    | loginUsername draws username password deviceKey =>
      simp only [lookUp]
      rcases Footprint.accountWith_left_cases (s.answer now store op).2 now store .password username
        with hsame | ⟨hnone, a, ha, hid, hfound⟩
      · rw [hsame]
      · -- the account is new, and it turns the password away as if it were not there
        rw [hfound, hnone]
        by_contra hne
        exact hseeks a ha ⟨hrefusal, hid, hne⟩
    | refresh draws token deviceKey =>
      simp only [lookUp]
      have howner : ((s.answer now store op).2.left now store).ownerOf deviceKey
          (s.issuer.hashToken token) now =
          store.ownerOf deviceKey (s.issuer.hashToken token) now := by
        refine Footprint.ownerOf_left (fun u hu hsession => ?_) fun r hr hhash => ?_
        · have hother : s.session? now store (.refresh draws token deviceKey) =
              some (u, deviceKey) := by
            simp only [session?, hu]
            rfl
          have hown := session_of_answer hsession
          rcases h.session with hnone | hne
          · rw [hnone] at hown
            cases hown
          · exact hne (hown.trans hother.symm)
        · obtain ⟨d, hd, hrow⟩ := row_of_answer hr
          exact h.tokens d hd token rfl (hrow.symm.trans hhash)
      rw [howner]
      cases hu : store.ownerOf deviceKey (s.issuer.hashToken token) now with
      | none => rfl
      | some u =>
        simp only [Option.bind_some]
        rw [Footprint.accountById_left fun a ha hid => ?_]
        exact hseeks a ha ⟨hrefusal, by rw [hid]; exact hu⟩
    | authenticate token =>
      simp only [lookUp]
      cases hclaims : s.issuer.verify token now with
      | none => rfl
      | some claims =>
        simp only [Option.bind_some]
        rw [Footprint.accountById_left fun a ha hid => ?_]
        exact hseeks a ha ⟨hrefusal, claims, hclaims, hid.symm⟩

theorem answer_left (h : s.Spares now store op other) :
    s.answer now ((s.answer now store op).2.left now store) other = s.answer now store other := by
  rw [answer, caller_left h]
  rfl

/-- Two calls that spare each other are answered alike in either order, and leave stores that differ
in nothing but the order of the accounts and rows that they have added. -/
theorem perform_commutes (s : Service) (now : Instant) (store : Store) (op other : Operation)
    (h : s.Spares now store op other) (h' : s.Spares now store other op) :
    let first := (s.perform op).run now store
    let second := (s.perform other).run now first.2
    let first' := (s.perform other).run now store
    let second' := (s.perform op).run now first'.2
    first.1 = second'.1 ∧ second.1 = first'.1 ∧ store.AlikeSince second.2 second'.2 := by
  simp only [run_perform, answer_left h, answer_left h']
  refine ⟨trivial, trivial, Store.alikeSince_left (fun session hsession hsession' => ?_) now store⟩
  have hop := session_of_answer hsession
  rcases h.session with hnone | hne
  · rw [hnone] at hop
    cases hop
  · exact hne (hop.trans (session_of_answer hsession').symm)

/-- A refresh on the tablet goes with a login of the other account on the tablet, and with a logout
of the same account on the phone. -/
theorem household_calls_commute :
    let onTablet := Operation.refresh (.sample "first") "shared token" "tablet"
    let ofGuest := Operation.loginAnonymous (.sample "second") "tablet"
    let onPhone := Operation.logout "alice" "phone"
    let run (op : Operation) (store : Store) := (sample.perform op).run 5 store
    (sample.Spares 5 household onTablet ofGuest ∧ sample.Spares 5 household ofGuest onTablet ∧
      (run ofGuest (run onTablet household).2).1 = (run ofGuest household).1 ∧
      household.AlikeSince (run ofGuest (run onTablet household).2).2
        (run onTablet (run ofGuest household).2).2) ∧
    sample.Spares 5 household onTablet onPhone ∧ sample.Spares 5 household onPhone onTablet ∧
      (run onPhone (run onTablet household).2).1 = (run onPhone household).1 ∧
      household.AlikeSince (run onPhone (run onTablet household).2).2
        (run onTablet (run onPhone household).2).2 := by
  intro onTablet ofGuest onPhone run
  have howner : household.ownerOf "tablet" (sample.issuer.hashToken "shared token") 5 =
      some "alice" := by
    simp [Store.ownerOf, household, RefreshRow.validAt]
  have hsession : sample.session? 5 household onTablet = some ("alice", "tablet") := by
    simp only [onTablet, session?, howner, Option.map_some]
  have hsession' : sample.session? 5 household ofGuest = some ("guest", "tablet") := by
    decide +kernel
  have hguest : sample.caller 5 household ofGuest =
      .known (.fresh "guest" "second customer" .anonymous "tablet" none 0) := by
    decide +kernel
  -- the guest has an account already, and the other two calls never make one
  have hold : ∀ op ∈ [onTablet, ofGuest, onPhone], ∀ a, sample.caller 5 household op ≠ .new a := by
    intro op hop a ha
    simp only [List.mem_cons, List.not_mem_nil, or_false] at hop
    rcases hop with rfl | rfl | rfl
    · obtain ⟨e, he, -⟩ := draws_of_new ha
      cases he
    · rw [hguest] at ha
      cases ha
    · obtain ⟨e, he, -⟩ := draws_of_new ha
      cases he
  have htoken :
      sample.issuer.hashToken "second token" ≠ sample.issuer.hashToken "shared token" := by
    decide +kernel
  have hspares : sample.Spares 5 household onTablet ofGuest := by
    refine ⟨Or.inr ?_, fun a ha => absurd ha (hold _ (by simp) a), by decide, by decide⟩
    rw [hsession, hsession']
    decide
  have hspares' : sample.Spares 5 household ofGuest onTablet := by
    refine ⟨Or.inr ?_, fun a ha => absurd ha (hold _ (by simp) a), by decide, ?_⟩
    · rw [hsession, hsession']
      decide
    · intro draws hdraws raw hraw
      cases hdraws
      cases hraw
      exact htoken
  have hphone : sample.Spares 5 household onTablet onPhone := by
    refine ⟨Or.inr ?_, fun a ha => absurd ha (hold _ (by simp) a), by decide, by decide⟩
    rw [hsession]
    decide
  have hphone' : sample.Spares 5 household onPhone onTablet := by
    refine ⟨Or.inr ?_, fun a ha => absurd ha (hold _ (by simp) a), by decide, by decide⟩
    rw [hsession]
    decide
  obtain ⟨-, hanswer, halike⟩ := perform_commutes sample 5 household _ _ hspares hspares'
  obtain ⟨-, hanswer', halike'⟩ := perform_commutes sample 5 household _ _ hphone hphone'
  exact ⟨⟨hspares, hspares', hanswer, halike⟩, hphone, hphone', hanswer', halike'⟩

end Service

end Latchkey
