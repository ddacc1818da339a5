/-
A deletion is final. In whatever order calls take turns, those that begin after an account has been
deleted are never about it: they bring tokens and profiles of other accounts only, and who presents
a refresh token or an access token of the account is refused (`softDelete_is_final`).

A deletion revokes no refresh token, and calls in flight may still store new ones. What bars them is
the second look-up of a refresh: it asks for the owner of the token, whom the store does not know
any more.
-/
import Latchkey.Proofs.AccessToken.RoundTrip
import Latchkey.Proofs.Service.Acceptance
import Latchkey.Proofs.Service.Redemption

namespace Latchkey

open Operation (Result)

/-! ## Owners of hashes -/

namespace Store

/-- All rows with the hash are rows of the account. -/
def OwnedBy (s : Store) (hash userId : String) : Prop :=
  ∀ r ∈ s.rows, r.tokenHash = hash → r.userId = userId

/-- Rows stay with their accounts, so what is owned by an account was never owned by another. -/
theorem OwnedBy.of_replay {s : Store} {hash userId : String} {events : List (Instant × Event)}
    (h : (s.replay events).OwnedBy hash userId) : s.OwnedBy hash userId := by
  induction events generalizing s with
  | nil => exact h
  | cons e rest ih =>
    intro r hr hhash
    obtain ⟨r', hr', hb⟩ := row_after hr e.1 e.2
    exact hb.userId ▸ ih h r' hr' (hb.tokenHash.trans hhash)

theorem Sole.ownedBy {s : Store} {r : RefreshRow} (h : s.Sole r) :
    s.OwnedBy r.tokenHash r.userId := fun a ha hhash => congrArg (·.userId) (h.eq a ha hhash)

end Store

/-! ## Calls that are refused -/

namespace Service

open Program

/-- What is left of a call that can only be refused, for the reason `e`, once the account `userId`
is gone: it has been refused, or it looks the account up, or it looks for the owner of a hash that
is owned by the account. -/
inductive Doomed (userId : String) (owned : String → Prop) (e : AuthError) :
    Program Result → Prop
  | refused : Doomed userId owned e (.fail e)
  | reading {k} (next : ∀ t, Doomed userId owned e (k t)) : Doomed userId owned e (.clock k)
  | lookingUp {k} (absent : k (.ok none) = .fail e) :
      Doomed userId owned e (.call (.accountById userId) k)
  | validating {deviceKey hash k} (own : owned hash) (unknown : k (.ok none) = .fail e)
      (known : Doomed userId owned e (k (.ok (some userId)))) :
      Doomed userId owned e (.call (.validate deviceKey hash) k)

variable {s : Service} {userId : String} {owned : String → Prop} {e : AuthError}
  {p : Program Result}

/-- The reply that names an owner, where the hash is owned by the account, names the account. -/
theorem ownerOf_cases {store : Store} {hash : String} (h : store.OwnedBy hash userId)
    (deviceKey : String) (now : Instant) :
    store.ownerOf deviceKey hash now = none ∨
      store.ownerOf deviceKey hash now = some userId := by
  cases howner : store.ownerOf deviceKey hash now with
  | none => exact Or.inl rfl
  | some u =>
    obtain ⟨r, hr, rfl, -, hhash, -⟩ := Store.ownerOf_some howner
    exact Or.inr (congrArg some (h r hr hhash))

theorem doomed_advance (h : Doomed userId owned e p) (now : Instant) {store : Store}
    (hgone : store.accountById userId = none)
    (howned : ∀ hash, owned hash → store.OwnedBy hash userId) :
    Doomed userId owned e (p.advance now store).1 ∧ (p.advance now store).2 = store := by
  cases h with
  | refused => exact ⟨.refused, rfl⟩
  | reading next => exact ⟨next now, rfl⟩
  | @lookingUp k absent =>
    refine ⟨?_, rfl⟩
    show Doomed _ _ _ (k (.ok (store.accountById userId)))
    rw [hgone, absent]
    exact .refused
  | @validating deviceKey hash k own unknown known =>
    refine ⟨?_, rfl⟩
    show Doomed _ _ _ (k (.ok (store.ownerOf deviceKey hash now)))
    rcases ownerOf_cases (howned hash own) deviceKey now with howner | howner <;> rw [howner]
    · rw [unknown]
      exact .refused
    · exact known

theorem run_of_doomed (h : Doomed userId owned e p) (now : Instant) {store : Store}
    (hgone : store.accountById userId = none)
    (howned : ∀ hash, owned hash → store.OwnedBy hash userId) :
    p.run now store = (.error e, store) := by
  induction h with
  | refused => rfl
  | reading next ih => exact ih now
  | @lookingUp k absent =>
    show (k (.ok (store.accountById userId))).run now store = _
    rw [hgone, absent]
    rfl
  | @validating deviceKey hash k own unknown known ih =>
    show (k (.ok (store.ownerOf deviceKey hash now))).run now store = _
    rcases ownerOf_cases (howned hash own) deviceKey now with howner | howner <;> rw [howner]
    · rw [unknown]
      rfl
    · exact ih

theorem outcome?_of_doomed (h : Doomed userId owned e p) {o : Outcome Result}
    (ho : p.outcome? = some o) : o = .error e := by
  cases h with
  | refused =>
    cases ho
    rfl
  | reading | lookingUp | validating => cases ho

theorem doomed_now {f : Instant → Program Result} (h : ∀ t, Doomed userId owned e (f t)) :
    Doomed userId owned e (now >>= f) := .reading h

theorem doomed_orFail {α : Type} {a : Option α} {f : α → Program Result}
    (h : ∀ x, a = some x → Doomed userId owned e (f x)) :
    Doomed userId owned e (orFail a e >>= f) := by
  cases a with
  | none => exact .refused
  | some x => exact h x rfl

/-- A refresh with a token that is owned by the account. -/
theorem doomed_refresh (s : Service) (draws : Draws) {raw deviceKey : String}
    (hr : Text.isBlank raw = false) (hd : Text.isBlank deviceKey = false)
    (howned : owned (s.issuer.hashToken raw)) :
    Doomed userId owned .badRefreshToken (s.perform (.refresh draws raw deviceKey)) := by
  simp only [perform, refresh, require, hr, hd, bind_assoc, pure_bind]
  exact .validating howned rfl (.lookingUp rfl)

/-- An authentication with an access token that names the account. -/
theorem doomed_authenticate {token : String} (h : s.issuer.Names token userId) :
    Doomed userId owned .badAccessToken (s.perform (.authenticate token)) := by
  obtain ⟨claims, rfl, rfl⟩ := h
  simp only [perform, authenticate, bind_assoc]
  refine doomed_now fun t => doomed_orFail fun claims' hverify => ?_
  rw [Issuer.verify_tokenOf] at hverify
  split at hverify
  · cases hverify
    exact .lookingUp rfl
  · cases hverify

end Service

/-! ## Calls and the accounts that they may be about -/

/-- A call on its way, which knows of no account but those that `may` allows, or one that has
brought a refresh token, whose row is in the store and belongs to such an account. -/
inductive Call.Serves (s : Service) (may : String → Prop) (store : Store) (c : Call) : Prop
  | underway {m} (underway : s.Underway c.operation m c.rest)
      (known : ∀ u, m.account = some u → may u) : Serves s may store c
  | served {draws access deviceKey row} (ended : c.rest = .done (.tokens ⟨access, some draws.token⟩))
      (draws_eq : c.operation.draws? = some draws)
      (device_eq : c.operation.deviceKey? = some deviceKey)
      (device_given : Text.isBlank deviceKey = false)
      (names : s.issuer.Names access row.userId) (allowed : may row.userId)
      (row_mem : row ∈ store.rows) (hash : row.tokenHash = s.issuer.hashToken draws.token) :
      Serves s may store c

namespace Call

variable {s : Service} {may : String → Prop} {store : Store} {c : Call}

theorem serves_start (s : Service) (may : String → Prop) (store : Store) (op : Operation) :
    (start s op).Serves s may store :=
  .underway (s.underway_perform op) fun u hu => by cases hu

theorem Serves.after (h : c.Serves s may store) (now : Instant) (e : Store.Event) :
    c.Serves s may (store.after now e) := by
  cases h with
  | underway underway known => exact .underway underway known
  | served ended draws_eq device_eq device_given names allowed row_mem hash =>
    obtain ⟨row', hrow', hb⟩ := Store.row_after row_mem now e
    exact .served ended draws_eq device_eq device_given (hb.userId ▸ names) (hb.userId ▸ allowed)
      hrow' (hb.tokenHash.trans hash)

theorem Serves.advance (h : c.Serves s may store) (now : Instant)
    (hmay : ∀ u, ((c.rest.advance now store).2.accountById u).isSome → may u) :
    (c.advance now store).Serves s may (c.rest.advance now store).2 := by
  cases h with
  | @underway m underway known =>
    rcases Service.underway_advance underway now store with
      ⟨m', hm', hq⟩ | ⟨-, result, hr, hd⟩
    · refine .underway hm' fun u hu => ?_
      generalize (c.rest.advance now store).2 = store' at hq hmay
      cases hq with
      | rests => exact known u hu
      | reads => exact known u hu
      | asks may' =>
        rcases Knowledge.account_of_hear hu with htold | hknown
        · exact hmay u (accountById_of_told may' htold)
        · exact known u hknown
    · change (c.advance now store).rest = .done result at hr
      generalize (c.rest.advance now store).2 = store' at hd
      cases hd with
      | stored draws_eq device_eq device_given known' _ _ names _ =>
        exact .served hr draws_eq device_eq device_given names (known _ known')
          (List.mem_append_right _ (List.mem_singleton_self _)) rfl
  | served ended draws_eq device_eq device_given names allowed row_mem hash =>
    obtain ⟨op, rest⟩ := c
    cases ended
    exact .served rfl draws_eq device_eq device_given names allowed row_mem hash

/-- An answer of a call is about an account that is allowed, if it is about one. -/
theorem Serves.about (h : c.Serves s may store) {result : Result} (hr : c.rest = .done result) :
    result = .loggedOut ∨ ∃ u, may u ∧ result.About s.issuer u := by
  cases h with
  | underway underway known =>
    rw [hr] at underway
    cases underway with
    | answered _ _ about =>
      rcases about with hout | ⟨u, hu, habout⟩
      · exact Or.inl hout
      · exact Or.inr ⟨u, known u hu, habout⟩
  | served ended _ _ _ names allowed _ _ =>
    rw [hr] at ended
    cases ended
    exact Or.inr ⟨_, allowed, names⟩

end Call

theorem Operation.Result.About.unique {issuer : Issuer} {result : Result} {a b : String}
    (ha : result.About issuer a) (hb : result.About issuer b) : a = b := by
  cases result with
  | tokens t => exact Issuer.names_unique ha hb
  | loggedOut => cases ha
  | profile p => exact ha.symm.trans hb

namespace Traffic

variable {s : Service} {w : Traffic} {may : String → Prop} {n : Nat}

/-- The calls that began behind the first `n` are about accounts that `may` allows. -/
def Serves (s : Service) (may : String → Prop) (n : Nat) (w : Traffic) : Prop :=
  ∀ (j : Nat) (c : Call), n ≤ j → w.calls[j]? = some c → c.Serves s may w.store

/-- Calls do not come to know of accounts that are gone. -/
theorem serves_after (h : w.Serves s may n) (hgone : ∀ u, ¬ may u → w.store.Gone u)
    (now : Instant) (e : Event) : (w.after s now e).Serves s may n := by
  intro j c' hj hc'
  have hmay : ∀ u, ((w.after s now e).store.accountById u).isSome → may u := by
    intro u hlive
    by_contra hu
    rw [(gone_after (s := s) (hgone u hu) now e).2] at hlive
    cases hlive
  rcases call_after hc' with ⟨hc, -⟩ | ⟨rfl, c, hc, rfl⟩ | ⟨op, -, -, rfl⟩
  · have hc' := h j c' hj hc
    exact of_store_after (P := c'.Serves s may) hc' now (hc'.after now) e
  · rw [after_advance hc] at hmay ⊢
    exact (h j c hj hc).advance now hmay
  · exact Call.serves_start s may _ op

theorem serves_run (h : w.Serves s may n) (hgone : ∀ u, ¬ may u → w.store.Gone u)
    (events : List (Instant × Event)) : (w.run s events).Serves s may n := by
  induction events generalizing w with
  | nil => exact h
  | cons e rest ih =>
    exact ih (serves_after h hgone e.1 e.2) fun u hu => gone_after (hgone u hu) e.1 e.2

/-! ## Traffic behind a deletion -/

section

variable {userId : String} {events : List (Instant × Event)}

/-- Calls that begin after an account is gone are never about it. -/
theorem serves_run_of_gone (h : w.store.Gone userId) :
    (w.run s events).Serves s (· ≠ userId) w.calls.length := by
  refine serves_run (fun j c hj hc => ?_) (fun u hu => ?_) events
  · exact absurd (List.getElem?_eq_some_iff.1 hc).1 (Nat.not_lt.2 hj)
  · rw [not_not.1 hu]
    exact h

/-- A call that has ended has failed for the reason `e`, and one that has not fails for it if it is
left to itself from now on. -/
def Fails (w : Traffic) (c : Call) (e : AuthError) : Prop :=
  (∀ o, c.rest.outcome? = some o → o = .error e) ∧ ∀ t, (c.rest.run t w.store).1 = .error e

variable {owned : String → Prop} {e : AuthError} {op : Operation}

theorem doomed_run (hstart : Service.Doomed userId owned e (s.perform op))
    (hgone : w.store.Gone userId)
    (howned : ∀ hash, owned hash → (w.run s events).store.OwnedBy hash userId)
    (h : ∀ (j : Nat) (c : Call), n ≤ j → w.calls[j]? = some c → c.operation = op →
      Service.Doomed userId owned e c.rest)
    {j : Nat} {c : Call} (hj : n ≤ j) (hc : (w.run s events).calls[j]? = some c)
    (hop : c.operation = op) : Service.Doomed userId owned e c.rest := by
  induction events generalizing w with
  | nil => exact h j c hj hc hop
  | cons e' rest ih =>
    refine ih (gone_after hgone e'.1 e'.2) howned (fun i d hi hd hdop => ?_) hc
    rcases call_after hd with ⟨hd, -⟩ | ⟨-, d', hd', rfl⟩ | ⟨op', -, -, rfl⟩
    · exact h i d hi hd hdop
    · refine (Service.doomed_advance (h i d' hi hd' hdop) e'.1 hgone.2 fun hash hh => ?_).1
      obtain ⟨events', hstore⟩ := store_run (s := s) w (e' :: rest)
      exact Store.OwnedBy.of_replay (hstore ▸ howned hash hh)
    · cases hdop
      exact hstart

/-- A call that is doomed when it begins, after the account is gone, fails. -/
theorem fails_run (hgone : w.store.Gone userId)
    (hstart : Service.Doomed userId ((w.run s events).store.OwnedBy · userId) e (s.perform op))
    {j : Nat} {c : Call} (hj : w.calls.length ≤ j) (hc : (w.run s events).calls[j]? = some c)
    (hop : c.operation = op) : (w.run s events).Fails c e := by
  have hdoomed := doomed_run hstart hgone (fun _ h => h)
    (fun i d hi hd => absurd (List.getElem?_eq_some_iff.1 hd).1 (Nat.not_lt.2 hi)) hj hc hop
  refine ⟨fun o => Service.outcome?_of_doomed hdoomed, fun t => ?_⟩
  rw [Service.run_of_doomed hdoomed t (gone_run hgone events).2 fun _ h => h]

end

/-! ## Deletions are final -/

/-- A call has brought the account the refresh token on the device. -/
def Delivered (s : Service) (w : Traffic) (userId deviceKey raw : String) : Prop :=
  ∃ (i : Nat) (c : Call) (access : String), w.calls[i]? = some c ∧
    c.operation.deviceKey? = some deviceKey ∧ c.rest = .done (.tokens ⟨access, some raw⟩) ∧
    s.issuer.Names access userId

/-- What was delivered was drawn for the call, on a device that is not blank, and its hash is owned
by the account. -/
theorem owned_of_delivered (h : w.Serves s (fun _ => True) 0) (hacc : w.Accounted s)
    {userId deviceKey raw : String} (hd : w.Delivered s userId deviceKey raw) :
    (∃ op ∈ w.operations, ∃ draws, op.draws? = some draws ∧ draws.token = raw) ∧
    Text.isBlank deviceKey = false ∧
    w.store.OwnedBy (s.issuer.hashToken raw) userId := by
  obtain ⟨i, c, access, hc, hdevice, hr, hnames⟩ := hd
  cases h i c (Nat.zero_le i) hc with
  | underway underway _ =>
    rw [hr] at underway
    cases underway with
    | answered stateless _ _ => cases stateless
  | @served draws access' deviceKey' row ended draws_eq device_eq device_given names _ row_mem hash =>
    rw [hr] at ended
    cases ended
    cases hdevice.symm.trans device_eq
    refine ⟨⟨c.operation, List.mem_map_of_mem (List.mem_of_getElem? hc), draws, draws_eq, rfl⟩,
      device_given, ?_⟩
    rw [← hash, Issuer.names_unique hnames names]
    exact (Store.sole_of_mem hacc.distinct row_mem).ownedBy

/-- In whatever order calls take turns, and whatever the clock shows: once a deletion has found the
account, it is never live again, and a call that begins afterwards is not about it. Its tokens or
its profile are those of another account; a refresh with a token that has been delivered to the
account, before the deletion or after it, and on its device, fails because the token is bad; and so
does an authentication with an access token of the account. -/
theorem softDelete_is_final (s : Service) (before later : List (Instant × Event)) (t : Instant)
    (userId : String) (hfound : ((idle.run s before).store.softDelete userId t).1 = true)
    (hrows : ∀ e ∈ before ++ (t, .other (.softDelete userId)) :: later, e.2.storesRow = false)
    (htokens : (idle.run s (before ++ (t, .other (.softDelete userId)) :: later)).DistinctTokens s)
    (hgenerated : ∀ op ∈
        (idle.run s (before ++ (t, .other (.softDelete userId)) :: later)).operations,
      ∀ draws, op.draws? = some draws →
        ∃ bytes : Bytes, bytes.length = OpaqueToken.length ∧
          OpaqueToken.ofBytes bytes = draws.token) :
    let w := idle.run s (before ++ (t, .other (.softDelete userId)) :: later)
    w.store.accountById userId = none ∧
    ∀ (j : Nat) (c : Call), (idle.run s before).calls.length ≤ j → w.calls[j]? = some c →
      (∀ result, c.rest = .done result → ¬ result.About s.issuer userId ∧
        (result = .loggedOut ∨ ∃ u, u ≠ userId ∧ result.About s.issuer u)) ∧
      (∀ draws raw deviceKey, c.operation = .refresh draws raw deviceKey →
        w.Delivered s userId deviceKey raw → w.Fails c .badRefreshToken) ∧
      (∀ token, c.operation = .authenticate token → s.issuer.Names token userId →
        w.Fails c .badAccessToken) := by
  intro w
  have hall : w.Serves s (fun _ => True) 0 :=
    serves_run (fun j c _ hc => by cases hc) (fun u hu => absurd trivial hu) _
  have hacc : w.Accounted s := accounted_run (accounted_idle s) hrows htokens
  have hgone : ((idle.run s before).after s t (.other (.softDelete userId))).store.Gone userId := by
    obtain ⟨events, hstore⟩ := store_run (s := s) idle before
    refine Store.gone_softDelete ?_ hfound
    rw [hstore]
    exact Store.distinctIds_replay (show Store.DistinctIds .empty from List.nodup_nil) events
  have hgiven : ∀ op ∈ w.operations, ∀ draws, op.draws? = some draws →
      Text.isBlank draws.token = false := by
    intro op hmem draws hdraws
    obtain ⟨bytes, hlength, hbytes⟩ := hgenerated op hmem draws hdraws
    rw [← hbytes]
    refine OpaqueToken.isBlank_ofBytes fun hnil => ?_
    rw [hnil] at hlength
    cases hlength
  have hw : w = ((idle.run s before).after s t (.other (.softDelete userId))).run s later :=
    run_append before _
  clear_value w
  subst hw
  refine ⟨(gone_run hgone later).2, fun j c hj hc => ⟨fun result hr => ?_,
    fun draws raw deviceKey hop hd => ?_,
    fun token hop hnames => fails_run hgone (Service.doomed_authenticate hnames) hj hc hop⟩⟩
  · rcases (serves_run_of_gone hgone j c hj hc).about hr with rfl | ⟨u, hu, habout⟩
    · exact ⟨id, Or.inl rfl⟩
    · exact ⟨fun h => hu (habout.unique h), Or.inr ⟨u, hu, habout⟩⟩
  · obtain ⟨⟨op, hmem, draws', hdraws, rfl⟩, hdevice, howned⟩ := owned_of_delivered hall hacc hd
    have hraw := hgiven op hmem draws' hdraws
    exact fails_run hgone (Service.doomed_refresh s draws hraw hdevice howned) hj hc hop

/-- The draws of a call that gets one byte over and over. -/
def filled (b : UInt8) : Draws := .ofBytes 0 (List.replicate Draws.size b)

theorem generated_filled (b : UInt8) : ∃ bytes : Bytes, bytes.length = OpaqueToken.length ∧
    OpaqueToken.ofBytes bytes = (filled b).token :=
  ⟨((List.replicate Draws.size b).drop 64).take OpaqueToken.length, by simp [Draws.size,
    OpaqueToken.length], rfl⟩

/-- Somebody logs in on a phone and refreshes, up to the renewal. -/
def refreshInFlight : List (Instant × Event) :=
  (0, .start (.loginAnonymous (filled 0) "phone")) :: List.replicate 7 (0, .advance 0) ++
    (1, .start (.refresh (filled 1) (filled 0).token "phone")) :: List.replicate 5 (1, .advance 1)

/-- The renewal takes place, another account is made for the phone, and somebody presents the
renewed token there. -/
def afterDeletion : List (Instant × Event) :=
  (3, .advance 1) ::
    (3, .other (.request (.insertAccount (.fresh "another account" "" .anonymous "phone" none 3)))) ::
    (4, .start (.refresh (filled 2) (filled 1).token "phone")) :: List.replicate 2 (4, .advance 2)

set_option maxRecDepth 100000 in
theorem refreshInFlight_refused :
    let userId := (filled 0).accountId
    let w := idle.run .sample
      (refreshInFlight ++ (2, .other (.softDelete userId)) :: afterDeletion)
    ((idle.run .sample refreshInFlight).store.softDelete userId 2).1 = true ∧
    w.Delivered .sample userId "phone" (filled 1).token ∧
    (w.store.accountWith .anonymous "phone").isSome ∧
    ∃ c, w.calls[2]? = some c ∧ c.operation = .refresh (filled 2) (filled 1).token "phone" ∧
      w.Fails c .badRefreshToken := by
  intro userId w
  have hfound : ((idle.run .sample refreshInFlight).store.softDelete userId 2).1 = true := by
    decide +kernel
  have htokens : w.DistinctTokens .sample := by
    unfold DistinctTokens
    decide +kernel
  have hoperations : w.operations = [.loginAnonymous (filled 0) "phone",
      .refresh (filled 1) (filled 0).token "phone",
      .refresh (filled 2) (filled 1).token "phone"] := by decide +kernel
  have hdelivered : w.Delivered .sample userId "phone" (filled 1).token :=
    ⟨1, ⟨.refresh (filled 1) (filled 0).token "phone",
      .done (.tokens ⟨Service.sample.issuer.tokenOf ⟨userId, "User0", 60, 0⟩,
        some (filled 1).token⟩)⟩, _, by rfl, rfl, rfl, _, rfl, rfl⟩
  have hgenerated : ∀ op ∈ w.operations, ∀ draws, op.draws? = some draws →
      ∃ bytes : Bytes, bytes.length = OpaqueToken.length ∧
        OpaqueToken.ofBytes bytes = draws.token := by
    intro op hop draws hdraws
    rw [hoperations] at hop
    simp only [List.mem_cons, List.not_mem_nil, or_false] at hop
    rcases hop with rfl | rfl | rfl <;> cases hdraws <;> exact generated_filled _
  obtain ⟨c, hc, hop⟩ : ∃ c, w.calls[2]? = some c ∧
      c.operation = .refresh (filled 2) (filled 1).token "phone" := by
    have h := congrArg (·[2]?) hoperations
    exact Option.map_eq_some_iff.1 ((List.getElem?_map ..).symm.trans h)
  refine ⟨hfound, hdelivered, by decide +kernel, c, hc, hop, ?_⟩
  exact ((softDelete_is_final .sample refreshInFlight afterDeletion 2 userId hfound (by decide)
    htokens hgenerated).2 2 c (by decide +kernel) hc).2.1 _ _ _ hop hdelivered

end Traffic

end Latchkey
