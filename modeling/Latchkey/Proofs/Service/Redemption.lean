/-
Refresh tokens in the hands of calls that are in flight. A token is redeemed with the step that
stores its successor, and in that step it is spent. So no token is redeemed twice, and what has been
revoked is not redeemed any more, not even by a call that had validated it before
(`run_redeems_once_and_not_when_revoked`).

The invariant is `Traffic.Accounted`: every row was stored by a call that is done and is known by
the hash of the token that this call has drawn.
-/
import Latchkey.Proofs.Service.Delivery
import Latchkey.Proofs.Service.Refresh
import Latchkey.Proofs.Service.Traffic

namespace Latchkey

open Operation (Result)

/-! ## Drawn tokens -/

/-- The hash of the token that an operation has drawn. -/
def Service.tokenHash? (s : Service) (op : Operation) : Option String :=
  op.draws?.map fun draws => s.issuer.hashToken draws.token

/-- With its next step the call ends a session: a logout, or a rotation that is carried out. -/
def Call.Revokes (c : Call) (store : Store) (now : Instant)
    (userId deviceKey : String) : Prop :=
  (∃ k, c.rest = .call (.invalidate userId deviceKey) k) ∨
  ∃ rot k, c.rest = .call (.rotate rot) k ∧ rot.userId = userId ∧ rot.deviceKey = deviceKey ∧
    (store.rotate rot now).1 = .ok ()

/-- What is left of the call begins with a rotation. -/
def Call.isRotating (c : Call) : Bool :=
  match c.rest with
  | .call (.rotate _) _ => true
  | _ => false

theorem Call.exists_of_isRotating {c : Call} (h : c.isRotating = true) :
    ∃ rot k, c.rest = .call (.rotate rot) k := by
  unfold Call.isRotating at h
  split at h
  · next rot k hrest => exact ⟨rot, k, hrest⟩
  · cases h

/-- A refresh of which nothing is blank is at one of its stages, or it has come to an end that it
can come to. -/
def Call.Staged (s : Service) (c : Call) : Prop :=
  ∀ draws raw deviceKey, c.operation = .refresh draws raw deviceKey →
    Text.isBlank raw = false → Text.isBlank deviceKey = false →
    (∃ owner, s.Refreshing draws raw deviceKey owner c.rest) ∨
    c.rest = .fail .badRefreshToken ∨ c.rest = .overflow ∨ ∃ result, c.rest = .done result

theorem Call.staged_start (s : Service) (op : Operation) : (Call.start s op).Staged s := by
  rintro draws raw deviceKey rfl hr hd
  exact Or.inl ⟨none, Service.refreshing_perform s draws hr hd⟩

theorem Call.staged_advance {s : Service} {c : Call} (h : c.Staged s) (now : Instant)
    (store : Store) : (c.advance now store).Staged s := by
  intro draws raw deviceKey hop hr hd
  rw [show (c.advance now store).rest = (c.rest.advance now store).1 from rfl]
  rcases h draws raw deviceKey hop hr hd with ⟨owner, ho⟩ | he | he | ⟨result, he⟩
  · have hp := Service.refreshing_advance ho now store
    generalize c.rest.advance now store = q at hp
    obtain ⟨p, store'⟩ := q
    cases hp with
    | onward refreshing _ => exact Or.inl ⟨_, refreshing⟩
    | unknown | absent | refused => exact Or.inr (Or.inl rfl)
    | overflowed => exact Or.inr (Or.inr (Or.inl rfl))
    | renewed => exact Or.inr (Or.inr (Or.inr ⟨_, rfl⟩))
  · exact Or.inr (Or.inl (by rw [he]; rfl))
  · exact Or.inr (Or.inr (Or.inl (by rw [he]; rfl)))
  · exact Or.inr (Or.inr (Or.inr ⟨result, by rw [he]; rfl⟩))

namespace Traffic

variable {s : Service} {w : Traffic} {now : Instant} {e : Event}

/-- No two calls have drawn tokens with the same hash. -/
def DistinctTokens (s : Service) (w : Traffic) : Prop :=
  (w.operations.filterMap s.tokenHash?).Nodup

/-- Where hashes are not shared, a hash tells the call. -/
theorem DistinctTokens.eq (h : w.DistinctTokens s) {i j : Nat} {c d : Call} {hash : String}
    (hi : w.calls[i]? = some c) (hj : w.calls[j]? = some d)
    (hc : s.tokenHash? c.operation = some hash) (hd : s.tokenHash? d.operation = some hash) :
    i = j := by
  have hpair := List.pairwise_iff_getElem.1 (List.pairwise_filterMap.1 h)
  obtain ⟨hilt, rfl⟩ := List.getElem?_eq_some_iff.1 hi
  obtain ⟨hjlt, rfl⟩ := List.getElem?_eq_some_iff.1 hj
  have hlen : w.operations.length = w.calls.length := List.length_map _
  by_contra hne
  rcases Nat.lt_or_gt_of_ne hne with hlt | hlt
  · refine hpair i j (by omega) (by omega) hlt hash ?_ hash ?_ rfl
    · simpa [operations] using hc
    · simpa [operations] using hd
  · refine hpair j i (by omega) (by omega) hlt hash ?_ hash ?_ rfl
    · simpa [operations] using hd
    · simpa [operations] using hc

theorem DistinctTokens.of_run {events : List (Instant × Event)}
    (h : (w.run s events).DistinctTokens s) : w.DistinctTokens s :=
  h.sublist ((operations_run w events).sublist.filterMap _)

/-! ## Steps of calls -/

/-- A row is stored, but not by a call. -/
def Event.storesRow : Event → Bool
  | .other (.request (.rotate _)) => true
  | _ => false

/-- A call has exchanged a refresh token for new ones. -/
def Redeems (w : Traffic) (i : Nat) (raw : String) : Prop :=
  ∃ c result, w.calls[i]? = some c ∧ c.operation.presented? = some raw ∧ c.rest = .done result

instance (p : Program Result) : Decidable (∃ result, p = .done result) :=
  match p with
  | .done result => .isTrue ⟨result, rfl⟩
  | .fail _ | .overflow | .clock _ | .call _ _ => .isFalse (by rintro ⟨_, h⟩; cases h)

instance (w : Traffic) (i : Nat) (raw : String) : Decidable (w.Redeems i raw) :=
  decidable_of_iff (∃ c ∈ w.calls[i]?, c.operation.presented? = some raw ∧
      ∃ result, c.rest = .done result)
    ⟨fun ⟨c, hc, hp, result, hr⟩ => ⟨c, result, hc, hp, hr⟩,
      fun ⟨c, result, hc, hp, hr⟩ => ⟨c, hc, hp, result, hr⟩⟩

/-- A store goes on without a new row: nothing is hashed anew and what is spent stays spent. -/
structure Keeps (store store' : Store) : Prop where
  hashes : store'.hashes = store.hashes
  spent : ∀ hash t, store.Spent hash t → store'.Spent hash t

theorem Keeps.refl (store : Store) : Keeps store store := ⟨rfl, fun _ _ h => h⟩

theorem keeps_after (store : Store) (now : Instant) {e : Store.Event}
    (he : ∀ rot, e ≠ .request (.rotate rot)) : Keeps store (store.after now e) := by
  refine ⟨?_, fun hash t h => Store.spent_after h now fun rot hrot => absurd hrot (he rot)⟩
  rcases Store.hashes_after store now e with h | ⟨rot, hrot, -⟩
  · exact h
  · exact absurd hrot (he rot)

theorem keeps_quiet {op : Operation} {m m' : Knowledge} {store store' : Store}
    (h : op.Quiet now m store m' store') : Keeps store store' := by
  cases h with
  | rests => exact .refl _
  | reads => exact .refl _
  | asks may => exact keeps_after store now fun rot hrot => by cases hrot; exact may

/-- A call that is underway has not redeemed anything. -/
theorem not_done_of_underway {op : Operation} {m : Knowledge} {p : Program Result} {raw : String}
    (h : s.Underway op m p) (hp : op.presented? = some raw) (result : Result) :
    p ≠ .done result := by
  rintro rfl
  cases h with
  | answered _ fresh _ => rw [fresh] at hp; cases hp

/-! ## Accounts of calls and rows -/

/-- Every row has the hash of a token that a call which is done has drawn, no two rows have the same
hash, and a token that was redeemed is spent and was redeemed by one call. -/
structure Accounted (s : Service) (w : Traffic) : Prop where
  distinct : w.store.hashes.Nodup
  drawn : ∀ hash ∈ w.store.hashes, ∃ (i : Nat) (c : Call) (result : Result),
    w.calls[i]? = some c ∧ s.tokenHash? c.operation = some hash ∧ c.rest = .done result
  underway : ∀ (i : Nat) (c : Call), w.calls[i]? = some c →
    (∃ m, s.Underway c.operation m c.rest) ∨ ∃ result, c.rest = .done result
  spent : ∀ i raw, w.Redeems i raw → ∀ t, w.store.Spent (s.issuer.hashToken raw) t
  once : ∀ i j raw, w.Redeems i raw → w.Redeems j raw → i = j

theorem accounted_idle (s : Service) : Traffic.idle.Accounted s where
  distinct := List.nodup_nil
  drawn := fun _ h => by cases h
  underway := fun _ _ h => by cases h
  spent := fun _ _ h => by obtain ⟨c, _, hc, -⟩ := h; cases hc
  once := fun _ _ _ h => by obtain ⟨c, _, hc, -⟩ := h; cases hc

/-- A call that is done does not change in its turn. -/
theorem done_stays (e : Event) (now : Instant) {j : Nat} {c : Call} {result : Result}
    (hc : w.calls[j]? = some c) (hr : c.rest = .done result) :
    (w.after s now e).calls[j]? = some c := by
  rcases call_stays (s := s) now e hc with ⟨-, h⟩ | ⟨-, h⟩
  · exact h
  · obtain ⟨op, p⟩ := c
    cases hr
    exact h

/-- An event is the delivery of one call, or it stores no row and lets nobody redeem a token. -/
theorem after_cases (h : w.Accounted s) (he : e.storesRow = false) (now : Instant) :
    (Keeps w.store (w.after s now e).store ∧
      ∀ (j : Nat) (c' : Call), (w.after s now e).calls[j]? = some c' →
        w.calls[j]? = some c' ∨ ∃ m, s.Underway c'.operation m c'.rest) ∨
    ∃ (i : Nat) (c : Call) (m : Knowledge) (result : Result),
      w.calls[i]? = some c ∧ c.rest.outcome? = none ∧
      s.Delivers c.operation m now w.store result (w.after s now e).store ∧
      (w.after s now e).calls = w.calls.set i ⟨c.operation, .done result⟩ := by
  cases e with
  | start op =>
    refine Or.inl ⟨.refl _, fun j c' hc' => ?_⟩
    rcases call_after hc' with ⟨hc, -⟩ | ⟨he', -⟩ | ⟨op', -, -, rfl⟩
    · exact Or.inl hc
    · cases he'
    · exact Or.inr ⟨_, Service.underway_perform s op'⟩
  | other e =>
    refine Or.inl ⟨keeps_after _ _ fun rot hrot => ?_, fun j c' hc' => Or.inl hc'⟩
    rw [hrot] at he
    cases he
  | advance i =>
    cases hi : w.calls[i]? with
    | none =>
      rw [after_advance_none hi]
      exact Or.inl ⟨.refl _, fun j c' hc' => Or.inl hc'⟩
    | some c =>
      rcases h.underway i c hi with ⟨m, hm⟩ | ⟨result, hr⟩
      · rcases Service.underway_advance hm now w.store with
          ⟨m', hm', hq⟩ | ⟨hend, result, hr, hd⟩
        · refine Or.inl ⟨by rw [after_advance hi]; exact keeps_quiet hq, fun j c' hc' => ?_⟩
          rcases call_after hc' with ⟨hc, -⟩ | ⟨he', d, hd, rfl⟩ | ⟨_, he', -⟩
          · exact Or.inl hc
          · cases he'
            rw [hi] at hd
            cases hd
            exact Or.inr ⟨m', hm'⟩
          · cases he'
        · refine Or.inr ⟨i, c, m, result, hi, hend, by rw [after_advance hi]; exact hd, ?_⟩
          rw [after_advance hi, ← hr]
          rfl
      · -- a call that is done has nothing left to do in its turn
        refine Or.inl ⟨?_, fun j c' hc' => ?_⟩
        · rw [after_advance hi, hr]
          exact .refl _
        · rcases call_after hc' with ⟨hc, -⟩ | ⟨he', d, hd, -⟩ | ⟨_, he', -⟩
          · exact Or.inl hc
          · cases he'
            have hsame := done_stays (s := s) (.advance i) now hi hr
            rw [hsame] at hc'
            cases hc'
            exact Or.inl hi
          · cases he'

/-- The hash that a delivery stores is new: whoever drew it is not done. -/
theorem delivered_hash_fresh (h : w.Accounted s) (hd : w.DistinctTokens s) {i : Nat} {c : Call}
    (hc : w.calls[i]? = some c) (hend : c.rest.outcome? = none) {hash : String}
    (hhash : s.tokenHash? c.operation = some hash) : hash ∉ w.store.hashes := by
  intro hmem
  obtain ⟨j, d, result, hj, hdrawn, hr⟩ := h.drawn _ hmem
  obtain rfl := hd.eq hj hc hdrawn hhash
  rw [hj] at hc
  cases hc
  rw [hr] at hend
  cases hend

/-- A delivery adds a row with the hash of the token that the call has drawn, and it spends what the
call presents. -/
theorem delivery_spends {op : Operation} {m : Knowledge} {store store' : Store} {result : Result}
    (h : s.Delivers op m now store result store') (hstore : store.hashes.Nodup)
    (hnew : ∀ hash, s.tokenHash? op = some hash → hash ∉ store.hashes) :
    (∃ hash, s.tokenHash? op = some hash ∧ store'.hashes = store.hashes ++ [hash]) ∧
    (∀ hash t, store.Spent hash t → store'.Spent hash t) ∧
    ∀ raw, op.presented? = some raw → (∀ t, store'.Spent (s.issuer.hashToken raw) t) ∧
      ¬ store.Spent (s.issuer.hashToken raw) now := by
  cases h with
  | @stored draws userId deviceKey t expiresAt access draws_eq _ _ _ _ _ _ held =>
    have hown : s.tokenHash? op = some (s.issuer.hashToken draws.token) := by
      unfold Service.tokenHash?
      rw [draws_eq]
      rfl
    have hfresh := hnew _ hown
    refine ⟨⟨_, hown, Store.hashes_rotated _ _ _⟩, fun hash u hspent => ?_, fun raw hraw => ?_⟩
    · rw [← Store.after_rotate]
      · refine Store.spent_after hspent now fun rot hrot => ?_
        cases hrot
        rintro rfl
        exact hfresh hspent.taken
      · intro hash hp
        obtain ⟨raw, hraw, rfl⟩ := Option.map_eq_some_iff.1 hp
        exact held raw hraw
    · have hheld := held raw hraw
      -- the row of the presented token is one of the session that is rotated
      obtain ⟨r, hr, hu, hk, hash, -, -⟩ := Store.holds_iff.1 hheld
      refine ⟨fun u => ?_, fun hspent => ?_⟩
      · rw [← hash]
        refine Store.spent_rotated (Store.sole_of_mem hstore hr)
          (RefreshRow.belongsTo_iff.2 ⟨hu, hk⟩) ?_ now u
        have hmem := Store.tokenHash_mem_hashes hr
        intro heq
        rw [← heq] at hmem
        exact hfresh hmem
      · rw [hspent.not_holds (Int.le_refl _)] at hheld
        cases hheld

/-- An event leaves tokens spent that are. -/
theorem spent_after (h : w.Accounted s) (hd : w.DistinctTokens s) (he : e.storesRow = false)
    (now : Instant) {hash : String} {t : Instant} (hs : w.store.Spent hash t) :
    (w.after s now e).store.Spent hash t := by
  rcases after_cases h he now with ⟨hk, -⟩ | ⟨i, c, m, result, hc, hend, hdel, -⟩
  · exact hk.spent hash t hs
  · obtain ⟨-, hspent, -⟩ :=
      delivery_spends hdel h.distinct fun _ => delivered_hash_fresh h hd hc hend
    exact hspent hash t hs

/-- Whoever redeems a token after an event has redeemed it before, or does so with this event,
which is a delivery, at a moment at which the token is not spent. -/
theorem redeems_after (h : w.Accounted s) (hd : w.DistinctTokens s) (he : e.storesRow = false)
    {j : Nat} {raw : String} (hr : (w.after s now e).Redeems j raw) :
    w.Redeems j raw ∨
      (¬ w.store.Spent (s.issuer.hashToken raw) now ∧
        (∀ t, (w.after s now e).store.Spent (s.issuer.hashToken raw) t) ∧
        ∀ i, i ≠ j → (w.after s now e).Redeems i raw → w.Redeems i raw) := by
  obtain ⟨c', result', hc', hp, hdone⟩ := hr
  rcases after_cases h he now with ⟨-, hcalls⟩ | ⟨i, c, m, result, hc, hend, hdel, hcalls⟩
  · rcases hcalls j c' hc' with hc | ⟨m, hm⟩
    · exact Or.inl ⟨c', result', hc, hp, hdone⟩
    · exact absurd hdone (not_done_of_underway hm hp result')
  · -- the calls beside the one that delivers are what they were
    have hothers : ∀ k, k ≠ i → (w.after s now e).Redeems k raw → w.Redeems k raw := by
      rintro k hk ⟨d, r, hd, hp, hr⟩
      rw [hcalls, List.getElem?_set_ne hk.symm] at hd
      exact ⟨d, r, hd, hp, hr⟩
    by_cases hij : j = i
    · subst hij
      obtain ⟨hlt, -⟩ := List.getElem?_eq_some_iff.1 hc
      rw [hcalls, List.getElem?_set_self hlt] at hc'
      cases hc'
      obtain ⟨-, -, hspends⟩ :=
        delivery_spends hdel h.distinct fun _ => delivered_hash_fresh h hd hc hend
      exact Or.inr ⟨(hspends raw hp).2, (hspends raw hp).1, hothers⟩
    · exact Or.inl (hothers j hij ⟨c', result', hc', hp, hdone⟩)

/-- An event adds no hash, or that of a call which is done with it, and which is new. -/
theorem hashes_after (h : w.Accounted s) (hd : w.DistinctTokens s) (he : e.storesRow = false)
    (now : Instant) :
    (w.after s now e).store.hashes = w.store.hashes ∨
    ∃ (i : Nat) (c : Call) (result : Result) (hash : String),
      (w.after s now e).calls[i]? = some c ∧ c.rest = .done result ∧
      s.tokenHash? c.operation = some hash ∧ hash ∉ w.store.hashes ∧
      (w.after s now e).store.hashes = w.store.hashes ++ [hash] := by
  rcases after_cases h he now with ⟨hk, -⟩ | ⟨i, c, m, result, hc, hend, hdel, hcalls⟩
  · exact Or.inl hk.hashes
  · have hfresh : ∀ hash, s.tokenHash? c.operation = some hash → hash ∉ w.store.hashes :=
      fun _ => delivered_hash_fresh h hd hc hend
    obtain ⟨⟨hash, hown, hhashes⟩, -⟩ := delivery_spends hdel h.distinct hfresh
    obtain ⟨hlt, -⟩ := List.getElem?_eq_some_iff.1 hc
    exact Or.inr ⟨i, ⟨c.operation, .done result⟩, result, hash,
      by rw [hcalls, List.getElem?_set_self hlt], rfl, hown, hfresh hash hown, hhashes⟩

/-- After an event every call is underway or done, as it was before. -/
theorem underway_after (h : w.Accounted s) (he : e.storesRow = false) (now : Instant) {j : Nat}
    {c' : Call} (hc' : (w.after s now e).calls[j]? = some c') :
    (∃ m, s.Underway c'.operation m c'.rest) ∨ ∃ result, c'.rest = .done result := by
  rcases after_cases h he now with ⟨-, hcalls⟩ | ⟨i, c, m, result, -, -, -, hcalls⟩
  · rcases hcalls j c' hc' with hc | hm
    · exact h.underway j c' hc
    · exact Or.inl hm
  · rw [hcalls] at hc'
    rcases getElem?_set_cases hc' with ⟨-, rfl⟩ | ⟨-, hc⟩
    · exact Or.inr ⟨result, rfl⟩
    · exact h.underway j c' hc

theorem accounted_after (h : w.Accounted s) (hd : w.DistinctTokens s) (he : e.storesRow = false)
    (now : Instant) : (w.after s now e).Accounted s := by
  refine ⟨?_, ?_, fun j c' hc' => underway_after h he now hc', ?_, ?_⟩
  · rcases hashes_after h hd he now with hsame | ⟨-, -, -, hash, -, -, -, hnew, hhashes⟩
    · rw [hsame]; exact h.distinct
    · rw [hhashes, List.nodup_append]
      refine ⟨h.distinct, List.nodup_singleton _, fun a ha b hb hab => hnew ?_⟩
      rw [← List.mem_singleton.1 hb, ← hab]
      exact ha
  · have hold : ∀ hash ∈ w.store.hashes, ∃ (i : Nat) (c : Call) (result : Result),
        (w.after s now e).calls[i]? = some c ∧ s.tokenHash? c.operation = some hash ∧
          c.rest = .done result := by
      intro hash hmem
      obtain ⟨i, c, result, hc, hdrawn, hr⟩ := h.drawn hash hmem
      exact ⟨i, c, result, done_stays e now hc hr, hdrawn, hr⟩
    rcases hashes_after h hd he now with hsame | ⟨i, c, result, hash, hc, hr, hown, -, hhashes⟩
    · rw [hsame]; exact hold
    · rw [hhashes]
      intro a ha
      rcases List.mem_append.1 ha with ha | ha
      · exact hold a ha
      · rw [List.mem_singleton.1 ha]
        exact ⟨i, c, result, hc, hown, hr⟩
  · intro j raw hr t
    rcases redeems_after h hd he hr with hr | ⟨-, hspent, -⟩
    · exact spent_after h hd he now (h.spent j raw hr t)
    · exact hspent t
  · intro i j raw hi hj
    -- the token is spent once one of the two has redeemed it, so the other cannot do so now
    rcases redeems_after h hd he hi with hi' | ⟨hheld, -, hothers⟩
    · rcases redeems_after h hd he hj with hj' | ⟨hheld, -, -⟩
      · exact h.once i j raw hi' hj'
      · exact absurd (h.spent i raw hi' now) hheld
    · by_contra hne
      exact hheld (h.spent j raw (hothers j (fun h => hne h.symm) hj) now)

/-- Whatever calls have done that started from nothing, their accounts are in order. -/
theorem accounted_run (h : w.Accounted s) {events : List (Instant × Event)}
    (he : ∀ e ∈ events, e.2.storesRow = false) (hd : (w.run s events).DistinctTokens s) :
    (w.run s events).Accounted s := by
  induction events generalizing w with
  | nil => exact h
  | cons e rest ih =>
    have hfirst := accounted_after h (.of_run hd)
      (he e List.mem_cons_self) e.1
    exact ih hfirst (fun e' he' => he e' (List.mem_cons_of_mem e he')) hd

/-! ## Revocation -/

theorem spent_of_revokes (h : w.Accounted s) (hd : w.DistinctTokens s) {i : Nat} {c : Call}
    (hc : w.calls[i]? = some c) {userId deviceKey : String}
    (hrev : c.Revokes w.store now userId deviceKey) {row : RefreshRow} (hrow : row ∈ w.store.rows)
    (hsession : row.belongsTo userId deviceKey = true) :
    (w.after s now (.advance i)).store.Spent row.tokenHash now := by
  rw [after_advance hc]
  rcases hrev with ⟨k, hk⟩ | ⟨rot, k, hk, rfl, rfl, hok⟩ <;> rw [hk]
  · exact Store.spent_invalidate (Store.sole_of_mem h.distinct hrow) hsession now
  · have hrot : w.store.rotate rot now = (.ok (), w.store.rotated rot now) := by
      rcases Store.rotate_cases w.store rot now with ⟨hr, -⟩ | ⟨hr, -⟩
      · exact hr
      · rw [hr] at hok; cases hok
    rw [Program.advance_rotate_ok hrot]
    refine Store.spent_rotated (Store.sole_of_mem h.distinct hrow) hsession (fun heq => ?_) now now
    rcases h.underway i c hc with ⟨m, hm⟩ | ⟨result, hr⟩
    · rw [hk] at hm
      obtain ⟨⟨draws, userId, deviceKey, expiresAt, hdraws, rfl⟩, -⟩ := Service.underway_rotate hm
      have hown : s.tokenHash? c.operation = some row.tokenHash := by
        rw [← heq, Service.tokenHash?, hdraws]
        rfl
      exact delivered_hash_fresh h hd hc (by rw [hk]; rfl) hown (Store.tokenHash_mem_hashes hrow)
    · rw [hk] at hr; cases hr

/-- The renewal of a token that is spent is refused. -/
theorem renewal_refused (h : w.Accounted s) {j : Nat} {c : Call} (hc : w.calls[j]? = some c)
    {raw : String} (hp : c.operation.presented? = some raw)
    (hs : w.store.Spent (s.issuer.hashToken raw) now) {rot : Rotation}
    {k : (Request.rotate rot).Answer → Program Result} (hk : c.rest = .call (.rotate rot) k) :
    c.rest.advance now w.store = (.fail .badRefreshToken, w.store) := by
  rcases h.underway j c hc with ⟨m, hm⟩ | ⟨result, hr⟩
  · rw [hk] at hm ⊢
    obtain ⟨⟨draws, userId, deviceKey, expiresAt, hdraws, rfl⟩, hrefused⟩ :=
      Service.underway_rotate hm
    rcases Service.rotate_rotationOf s c.operation draws userId deviceKey expiresAt now w.store with
      ⟨-, hheld⟩ | ⟨hr, -⟩
    · have hheld := hheld raw hp
      rw [hs.not_holds (Int.le_refl _)] at hheld
      cases hheld
    · rw [Program.advance_rotate_error hr, hrefused]
  · rw [hk] at hr; cases hr

theorem spent_run (h : w.Accounted s) {events : List (Instant × Event)}
    (he : ∀ e ∈ events, e.2.storesRow = false) (hd : (w.run s events).DistinctTokens s)
    {hash : String} {t : Instant} (hs : w.store.Spent hash t) : (w.run s events).store.Spent hash t := by
  induction events generalizing w with
  | nil => exact hs
  | cons e rest ih =>
    have hfirst : w.DistinctTokens s := .of_run hd
    have hstep := he e List.mem_cons_self
    exact ih (accounted_after h hfirst hstep e.1)
      (fun e' he' => he e' (List.mem_cons_of_mem e he')) hd (spent_after h hfirst hstep e.1 hs)

/-- From the instant from which a token is spent nobody redeems it. -/
theorem redeems_run_of_spent (h : w.Accounted s) {events : List (Instant × Event)}
    (he : ∀ e ∈ events, e.2.storesRow = false) (hd : (w.run s events).DistinctTokens s)
    {raw : String} {t : Instant} (hs : w.store.Spent (s.issuer.hashToken raw) t)
    (hclock : ∀ e ∈ events, t ≤ e.1)
    {j : Nat} (hr : (w.run s events).Redeems j raw) : w.Redeems j raw := by
  induction events generalizing w with
  | nil => exact hr
  | cons e rest ih =>
    have hfirst : w.DistinctTokens s := .of_run hd
    have hstep := he e List.mem_cons_self
    have hafter := ih (accounted_after h hfirst hstep e.1)
      (fun e' he' => he e' (List.mem_cons_of_mem e he')) hd (spent_after h hfirst hstep e.1 hs)
      (fun e' he' => hclock e' (List.mem_cons_of_mem e he')) hr
    rcases redeems_after h hfirst hstep hafter with hr | ⟨hheld, -⟩
    · exact hr
    · exact absurd (hs.mono (hclock e List.mem_cons_self)) hheld

/-! ## Redeemed once, and not any more once revoked -/

/-- With its next step, at `now`, call `i` ends a session that `raw` is or was a token of. -/
def EndsSessionOf (s : Service) (w : Traffic) (now : Instant) (i : Nat) (raw : String) : Prop :=
  ∃ c userId deviceKey, w.calls[i]? = some c ∧ c.Revokes w.store now userId deviceKey ∧
    ∃ row ∈ w.store.rows, row.belongsTo userId deviceKey = true ∧
      row.tokenHash = s.issuer.hashToken raw

/-- In whatever order calls take turns while the clock does not go back: no token is redeemed by two
of them. And once a session has been ended, by a logout or by a rotation, whoever presents one of
its tokens is refused when it comes to renew it, how far it has ever come before; so nobody redeems
the token any more, and a refresh of which nothing is blank is told that its token is bad, unless
the clock has left the calendar. -/
theorem run_redeems_once_and_not_when_revoked (s : Service) (events : List (Instant × Event))
    (hclock : events.Pairwise fun a b => a.1 ≤ b.1) (hrows : ∀ e ∈ events, e.2.storesRow = false)
    (htokens : (idle.run s events).DistinctTokens s) :
    (∀ i j raw, (idle.run s events).Redeems i raw → (idle.run s events).Redeems j raw → i = j) ∧
    ∀ before now i later raw, events = before ++ (now, .advance i) :: later →
      (idle.run s before).EndsSessionOf s now i raw →
      (∀ mid t j rest, later = mid ++ (t, .advance j) :: rest →
        ∀ (c : Call) (rot : Rotation) (k : (Request.rotate rot).Answer → Program Result),
        (idle.run s (before ++ (now, .advance i) :: mid)).calls[j]? = some c →
        c.operation.presented? = some raw → c.rest = .call (.rotate rot) k →
        (idle.run s (before ++ (now, .advance i) :: mid ++ [(t, .advance j)])).calls[j]? =
          some ⟨c.operation, .fail .badRefreshToken⟩) ∧
      ∀ j, ¬ (idle.run s (before ++ [(now, .advance i)])).Redeems j raw →
        ¬ (idle.run s events).Redeems j raw ∧
        ∀ draws deviceKey (p : Program Result) (o : Outcome Result),
          (idle.run s events).calls[j]? = some ⟨.refresh draws raw deviceKey, p⟩ →
          Text.isBlank raw = false → Text.isBlank deviceKey = false → p.outcome? = some o →
          o = .error .badRefreshToken ∨ o = .overflow := by
  refine ⟨(accounted_run (accounted_idle s) hrows htokens).once, ?_⟩
  rintro before now i later raw rfl ⟨c, userId, deviceKey, hc, hrev, row, hrow, hsession, hhash⟩
  have hbefore : ∀ e ∈ before, e.2.storesRow = false :=
    fun e he => hrows e (List.mem_append_left _ he)
  have hlater : ∀ e ∈ later, e.2.storesRow = false := fun e he =>
    hrows e (List.mem_append_right _ (List.mem_cons_of_mem _ he))
  have hnow : ∀ e ∈ later, now ≤ e.1 :=
    (List.pairwise_cons.1 (List.pairwise_append.1 hclock).2.1).1
  -- the traffic behind the step that ends the session, and behind some more events
  have hsplit : ∀ l, idle.run s (before ++ (now, .advance i) :: l) =
      ((idle.run s before).after s now (.advance i)).run s l := fun l => run_append before _
  have hdistinct : (idle.run s before).DistinctTokens s := by
    rw [run_append] at htokens
    exact htokens.of_run
  have hacc := accounted_run (accounted_idle s) hbefore hdistinct
  have hspent := hhash ▸ spent_of_revokes hacc hdistinct hc hrev hrow hsession
  rw [hsplit] at htokens
  have hacc := accounted_after hacc hdistinct (e := .advance i) rfl now
  refine ⟨?_, fun j hj => ?_⟩
  · rintro mid t j rest rfl d rot k hd hp hk
    rw [run_append] at htokens
    have hmid : ∀ e ∈ mid, e.2.storesRow = false :=
      fun e he => hlater e (List.mem_append_left _ he)
    have hspent := spent_run hacc hmid htokens.of_run hspent
    have hacc := accounted_run hacc hmid htokens.of_run
    have ht : now ≤ t := hnow _ (List.mem_append_right _ List.mem_cons_self)
    obtain ⟨hlt, -⟩ := List.getElem?_eq_some_iff.1 hd
    rw [run_append, hsplit]
    rw [hsplit] at hd hlt
    show (after s _ t (.advance j)).calls[j]? = _
    rw [after_advance hd]
    show (List.set _ j _)[j]? = _
    rw [List.getElem?_set_self hlt, Call.advance, renewal_refused hacc hd hp (hspent.mono ht) hk]
  · rw [hsplit] at hj ⊢
    have hnot : ¬ (((idle.run s before).after s now (.advance i)).run s later).Redeems j raw :=
      fun hr => hj (redeems_run_of_spent hacc hlater htokens hspent hnow hr)
    refine ⟨hnot, fun draws deviceKey p o hcall hraw hdevice ho => ?_⟩
    rw [← hsplit] at hcall hnot
    have hstaged : Call.Staged s ⟨.refresh draws raw deviceKey, p⟩ :=
      calls_run (Call.staged_start s) (fun _ now store h => Call.staged_advance h now store)
        (fun k d hd => by cases hd) _ j _ hcall
    rcases hstaged draws raw deviceKey rfl hraw hdevice with
      ⟨owner, h⟩ | h | h | ⟨result, h⟩
    · rw [Service.outcome?_of_refreshing h] at ho
      cases ho
    · cases h
      cases ho
      exact Or.inl rfl
    · cases h
      cases ho
      exact Or.inr rfl
    · exact absurd ⟨_, result, hcall, rfl, h⟩ hnot

/-- Somebody logs in, refreshes, and refreshes again with the new token. Only the renewal is left of
the second refresh when a logout begins. -/
def logoutBegins : List (Instant × Event) :=
  (0, .start (.loginAnonymous (.sample "first") "phone")) :: List.replicate 7 (0, .advance 0) ++
    (1, .start (.refresh (.sample "second") "first token" "phone")) ::
      List.replicate 6 (1, .advance 1) ++
    (2, .start (.refresh (.sample "third") "second token" "phone")) ::
      List.replicate 5 (2, .advance 2) ++
    [(3, .start (.logout "first account" "phone"))]

/-- The logout comes before the renewal. -/
def logoutInFlight : List (Instant × Event) :=
  logoutBegins ++ (3, .advance 3) :: [(4, .advance 2)]

theorem logoutBegins_endsSessionOf :
    (idle.run .sample logoutBegins).EndsSessionOf .sample 3 3 "second token" := by
  have hrow : ∃ row ∈ (idle.run .sample logoutBegins).store.rows,
      row.belongsTo "first account" "phone" = true ∧
        row.tokenHash = Service.sample.issuer.hashToken "second token" := by decide +kernel
  exact ⟨.start .sample (.logout "first account" "phone"), _, _, rfl, Or.inl ⟨_, rfl⟩, hrow⟩

theorem logoutInFlight_redeems_once :
    let w := idle.run .sample logoutInFlight
    logoutInFlight.Pairwise (fun a b => a.1 ≤ b.1) ∧
    (∀ e ∈ logoutInFlight, e.2.storesRow = false) ∧ w.DistinctTokens .sample ∧
    w.Redeems 1 "first token" ∧ (∀ i, w.Redeems i "first token" → i = 1) ∧
    (idle.run .sample logoutBegins).EndsSessionOf .sample 3 3 "second token" ∧
    w.calls[2]? =
      some ⟨.refresh (.sample "third") "second token" "phone", .fail .badRefreshToken⟩ ∧
    ¬ w.Redeems 2 "second token" := by
  intro w
  have hclock : logoutInFlight.Pairwise fun a b => a.1 ≤ b.1 := by decide
  have hrows : ∀ e ∈ logoutInFlight, e.2.storesRow = false := by decide
  have htokens : w.DistinctTokens .sample := by
    unfold DistinctTokens
    decide +kernel
  have hredeemed : w.Redeems 1 "first token" := by decide +kernel
  -- behind the logout the second refresh still comes to its renewal
  have hrenewing : ∃ c ∈ (idle.run .sample (logoutBegins ++ [(3, .advance 3)])).calls[2]?,
      c.operation = .refresh (.sample "third") "second token" "phone" ∧
      c.isRotating = true := by decide +kernel
  obtain ⟨⟨_, _⟩, hc, rfl, hrotating⟩ := hrenewing
  obtain ⟨rot, k, hk⟩ := Call.exists_of_isRotating hrotating
  obtain ⟨honce, hrevoked⟩ :=
    run_redeems_once_and_not_when_revoked .sample logoutInFlight hclock hrows htokens
  obtain ⟨hrenewal, hafter⟩ := hrevoked logoutBegins 3 3 [(4, .advance 2)] "second token" rfl
    logoutBegins_endsSessionOf
  refine ⟨hclock, hrows, htokens, hredeemed, fun i hi => honce i 1 _ hi hredeemed,
    logoutBegins_endsSessionOf, hrenewal [] 4 2 [] rfl _ rot k hc rfl hk, (hafter 2 ?_).1⟩
  rintro ⟨c, result, hc', -, hdone⟩
  rw [hc] at hc'
  cases hc'
  rw [hk] at hdone
  cases hdone

end Traffic

end Latchkey
