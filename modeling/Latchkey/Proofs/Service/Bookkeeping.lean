/-
What the store of a service says about its history. The invariant is `Kept`, which ties the two from
both sides: a session that is current has a live row, and a row that is not revoked belongs to a
session that is current, unless it has expired or its account is gone. Whatever is done keeps it
(`kept_run`).
-/
import Latchkey.Proofs.Service.Delivery
import Latchkey.Proofs.Service.History
import Mathlib.Data.List.Induction

namespace Latchkey

open Operation (Result)

/-! ## Store and history -/

/-- The row of a token that was brought to an account on a device at `t`. -/
structure RefreshRow.Of (s : Service) (userId deviceKey raw : String) (t : Instant)
    (r : RefreshRow) : Prop where
  userId : r.userId = userId
  deviceKey : r.deviceKey = deviceKey
  tokenHash : r.tokenHash = s.issuer.hashToken raw
  expiresAt : r.expiresAt = t + s.refreshLifetime

/-- Every row has the hash of one drawn token and is for a device that was given, and accounts that
have been deleted are gone. -/
structure Booked (s : Service) (deeds : List (Instant × Deed)) (l : Life) : Prop where
  distinct : l.store.hashes.Nodup
  drawn : ∀ hash ∈ l.store.hashes, ∃ raw ∈ Life.drawn deeds, s.issuer.hashToken raw = hash
  ids : l.store.DistinctIds
  devices : ∀ r ∈ l.store.rows, Text.isBlank r.deviceKey = false
  deleted : ∀ userId, ∀ x ∈ l.history, x.Deletes userId → l.store.Gone userId

/-- The store says what the history of the deeds says. -/
structure Kept (s : Service) (deeds : List (Instant × Deed)) (l : Life) : Prop
    extends Booked s deeds l where
  /-- What is current has a live row, and its account is live. -/
  live : ∀ userId deviceKey raw t, Current s.issuer l.history userId deviceKey raw t →
    raw ∈ Life.drawn deeds ∧ (l.store.accountById userId).isSome ∧
    ∃ r ∈ l.store.rows, r.revokedAt = none ∧ r.Of s userId deviceKey raw t
  /-- What is not revoked is current, or else is of no use. -/
  current : ∀ r ∈ l.store.rows, r.revokedAt = none →
    (∃ deed ∈ deeds, r.expiresAt ≤ deed.1) ∨ l.store.Gone r.userId ∨
    ∃ raw t, Current s.issuer l.history r.userId r.deviceKey raw t ∧
      r.Of s r.userId r.deviceKey raw t

theorem kept_new (s : Service) : Kept s [] .new where
  distinct := List.nodup_nil
  drawn := fun _ h => by cases h
  ids := List.nodup_nil
  devices := fun _ h => by cases h
  deleted := fun _ _ h => by cases h
  live := fun _ _ _ _ h => absurd h not_current_nil
  current := fun _ h => by cases h

variable {s : Service} {deeds : List (Instant × Deed)} {l : Life} {t : Instant} {deed : Deed}

theorem mem_drawn_concat {raw : String} (h : raw ∈ Life.drawn deeds) (t : Instant) (deed : Deed) :
    raw ∈ Life.drawn (deeds ++ [(t, deed)]) := by
  rw [Life.drawn_concat]
  exact List.mem_append_left _ h

/-! ## Deeds that store no row -/

/-- The accounts of a store have gone on: what was gone is gone. -/
structure Store.Outlasts (store store' : Store) : Prop where
  ids : store'.DistinctIds
  gone : ∀ userId, store.Gone userId → store'.Gone userId

theorem Store.outlasts_after {store : Store} (h : store.DistinctIds) (now : Instant)
    (e : Store.Event) : store.Outlasts (store.after now e) :=
  ⟨Store.distinctIds_after h now e, fun _ hg => Store.gone_after hg now e⟩

/-- A deed that revokes rows, or leaves them alone. -/
theorem booked_of_hashes_eq (h : Booked s deeds l) {store : Store} {e : Entry}
    (hhashes : store.hashes = l.store.hashes)
    (hrows : ∀ r ∈ store.rows, ∃ a ∈ l.store.rows, a.Becomes r) (hacc : l.store.Outlasts store)
    (hdel : ∀ userId, e.Deletes userId → store.Gone userId) :
    Booked s (deeds ++ [(t, deed)]) ⟨e :: l.history, store⟩ where
  distinct := hhashes ▸ h.distinct
  drawn := by
    intro hash hmem
    obtain ⟨raw, hraw, hh⟩ := h.drawn hash (hhashes ▸ hmem)
    exact ⟨raw, mem_drawn_concat hraw t deed, hh⟩
  ids := hacc.ids
  devices := by
    intro r hr
    obtain ⟨a, ha, hb⟩ := hrows r hr
    exact hb.deviceKey ▸ h.devices a ha
  deleted := by
    intro userId x hx hd
    rcases List.mem_cons.1 hx with rfl | hx
    · exact hdel userId hd
    · exact hacc.gone userId (h.deleted userId x hx hd)

/-- A deed that leaves the rows alone, whose entry brings no token and logs nobody out who could be
logged in. -/
theorem kept_of_rows_eq (h : Kept s deeds l) {store : Store} {e : Entry}
    (hrows : store.rows = l.store.rows) (hacc : l.store.Outlasts store)
    (hdel : ∀ userId, e.Deletes userId → store.Gone userId)
    (hlive : ∀ userId, ¬ e.Deletes userId → (l.store.accountById userId).isSome →
      (store.accountById userId).isSome)
    (hdeliver : ∀ userId deviceKey raw t, ¬ e.Delivers s.issuer userId deviceKey raw t)
    (hlogout : ∀ userId deviceKey, e.LogsOut userId deviceKey → Text.isBlank deviceKey = true) :
    Kept s (deeds ++ [(t, deed)]) ⟨e :: l.history, store⟩ := by
  refine ⟨booked_of_hashes_eq h.toBooked (congrArg (List.map _) hrows)
    (fun r hr => ⟨r, hrows ▸ hr, .refl r⟩) hacc hdel, ?_, ?_⟩
  · intro userId deviceKey raw t' hc
    obtain ⟨hnot, ⟨hd, -⟩ | ⟨hc, -, -⟩⟩ := current_cons_iff.1 hc
    · exact absurd hd (hdeliver _ _ _ _)
    · obtain ⟨hraw, haccount, r, hr, hlr⟩ := h.live userId deviceKey raw t' hc
      exact ⟨mem_drawn_concat hraw t deed, hlive userId hnot haccount, r, hrows ▸ hr, hlr⟩
  · intro r hr hn
    rcases h.current r (hrows ▸ hr) hn with ⟨d, hd, he⟩ | hg | ⟨raw, t', hc, hof⟩
    · exact Or.inl ⟨d, List.mem_append_left _ hd, he⟩
    · exact Or.inr (Or.inl (hacc.gone _ hg))
    · -- a session ends with its account, and with nothing else here
      by_cases hd : e.Deletes r.userId
      · exact Or.inr (Or.inl (hdel _ hd))
      · refine Or.inr (Or.inr ⟨raw, t', current_cons_iff.2
          ⟨hd, Or.inr ⟨hc, fun _ _ => hdeliver _ _ _ _, fun hl => ?_⟩⟩, hof⟩)
        have hdevice := h.devices r (hrows ▸ hr)
        rw [hlogout _ _ hl] at hdevice
        cases hdevice

theorem kept_insertAccount (h : Kept s deeds l) (t : Instant) (account : Account) :
    Kept s (deeds ++ [(t, .insertAccount account)]) (l.after s t (.insertAccount account)) := by
  refine kept_of_rows_eq h (Store.rows_insertAccount _ _)
    (Store.outlasts_after h.ids t (.request (.insertAccount account))) (fun u hd => by cases hd)
    (fun u _ hu => Store.accountById_isSome_after hu t (e := .request (.insertAccount account))
      fun he => by cases he)
    (fun u d raw t' hd => ?_) (fun u d hl => ?_)
  · obtain ⟨op, access, he, -⟩ := hd
    cases he
  · obtain ⟨t', outcome, he⟩ := hl
    cases he

theorem kept_softDelete (h : Kept s deeds l) (t : Instant) (id : String) :
    Kept s (deeds ++ [(t, .softDelete id)]) (l.after s t (.softDelete id)) := by
  refine kept_of_rows_eq h (Store.rows_softDelete _ _ _)
    (Store.outlasts_after h.ids t (.softDelete id)) (fun u hd => ?_) (fun u hd hu => ?_)
    (fun u d raw t' hd => ?_) (fun u d hd => ?_)
  · obtain ⟨rfl, hfound⟩ := Entry.deletion.inj hd
    exact Store.gone_softDelete h.ids hfound
  · rcases Store.softDelete_cases l.store id t with ⟨hs, -⟩ | ⟨hs, -⟩
    · refine Store.accountById_isSome_after hu t (e := .softDelete id) fun he => hd ?_
      cases he
      rw [hs]
      rfl
    · rw [hs]; exact hu
  · obtain ⟨op, access, he, -⟩ := hd
    cases he
  · obtain ⟨t', outcome, he⟩ := hd
    cases he

/-! ## Logging out -/

theorem run_logout (s : Service) (userId deviceKey : String) (t : Instant) (store : Store) :
    (s.perform (.logout userId deviceKey)).run t store =
      if Text.isBlank deviceKey then (.error (.refused (.blank .deviceKey)), store)
      else (.ok .loggedOut, store.invalidate userId deviceKey t) := by
  simp only [Service.perform, Service.logout, Service.require]
  cases Text.isBlank deviceKey <;> rfl

theorem not_delivers_logout {outcome : Outcome Result} {userId deviceKey u d raw : String}
    {t' : Instant} : ¬ (Entry.call t (.logout userId deviceKey) outcome).Delivers s.issuer u d raw
      t' := by
  rintro ⟨op, access, he, hk, -⟩
  cases he
  cases hk

theorem kept_invalidate (h : Kept s deeds l) (t : Instant) (userId deviceKey : String)
    (outcome : Outcome Result) (op : Operation) :
    Kept s (deeds ++ [(t, .call op)])
      ⟨.call t (.logout userId deviceKey) outcome :: l.history,
        l.store.invalidate userId deviceKey t⟩ := by
  refine ⟨booked_of_hashes_eq h.toBooked (Store.hashes_of_revokeRows rfl) (fun r hr => ?_)
    ⟨h.ids, fun _ hg => hg⟩ (fun u hd => absurd hd (Entry.not_deletes_call u)), ?_, ?_⟩
  · obtain ⟨a, ha, rfl⟩ := List.mem_map.1 hr
    exact ⟨a, ha, Store.becomes_revokedRow (Store.selectsUnrevoked_validAt t) userId deviceKey t a⟩
  · intro u d raw t' hc
    obtain ⟨-, ⟨hd, -⟩ | ⟨hc, -, hlogout⟩⟩ := current_cons_iff.1 hc
    · exact absurd hd not_delivers_logout
    · obtain ⟨hraw, haccount, r, hr, hn, hof⟩ := h.live u d raw t' hc
      refine ⟨mem_drawn_concat hraw t _, haccount, r, Store.mem_revokeRows hr (fun hb => ?_) _ _,
        hn, hof⟩
      obtain ⟨rfl, rfl⟩ := RefreshRow.belongsTo_iff.1 hb
      exact hlogout ⟨t, outcome, by rw [hof.userId, hof.deviceKey]⟩
  · intro r hr hn
    obtain ⟨hold, hp⟩ := Store.unrevoked_of_mem_revokeRows hr hn
    rcases h.current r hold hn with ⟨deed, hdeed, he⟩ | hg | ⟨raw, t', hc, hof⟩
    · exact Or.inl ⟨deed, List.mem_append_left _ hdeed, he⟩
    · exact Or.inr (Or.inl hg)
    · by_cases hb : r.belongsTo userId deviceKey = true
      · -- a row of the session that is not revoked had expired
        refine Or.inl ⟨_, List.mem_append_right _ (List.mem_singleton_self _), ?_⟩
        by_contra hlt
        refine hp (Bool.and_eq_true_iff.2 ⟨hb, RefreshRow.validAt_iff.2 ⟨hn, ?_⟩⟩)
        exact Int.not_le.1 hlt
      · refine Or.inr (Or.inr ⟨raw, t', current_cons_iff.2 ⟨Entry.not_deletes_call _,
          Or.inr ⟨hc, fun _ _ => not_delivers_logout, ?_⟩⟩, hof⟩)
        rintro ⟨t₁, o, he⟩
        cases he
        exact hb (RefreshRow.belongsTo_iff.2 ⟨rfl, rfl⟩)

theorem kept_logout (h : Kept s deeds l) (t : Instant) (userId deviceKey : String) :
    Kept s (deeds ++ [(t, .call (.logout userId deviceKey))])
      (l.after s t (.call (.logout userId deviceKey))) := by
  simp only [Life.after, run_logout]
  cases hb : Text.isBlank deviceKey with
  | false => exact kept_invalidate h t userId deviceKey _ _
  | true =>
    refine kept_of_rows_eq h rfl ⟨h.ids, fun _ hg => hg⟩
      (fun u hd => absurd hd (Entry.not_deletes_call u)) (fun u _ hu => hu)
      (fun u d raw t' => not_delivers_logout) (fun u d hl => ?_)
    obtain ⟨t', o, he⟩ := hl
    cases he
    exact hb

/-! ## Other calls -/

/-- What quiet steps of a call at `now` have made of a store, when the call has learnt `m`. -/
structure Calm (now : Instant) (store : Store) (m : Knowledge) (store' : Store) : Prop where
  rows : store'.rows = store.rows
  outlasts : store.Outlasts store'
  live : ∀ userId, (store.accountById userId).isSome → (store'.accountById userId).isSome
  clock : ∀ t, m.clock = some t → t = now
  account : ∀ userId, m.account = some userId → (store'.accountById userId).isSome

theorem calm_nothing {store : Store} (h : store.DistinctIds) (now : Instant) :
    Calm now store .nothing store where
  rows := rfl
  outlasts := ⟨h, fun _ hg => hg⟩
  live := fun _ hu => hu
  clock := fun _ ht => by cases ht
  account := fun _ hu => by cases hu

theorem accountById_of_found {store : Store} (found : Option Account) {userId : String}
    (h : ∀ a, found = some a → a ∈ store.accounts ∧ a.live = true)
    (ht : found.map (·.id) = some userId) : (store.accountById userId).isSome := by
  obtain ⟨a, ha, hid⟩ := Option.map_eq_some_iff.1 ht
  exact Store.accountById_isSome_iff.2 ⟨a, (h a ha).1, hid, (h a ha).2⟩

/-- The account that an answer vouches for is live. -/
theorem accountById_of_told {op : Operation} {r : Request} (may : op.MayAsk r) {store : Store}
    {now : Instant} {userId : String}
    (h : r.told (Store.apply now r store).1 = some userId) :
    ((store.after now (.request r)).accountById userId).isSome := by
  cases r with
  | rotate | validate | invalidate => cases h
  | accountByDeviceKey deviceKey =>
    refine accountById_of_found (store.accountWith .anonymous deviceKey)
      (fun a ha => Store.accountWith_some ha) ?_
    rw [← h]
    show _ = Request.told (.accountByDeviceKey deviceKey) (.ok (store.accountWith _ deviceKey))
    cases store.accountWith .anonymous deviceKey <;> rfl
  | accountByUsername username =>
    refine accountById_of_found (store.accountWith .password username)
      (fun a ha => Store.accountWith_some ha) ?_
    rw [← h]
    show _ = Request.told (.accountByUsername username) (.ok (store.accountWith _ username))
    cases store.accountWith .password username <;> rfl
  | accountById id =>
    refine accountById_of_found (store.accountById id)
      (fun a ha => ⟨(Store.accountById_some ha).1, (Store.accountById_some ha).2.2⟩) ?_
    rw [← h]
    show _ = Request.told (.accountById id) (.ok (store.accountById id))
    cases store.accountById id <;> rfl
  | insertAccount a =>
    change Request.told (.insertAccount a) (.ok (store.insertAccount a).1) = _ at h
    show ((store.insertAccount a).2.accountById userId).isSome
    rcases Store.insertAccount_cases store a with ⟨hi, -⟩ | ⟨hi, -⟩ <;> rw [hi] at h ⊢
    · cases h
      exact Store.accountById_isSome_iff.2
        ⟨a, List.mem_append_right _ (List.mem_singleton_self a), rfl, may.2.1⟩
    · cases h

/-- The account that a call knows of after an answer is live, if the one it knew of before was. -/
theorem accountById_of_heard {op : Operation} {r : Request} (may : op.MayAsk r) {store : Store}
    {m : Knowledge} {now : Instant}
    (h : ∀ u, m.account = some u → (store.accountById u).isSome) {userId : String}
    (hm : (m.hear r (Store.apply now r store).1).account = some userId) :
    ((store.after now (.request r)).accountById userId).isSome := by
  rcases Knowledge.account_of_hear hm with htold | hknown
  · exact accountById_of_told may htold
  · exact Store.accountById_isSome_after (h userId hknown) now fun he => by cases he

theorem calm_quiet {op : Operation} {store : Store} {m m' : Knowledge} {store' store'' : Store}
    (hop : ∀ userId deviceKey, op ≠ .logout userId deviceKey) (h : Calm t store m store')
    (hq : op.Quiet t m store' m' store'') : Calm t store m' store'' := by
  cases hq with
  | rests => exact h
  | reads => exact ⟨h.rows, h.outlasts, h.live, fun t' ht => by cases ht; rfl, h.account⟩
  | @asks r may =>
    have hout := Store.outlasts_after h.outlasts.ids t (.request r)
    have hlive : ∀ u, (store'.accountById u).isSome →
        ((store'.after t (.request r)).accountById u).isSome :=
      fun u hu => Store.accountById_isSome_after hu t fun he => by cases he
    refine ⟨?_, ⟨hout.ids, fun u hg => hout.gone u (h.outlasts.gone u hg)⟩,
      fun u hu => hlive u (h.live u hu), h.clock, fun u hu => ?_⟩
    · rcases Store.rows_after store' t (.request r) with hr | ⟨u, d, he, -⟩ | ⟨rot, he, -⟩
      · exact hr.trans h.rows
      · cases he
        exact absurd may (hop u d)
      · cases he
        exact absurd may id
    · exact accountById_of_heard may h.account hu

/-- The tokens that are drawn for the deeds differ, and so do their hashes. -/
structure Fresh (s : Service) (deeds : List (Instant × Deed)) : Prop where
  nodup : (Life.drawn deeds).Nodup
  inj : ∀ raw ∈ Life.drawn deeds, ∀ raw' ∈ Life.drawn deeds,
    s.issuer.hashToken raw = s.issuer.hashToken raw' → raw = raw'

/-- The hash of a token that is drawn last is not in the store. -/
theorem not_mem_hashes_of_fresh {op : Operation} {draws : Draws} (h : Booked s deeds l)
    (hf : Fresh s (deeds ++ [(t, .call op)])) (hd : op.draws? = some draws) :
    s.issuer.hashToken draws.token ∉ l.store.hashes := by
  have hdrawn : Life.drawn (deeds ++ [(t, .call op)]) = Life.drawn deeds ++ [draws.token] := by
    rw [Life.drawn_concat, Deed.token?, hd]
    rfl
  have hnodup := hf.nodup
  rw [hdrawn, List.nodup_append] at hnodup
  intro hmem
  obtain ⟨raw, hraw, hhash⟩ := h.drawn _ hmem
  refine hnodup.2.2 raw hraw draws.token (List.mem_singleton_self _) (hf.inj _ ?_ _ ?_ hhash)
  · exact mem_drawn_concat hraw t _
  · rw [hdrawn]
    exact List.mem_append_right _ (List.mem_singleton_self _)

theorem token_mem_drawn_concat {op : Operation} {draws : Draws} (hd : op.draws? = some draws)
    (deeds : List (Instant × Deed)) (t : Instant) :
    draws.token ∈ Life.drawn (deeds ++ [(t, .call op)]) := by
  rw [Life.drawn_concat, Deed.token?, hd]
  exact List.mem_append_right _ (List.mem_singleton_self _)

theorem booked_delivered {op : Operation} {m : Knowledge} {store store' : Store} {result : Result}
    (h : Booked s deeds l) (hf : Fresh s (deeds ++ [(t, .call op)])) (hc : Calm t l.store m store)
    (hd : s.Delivers op m t store result store') :
    Booked s (deeds ++ [(t, .call op)]) ⟨.call t op (.ok result) :: l.history, store'⟩ := by
  obtain ⟨draws_eq, -, device_given, -, -, -, -, -⟩ := hd
  rename_i draws userId deviceKey t' expiresAt access
  have hhashes : store.hashes = l.store.hashes := congrArg (List.map _) hc.rows
  -- quiet steps leave the rows alone, so it is the rotation that adds the hash
  refine ⟨?_, fun hash hmem => ?_, hc.outlasts.ids, fun r hr => ?_, fun u x hx hdel => ?_⟩
  · rw [Store.hashes_rotated, hhashes, List.nodup_append]
    refine ⟨h.distinct, List.nodup_singleton _, fun hash hmem hash' hmem' heq => ?_⟩
    rw [heq, List.mem_singleton.1 hmem'] at hmem
    exact not_mem_hashes_of_fresh h hf draws_eq hmem
  · rw [Store.hashes_rotated, hhashes] at hmem
    rcases List.mem_append.1 hmem with hmem | hmem
    · obtain ⟨raw, hraw, hh⟩ := h.drawn hash hmem
      exact ⟨raw, mem_drawn_concat hraw t _, hh⟩
    · exact ⟨draws.token, token_mem_drawn_concat draws_eq deeds t,
        (List.mem_singleton.1 hmem).symm⟩
  · rcases List.mem_append.1 hr with hr | hr
    · obtain ⟨a, ha, rfl⟩ := List.mem_map.1 hr
      have hb := Store.becomes_revokedRow Store.selectsUnrevoked_isNone userId deviceKey t a
      exact hb.deviceKey ▸ h.devices a (hc.rows ▸ ha)
    · rw [List.mem_singleton.1 hr]
      exact device_given
  · rcases List.mem_cons.1 hx with rfl | hx
    · exact absurd hdel (Entry.not_deletes_call u)
    · exact hc.outlasts.gone u (h.deleted u x hx hdel)

/-- The row that a call stores stands for the token that it brings, and the other rows of the
session are revoked. -/
theorem kept_delivered {op : Operation} {m : Knowledge} {store store' : Store} {result : Result}
    (h : Kept s deeds l) (hf : Fresh s (deeds ++ [(t, .call op)])) (hc : Calm t l.store m store)
    (hd : s.Delivers op m t store result store') :
    Kept s (deeds ++ [(t, .call op)]) ⟨.call t op (.ok result) :: l.history, store'⟩ := by
  have hbooked := booked_delivered h.toBooked hf hc hd
  obtain ⟨draws_eq, device_eq, -, known, clock, expiry, names, -⟩ := hd
  rename_i draws userId deviceKey t' expiresAt access
  obtain rfl := hc.clock t' clock
  obtain ⟨rfl, -⟩ := Clock.shift?_eq_some_iff.1 expiry
  have hdraws : op.draws?.isSome := by rw [draws_eq]; rfl
  refine ⟨hbooked, ?_, ?_⟩
  · intro u d raw t₀ hcurrent
    rcases (current_delivered_iff hdraws device_eq names).1 hcurrent with
      ⟨⟨⟨rfl, rfl⟩, rfl, rfl⟩, -⟩ | ⟨hne, hold⟩
    · exact ⟨token_mem_drawn_concat draws_eq deeds t₀, hc.account u known, _,
        List.mem_append_right _ (List.mem_singleton_self _), rfl, ⟨rfl, rfl, rfl, rfl⟩⟩
    · -- the token of another session, whose rows are left alone
      obtain ⟨hraw, haccount, r, hr, hn, hof⟩ := h.live u d raw t₀ hold
      refine ⟨mem_drawn_concat hraw t' _, hc.live u haccount, r, List.mem_append_left _ ?_, hn, hof⟩
      refine Store.mem_revokeRows (hc.rows ▸ hr) (fun hb => hne ?_) _ _
      obtain ⟨hu, hk⟩ := RefreshRow.belongsTo_iff.1 hb
      exact ⟨hof.userId.symm.trans hu, hof.deviceKey.symm.trans hk⟩
  · intro r hr hn
    rcases List.mem_append.1 hr with hr | hr
    · obtain ⟨hold, hp⟩ := Store.unrevoked_of_mem_revokeRows hr hn
      rcases h.current r (hc.rows ▸ hold) hn with ⟨deed, hdeed, he⟩ | hg | ⟨raw, t₀, hcurrent, hof⟩
      · exact Or.inl ⟨deed, List.mem_append_left _ hdeed, he⟩
      · exact Or.inr (Or.inl (hc.outlasts.gone _ hg))
      · refine Or.inr (Or.inr ⟨raw, t₀, ?_, hof⟩)
        refine (current_delivered_iff hdraws device_eq names).2 (Or.inr ⟨fun hb => hp ?_, hcurrent⟩)
        exact Bool.and_eq_true_iff.2
          ⟨RefreshRow.belongsTo_iff.2 hb, Option.isNone_iff_eq_none.2 hn⟩
    · -- the new row, for an account that is live and so has never been deleted
      have hdelete : ∀ x ∈ l.history, ¬ x.Deletes userId := by
        intro x hx hdel
        have hlive := hc.account userId known
        rw [(hc.outlasts.gone userId (h.deleted userId x hx hdel)).2] at hlive
        cases hlive
      rw [List.mem_singleton.1 hr]
      exact Or.inr (Or.inr ⟨draws.token, t', (current_delivered_iff hdraws device_eq names).2
        (Or.inl ⟨⟨⟨rfl, rfl⟩, rfl, rfl⟩, hdelete⟩), ⟨rfl, rfl, rfl, rfl⟩⟩)

/-- A call that delivers nothing and is no logout. -/
theorem kept_undelivered {op : Operation} {m : Knowledge} {store : Store}
    {outcome : Outcome Result} (hop : ∀ userId deviceKey, op ≠ .logout userId deviceKey)
    (h : Kept s deeds l) (hc : Calm t l.store m store) (hout : Service.Undelivered op outcome) :
    Kept s (deeds ++ [(t, .call op)]) ⟨.call t op outcome :: l.history, store⟩ := by
  refine kept_of_rows_eq h hc.rows hc.outlasts (fun u hd => absurd hd (Entry.not_deletes_call u))
    (fun u _ hu => hc.live u hu) (fun u d raw t' hd => ?_) (fun u d hl => ?_)
  · obtain ⟨op', access, he, -⟩ := hd
    cases he
    cases (hout _ rfl).1
  · obtain ⟨t', outcome', he⟩ := hl
    cases he
    exact absurd rfl (hop u d)

theorem kept_call {op : Operation} (hop : ∀ userId deviceKey, op ≠ .logout userId deviceKey)
    (h : Kept s deeds l) (hf : Fresh s (deeds ++ [(t, .call op)])) :
    Kept s (deeds ++ [(t, .call op)]) (l.after s t (.call op)) := by
  obtain ⟨m, store, hc, ⟨hs, hout⟩ | ⟨result, hr, hd⟩⟩ :=
    Service.underway_run (calm_quiet hop) (s.underway_perform op)
      (calm_nothing h.ids t)
  · simp only [Life.after]
    rw [hs]
    exact kept_undelivered hop h hc hout
  · simp only [Life.after]
    rw [hr]
    exact kept_delivered h hf hc hd

/-! ## Lives -/

theorem kept_after (h : Kept s deeds l) (hf : Fresh s (deeds ++ [(t, deed)])) :
    Kept s (deeds ++ [(t, deed)]) (l.after s t deed) := by
  cases deed with
  | insertAccount account => exact kept_insertAccount h t account
  | softDelete id => exact kept_softDelete h t id
  | call op =>
    cases op with
    | logout userId deviceKey => exact kept_logout h t userId deviceKey
    | loginUsername | registerUsername | loginAnonymous | refresh | authenticate =>
      exact kept_call (fun _ _ he => by cases he) h hf

theorem fresh_of_concat (hf : Fresh s (deeds ++ [(t, deed)])) : Fresh s deeds := by
  refine ⟨?_, fun raw hraw raw' hraw' => ?_⟩
  · have h := hf.nodup
    rw [Life.drawn_concat] at h
    exact (List.nodup_append.1 h).1
  · exact hf.inj raw (mem_drawn_concat hraw t deed) raw' (mem_drawn_concat hraw' t deed)

/-- Whatever has been done, the store says what the history says. -/
theorem kept_run (hf : Fresh s deeds) : Kept s deeds (Life.new.run s deeds) := by
  induction deeds using List.reverseRecOn with
  | nil => exact kept_new s
  | append_singleton deeds deed ih =>
    rw [Life.run_concat]
    exact kept_after (ih (fresh_of_concat hf)) hf

end Latchkey
