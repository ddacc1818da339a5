/-
What can happen to a store, and what that does to its refresh rows: an event revokes rows of at most
one session, none of them for the second time, and appends at most one row, to a session whose other
rows are then all revoked. So whatever has happened, and whatever the clock showed, all rows of a
session but the newest are revoked (`replay_single_live_row`).
-/
import Latchkey.Store
import Mathlib.Data.List.Nodup

namespace Latchkey

/-! ## Rows -/

namespace RefreshRow

variable {r r' : RefreshRow}

theorem validAt_iff {now : Instant} :
    r.validAt now = true ↔ r.revokedAt = none ∧ now < r.expiresAt := by
  simp [validAt]

theorem belongsTo_iff {userId deviceKey : String} :
    r.belongsTo userId deviceKey = true ↔ r.userId = userId ∧ r.deviceKey = deviceKey := by
  simp [belongsTo]

/-- What can become of a row: it is marked as revoked, once. -/
structure Becomes (r r' : RefreshRow) : Prop where
  userId : r'.userId = r.userId
  deviceKey : r'.deviceKey = r.deviceKey
  tokenHash : r'.tokenHash = r.tokenHash
  expiresAt : r'.expiresAt = r.expiresAt
  revokedAt : ∀ t, r.revokedAt = some t → r'.revokedAt = some t

theorem Becomes.refl (r : RefreshRow) : r.Becomes r := ⟨rfl, rfl, rfl, rfl, fun _ h => h⟩

theorem Becomes.isSome (h : r.Becomes r') (hr : r.revokedAt.isSome) : r'.revokedAt.isSome := by
  obtain ⟨t, ht⟩ := Option.isSome_iff_exists.1 hr
  rw [h.revokedAt t ht]
  rfl

theorem Becomes.eq_none (h : r.Becomes r') (hr : r'.revokedAt = none) : r.revokedAt = none := by
  cases hold : r.revokedAt with
  | none => rfl
  | some t => rw [h.revokedAt t hold] at hr; cases hr

/-- What was not valid does not become valid. -/
theorem Becomes.validAt (h : r.Becomes r') {t : Instant} (hv : r'.validAt t = true) :
    r.validAt t = true := by
  obtain ⟨hr, ht⟩ := validAt_iff.1 hv
  exact validAt_iff.2 ⟨h.eq_none hr, by rw [← h.expiresAt]; exact ht⟩

end RefreshRow

/-! ## Events -/

/-- Whatever can happen to a store. Requests are answered one at a time, so several callers only
decide in which order they come. -/
inductive Store.Event
  | request (r : Request)
  | softDelete (id : String)
deriving DecidableEq, Repr

/-- The row that a rotation stores. -/
def Rotation.row (rot : Rotation) (now : Instant) : RefreshRow :=
  ⟨rot.rowId, rot.deviceKey, rot.userId, rot.tokenHash, now, rot.expiresAt, none⟩

namespace Store

open RefreshRow (validAt_iff belongsTo_iff)

/-- The store after an event. -/
def after (s : Store) (now : Instant) : Event → Store
  | .request r => (apply now r s).2
  | .softDelete id => (s.softDelete id now).2

/-- The store after events, each at its instant. -/
def replay (s : Store) (events : List (Instant × Event)) : Store :=
  events.foldl (fun s e => s.after e.1 e.2) s

/-- The rows of a session, oldest first. -/
def session (s : Store) (userId deviceKey : String) : List RefreshRow :=
  s.rows.filter (·.belongsTo userId deviceKey)

/-- The store after a rotation that is carried out. -/
def rotated (s : Store) (rot : Rotation) (now : Instant) : Store :=
  { s with
    rows := s.revokeRows rot.userId rot.deviceKey (·.revokedAt.isNone) now ++ [rot.row now] }

/-! ## What an event does to the rows -/

theorem holds_iff {s : Store} {userId deviceKey hash : String} {now : Instant} :
    s.holds userId deviceKey hash now = true ↔ ∃ r ∈ s.rows,
      r.userId = userId ∧ r.deviceKey = deviceKey ∧ r.tokenHash = hash ∧ r.revokedAt = none ∧
        now < r.expiresAt := by
  simp [holds, validAt_iff, belongsTo_iff, and_assoc]

/-- A rotation is carried out, or it is a renewal whose token does not hold and nothing happens. -/
theorem rotate_cases (s : Store) (rot : Rotation) (now : Instant) :
    (s.rotate rot now = (.ok (), s.rotated rot now) ∧
      ∀ hash, rot.previousHash = some hash → s.holds rot.userId rot.deviceKey hash now = true) ∨
    (s.rotate rot now = (.error .badRefreshToken, s) ∧
      ∃ hash, rot.previousHash = some hash ∧
        s.holds rot.userId rot.deviceKey hash now = false) := by
  unfold rotate
  cases hp : rot.previousHash with
  | none => exact Or.inl ⟨rfl, fun hash h => by cases h⟩
  | some hash =>
    cases hh : s.holds rot.userId rot.deviceKey hash now with
    | true => refine Or.inl ⟨by simp [hh, rotated, Rotation.row], fun _ h => by cases h; exact hh⟩
    | false => exact Or.inr ⟨by simp [hh], hash, rfl, hh⟩

/-- A rotation whose token holds, if it needs one, is carried out. -/
theorem after_rotate {s : Store} {rot : Rotation} {now : Instant}
    (h : ∀ hash, rot.previousHash = some hash → s.holds rot.userId rot.deviceKey hash now = true) :
    s.after now (.request (.rotate rot)) = s.rotated rot now := by
  show (s.rotate rot now).2 = _
  rcases rotate_cases s rot now with ⟨hr, -⟩ | ⟨-, hash, hp, hheld⟩
  · rw [hr]
  · rw [h hash hp] at hheld; cases hheld

theorem rows_softDelete (s : Store) (id : String) (now : Instant) :
    (s.softDelete id now).2.rows = s.rows := by
  unfold softDelete
  split <;> rfl

theorem rows_insertAccount (s : Store) (a : Account) : (s.insertAccount a).2.rows = s.rows := by
  unfold insertAccount
  split <;> rfl

/-- An event leaves the rows alone, unless it is an invalidation or a rotation that is carried
out. -/
theorem rows_after (s : Store) (now : Instant) (e : Event) :
    (s.after now e).rows = s.rows ∨
    (∃ userId deviceKey, e = .request (.invalidate userId deviceKey) ∧
      (s.after now e).rows = s.revokeRows userId deviceKey (·.validAt now) now) ∨
    (∃ rot, e = .request (.rotate rot) ∧ (s.after now e).rows = (s.rotated rot now).rows) := by
  cases e with
  | softDelete id => exact Or.inl (rows_softDelete s id now)
  | request r =>
    cases r with
    | accountByDeviceKey | accountByUsername | accountById | validate => exact Or.inl rfl
    | insertAccount a => exact Or.inl (rows_insertAccount s a)
    | invalidate userId deviceKey => exact Or.inr (Or.inl ⟨userId, deviceKey, rfl, rfl⟩)
    | rotate rot =>
      show (s.rotate rot now).2.rows = s.rows ∨ _
      rcases rotate_cases s rot now with ⟨h, -⟩ | ⟨h, -⟩
      · refine Or.inr (Or.inr ⟨rot, rfl, ?_⟩)
        show (s.rotate rot now).2.rows = _
        rw [h]
      · exact Or.inl (by rw [h])

/-! ## What becomes of a row -/

/-- The row in the place of `r` after those that `p` selects in a session have been revoked. -/
def revokedRow (userId deviceKey : String) (p : RefreshRow → Bool) (now : Instant)
    (r : RefreshRow) : RefreshRow :=
  if r.belongsTo userId deviceKey && p r then r.revoke now else r

theorem revokeRows_eq_map (s : Store) (userId deviceKey : String) (p : RefreshRow → Bool)
    (now : Instant) :
    s.revokeRows userId deviceKey p now = s.rows.map (revokedRow userId deviceKey p now) := rfl

/-- A selection of rows that are not revoked. -/
def SelectsUnrevoked (p : RefreshRow → Bool) : Prop := ∀ r, p r = true → r.revokedAt = none

theorem selectsUnrevoked_isNone : SelectsUnrevoked (·.revokedAt.isNone) :=
  fun _ h => Option.isNone_iff_eq_none.1 h

theorem selectsUnrevoked_validAt (now : Instant) : SelectsUnrevoked (·.validAt now) :=
  fun _ h => (validAt_iff.1 h).1

theorem becomes_revokedRow {p : RefreshRow → Bool} (hp : SelectsUnrevoked p)
    (userId deviceKey : String) (now : Instant) (r : RefreshRow) :
    r.Becomes (revokedRow userId deviceKey p now r) := by
  unfold revokedRow
  split
  · rename_i h
    refine ⟨rfl, rfl, rfl, rfl, fun t ht => ?_⟩
    rw [hp r (Bool.and_eq_true_iff.1 h).2] at ht
    cases ht
  · exact .refl r

/-- What is not revoked behind a revocation has been left alone. -/
theorem unrevoked_of_mem_revokeRows {s : Store} {userId deviceKey : String}
    {p : RefreshRow → Bool} {now : Instant} {r : RefreshRow}
    (h : r ∈ s.revokeRows userId deviceKey p now) (hr : r.revokedAt = none) :
    r ∈ s.rows ∧ ¬ (r.belongsTo userId deviceKey && p r) = true := by
  obtain ⟨a, ha, rfl⟩ := List.mem_map.1 h
  split at hr
  · cases hr
  · rename_i hp
    rw [if_neg hp]
    exact ⟨ha, hp⟩

/-- The rows of other sessions are left alone. -/
theorem mem_revokeRows {s : Store} {userId deviceKey : String} {r : RefreshRow} (hr : r ∈ s.rows)
    (hother : ¬ r.belongsTo userId deviceKey = true) (p : RefreshRow → Bool) (now : Instant) :
    r ∈ s.revokeRows userId deviceKey p now := by
  refine List.mem_map.2 ⟨r, hr, if_neg fun h => hother ?_⟩
  exact (Bool.and_eq_true_iff.1 h).1

/-- The rows that are not revoked behind a revocation are those that it does not concern. -/
theorem mem_revokeRows_iff {s : Store} {userId deviceKey : String} {p : RefreshRow → Bool}
    {now : Instant} {r : RefreshRow} (hr : r.revokedAt = none) :
    r ∈ s.revokeRows userId deviceKey p now ↔
      r ∈ s.rows ∧ ¬ (r.belongsTo userId deviceKey = true ∧ p r = true) := by
  rw [← Bool.and_eq_true_iff]
  constructor
  · exact fun h => unrevoked_of_mem_revokeRows h hr
  · exact fun ⟨h, hp⟩ => List.mem_map.2 ⟨r, h, if_neg hp⟩

/-- Where all rows of a session that are not revoked are selected, all are revoked afterwards. -/
theorem revokedAt_revokedRow_isNone {userId deviceKey : String} {r : RefreshRow}
    (h : r.belongsTo userId deviceKey = true) (now : Instant) :
    (revokedRow userId deviceKey (·.revokedAt.isNone) now r).revokedAt.isSome := by
  unfold revokedRow
  cases hr : r.revokedAt with
  | none =>
    rw [if_pos (Bool.and_eq_true_iff.2 ⟨h, Option.isNone_iff_eq_none.2 hr⟩)]
    rfl
  | some t =>
    rw [if_neg (by simp [hr]), hr]
    rfl

/-- A row is in the store for ever. -/
theorem row_after {s : Store} {r : RefreshRow} (hr : r ∈ s.rows) (now : Instant) (e : Event) :
    ∃ r' ∈ (s.after now e).rows, r.Becomes r' := by
  rcases rows_after s now e with h | ⟨userId, deviceKey, -, h⟩ | ⟨rot, -, h⟩
  · exact ⟨r, by rw [h]; exact hr, .refl r⟩
  · exact ⟨_, by rw [h]; exact List.mem_map_of_mem hr,
      becomes_revokedRow (selectsUnrevoked_validAt now) _ _ now r⟩
  · exact ⟨_, by rw [h]; exact List.mem_append_left _ (List.mem_map_of_mem hr),
      becomes_revokedRow selectsUnrevoked_isNone _ _ now r⟩

/-- A row of the store was there before, or a rotation has just stored it. -/
theorem mem_rows_after {s : Store} {now : Instant} {e : Event} {r' : RefreshRow}
    (h : r' ∈ (s.after now e).rows) :
    (∃ r ∈ s.rows, r.Becomes r') ∨ ∃ rot, e = .request (.rotate rot) ∧ r' = rot.row now := by
  rcases rows_after s now e with hr | ⟨userId, deviceKey, -, hr⟩ | ⟨rot, he, hr⟩ <;> rw [hr] at h
  · exact Or.inl ⟨r', h, .refl r'⟩
  · obtain ⟨r, hr, rfl⟩ := List.mem_map.1 h
    exact Or.inl ⟨r, hr, becomes_revokedRow (selectsUnrevoked_validAt now) _ _ now r⟩
  · rcases List.mem_append.1 h with h | h
    · obtain ⟨r, hr, rfl⟩ := List.mem_map.1 h
      exact Or.inl ⟨r, hr, becomes_revokedRow selectsUnrevoked_isNone _ _ now r⟩
    · exact Or.inr ⟨rot, he, List.mem_singleton.1 h⟩

/-! ## Hashes -/

/-- The hashes of the rows, oldest first. -/
def hashes (s : Store) : List String := s.rows.map (·.tokenHash)

theorem tokenHash_mem_hashes {s : Store} {r : RefreshRow} (h : r ∈ s.rows) :
    r.tokenHash ∈ s.hashes := List.mem_map_of_mem h

theorem hashes_of_revokeRows {s s' : Store} {userId deviceKey : String} {p : RefreshRow → Bool}
    {now : Instant} (h : s'.rows = s.revokeRows userId deviceKey p now) :
    s'.hashes = s.hashes := by
  unfold hashes
  rw [h, revokeRows_eq_map, List.map_map]
  refine List.map_congr_left fun r _ => ?_
  show (revokedRow _ _ _ _ r).tokenHash = _
  unfold revokedRow
  split <;> rfl

theorem hashes_rotated (s : Store) (rot : Rotation) (now : Instant) :
    (s.rotated rot now).hashes = s.hashes ++ [rot.tokenHash] := by
  have h : ({ s with rows := s.revokeRows rot.userId rot.deviceKey (·.revokedAt.isNone) now } :
      Store).hashes = s.hashes := hashes_of_revokeRows rfl
  rw [← h]
  exact List.map_append

/-- Only a rotation adds a hash. -/
theorem hashes_after (s : Store) (now : Instant) (e : Event) :
    (s.after now e).hashes = s.hashes ∨
    ∃ rot, e = .request (.rotate rot) ∧ (s.after now e).hashes = s.hashes ++ [rot.tokenHash] := by
  rcases rows_after s now e with h | ⟨userId, deviceKey, -, h⟩ | ⟨rot, he, h⟩
  · exact Or.inl (congrArg (List.map _) h)
  · exact Or.inl (hashes_of_revokeRows h)
  · exact Or.inr ⟨rot, he, (congrArg (List.map _) h).trans (hashes_rotated s rot now)⟩

/-- Hashes are only added, at the end. -/
theorem hashes_prefix_replay (s : Store) (events : List (Instant × Event)) :
    s.hashes <+: (s.replay events).hashes := by
  induction events generalizing s with
  | nil => exact List.prefix_refl _
  | cons e rest ih =>
    refine List.IsPrefix.trans ?_ (ih (s.after e.1 e.2))
    rcases hashes_after s e.1 e.2 with h | ⟨rot, -, h⟩
    · exact h ▸ List.prefix_refl _
    · exact h ▸ List.prefix_append _ _

/-- A row of the store that no other row has the hash of. -/
structure Sole (s : Store) (r : RefreshRow) : Prop where
  mem : r ∈ s.rows
  eq : ∀ a ∈ s.rows, a.tokenHash = r.tokenHash → a = r

/-- Where no hash occurs twice, a hash tells the row. -/
theorem sole_of_mem {s : Store} (h : s.hashes.Nodup) {r : RefreshRow} (hr : r ∈ s.rows) :
    s.Sole r := ⟨hr, fun _ ha => List.inj_on_of_nodup_map h ha hr⟩

/-! ## Tokens that are spent -/

/-- A hash that is taken, with no row that is valid at `t` or later. -/
structure Spent (s : Store) (hash : String) (t : Instant) : Prop where
  taken : hash ∈ s.hashes
  invalid : ∀ r ∈ s.rows, r.tokenHash = hash → ∀ u : Instant, t ≤ u → r.validAt u = false

theorem Spent.mono {s : Store} {hash : String} {t u : Instant} (h : s.Spent hash t) (htu : t ≤ u) :
    s.Spent hash u :=
  ⟨h.taken, fun r hr he v hv => h.invalid r hr he v (Int.le_trans htu hv)⟩

theorem Spent.not_holds {s : Store} {hash : String} {t u : Instant} (h : s.Spent hash t)
    (htu : t ≤ u) (userId deviceKey : String) : s.holds userId deviceKey hash u = false := by
  rw [← Bool.not_eq_true, holds_iff]
  rintro ⟨r, hr, -, -, he, hv⟩
  have := h.invalid r hr he u htu
  rw [validAt_iff.2 hv] at this
  cases this

/-- A token that is spent stays spent, unless its hash is stored once more. -/
theorem spent_after {s : Store} {hash : String} {t : Instant} (h : s.Spent hash t) (now : Instant)
    {e : Event} (hnew : ∀ rot, e = .request (.rotate rot) → rot.tokenHash ≠ hash) :
    (s.after now e).Spent hash t := by
  refine ⟨?_, fun r' hr' he u hu => ?_⟩
  · obtain ⟨r, hr, rfl⟩ := List.mem_map.1 h.taken
    obtain ⟨r', hr', hb⟩ := row_after hr now e
    exact hb.tokenHash ▸ tokenHash_mem_hashes hr'
  · rcases mem_rows_after hr' with ⟨r, hr, hb⟩ | ⟨rot, rfl, rfl⟩
    · have hold := h.invalid r hr (hb.tokenHash ▸ he) u hu
      cases hv : r'.validAt u with
      | false => rfl
      | true => rw [hb.validAt hv] at hold; cases hold
    · exact absurd he (hnew rot rfl)

/-- A rotation spends all tokens of its session. -/
theorem spent_rotated {s : Store} {r : RefreshRow} (hr : s.Sole r) {rot : Rotation}
    (hsession : r.belongsTo rot.userId rot.deviceKey = true)
    (hnew : rot.tokenHash ≠ r.tokenHash) (now t : Instant) :
    (s.rotated rot now).Spent r.tokenHash t := by
  refine ⟨?_, fun r' hr' he u _ => ?_⟩
  · rw [hashes_rotated]
    exact List.mem_append_left _ (tokenHash_mem_hashes hr.mem)
  · rcases List.mem_append.1 hr' with hr' | hr'
    · obtain ⟨a, ha, rfl⟩ := List.mem_map.1 hr'
      have hb := becomes_revokedRow selectsUnrevoked_isNone rot.userId rot.deviceKey now a
      obtain rfl := hr.eq a ha (hb.tokenHash.symm.trans he)
      have hrevoked := revokedAt_revokedRow_isNone hsession now
      cases hv : (revokedRow rot.userId rot.deviceKey (·.revokedAt.isNone) now a).validAt u with
      | false => exact hv
      | true => rw [(validAt_iff.1 hv).1] at hrevoked; cases hrevoked
    · rw [List.mem_singleton.1 hr'] at he
      exact absurd he hnew

/-- An invalidation spends all tokens of its session, from then on: those that it does not mark had
been revoked or have expired. -/
theorem spent_invalidate {s : Store} {r : RefreshRow} (hr : s.Sole r) {userId deviceKey : String}
    (hsession : r.belongsTo userId deviceKey = true) (now : Instant) :
    (s.invalidate userId deviceKey now).Spent r.tokenHash now := by
  refine ⟨?_, fun r' hr' he u hu => ?_⟩
  · rw [hashes_of_revokeRows (s := s) rfl]
    exact tokenHash_mem_hashes hr.mem
  · obtain ⟨a, ha, rfl⟩ := List.mem_map.1 hr'
    have hb := becomes_revokedRow (selectsUnrevoked_validAt now) userId deviceKey now a
    obtain rfl := hr.eq a ha (hb.tokenHash.symm.trans he)
    show (revokedRow userId deviceKey (·.validAt now) now a).validAt u = false
    rw [← Bool.not_eq_true]
    intro hv
    obtain ⟨hnone, hlt⟩ := validAt_iff.1 hv
    rw [hb.expiresAt] at hlt
    -- not revoked behind the invalidation, the row was valid and so has been marked
    have hvalid : a.validAt now = true :=
      validAt_iff.2 ⟨hb.eq_none hnone, Int.lt_of_le_of_lt hu hlt⟩
    unfold revokedRow at hnone
    rw [if_pos (Bool.and_eq_true_iff.2 ⟨hsession, hvalid⟩)] at hnone
    cases hnone

/-! ## A session has one live row -/

/-- Behind a row that is not revoked there is none of the same session. -/
def Superseded (rows : List RefreshRow) : Prop :=
  rows.Pairwise fun a b => a.userId = b.userId → a.deviceKey = b.deviceKey → a.revokedAt.isSome

theorem superseded_revokeRows {s : Store} (h : Superseded s.rows) (userId deviceKey : String)
    {p : RefreshRow → Bool} (hp : SelectsUnrevoked p) (now : Instant) :
    Superseded (s.revokeRows userId deviceKey p now) := by
  rw [revokeRows_eq_map, Superseded, List.pairwise_map]
  refine h.imp fun {a b} hab hu hd => ?_
  have ha := becomes_revokedRow hp userId deviceKey now a
  have hb := becomes_revokedRow hp userId deviceKey now b
  rw [ha.userId, hb.userId] at hu
  rw [ha.deviceKey, hb.deviceKey] at hd
  exact ha.isSome (hab hu hd)

theorem superseded_rotated {s : Store} (h : Superseded s.rows) (rot : Rotation) (now : Instant) :
    Superseded (s.rotated rot now).rows := by
  refine List.pairwise_append.2
    ⟨superseded_revokeRows h _ _ selectsUnrevoked_isNone _, List.pairwise_singleton _ _, ?_⟩
  intro a ha b hb hu hd
  rw [List.mem_singleton] at hb
  subst hb
  rw [revokeRows_eq_map, List.mem_map] at ha
  obtain ⟨r, -, rfl⟩ := ha
  have hr := becomes_revokedRow selectsUnrevoked_isNone rot.userId rot.deviceKey now r
  rw [hr.userId] at hu
  rw [hr.deviceKey] at hd
  exact revokedAt_revokedRow_isNone (belongsTo_iff.2 ⟨hu, hd⟩) now

theorem superseded_after {s : Store} (h : Superseded s.rows) (now : Instant) (e : Event) :
    Superseded (s.after now e).rows := by
  rcases rows_after s now e with hr | ⟨userId, deviceKey, -, hr⟩ | ⟨rot, -, hr⟩
  · rw [hr]; exact h
  · rw [hr]; exact superseded_revokeRows h _ _ (selectsUnrevoked_validAt now) _
  · rw [hr]; exact superseded_rotated h _ _

theorem superseded_replay {s : Store} (h : Superseded s.rows) (events : List (Instant × Event)) :
    Superseded (s.replay events).rows := by
  induction events generalizing s with
  | nil => exact h
  | cons e rest ih => exact ih (superseded_after h e.1 e.2)

/-- Whatever has happened to a store that was empty, and whatever the clock showed each time: the
rows of a session are all revoked but for the newest. So at any instant at most one of them is
valid, and it is the newest. -/
theorem replay_single_live_row (events : List (Instant × Event)) (userId deviceKey : String) :
    let session := (empty.replay events).session userId deviceKey
    (∀ r ∈ session.dropLast, r.revokedAt.isSome) ∧
    ∀ t : Instant, session.countP (·.validAt t) ≤ 1 ∧
      ∀ i (hi : i < session.length), session[i].validAt t → i + 1 = session.length := by
  intro session
  -- within a session the order of the rows is that of the store
  have hpair : session.Pairwise fun a _ => a.revokedAt.isSome := by
    have h := superseded_replay (s := empty) List.Pairwise.nil events
    refine List.Pairwise.imp_of_mem ?_ (h.sublist List.filter_sublist)
    intro a b ha hb hab
    obtain ⟨hua, hda⟩ := belongsTo_iff.1 (List.mem_filter.1 ha).2
    obtain ⟨hub, hdb⟩ := belongsTo_iff.1 (List.mem_filter.1 hb).2
    exact hab (hua.trans hub.symm) (hda.trans hdb.symm)
  have hrevoked : ∀ r ∈ session.dropLast, r.revokedAt.isSome := by
    rcases List.eq_nil_or_concat' session with h | ⟨older, newest, h⟩
    · rw [h]; intro r hr; cases hr
    · rw [h, List.pairwise_append] at hpair
      rw [h, List.dropLast_concat]
      exact fun r hr => hpair.2.2 r hr newest (List.mem_singleton_self _)
  have hinvalid : ∀ (t : Instant), ∀ r ∈ session.dropLast, ¬ r.validAt t = true := by
    intro t r hr hv
    have := hrevoked r hr
    rw [(validAt_iff.1 hv).1] at this
    cases this
  refine ⟨hrevoked, fun t => ⟨?_, fun i hi hv => ?_⟩⟩
  · have hcount := List.countP_eq_zero.2 (hinvalid t)
    rcases List.eq_nil_or_concat' session with h | ⟨older, newest, h⟩
    · rw [h]; exact Nat.zero_le _
    · rw [h, List.dropLast_concat] at hcount
      rw [h, List.countP_append, hcount, Nat.zero_add]
      exact List.countP_le_length
  · by_contra hne
    have hlt : i < session.dropLast.length := by rw [List.length_dropLast]; omega
    refine hinvalid t session[i] ?_ hv
    rw [← List.getElem_dropLast hlt]
    exact List.getElem_mem hlt

end Store

end Latchkey
