/-
One session and one row of it: which events leave them alone, and what the store answers about a
row whose hash no other row has.
-/
import Latchkey.Proofs.Store.Accounts

namespace Latchkey.Store

open RefreshRow (validAt_iff belongsTo_iff)

/-! ## Events that spare a session -/

/-- The event neither deletes the account nor ends the session, and stores no row with the hash. -/
def Event.Spares (userId deviceKey hash : String) : Event → Prop
  | .softDelete id => id ≠ userId
  | .request (.invalidate u d) => (u, d) ≠ (userId, deviceKey)
  | .request (.rotate rot) =>
    (rot.userId, rot.deviceKey) ≠ (userId, deviceKey) ∧ rot.tokenHash ≠ hash
  | .request _ => True

instance (userId deviceKey hash : String) : DecidablePred (Event.Spares userId deviceKey hash)
  | .softDelete id => inferInstanceAs (Decidable (id ≠ userId))
  | .request (.invalidate u d) => inferInstanceAs (Decidable ((u, d) ≠ (userId, deviceKey)))
  | .request (.rotate rot) => inferInstanceAs
    (Decidable ((rot.userId, rot.deviceKey) ≠ (userId, deviceKey) ∧ rot.tokenHash ≠ hash))
  | .request (.accountByDeviceKey _) | .request (.accountByUsername _)
  | .request (.accountById _) | .request (.insertAccount _)
  | .request (.validate _ _) => .isTrue trivial

theorem session_revokeRows {s s' : Store} {u d userId deviceKey : String} {p : RefreshRow → Bool}
    {now : Instant} (h : s'.rows = s.revokeRows u d p now) (hne : (u, d) ≠ (userId, deviceKey)) :
    s'.session userId deviceKey = s.session userId deviceKey := by
  unfold session
  rw [h, revokeRows_eq_map, List.filter_map]
  have hsame : ∀ r : RefreshRow, (revokedRow u d p now r).belongsTo userId deviceKey =
      r.belongsTo userId deviceKey := by
    intro r
    unfold revokedRow
    split <;> rfl
  rw [show ((·.belongsTo userId deviceKey) ∘ revokedRow u d p now) =
    (·.belongsTo userId deviceKey) from funext hsame]
  -- rows of the session are not among those that are revoked
  refine (List.map_congr_left fun r hr => ?_).trans (List.map_id _)
  obtain ⟨rfl, rfl⟩ := belongsTo_iff.1 (List.mem_filter.1 hr).2
  unfold revokedRow
  rw [if_neg]
  · rfl
  · intro hp
    obtain ⟨hu, hd⟩ := belongsTo_iff.1 (Bool.and_eq_true_iff.1 hp).1
    exact hne (by rw [hu, hd])

/-- A rotation leaves other sessions alone. -/
theorem session_rotated_of_ne {s : Store} {userId deviceKey : String} {rot : Rotation}
    (h : (rot.userId, rot.deviceKey) ≠ (userId, deviceKey)) (now : Instant) :
    (s.rotated rot now).session userId deviceKey = s.session userId deviceKey := by
  have hold : ({ s with rows := s.revokeRows rot.userId rot.deviceKey (·.revokedAt.isNone) now } :
      Store).session userId deviceKey = s.session userId deviceKey := session_revokeRows rfl h
  have hnew : [rot.row now].filter (·.belongsTo userId deviceKey) = [] := by
    refine List.filter_eq_nil_iff.2 fun r hr hb => ?_
    rw [List.mem_singleton.1 hr] at hb
    obtain ⟨hu, hd⟩ := belongsTo_iff.1 hb
    exact h (by rw [← hu, ← hd]; rfl)
  unfold session at hold ⊢
  rw [rotated, List.filter_append, hold, hnew, List.append_nil]

theorem session_after {s : Store} {userId deviceKey hash : String} {now : Instant} {e : Event}
    (h : e.Spares userId deviceKey hash) :
    (s.after now e).session userId deviceKey = s.session userId deviceKey := by
  rcases rows_after s now e with hr | ⟨u, d, rfl, hr⟩ | ⟨rot, rfl, hr⟩
  · unfold session
    rw [hr]
  · exact session_revokeRows hr h
  · have hrotated := session_rotated_of_ne h.1 (s := s) now
    unfold session at hrotated ⊢
    rw [hr, hrotated]

/-- A session that is spared keeps its row, and no other row gets its hash. -/
theorem sole_after {s : Store} {row : RefreshRow} (hs : s.Sole row) {now : Instant} {e : Event}
    (h : e.Spares row.userId row.deviceKey row.tokenHash) : (s.after now e).Sole row := by
  have hsession : (s.after now e).session row.userId row.deviceKey =
      s.session row.userId row.deviceKey := session_after h
  refine ⟨?_, fun r' hr' he => ?_⟩
  · have hmem : row ∈ s.session row.userId row.deviceKey :=
      List.mem_filter.2 ⟨hs.mem, belongsTo_iff.2 ⟨rfl, rfl⟩⟩
    rw [← hsession] at hmem
    exact (List.mem_filter.1 hmem).1
  · rcases mem_rows_after hr' with ⟨r, hr, hb⟩ | ⟨rot, rfl, rfl⟩
    · obtain rfl := hs.eq r hr (hb.tokenHash.symm.trans he)
      have hmem : r' ∈ (s.after now e).session r.userId r.deviceKey :=
        List.mem_filter.2 ⟨hr', belongsTo_iff.2 ⟨hb.userId, hb.deviceKey⟩⟩
      rw [hsession] at hmem
      exact hs.eq r' (List.mem_filter.1 hmem).1 he
    · exact absurd he h.2

/-! ## A row that has its hash to itself -/

theorem holds_sole {s : Store} {row : RefreshRow} (hs : s.Sole row) {now : Instant}
    (hv : row.validAt now = true) :
    s.holds row.userId row.deviceKey row.tokenHash now = true :=
  holds_iff.2 ⟨row, hs.mem, rfl, rfl, rfl, validAt_iff.1 hv⟩

theorem ownerOf_sole {s : Store} {row : RefreshRow} (hs : s.Sole row) {now : Instant}
    (hv : row.validAt now = true) :
    s.ownerOf row.deviceKey row.tokenHash now = some row.userId := by
  unfold ownerOf
  cases hf : s.rows.find? _ with
  | none => exact absurd (List.find?_eq_none.1 hf row hs.mem) (by simp [hv])
  | some r =>
    have hp := List.find?_some hf
    simp only [Bool.and_eq_true, beq_iff_eq] at hp
    obtain rfl := hs.eq r (List.mem_of_find?_eq_some hf) hp.1.2
    rfl

/-- An owner that the store names has a valid row with the hash on the device. -/
theorem ownerOf_some {s : Store} {deviceKey hash userId : String} {now : Instant}
    (h : s.ownerOf deviceKey hash now = some userId) :
    ∃ r ∈ s.rows, r.userId = userId ∧ r.deviceKey = deviceKey ∧ r.tokenHash = hash ∧
      r.validAt now = true := by
  obtain ⟨r, hf, rfl⟩ := Option.map_eq_some_iff.1 h
  have hp := List.find?_some hf
  simp only [Bool.and_eq_true, beq_iff_eq] at hp
  exact ⟨r, List.mem_of_find?_eq_some hf, rfl, hp.1.1, hp.1.2, hp.2⟩

/-! ## The session behind a rotation -/

/-- Behind a rotation its row is the only one of the session that is not revoked. -/
theorem live_session_rotated (s : Store) (rot : Rotation) (now : Instant) :
    ((s.rotated rot now).session rot.userId rot.deviceKey).filter (·.revokedAt.isNone) =
      [rot.row now] := by
  unfold session rotated
  rw [List.filter_filter, List.filter_append]
  have hold : (s.revokeRows rot.userId rot.deviceKey (·.revokedAt.isNone) now).filter
      (fun r => r.revokedAt.isNone && r.belongsTo rot.userId rot.deviceKey) = [] := by
    refine List.filter_eq_nil_iff.2 fun r hr hp => ?_
    rw [revokeRows_eq_map] at hr
    obtain ⟨a, -, rfl⟩ := List.mem_map.1 hr
    obtain ⟨hnone, hsession⟩ := Bool.and_eq_true_iff.1 hp
    obtain ⟨hu, hd⟩ := belongsTo_iff.1 hsession
    have hb := becomes_revokedRow selectsUnrevoked_isNone rot.userId rot.deviceKey now a
    rw [hb.userId] at hu
    rw [hb.deviceKey] at hd
    have hrevoked := revokedAt_revokedRow_isNone (belongsTo_iff.2 ⟨hu, hd⟩) now
    rw [Option.isNone_iff_eq_none.1 hnone] at hrevoked
    cases hrevoked
  rw [hold, List.nil_append]
  refine List.filter_eq_self.2 fun r hr => ?_
  rw [List.mem_singleton.1 hr]
  exact Bool.and_eq_true_iff.2 ⟨rfl, belongsTo_iff.2 ⟨rfl, rfl⟩⟩

/-- All rows of the session are revoked but one. -/
def Seated (s : Store) (userId deviceKey : String) : Prop :=
  ((s.session userId deviceKey).filter (·.revokedAt.isNone)).length = 1

theorem seated_rotated (s : Store) (rot : Rotation) (now : Instant) :
    (s.rotated rot now).Seated rot.userId rot.deviceKey := by
  unfold Seated
  rw [live_session_rotated]
  rfl

/-- A session with one live row keeps one, whichever session is rotated. -/
theorem Seated.rotated {s : Store} {userId deviceKey : String} (h : s.Seated userId deviceKey)
    (rot : Rotation) (now : Instant) : (s.rotated rot now).Seated userId deviceKey := by
  by_cases hsame : (rot.userId, rot.deviceKey) = (userId, deviceKey)
  · obtain ⟨rfl, rfl⟩ := Prod.mk.inj hsame
    exact seated_rotated s rot now
  · unfold Seated
    rw [session_rotated_of_ne hsame]
    exact h

end Latchkey.Store
