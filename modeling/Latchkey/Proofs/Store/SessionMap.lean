/-
What a store keeps of its sessions, forgetting what has been: for each account and device at most
one entry, the hash of the token and when it expires. The store scans all its rows, this map looks
at one entry, and their answers are the same at every call (`replies_eq_of_nodup_hashes`). The
relation behind it is `Represents`: the entries are the rows that are not revoked.
-/
import Latchkey.Proofs.Store.Session
import Mathlib.Data.List.AList

namespace Latchkey

/-! ## Session maps -/

/-- The token of a session, by its hash. -/
structure SessionEntry where
  tokenHash : String
  expiresAt : Instant
deriving DecidableEq, Repr

def SessionEntry.liveAt (e : SessionEntry) (now : Instant) : Bool := decide (now < e.expiresAt)

/-- At most one entry for each account and device. -/
abbrev SessionMap := AList fun _ : String × String => SessionEntry

namespace SessionMap

/-- Whether `hash` is the token of the session and has not expired. -/
def holds (m : SessionMap) (userId deviceKey hash : String) (now : Instant) : Bool :=
  (m.lookup (userId, deviceKey)).any fun e => e.tokenHash == hash && e.liveAt now

/-- Replaces the entry of a session. A renewal whose token does not hold changes nothing. -/
def rotate (m : SessionMap) (rot : Rotation) (now : Instant) : Except AuthError Unit × SessionMap :=
  if rot.previousHash.all (fun hash => m.holds rot.userId rot.deviceKey hash now) then
    (.ok (), m.insert (rot.userId, rot.deviceKey) ⟨rot.tokenHash, rot.expiresAt⟩)
  else (.error .badRefreshToken, m)

/-- Removes the entry of a session, unless it has expired. -/
def invalidate (m : SessionMap) (userId deviceKey : String) (now : Instant) : SessionMap :=
  if (m.lookup (userId, deviceKey)).any (·.liveAt now) then m.erase (userId, deviceKey) else m

/-- The account whose entry on a device has the hash and has not expired. -/
def ownerOf (m : SessionMap) (deviceKey hash : String) (now : Instant) : Option String :=
  (m.entries.find? fun ⟨(_, device), e⟩ =>
    device == deviceKey && e.tokenHash == hash && e.liveAt now).map (·.1.1)

end SessionMap

/-! ## Calls -/

/-- The requests that are about sessions. -/
inductive SessionCall
  | rotate (rotation : Rotation)
  | validate (deviceKey tokenHash : String)
  | invalidate (userId deviceKey : String)
deriving DecidableEq, Repr

namespace SessionCall

def request : SessionCall → Request
  | rotate rotation => .rotate rotation
  | validate deviceKey hash => .validate deviceKey hash
  | invalidate userId deviceKey => .invalidate userId deviceKey

/-- What a call is answered, by whoever answers it. -/
abbrev Answer (c : SessionCall) : Type := c.request.Answer

/-- The answers to calls that are made one after the other, each at its instant. -/
def replies {σ : Type} (answer : Instant → (c : SessionCall) → σ → c.Answer × σ) :
    List (Instant × SessionCall) → σ → List ((c : SessionCall) × c.Answer)
  | [], _ => []
  | (now, c) :: rest, s => ⟨c, (answer now c s).1⟩ :: replies answer rest (answer now c s).2

/-- What calls are for the store. -/
def events (calls : List (Instant × SessionCall)) : List (Instant × Store.Event) :=
  calls.map fun (now, c) => (now, .request c.request)

end SessionCall

/-- How a store answers. -/
def Store.answer (now : Instant) (c : SessionCall) (s : Store) : c.Answer × Store :=
  Store.apply now c.request s

/-- How a session map answers. -/
def SessionMap.answer (now : Instant) : (c : SessionCall) → SessionMap → c.Answer × SessionMap
  | .rotate rotation, m => m.rotate rotation now
  | .validate deviceKey hash, m => (.ok (m.ownerOf deviceKey hash now), m)
  | .invalidate userId deviceKey, m => (.ok (), m.invalidate userId deviceKey now)

/-! ## Stores and session maps -/

namespace SessionMap

open RefreshRow (validAt_iff belongsTo_iff)

/-- The row stands for the entry of a session. -/
structure Shows (userId deviceKey : String) (e : SessionEntry) (r : RefreshRow) : Prop where
  unrevoked : r.revokedAt = none
  userId : r.userId = userId
  deviceKey : r.deviceKey = deviceKey
  tokenHash : r.tokenHash = e.tokenHash
  expiresAt : r.expiresAt = e.expiresAt

/-- The entries of the map are the rows of the store that are not revoked. -/
structure Represents (s : Store) (m : SessionMap) : Prop where
  distinct : s.hashes.Nodup
  lookup_iff : ∀ userId deviceKey e,
    m.lookup (userId, deviceKey) = some e ↔ ∃ r ∈ s.rows, Shows userId deviceKey e r

variable {s : Store} {m : SessionMap} {now : Instant}

theorem represents_empty : Represents .empty ∅ := by
  constructor
  · exact List.nodup_nil
  · intro userId deviceKey e
    simp [Store.empty]

theorem Shows.validAt_iff {userId deviceKey : String} {e : SessionEntry} {r : RefreshRow}
    (h : Shows userId deviceKey e r) : r.validAt now = true ↔ now < e.expiresAt := by
  rw [RefreshRow.validAt_iff, h.expiresAt]
  exact ⟨fun hv => hv.2, fun hlt => ⟨h.unrevoked, hlt⟩⟩

theorem shows_self {r : RefreshRow} (h : r.revokedAt = none) :
    Shows r.userId r.deviceKey ⟨r.tokenHash, r.expiresAt⟩ r := ⟨h, rfl, rfl, rfl, rfl⟩

/-! ## Answers -/

theorem holds_eq (h : Represents s m) (userId deviceKey hash : String) :
    m.holds userId deviceKey hash now = s.holds userId deviceKey hash now := by
  rw [Bool.eq_iff_iff, Store.holds_iff]
  constructor
  · intro hm
    obtain ⟨e, he, hlive⟩ := Option.any_eq_true .. |>.1 hm
    simp only [Bool.and_eq_true, beq_iff_eq, SessionEntry.liveAt, decide_eq_true_eq] at hlive
    obtain ⟨r, hr, hshows⟩ := (h.lookup_iff userId deviceKey e).1 he
    exact ⟨r, hr, hshows.userId, hshows.deviceKey, hshows.tokenHash.trans hlive.1,
      hshows.unrevoked, hshows.expiresAt ▸ hlive.2⟩
  · rintro ⟨r, hr, rfl, rfl, rfl, hn, hlt⟩
    have hentry := (h.lookup_iff _ _ _).2 ⟨r, hr, shows_self hn⟩
    simp [SessionMap.holds, hentry, SessionEntry.liveAt, hlt]

/-- Both look through all they have; as no two rows have the same hash, whatever they find is about
the same account. -/
theorem ownerOf_eq (h : Represents s m) (deviceKey hash : String) :
    m.ownerOf deviceKey hash now = s.ownerOf deviceKey hash now := by
  cases hfound : m.entries.find? (fun ⟨(_, device), e⟩ =>
      device == deviceKey && e.tokenHash == hash && e.liveAt now) with
  | some x =>
    obtain ⟨⟨userId, device⟩, e⟩ := x
    have hp := List.find?_some hfound
    simp only [Bool.and_eq_true, beq_iff_eq, SessionEntry.liveAt, decide_eq_true_eq] at hp
    obtain ⟨⟨rfl, rfl⟩, hlt⟩ := hp
    have hentry := AList.mem_lookup_iff.2 (List.mem_of_find?_eq_some hfound)
    obtain ⟨r, hr, hshows⟩ := (h.lookup_iff userId device e).1 hentry
    have howner := Store.ownerOf_sole (Store.sole_of_mem h.distinct hr) (hshows.validAt_iff.2 hlt)
    rw [hshows.userId, hshows.deviceKey, hshows.tokenHash] at howner
    rw [howner, ownerOf, hfound, Option.map_some]
  | none =>
    rw [ownerOf, hfound, Option.map_none, eq_comm, Option.eq_none_iff_forall_ne_some]
    intro userId howner
    obtain ⟨r, hr, rfl, rfl, rfl, hv⟩ := Store.ownerOf_some howner
    obtain ⟨hn, hlt⟩ := validAt_iff.1 hv
    have hentry := (h.lookup_iff _ _ _).2 ⟨r, hr, shows_self hn⟩
    have hnot := List.find?_eq_none.1 hfound _ (AList.mem_lookup_iff.1 hentry)
    simp [SessionEntry.liveAt, hlt] at hnot

theorem answer_eq (h : Represents s m) (c : SessionCall) :
    (m.answer now c).1 = (s.answer now c).1 := by
  cases c with
  | rotate rot =>
    show (m.rotate rot now).1 = (s.rotate rot now).1
    simp only [SessionMap.rotate, Store.rotate, holds_eq h]
    split <;> rfl
  | validate deviceKey hash => exact congrArg Except.ok (ownerOf_eq h deviceKey hash)
  | invalidate userId deviceKey => rfl

/-! ## What becomes of them -/

theorem Shows.belongsTo_iff {u d userId deviceKey : String} {e : SessionEntry} {r : RefreshRow}
    (h : Shows u d e r) : r.belongsTo userId deviceKey = true ↔ (u, d) = (userId, deviceKey) := by
  rw [RefreshRow.belongsTo_iff, h.userId, h.deviceKey, Prod.mk.injEq]

theorem lookup_invalidate_iff {u d userId deviceKey : String} {e : SessionEntry} :
    (m.invalidate userId deviceKey now).lookup (u, d) = some e ↔
      m.lookup (u, d) = some e ∧ ¬ ((u, d) = (userId, deviceKey) ∧ now < e.expiresAt) := by
  unfold invalidate
  by_cases hkey : (u, d) = (userId, deviceKey)
  · rw [hkey]
    cases hm : m.lookup (userId, deviceKey) with
    | none => simp [hm]
    | some e' =>
      by_cases hlive : now < e'.expiresAt
      · simp only [Option.any_some, SessionEntry.liveAt, hlive, decide_true, if_true,
          AList.lookup_erase, reduceCtorEq, Option.some.injEq, true_and, false_iff, not_and,
          not_not]
        rintro rfl
        exact hlive
      · simp only [Option.any_some, SessionEntry.liveAt, hlive, decide_false, Bool.false_eq_true,
          if_false, hm, Option.some.injEq, true_and]
        constructor
        · rintro rfl
          exact ⟨rfl, hlive⟩
        · exact fun h => h.1
  · split
    · simp [AList.lookup_erase_ne hkey, hkey]
    · simp [hkey]

theorem represents_invalidate (h : Represents s m) (userId deviceKey : String) :
    Represents (s.invalidate userId deviceKey now) (m.invalidate userId deviceKey now) := by
  constructor
  · rw [Store.hashes_of_revokeRows (s := s) rfl]
    exact h.distinct
  · intro u d e
    rw [lookup_invalidate_iff, h.lookup_iff]
    constructor
    · rintro ⟨⟨r, hr, hshows⟩, hkeep⟩
      refine ⟨r, (Store.mem_revokeRows_iff hshows.unrevoked).2 ⟨hr, ?_⟩, hshows⟩
      rwa [hshows.belongsTo_iff, hshows.validAt_iff]
    · rintro ⟨r, hr, hshows⟩
      obtain ⟨hr, hkeep⟩ := (Store.mem_revokeRows_iff hshows.unrevoked).1 hr
      rw [hshows.belongsTo_iff, hshows.validAt_iff] at hkeep
      exact ⟨⟨r, hr, hshows⟩, hkeep⟩

theorem represents_rotated (h : Represents s m) {rot : Rotation}
    (hnew : (s.rotated rot now).hashes.Nodup) :
    Represents (s.rotated rot now)
      (m.insert (rot.userId, rot.deviceKey) ⟨rot.tokenHash, rot.expiresAt⟩) := by
  refine ⟨hnew, fun u d e => ?_⟩
  -- the older rows of the session have all been revoked, those of other sessions are left alone
  have hold : ∀ r, Shows u d e r → (r ∈ s.revokeRows rot.userId rot.deviceKey
      (·.revokedAt.isNone) now ↔ r ∈ s.rows ∧ (u, d) ≠ (rot.userId, rot.deviceKey)) := by
    intro r hshows
    rw [Store.mem_revokeRows_iff hshows.unrevoked, hshows.belongsTo_iff, hshows.unrevoked]
    simp
  by_cases hkey : (u, d) = (rot.userId, rot.deviceKey)
  · rw [hkey, AList.lookup_insert]
    obtain ⟨rfl, rfl⟩ := Prod.mk.inj hkey
    constructor
    · rintro ⟨⟩
      exact ⟨rot.row now, List.mem_append_right _ (List.mem_singleton_self _),
        ⟨rfl, rfl, rfl, rfl, rfl⟩⟩
    · rintro ⟨r, hr, hshows⟩
      rcases List.mem_append.1 hr with hr | hr
      · exact absurd rfl ((hold r hshows).1 hr).2
      · rw [List.mem_singleton.1 hr] at hshows
        cases e
        exact congrArg some (congrArg₂ SessionEntry.mk hshows.tokenHash hshows.expiresAt)
  · rw [AList.lookup_insert_ne hkey, h.lookup_iff]
    constructor
    · rintro ⟨r, hr, hshows⟩
      exact ⟨r, List.mem_append_left _ ((hold r hshows).2 ⟨hr, hkey⟩), hshows⟩
    · rintro ⟨r, hr, hshows⟩
      rcases List.mem_append.1 hr with hr | hr
      · exact ⟨r, ((hold r hshows).1 hr).1, hshows⟩
      · rw [List.mem_singleton.1 hr] at hshows
        exact absurd (congrArg₂ Prod.mk hshows.userId.symm hshows.deviceKey.symm) hkey

/-- Whatever the call, the map goes on to represent the store, as long as no hash is stored for the
second time. -/
theorem represents_answer (h : Represents s m) (c : SessionCall)
    (hnew : (s.answer now c).2.hashes.Nodup) :
    Represents (s.answer now c).2 (m.answer now c).2 := by
  cases c with
  | validate deviceKey hash => exact h
  | invalidate userId deviceKey => exact represents_invalidate h userId deviceKey
  | rotate rot =>
    change (s.rotate rot now).2.hashes.Nodup at hnew
    show Represents (s.rotate rot now).2 (m.rotate rot now).2
    unfold SessionMap.rotate
    simp only [holds_eq h]
    rcases Store.rotate_cases s rot now with ⟨hs, hheld⟩ | ⟨hs, hash, hp, hlost⟩ <;>
      rw [hs] at hnew ⊢
    · have hall : rot.previousHash.all
          (fun hash => s.holds rot.userId rot.deviceKey hash now) = true := by
        cases hp : rot.previousHash with
        | none => rfl
        | some hash => exact hheld hash hp
      rw [if_pos hall]
      exact represents_rotated h hnew
    · rw [hp, Option.all_some, hlost, if_neg Bool.false_ne_true]
      exact h

theorem replies_eq (h : Represents s m) {calls : List (Instant × SessionCall)}
    (hnew : (s.replay (SessionCall.events calls)).hashes.Nodup) :
    SessionCall.replies Store.answer calls s = SessionCall.replies SessionMap.answer calls m := by
  induction calls generalizing s m with
  | nil => rfl
  | cons call rest ih =>
    obtain ⟨now, c⟩ := call
    have hstep : (s.answer now c).2.hashes.Nodup :=
      hnew.sublist (Store.hashes_prefix_replay _ (SessionCall.events rest)).sublist
    unfold SessionCall.replies
    rw [answer_eq h c, ih (represents_answer h c hstep) hnew]

end SessionMap

/-! ## The same answers -/

/-- Whatever calls about sessions are made of an empty store, and whatever the clock shows at each
of them: if no hash is stored twice, every call is answered as by the map that has at most one entry
for each session. -/
theorem replies_eq_of_nodup_hashes (calls : List (Instant × SessionCall))
    (hnew : (Store.empty.replay (SessionCall.events calls)).hashes.Nodup) :
    SessionCall.replies Store.answer calls .empty =
      SessionCall.replies SessionMap.answer calls ∅ :=
  SessionMap.replies_eq SessionMap.represents_empty hnew

/-- Somebody logs in, refreshes, and presents the first token once more, while the clock jumps back;
the token expires before the logout. -/
def jumpingClock : List (Instant × SessionCall) :=
  [(5, .rotate ⟨"first row", "phone", "ann", none, "first hash", 9⟩),
    (6, .rotate ⟨"second row", "phone", "ann", some "first hash", "second hash", 8⟩),
    (7, .rotate ⟨"third row", "phone", "ann", some "first hash", "third hash", 9⟩),
    (2, .validate "phone" "second hash"), (8, .invalidate "ann" "phone"),
    (3, .validate "phone" "second hash")]

theorem jumpingClock_replies_eq :
    (Store.empty.replay (SessionCall.events jumpingClock)).hashes.Nodup ∧
    SessionCall.replies Store.answer jumpingClock .empty =
      SessionCall.replies SessionMap.answer jumpingClock ∅ ∧
    (SessionCall.replies SessionMap.answer jumpingClock ∅).getLast? =
      some ⟨.validate "phone" "second hash", .ok (some "ann")⟩ := by
  have hnew : (Store.empty.replay (SessionCall.events jumpingClock)).hashes.Nodup := by decide
  exact ⟨hnew, replies_eq_of_nodup_hashes jumpingClock hnew, rfl⟩

end Latchkey
