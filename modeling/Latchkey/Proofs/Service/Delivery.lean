/-
What a call does to the store, one step at a time (`underway_advance`) and as a whole when nothing
comes between its steps (`underway_run`): quiet steps, which store no row, and then perhaps the one
step that stores a row and delivers its token.
-/
import Latchkey.Proofs.Service.Operation
import Latchkey.Proofs.Store.Accounts

namespace Latchkey

open Operation (Result)

/-! ## Quiet steps and deliveries -/

/-- A step that stores no row: an end, a reading of the clock, or a request that is allowed. -/
inductive Operation.Quiet (op : Operation) (now : Instant) :
    Knowledge → Store → Knowledge → Store → Prop
  | rests {m store} : Quiet op now m store m store
  | reads {m store} : Quiet op now m store (m.read now) store
  | asks {m store r} (may : op.MayAsk r) :
      Quiet op now m store (m.hear r (Store.apply now r store).1) (store.after now (.request r))

/-- The step with which a call that has learnt `m` stores its row and hands out the token. -/
inductive Service.Delivers (s : Service) (op : Operation) (m : Knowledge) (now : Instant)
    (store : Store) : Result → Store → Prop
  | stored {draws userId deviceKey t expiresAt access} (draws_eq : op.draws? = some draws)
      (device_eq : op.deviceKey? = some deviceKey) (device_given : Text.isBlank deviceKey = false)
      (known : m.account = some userId) (clock : m.clock = some t)
      (expiry : Clock.shift? t s.refreshLifetime = some expiresAt)
      (names : s.issuer.Names access userId)
      (held : ∀ raw, op.presented? = some raw →
        store.holds userId deviceKey (s.issuer.hashToken raw) now = true) :
      Delivers s op m now store (.tokens ⟨access, some draws.token⟩)
        (store.rotated (s.rotationOf op draws userId deviceKey expiresAt) now)

namespace Service

variable {s : Service} {op : Operation} {m : Knowledge} {p : Program Result}

/-- A rotation that a call asks for is its delivery, or it is refused because the token that the
call presents does not hold. -/
theorem rotate_rotationOf (s : Service) (op : Operation) (draws : Draws)
    (userId deviceKey : String) (expiresAt now : Instant) (store : Store) :
    let rot := s.rotationOf op draws userId deviceKey expiresAt
    (store.rotate rot now = (.ok (), store.rotated rot now) ∧
      ∀ raw, op.presented? = some raw →
        store.holds userId deviceKey (s.issuer.hashToken raw) now = true) ∨
    (store.rotate rot now = (.error .badRefreshToken, store) ∧
      ∃ raw, op.presented? = some raw ∧
        store.holds userId deviceKey (s.issuer.hashToken raw) now = false) := by
  intro rot
  rcases Store.rotate_cases store rot now with ⟨h, hheld⟩ | ⟨h, hash, hp, hheld⟩
  · refine Or.inl ⟨h, fun raw hraw => hheld _ ?_⟩
    show op.presented?.map s.issuer.hashToken = _
    rw [hraw]
    rfl
  · obtain ⟨raw, hraw, rfl⟩ := Option.map_eq_some_iff.1 hp
    exact Or.inr ⟨h, raw, hraw, hheld⟩

/-- Where a call asks for a rotation next, it is its own row that it is about to store. -/
theorem underway_rotate {rot : Rotation} {k : (Request.rotate rot).Answer → Program Result}
    (h : s.Underway op m (.call (.rotate rot) k)) :
    (∃ draws userId deviceKey expiresAt, op.draws? = some draws ∧
      rot = s.rotationOf op draws userId deviceKey expiresAt) ∧
    ∀ e, k (.error e) = .fail e := by
  cases h with
  | asking may _ => exact absurd may id
  | @storing _ draws userId deviceKey _ expiresAt _ _ draws_eq _ _ _ _ _ _ refused _ =>
    exact ⟨⟨draws, userId, deviceKey, expiresAt, draws_eq, rfl⟩, refused⟩

/-- A step of a call is quiet, and the call is still underway, or it is its delivery. -/
theorem underway_advance (h : s.Underway op m p) (now : Instant) (store : Store) :
    (∃ m', s.Underway op m' (p.advance now store).1 ∧
      op.Quiet now m store m' (p.advance now store).2) ∨
    p.outcome? = none ∧ ∃ result, (p.advance now store).1 = .done result ∧
      s.Delivers op m now store result (p.advance now store).2 := by
  cases h with
  | answered stateless fresh known => exact Or.inl ⟨m, .answered stateless fresh known, .rests⟩
  | failed => exact Or.inl ⟨m, .failed, .rests⟩
  | overflowed => exact Or.inl ⟨m, .overflowed, .rests⟩
  | reading next => exact Or.inl ⟨_, next now, .reads⟩
  | asking may next => exact Or.inl ⟨_, next _, .asks may⟩
  | @storing m draws userId deviceKey t expiresAt access k hd hk given known clock expiry names
      refused stored =>
    rcases rotate_rotationOf s op draws userId deviceKey expiresAt now store with
      ⟨hr, held⟩ | ⟨hr, -⟩
    · rw [Program.advance_rotate_ok hr]
      exact Or.inr ⟨rfl, _, stored, .stored hd hk given known clock expiry names held⟩
    · rw [Program.advance_rotate_error hr, refused]
      exact Or.inl ⟨m, .failed, .rests⟩

/-! ## Whole runs -/

/-- How a run without a delivery can end. -/
def Undelivered (op : Operation) (o : Outcome Result) : Prop :=
  ∀ result, o = .ok result → result.refreshToken? = none ∧ op.presented? = none

/-- A run is made of quiet steps, which keep whatever each of them keeps, and perhaps a delivery as
its last step. -/
theorem underway_run {I : Knowledge → Store → Prop} {now : Instant}
    (hquiet : ∀ {m store m' store'}, I m store → op.Quiet now m store m' store' → I m' store')
    (h : s.Underway op m p) {store : Store} (hi : I m store) :
    ∃ m' store', I m' store' ∧
      (((p.run now store).2 = store' ∧ Undelivered op (p.run now store).1) ∨
      ∃ result, (p.run now store).1 = .ok result ∧
        s.Delivers op m' now store' result (p.run now store).2) := by
  induction h generalizing store with
  | @answered m result stateless fresh known =>
    exact ⟨m, store, hi, Or.inl ⟨rfl, fun _ h => by cases h; exact ⟨stateless, fresh⟩⟩⟩
  | @failed m e => exact ⟨m, store, hi, Or.inl ⟨rfl, fun _ h => by cases h⟩⟩
  | @overflowed m => exact ⟨m, store, hi, Or.inl ⟨rfl, fun _ h => by cases h⟩⟩
  | reading next ih => exact ih now (hquiet hi .reads)
  | asking may next ih => exact ih _ (hquiet hi (.asks may))
  | @storing m draws userId deviceKey t expiresAt access k hd hk given known clock expiry names
      refused stored =>
    refine ⟨m, store, hi, ?_⟩
    rw [← Program.run_advance]
    rcases rotate_rotationOf s op draws userId deviceKey expiresAt now store with
      ⟨hr, held⟩ | ⟨hr, -⟩
    · rw [Program.advance_rotate_ok hr, stored]
      exact Or.inr ⟨_, rfl, .stored hd hk given known clock expiry names held⟩
    · rw [Program.advance_rotate_error hr, refused]
      exact Or.inl ⟨rfl, fun result h => by cases h⟩

end Service

end Latchkey
