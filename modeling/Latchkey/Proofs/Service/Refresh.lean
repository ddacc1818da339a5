/-
A refresh in detail: the stages that it goes through, one store call or clock reading at a time
(`Refreshing`), and what it comes to when nothing comes between them, at one instant
(`run_of_refreshing`) and while the clock goes on (`ends_of_refreshing`).
-/
import Latchkey.Proofs.Program.Alone
import Latchkey.Proofs.Service.Delivery

namespace Latchkey

namespace Service

open Program
open Operation (Result)

/-- Both kinds of tokens that are issued at `t` expire within the calendar. -/
def InCalendar (s : Service) (t : Instant) : Prop :=
  (Clock.shift? t s.issuer.lifetime).isSome ∧ (Clock.shift? t s.refreshLifetime).isSome

instance (s : Service) (t : Instant) : Decidable (s.InCalendar t) :=
  inferInstanceAs (Decidable (_ ∧ _))

theorem issue?_isSome {s : Service} {t : Instant} (h : s.InCalendar t) (p : Profile) :
    ∃ access, s.issuer.issue? p t = some access := by
  obtain ⟨e, he⟩ := Option.isSome_iff_exists.1 h.1
  exact ⟨_, by unfold Issuer.issue? Issuer.claimsAt?; rw [he]; rfl⟩

/-! ## Stages -/

/-- `s.Refreshing draws raw deviceKey owner p`: a refresh that has not ended has `p` left to do. At
first the owner of the token is not known. -/
inductive Refreshing (s : Service) (draws : Draws) (raw deviceKey : String) :
    Option String → Program Result → Prop
  | validating {k} (unknown : k (.ok none) = .fail .badRefreshToken)
      (known : ∀ userId, Refreshing s draws raw deviceKey (some userId) (k (.ok (some userId)))) :
      Refreshing s draws raw deviceKey none
        (.call (.validate deviceKey (s.issuer.hashToken raw)) k)
  | lookingUp {userId k} (absent : k (.ok none) = .fail .badRefreshToken)
      (present : ∀ a : Account, a.id = userId →
        Refreshing s draws raw deviceKey (some userId) (k (.ok (some a)))) :
      Refreshing s draws raw deviceKey (some userId) (.call (.accountById userId) k)
  | reading {userId k}
      (answers : ∀ t, s.InCalendar t → k t ≠ .overflow)
      (next : ∀ t, k t ≠ .overflow → Refreshing s draws raw deviceKey (some userId) (k t)) :
      Refreshing s draws raw deviceKey (some userId) (.clock k)
  | renewing {userId access expiresAt k}
      (refused : k (.error .badRefreshToken) = .fail .badRefreshToken)
      (renewed : k (.ok ()) = .done (.tokens ⟨access, some draws.token⟩)) :
      Refreshing s draws raw deviceKey (some userId) (.call (.rotate
        (s.rotationOf (.refresh draws raw deviceKey) draws userId deviceKey expiresAt)) k)

variable {s : Service} {draws : Draws} {raw deviceKey : String}

/-- A refresh that has not ended has not ended. -/
theorem outcome?_of_refreshing {owner : Option String} {p : Program Result}
    (h : s.Refreshing draws raw deviceKey owner p) : p.outcome? = none := by
  cases h <;> rfl

theorem refreshing_storeDrawn {userId access : String} :
    s.Refreshing draws raw deviceKey (some userId) (do
      let renewed ← Session.renew s.issuer s.refreshLifetime draws deviceKey userId raw
      return .tokens ⟨access, some renewed⟩) := by
  refine .reading (fun t ht => ?_) fun t h => ?_
  · show ((after t s.refreshLifetime).bind _ |>.bind _) ≠ _
    obtain ⟨e, he⟩ := Option.isSome_iff_exists.1 ht.2
    unfold after
    rw [he]
    exact fun h => by cases h
  · change ((after t s.refreshLifetime).bind _ |>.bind _) ≠ _ at h
    show s.Refreshing _ _ _ _ ((after t s.refreshLifetime).bind _ |>.bind _)
    unfold after at h ⊢
    cases he : Clock.shift? t s.refreshLifetime with
    | none => rw [he] at h; exact absurd rfl h
    | some expiresAt => exact .renewing rfl rfl

theorem issueAccess_eq (s : Service) (p : Profile) :
    s.issueAccess p = .clock fun t => (s.issuer.issue? p t).elim .overflow .done := by
  unfold issueAccess
  refine congrArg Program.clock (funext fun t => ?_)
  rw [Program.bind]
  cases s.issuer.issue? p t <;> rfl

theorem refreshing_issueAccess {p : Profile} :
    s.Refreshing draws raw deviceKey (some p.id) (do
      let access ← s.issueAccess p
      let renewed ← Session.renew s.issuer s.refreshLifetime draws deviceKey p.id raw
      return .tokens ⟨access, some renewed⟩) := by
  rw [issueAccess_eq]
  refine .reading (fun t ht => ?_) fun t h => ?_
  · show Program.bind ((s.issuer.issue? p t).elim _ _) _ ≠ _
    obtain ⟨access, hi⟩ := issue?_isSome ht p
    rw [hi]
    exact fun h => by cases h
  · change Program.bind ((s.issuer.issue? p t).elim _ _) _ ≠ _ at h
    show s.Refreshing _ _ _ _ (Program.bind ((s.issuer.issue? p t).elim _ _) _)
    cases hi : s.issuer.issue? p t with
    | none => rw [hi] at h; exact absurd rfl h
    | some access => exact refreshing_storeDrawn

/-- A call of a refresh whose arguments are not blank begins with its first stage. -/
theorem refreshing_perform (s : Service) (draws : Draws) (hr : Text.isBlank raw = false)
    (hd : Text.isBlank deviceKey = false) :
    s.Refreshing draws raw deviceKey none (s.perform (.refresh draws raw deviceKey)) := by
  simp only [perform, refresh, require, hr, hd, bind_assoc, pure_bind]
  refine .validating rfl fun userId => .lookingUp rfl fun a ha => ?_
  subst ha
  refine .reading (fun t _ h => by cases h) fun t _ => ?_
  exact refreshing_issueAccess (p := a.profileAt t)

/-! ## Steps -/

/-- What becomes of a refresh with its next step: it goes on, it is rejected at one of its store
calls, it runs out of the calendar, or it renews the token. -/
inductive Proceeds (s : Service) (draws : Draws) (raw deviceKey : String) (now : Instant)
    (store : Store) : Option String → Program Result → Store → Prop
  | onward {owner owner' p} (refreshing : s.Refreshing draws raw deviceKey owner' p)
      (owner_eq : owner' = owner ∨
        owner = none ∧ owner' = store.ownerOf deviceKey (s.issuer.hashToken raw) now) :
      Proceeds s draws raw deviceKey now store owner p store
  | unknown (none_valid : store.ownerOf deviceKey (s.issuer.hashToken raw) now = none) :
      Proceeds s draws raw deviceKey now store none (.fail .badRefreshToken) store
  | absent {userId} (gone : store.accountById userId = none) :
      Proceeds s draws raw deviceKey now store (some userId) (.fail .badRefreshToken) store
  | refused {userId} (lost : store.holds userId deviceKey (s.issuer.hashToken raw) now = false) :
      Proceeds s draws raw deviceKey now store (some userId) (.fail .badRefreshToken) store
  | overflowed {owner} (outside : ¬ s.InCalendar now) :
      Proceeds s draws raw deviceKey now store owner .overflow store
  | renewed {userId access expiresAt}
      (held : store.holds userId deviceKey (s.issuer.hashToken raw) now = true) :
      Proceeds s draws raw deviceKey now store (some userId)
        (.done (.tokens ⟨access, some draws.token⟩))
        (store.rotated
          (s.rotationOf (.refresh draws raw deviceKey) draws userId deviceKey expiresAt) now)

theorem refreshing_advance {owner : Option String} {p : Program Result}
    (h : s.Refreshing draws raw deviceKey owner p) (now : Instant) (store : Store) :
    s.Proceeds draws raw deviceKey now store owner (p.advance now store).1
      (p.advance now store).2 := by
  cases h with
  | @validating k unknown known =>
    show s.Proceeds _ _ _ _ _ _
      (k (.ok (store.ownerOf deviceKey (s.issuer.hashToken raw) now))) store
    cases howner : store.ownerOf deviceKey (s.issuer.hashToken raw) now with
    | none => rw [unknown]; exact .unknown howner
    | some userId => exact .onward (known userId) (Or.inr ⟨rfl, howner.symm⟩)
  | @lookingUp userId k absent present =>
    show s.Proceeds _ _ _ _ _ _ (k (.ok (store.accountById userId))) store
    cases hfound : store.accountById userId with
    | none => rw [absent]; exact .absent hfound
    | some a => exact .onward (present a (Store.accountById_some hfound).2.1) (Or.inl rfl)
  | @reading userId k answers next =>
    show s.Proceeds _ _ _ _ _ _ (k now) store
    by_cases hk : k now = .overflow
    · rw [hk]
      exact .overflowed fun hc => answers now hc hk
    · exact .onward (next now hk) (Or.inl rfl)
  | @renewing userId access expiresAt k refused renewed =>
    rcases rotate_rotationOf s (.refresh draws raw deviceKey) draws userId deviceKey expiresAt now
      store with ⟨hr, held⟩ | ⟨hr, raw', hraw, lost⟩
    · rw [Program.advance_rotate_ok hr, renewed]
      exact .renewed (held raw rfl)
    · rw [Program.advance_rotate_error hr, refused]
      cases hraw
      exact .refused lost

/-! ## Whole runs -/

/-- A refresh within the calendar renews the token or rejects it, and it rejects none that belongs
to a live account and holds. -/
theorem run_of_refreshing {owner : Option String} {p : Program Result}
    (h : s.Refreshing draws raw deviceKey owner p) {now : Instant} (hc : s.InCalendar now)
    (store : Store) :
    (∃ access, (p.run now store).1 = .ok (.tokens ⟨access, some draws.token⟩)) ∨
    (p.run now store).1 = .error .badRefreshToken ∧
      ∀ userId, (owner = none ∨ owner = some userId) →
        store.ownerOf deviceKey (s.issuer.hashToken raw) now = some userId →
        (store.accountById userId).isSome →
        store.holds userId deviceKey (s.issuer.hashToken raw) now = false := by
  -- nothing is stored before the renewal, so all stages see the one store
  induction h with
  | @validating k unknown known ih =>
    show (∃ access, ((k (.ok (store.ownerOf deviceKey (s.issuer.hashToken raw) now))).run now
      store).1 = _) ∨ ((k (.ok (store.ownerOf _ _ _))).run now store).1 = _ ∧ _
    cases howner : store.ownerOf deviceKey (s.issuer.hashToken raw) now with
    | none =>
      rw [unknown]
      exact Or.inr ⟨rfl, fun _ _ hsome => by cases hsome⟩
    | some userId =>
      rcases ih userId with hok | ⟨herror, hlost⟩
      · exact Or.inl hok
      · refine Or.inr ⟨herror, fun u _ hu => ?_⟩
        cases hu
        exact hlost userId (Or.inr rfl) howner
  | @lookingUp userId k absent present ih =>
    show (∃ access, ((k (.ok (store.accountById userId))).run now store).1 = _) ∨
      ((k (.ok (store.accountById userId))).run now store).1 = _ ∧ _
    cases hfound : store.accountById userId with
    | none =>
      rw [absent]
      refine Or.inr ⟨rfl, fun u hu _ hlive => ?_⟩
      rcases hu with hu | hu <;> cases hu
      rw [hfound] at hlive
      cases hlive
    | some a => exact ih a (Store.accountById_some hfound).2.1
  | @reading userId k answers next ih => exact ih now (answers now hc)
  | @renewing userId access expiresAt k refused renewed =>
    rw [← Program.run_advance]
    rcases rotate_rotationOf s (.refresh draws raw deviceKey) draws userId deviceKey expiresAt now
      store with ⟨hr, -⟩ | ⟨hr, raw', hraw, lost⟩
    · rw [Program.advance_rotate_ok hr, renewed]
      exact Or.inl ⟨access, rfl⟩
    · rw [Program.advance_rotate_error hr, refused]
      cases hraw
      refine Or.inr ⟨rfl, fun u hu _ _ => ?_⟩
      rcases hu with hu | hu <;> cases hu
      exact lost

/-! ## Ends -/

variable {shown : Instant → Prop} {store store' : Store} {o : Outcome Result}

/-- A refresh that is left to itself within the calendar renews the token, or it is rejected and
nothing is written: whatever stage it is rejected at, and though the clock goes on between them. -/
theorem ends_of_refreshing {owner : Option String} {p : Program Result}
    (h : s.Refreshing draws raw deviceKey owner p) (hc : ∀ t, shown t → s.InCalendar t)
    (he : p.Ends shown store o store') :
    (∃ access, o = .ok (.tokens ⟨access, some draws.token⟩)) ∨
      o = .error .badRefreshToken ∧ store' = store := by
  induction h with
  | @validating k unknown known ih =>
    obtain ⟨t, -, next⟩ := ends_call_iff.1 he
    change (k (.ok (store.ownerOf deviceKey (s.issuer.hashToken raw) t))).Ends _ store _ _ at next
    cases howner : store.ownerOf deviceKey (s.issuer.hashToken raw) t with
    | none =>
      rw [howner, unknown] at next
      cases next
      exact Or.inr ⟨rfl, rfl⟩
    | some userId =>
      rw [howner] at next
      exact ih userId next
  | @lookingUp userId k absent present ih =>
    obtain ⟨t, -, next⟩ := ends_call_iff.1 he
    change (k (.ok (store.accountById userId))).Ends _ store _ _ at next
    cases hfound : store.accountById userId with
    | none =>
      rw [hfound, absent] at next
      cases next
      exact Or.inr ⟨rfl, rfl⟩
    | some a =>
      rw [hfound] at next
      exact ih a (Store.accountById_some hfound).2.1 next
  | @reading userId k answers next ih =>
    obtain ⟨t, shows, hnext⟩ := ends_clock_iff.1 he
    exact ih t (answers t (hc t shows)) hnext
  | @renewing userId access expiresAt k refused renewed =>
    obtain ⟨t, -, next⟩ := ends_advance rfl he
    rcases rotate_rotationOf s (.refresh draws raw deviceKey) draws userId deviceKey expiresAt t
      store with ⟨hr, -⟩ | ⟨hr, -⟩
    · rw [advance_rotate_ok hr, renewed] at next
      cases next
      exact Or.inl ⟨access, rfl⟩
    · rw [advance_rotate_error hr, refused] at next
      cases next
      exact Or.inr ⟨rfl, rfl⟩

/-- A token whose row is never worth anything while the clock shows instants of `shown` is rejected
before anything is written. -/
theorem ends_of_unvouched (hr : Text.isBlank raw = false) (hd : Text.isBlank deviceKey = false)
    (hnone : ∀ t, shown t →
      (store.ownerOf deviceKey (s.issuer.hashToken raw) t).bind store.accountById = none)
    (he : (s.perform (.refresh draws raw deviceKey)).Ends shown store o store') :
    o = .error .badRefreshToken ∧ store' = store := by
  simp only [perform, refresh, require, hr, hd, bind_assoc, pure_bind] at he
  obtain ⟨t, shows, next⟩ := ends_call_iff.1 he
  have hnone := hnone t shows
  cases howner : store.ownerOf deviceKey (s.issuer.hashToken raw) t with
  | none =>
    simp only [Store.apply, howner] at next
    cases next
    exact ⟨rfl, rfl⟩
  | some userId =>
    rw [howner, Option.bind_some] at hnone
    simp only [Store.apply, howner] at next
    obtain ⟨t', -, next⟩ := ends_call_iff.1 next
    simp only [Store.apply, hnone] at next
    cases next
    exact ⟨rfl, rfl⟩

end Service

end Latchkey
