/-
How numbers are spelled: a minus sign or none, digits without a zero in front of others, a fraction
and an exponent. A number that is spelled is scanned up to where it ends (`scan_spelled`), and what
is scanned was spelled (`exists_spells_of_scan`).
-/
import Latchkey.Json.Numeral
import Latchkey.Proofs.Digest.Bytes

namespace Latchkey.Json.Numeral

/-! ## Spelling -/

/-- The byte of a digit. -/
def digitByte (d : Nat) : UInt8 := UInt8.ofNat (48 + d)

/-- One or more decimal digits. -/
structure AreDigits (ds : List Nat) : Prop where
  ne_nil : ds ≠ []
  lt : ∀ d ∈ ds, d < 10

inductive SpellsFraction : Option (List Nat) → Bytes → Prop
  | none : SpellsFraction none []
  | some {ds : List Nat} (areDigits : AreDigits ds) :
      SpellsFraction (some ds) (0x2E :: ds.map digitByte)

/-- The signs of an exponent, and whether they make it negative. -/
def signs : List (Bool × Bytes) := [(false, []), (false, [0x2B]), (true, [0x2D])]

inductive SpellsExponent : Option (Bool × List Nat) → Bytes → Prop
  | none : SpellsExponent none []
  | some {mark : UInt8} {negative : Bool} {sign : Bytes} {ds : List Nat}
      (isMark : mark = 0x65 ∨ mark = 0x45) (isSign : (negative, sign) ∈ signs)
      (areDigits : AreDigits ds) :
      SpellsExponent (some (negative, ds)) (mark :: (sign ++ ds.map digitByte))

/-- The minus sign of a negative number. -/
def minusSign (negative : Bool) : Bytes := if negative then [0x2D] else []

/-- How a number may be spelled. -/
inductive Spells : Numeral → Bytes → Prop
  | mk {negative : Bool} {whole : List Nat} {fraction : Option (List Nat)}
      {exponent : Option (Bool × List Nat)} {behindPoint behindMark : Bytes}
      (areDigits : AreDigits whole) (noLeadingZero : ∀ ds, whole = 0 :: ds → ds = [])
      (isFraction : SpellsFraction fraction behindPoint)
      (isExponent : SpellsExponent exponent behindMark) :
      Spells ⟨negative, whole, fraction, exponent⟩
        (minusSign negative ++ (whole.map digitByte ++ (behindPoint ++ behindMark)))

/-- What follows does not go on with digits. -/
def EndsDigits (rest : Bytes) : Prop := ∀ b ∈ rest.head?, digit? b = none

/-- What follows does not go on with a number: it begins with neither a digit, nor a point, nor the
mark of an exponent. -/
def EndsNumber (rest : Bytes) : Prop :=
  ∀ b ∈ rest.head?, digit? b = none ∧ b ≠ 0x2E ∧ b ≠ 0x65 ∧ b ≠ 0x45

variable {bs rest : Bytes} {ds : List Nat}

theorem EndsNumber.endsDigits (h : EndsNumber rest) : EndsDigits rest := fun b hb => (h b hb).1

/-! ## Digits -/

theorem digit?_digitByte : ∀ d < 10, digit? (digitByte d) = some d := by decide

theorem digit?_eq_some {b : UInt8} {d : Nat} (h : digit? b = some d) : d < 10 ∧ b = digitByte d := by
  have hof : ∀ b : UInt8, ∀ d ∈ digit? b, d < 10 ∧ b = digitByte d :=
    Bytes.forall_of_lt (by decide +kernel)
  exact hof b d h

theorem spanDigits_of_endsDigits (h : EndsDigits rest) : spanDigits rest = ([], rest) := by
  cases rest with
  | nil => rfl
  | cons b rest => rw [spanDigits, h b rfl]

theorem spanDigits_append (hds : ∀ d ∈ ds, d < 10) (h : EndsDigits rest) :
    spanDigits (ds.map digitByte ++ rest) = (ds, rest) := by
  induction ds with
  | nil => exact spanDigits_of_endsDigits h
  | cons d ds ih =>
    rw [List.map_cons, List.cons_append, spanDigits, digit?_digitByte d (hds d List.mem_cons_self),
      ih fun d' hd' => hds d' (List.mem_cons_of_mem d hd')]

theorem digits_append (hds : AreDigits ds) (h : EndsDigits rest) :
    digits (ds.map digitByte ++ rest) = .ok (ds, rest) := by
  rw [digits, spanDigits_append hds.lt h]
  cases ds with
  | nil => exact absurd rfl hds.ne_nil
  | cons d ds => rfl

theorem eq_append_of_spanDigits (bs : Bytes) :
    bs = (spanDigits bs).1.map digitByte ++ (spanDigits bs).2 ∧
      ∀ d ∈ (spanDigits bs).1, d < 10 := by
  induction bs with
  | nil => simp [spanDigits]
  | cons b bs ih =>
    rw [spanDigits]
    cases hb : digit? b with
    | none => simp
    | some d =>
      obtain ⟨hd, rfl⟩ := digit?_eq_some hb
      refine ⟨congrArg (digitByte d :: ·) ih.1, fun d' hd' => ?_⟩
      rcases List.mem_cons.1 hd' with rfl | hd'
      · exact hd
      · exact ih.2 d' hd'

theorem eq_append_of_digits (h : digits bs = .ok (ds, rest)) :
    bs = ds.map digitByte ++ rest ∧ AreDigits ds := by
  obtain ⟨heq, hlt⟩ := eq_append_of_spanDigits bs
  unfold digits at h
  split at h
  · contradiction
  · contradiction
  · rename_i hnil hcons
    injection h with h
    rw [h] at heq hlt hnil hcons
    refine ⟨heq, fun hds => ?_, hlt⟩
    cases rest with
    | nil => exact hnil (by rw [hds])
    | cons b rest => exact hcons b rest (by rw [hds])

/-! ## The parts of a number -/

theorem wholeDigits_append (hds : AreDigits ds) (hzero : ∀ more, ds = 0 :: more → more = [])
    (h : EndsDigits rest) : wholeDigits (ds.map digitByte ++ rest) = .ok (ds, rest) := by
  rw [wholeDigits, digits_append hds h]
  simp only [bind, Except.bind]
  split
  · exact absurd (hzero _ rfl) (List.cons_ne_nil _ _)
  · rfl

theorem eq_append_of_wholeDigits (h : wholeDigits bs = .ok (ds, rest)) :
    bs = ds.map digitByte ++ rest ∧ AreDigits ds ∧ ∀ more, ds = 0 :: more → more = [] := by
  simp only [wholeDigits, bind, Except.bind] at h
  split at h
  · contradiction
  · rename_i found hfound
    obtain ⟨ds', rest'⟩ := found
    obtain ⟨rfl, hdigits⟩ := eq_append_of_digits hfound
    split at h
    · contradiction
    · rename_i hzero
      cases h
      refine ⟨rfl, hdigits, fun more hmore => ?_⟩
      cases more with
      | nil => rfl
      | cons d more => exact absurd hmore (hzero d more)

theorem fractionDigits_append {fraction : Option (List Nat)} (hf : SpellsFraction fraction bs)
    (h : EndsDigits rest) (hpoint : ∀ b ∈ rest.head?, b ≠ 0x2E) :
    fractionDigits (bs ++ rest) = .ok (fraction, rest) := by
  cases hf with
  | none =>
    rw [List.nil_append]
    unfold fractionDigits
    split
    · exact absurd rfl (hpoint _ rfl)
    · rfl
  | some areDigits =>
    rw [List.cons_append, fractionDigits, digits_append areDigits h]
    rfl

theorem eq_append_of_fractionDigits {fraction : Option (List Nat)}
    (h : fractionDigits bs = .ok (fraction, rest)) :
    ∃ spelled, bs = spelled ++ rest ∧ SpellsFraction fraction spelled := by
  unfold fractionDigits at h
  split at h
  · simp only [bind, Except.bind, pure, Except.pure] at h
    split at h
    · contradiction
    · rename_i found hfound
      cases h
      obtain ⟨rfl, hdigits⟩ := eq_append_of_digits hfound
      exact ⟨_, rfl, .some hdigits⟩
  · cases h
    exact ⟨[], rfl, .none⟩

theorem sign_append {negative : Bool} {sign : Bytes} (hs : (negative, sign) ∈ signs)
    (hds : AreDigits ds) (rest : Bytes) :
    Numeral.sign (sign ++ (ds.map digitByte ++ rest)) = (negative, ds.map digitByte ++ rest) := by
  obtain ⟨d, ds, rfl⟩ := List.exists_cons_of_ne_nil hds.ne_nil
  have hbyte : ∀ d < 10, digitByte d ≠ 0x2B ∧ digitByte d ≠ 0x2D := by decide
  obtain ⟨hplus, hminus⟩ := hbyte d (hds.lt d List.mem_cons_self)
  simp only [signs, List.mem_cons, Prod.mk.injEq, List.not_mem_nil, or_false] at hs
  rcases hs with ⟨rfl, rfl⟩ | ⟨rfl, rfl⟩ | ⟨rfl, rfl⟩
  · simp [Numeral.sign, minus, hplus, hminus]
  · rfl
  · rfl

theorem eq_append_of_sign (bs : Bytes) :
    ∃ sign, bs = sign ++ (Numeral.sign bs).2 ∧ ((Numeral.sign bs).1, sign) ∈ signs := by
  unfold Numeral.sign
  split
  · exact ⟨[0x2B], rfl, by simp [signs]⟩
  · unfold minus
    split
    · exact ⟨[0x2D], rfl, by simp [signs]⟩
    · exact ⟨[], rfl, by simp [signs]⟩

theorem exponentDigits_append {exponent : Option (Bool × List Nat)}
    (he : SpellsExponent exponent bs) (h : EndsNumber rest) :
    exponentDigits (bs ++ rest) = .ok (exponent, rest) := by
  cases he with
  | none =>
    cases rest with
    | nil => rfl
    | cons b rest =>
      obtain ⟨-, -, hlower, hupper⟩ := h b rfl
      rw [List.nil_append, exponentDigits, if_neg (not_or.2 ⟨hlower, hupper⟩)]
  | some isMark isSign areDigits =>
    rw [List.cons_append, exponentDigits, if_pos isMark, List.append_assoc,
      sign_append isSign areDigits]
    simp only [bind, Except.bind, digits_append areDigits h.endsDigits]
    rfl

theorem eq_append_of_exponentDigits {exponent : Option (Bool × List Nat)}
    (h : exponentDigits bs = .ok (exponent, rest)) :
    ∃ spelled, bs = spelled ++ rest ∧ SpellsExponent exponent spelled := by
  unfold exponentDigits at h
  split at h
  · rename_i b more
    split at h
    · rename_i hmark
      simp only [bind, Except.bind, pure, Except.pure] at h
      split at h
      · contradiction
      · rename_i found hfound
        cases h
        obtain ⟨sign, hmore, hsign⟩ := eq_append_of_sign more
        obtain ⟨hrest, hdigits⟩ := eq_append_of_digits hfound
        refine ⟨b :: (sign ++ found.1.map digitByte), ?_, .some hmark hsign hdigits⟩
        rw [List.cons_append, List.append_assoc, ← hrest, ← hmore]
    · cases h
      exact ⟨[], rfl, .none⟩
  · cases h
    exact ⟨[], rfl, .none⟩

theorem minus_append (negative : Bool) (hds : AreDigits ds) (rest : Bytes) :
    minus (minusSign negative ++ (ds.map digitByte ++ rest)) =
      (negative, ds.map digitByte ++ rest) := by
  obtain ⟨d, ds, rfl⟩ := List.exists_cons_of_ne_nil hds.ne_nil
  have hbyte : ∀ d < 10, digitByte d ≠ 0x2D := by decide
  have hminus := hbyte d (hds.lt d List.mem_cons_self)
  cases negative with
  | false => simp [minusSign, minus, hminus]
  | true => rfl

theorem eq_append_of_minus (bs : Bytes) : bs = minusSign (minus bs).1 ++ (minus bs).2 := by
  unfold minus
  split <;> rfl

/-! ## Numbers -/

/-- The byte of a minus sign or a digit. -/
def BeginsNumber (b : UInt8) : Prop := b = 0x2D ∨ ∃ d < 10, b = digitByte d

theorem Spells.eq_cons {n : Numeral} (h : n.Spells bs) :
    ∃ b more, bs = b :: more ∧ BeginsNumber b := by
  obtain ⟨areDigits, -, -, -⟩ := h
  rename_i negative whole _ _ _ _
  obtain ⟨d, ds, rfl⟩ := List.exists_cons_of_ne_nil areDigits.ne_nil
  cases negative with
  | false => exact ⟨_, _, rfl, Or.inr ⟨d, areDigits.lt d List.mem_cons_self, rfl⟩⟩
  | true => exact ⟨_, _, rfl, Or.inl rfl⟩

/-- A number that is spelled is scanned up to where it ends. -/
theorem scan_spelled {n : Numeral} (hn : n.Spells bs) (h : EndsNumber rest) :
    scan (bs ++ rest) = .ok (n, rest) := by
  obtain ⟨areDigits, noLeadingZero, isFraction, isExponent⟩ := hn
  rename_i behindPoint behindMark
  -- the mark of an exponent goes on with neither digits nor a fraction
  have hmark : digit? 0x65 = none ∧ digit? 0x45 = none := by decide
  have hexponent : ∀ b ∈ (behindMark ++ rest).head?, digit? b = none ∧ b ≠ 0x2E := by
    cases isExponent with
    | none => exact fun b hb => ⟨(h b hb).1, (h b hb).2.1⟩
    | some isMark _ _ =>
      rintro b ⟨⟩
      rcases isMark with rfl | rfl
      · exact ⟨hmark.1, by decide⟩
      · exact ⟨hmark.2, by decide⟩
  have hfraction : EndsDigits (behindPoint ++ (behindMark ++ rest)) := by
    cases isFraction with
    | none => exact fun b hb => (hexponent b hb).1
    | some _ =>
      rintro b ⟨⟩
      decide
  rw [List.append_assoc, List.append_assoc, List.append_assoc]
  simp only [scan, bind, Except.bind, pure, Except.pure, minus_append _ areDigits,
    wholeDigits_append areDigits noLeadingZero hfraction,
    fractionDigits_append isFraction (fun b hb => (hexponent b hb).1)
      fun b hb => (hexponent b hb).2,
    exponentDigits_append isExponent h]

/-- What is scanned was spelled. -/
theorem exists_spells_of_scan {n : Numeral} (h : scan bs = .ok (n, rest)) :
    ∃ spelled, bs = spelled ++ rest ∧ n.Spells spelled := by
  have hminus := eq_append_of_minus bs
  simp only [scan, bind, Except.bind, pure, Except.pure] at h
  split at h
  · contradiction
  · rename_i whole hwhole
    split at h
    · contradiction
    · rename_i fraction hfraction
      split at h
      · contradiction
      · rename_i exponent hexponent
        cases h
        obtain ⟨hbs, hdigits, hzero⟩ := eq_append_of_wholeDigits hwhole
        obtain ⟨f, hf, hspellsFraction⟩ := eq_append_of_fractionDigits hfraction
        obtain ⟨e, he, hspellsExponent⟩ := eq_append_of_exponentDigits hexponent
        refine ⟨_, ?_, .mk hdigits hzero hspellsFraction hspellsExponent⟩
        rw [hbs, hf, he] at hminus
        simp only [List.append_assoc]
        exact hminus

end Latchkey.Json.Numeral
