/-
What readers take off the front of the tokens. A reader takes a value if it reads it whatever
follows (`Reader.Takes`), and it is sound if all that it ever reads are documents that it takes
(`Reader.Sound`); the readers of scalars, lists of texts and values of any kind are sound.
-/
import Latchkey.Json.Record
import Latchkey.Proofs.Json.Document

namespace Latchkey.Json

open Document (elementTokens moreElements)

theorem exists_of_bind_ok {ε α β : Type} {x : Except ε α} {f : α → Except ε β} {b : β}
    (h : x >>= f = .ok b) : ∃ a, x = .ok a ∧ f a = .ok b := by
  cases x with
  | error e => contradiction
  | ok a => exact ⟨a, rfl, h⟩

theorem ofExcept_eq_ok {α : Type} {x : Except Fault α} {a : α} (h : ofExcept x = .ok a) :
    x = .ok a := by
  cases x with
  | error fault => contradiction
  | ok b => cases h; rfl

theorem mismatch_ne_ok {α : Type} (wanted : Wanted) (t : Token) (a : α) :
    mismatch wanted t ≠ .ok a := by
  intro h
  obtain ⟨_, -, h⟩ := exists_of_bind_ok h
  contradiction

/-- A text that can be read can be skimmed, too. -/
def Token.IsHonest (t : Token) : Prop := ∀ s fault, t ≠ .text (.ok s) (some fault)

theorem Token.IsHonest.broken_eq {s : String} {broken : Option Fault}
    (h : Token.IsHonest (.text (.ok s) broken)) : broken = none := by
  cases broken with
  | none => rfl
  | some fault => exact absurd rfl (h s fault)

/-- Every text that can be read can be skimmed. -/
def Honest (ts : List Token) : Prop := ∀ t ∈ ts, t.IsHonest

theorem Honest.tail {t : Token} {ts : List Token} (h : Honest (t :: ts)) : Honest ts :=
  fun u hu => h u (List.mem_cons_of_mem t hu)

theorem Honest.of_append {ts us : List Token} (h : Honest (ts ++ us)) : Honest us :=
  fun u hu => h u (List.mem_append_right ts hu)

/-! ## Passing over values -/

section

variable {manner : Manner} {stage : Stage} {stack : List Frame} {t : Token} {ts rest : List Token}

theorem skip_nil (h : ¬ (stage = .after ∧ stack = [])) :
    skip manner stage stack [] = .error (Skip.endFault manner stage stack) := by
  cases stage <;> cases stack <;> first | rfl | exact absurd ⟨rfl, rfl⟩ h

theorem skip_cons (h : ¬ (stage = .after ∧ stack = [])) (t : Token) (ts : List Token) :
    skip manner stage stack (t :: ts) =
      match Skip.step manner stage stack t with
      | .ok (stage, stack) => skip manner stage stack ts
      | .error fault => .error fault := by
  cases stage <;> cases stack <;> first | rfl | exact absurd ⟨rfl, rfl⟩ h

/-- What is passed over ends somewhere, and what follows does not matter. -/
theorem exists_append_of_skip (h : skip manner stage stack ts = .ok rest) :
    ∃ front, ts = front ++ rest ∧
      ∀ rest', skip manner stage stack (front ++ rest') = .ok rest' := by
  induction ts generalizing stage stack with
  | nil =>
    by_cases hdone : stage = .after ∧ stack = []
    · obtain ⟨rfl, rfl⟩ := hdone
      cases h
      exact ⟨[], rfl, skip_done manner⟩
    · rw [skip_nil hdone] at h
      contradiction
  | cons t ts ih =>
    by_cases hdone : stage = .after ∧ stack = []
    · obtain ⟨rfl, rfl⟩ := hdone
      cases h
      exact ⟨[], rfl, skip_done manner⟩
    · rw [skip_cons hdone] at h
      split at h
      · rename_i stage' stack' hstep
        obtain ⟨front, rfl, hfront⟩ := ih h
        refine ⟨t :: front, rfl, fun rest' => ?_⟩
        rw [List.cons_append, skip_cons hdone, hstep]
        exact hfront rest'
      · contradiction

theorem atValue_lenient {depth : Nat} {next : Stage × List Frame} (ht : t.IsHonest)
    (h : Skip.atValue (.strict depth) stack t = .ok next) :
    Skip.atValue .lenient stack t = .ok next := by
  cases t with
  | text value broken =>
    cases value with
    | error fault => contradiction
    | ok s =>
      cases ht.broken_eq
      exact h
  | number numeral =>
    cases numeral with
    | error fault => contradiction
    | ok n =>
      simp only [Skip.atValue, Skip.numberFault] at h
      split at h
      · exact h
      · contradiction
  | literal value => cases value <;> exact h
  | openList =>
    simp only [Skip.atValue, Skip.openFrame] at h
    split at h
    · contradiction
    · exact h
  | openObject =>
    simp only [Skip.atValue, Skip.openFrame] at h
    split at h
    · contradiction
    · exact h
  | _ => contradiction

theorem atKey_lenient {depth : Nat} {next : Stage × List Frame} (ht : t.IsHonest)
    (h : Skip.atKey (.strict depth) stack t = .ok next) :
    Skip.atKey .lenient stack t = .ok next := by
  cases t with
  | text value broken =>
    cases value with
    | error fault => contradiction
    | ok s =>
      cases ht.broken_eq
      exact h
  | _ => contradiction

/-- Anything but a closing bracket is taken as a value. -/
theorem step_of_ne_closeList (h : t ≠ .closeList) (manner : Manner) (stack : List Frame) :
    Skip.step manner .listStart stack t = Skip.atValue manner stack t ∧
      Skip.step manner .listNext stack t = Skip.atValue manner stack t := by
  cases t with
  | closeList => contradiction
  | _ => exact ⟨rfl, rfl⟩

/-- Anything but a closing brace is taken as a key. -/
theorem step_of_ne_closeObject (h : t ≠ .closeObject) (manner : Manner) (stack : List Frame) :
    Skip.step manner .objectStart stack t = Skip.atKey manner stack t ∧
      Skip.step manner .objectNext stack t = Skip.atKey manner stack t := by
  cases t with
  | closeObject => contradiction
  | _ => exact ⟨rfl, rfl⟩

theorem step_lenient {depth : Nat} {next : Stage × List Frame} (ht : t.IsHonest)
    (h : Skip.step (.strict depth) stage stack t = .ok next) :
    Skip.step .lenient stage stack t = .ok next := by
  cases stage with
  | value => exact atValue_lenient ht h
  | listStart =>
    by_cases hclose : t = .closeList
    · subst hclose
      exact h
    · rw [(step_of_ne_closeList hclose _ stack).1] at h ⊢
      exact atValue_lenient ht h
  | listNext =>
    by_cases hclose : t = .closeList
    · subst hclose
      contradiction
    · rw [(step_of_ne_closeList hclose _ stack).2] at h ⊢
      exact atValue_lenient ht h
  | objectStart =>
    by_cases hclose : t = .closeObject
    · subst hclose
      exact h
    · rw [(step_of_ne_closeObject hclose _ stack).1] at h ⊢
      exact atKey_lenient ht h
  | objectNext =>
    by_cases hclose : t = .closeObject
    · subst hclose
      contradiction
    · rw [(step_of_ne_closeObject hclose _ stack).2] at h ⊢
      exact atKey_lenient ht h
  | colon => cases t <;> exact h
  | after =>
    cases stack with
    | nil => exact h
    | cons frame stack => cases frame <;> cases t <;> exact h

/-- A value that is passed over strictly can be passed over leniently. -/
theorem skip_lenient_of_strict {depth : Nat} (hts : Honest ts)
    (h : skip (.strict depth) stage stack ts = .ok rest) :
    skip .lenient stage stack ts = .ok rest := by
  induction ts generalizing stage stack with
  | nil =>
    by_cases hdone : stage = .after ∧ stack = []
    · obtain ⟨rfl, rfl⟩ := hdone
      exact h
    · rw [skip_nil hdone] at h
      contradiction
  | cons t ts ih =>
    by_cases hdone : stage = .after ∧ stack = []
    · obtain ⟨rfl, rfl⟩ := hdone
      exact h
    · rw [skip_cons hdone] at h ⊢
      split at h
      · rename_i stage' stack' hstep
        rw [step_lenient (hts t List.mem_cons_self) hstep]
        exact ih hts.tail h
      · contradiction

end

namespace Reader

/-! ## Taking -/

variable {α β : Type} {read : Reader α} {ts rest : List Token} {a : α}

/-- The reader reads these tokens, whatever follows. -/
def Takes (read : Reader α) (ts : List Token) (a : α) : Prop :=
  ∀ rest, read (ts ++ rest) = .ok (a, rest)

/-- What the reader reads are documents that it takes. -/
def Sound (read : Reader α) : Prop :=
  ∀ ⦃ts rest : List Token⦄ ⦃a : α⦄, Honest ts → read ts = .ok (a, rest) →
    ∃ d : Document, ts = d.tokens ++ rest ∧ read.Takes d.tokens a

theorem Takes.map (h : read.Takes ts a) (f : α → β) : (read.map f).Takes ts (f a) := fun rest => by
  rw [Reader.map, h rest]
  rfl

theorem Sound.map (h : read.Sound) (f : α → β) : (read.map f).Sound := by
  intro ts rest b hts hb
  obtain ⟨⟨a, behind⟩, ha, hb⟩ := exists_of_bind_ok hb
  cases hb
  obtain ⟨d, heq, htakes⟩ := h hts ha
  exact ⟨d, heq, htakes.map f⟩

/-! ## Scalars -/

theorem text_takes (s : String) : text.Takes (Document.text (.ok s)).tokens s := fun _ => rfl

theorem text_sound : text.Sound := by
  intro ts rest s hts h
  unfold text at h
  split at h
  · contradiction
  · obtain ⟨_, hs, h⟩ := exists_of_bind_ok h
    cases h
    cases ofExcept_eq_ok hs
    cases (hts _ List.mem_cons_self).broken_eq
    exact ⟨.text (.ok s), rfl, text_takes s⟩
  · exact absurd h (mismatch_ne_ok _ _ _)

theorem nullable_takes_null (read : Reader α) :
    (nullable read).Takes Document.null.tokens none := fun _ => rfl

/-- What does not begin with `null` is read as it is. -/
theorem nullable_takes {t : Token} (h : read.Takes (t :: ts) a)
    (ht : ∀ value, t = .literal value → ∃ b, value = .ok (some b)) :
    (nullable read).Takes (t :: ts) (some a) := by
  intro rest
  have hread := h rest
  rw [List.cons_append] at hread ⊢
  cases t with
  | literal value =>
    obtain ⟨b, rfl⟩ := ht value rfl
    simp only [nullable, ofExcept, bind, Except.bind, hread]
    rfl
  | _ =>
    simp only [nullable, bind, Except.bind, hread]
    rfl

theorem nullable_sound (h : read.Sound) : (nullable read).Sound := by
  -- behind its first token a value that is no `null` is what `read` takes
  have hvalue : ∀ {t : Token} {ts rest : List Token} {a : α}, Honest (t :: ts) →
      read (t :: ts) = .ok (a, rest) →
      (∀ value, t = .literal value → ∃ b, value = .ok (some b)) →
      ∃ d : Document, t :: ts = d.tokens ++ rest ∧ (nullable read).Takes d.tokens (some a) := by
    intro t ts rest a hts ha ht
    obtain ⟨d, heq, htakes⟩ := h hts ha
    obtain ⟨t', ts', hcons, -⟩ := d.tokens_eq_cons
    rw [hcons] at htakes heq
    obtain ⟨rfl, -⟩ := List.cons.inj heq
    refine ⟨d, hcons ▸ heq, hcons ▸ nullable_takes htakes ht⟩
  intro ts rest a? hts ha
  unfold nullable at ha
  split at ha
  · rename_i value more
    obtain ⟨v, hv, hmore⟩ := exists_of_bind_ok ha
    cases ofExcept_eq_ok hv
    cases v with
    | none =>
      cases hmore
      exact ⟨.null, rfl, nullable_takes_null read⟩
    | some b =>
      obtain ⟨_, hread, heq⟩ := exists_of_bind_ok hmore
      cases heq
      exact hvalue hts hread fun _ hb => ⟨b, (Token.literal.inj hb).symm⟩
  · rename_i hliteral
    obtain ⟨⟨a, behind⟩, ha, heq⟩ := exists_of_bind_ok ha
    cases heq
    cases ts with
    | nil =>
      obtain ⟨d, heq, -⟩ := h hts ha
      obtain ⟨t', ts', hcons, -⟩ := d.tokens_eq_cons
      rw [hcons] at heq
      contradiction
    | cons t ts =>
      exact hvalue hts ha fun value hb => absurd (congrArg (· :: ts) hb) (hliteral value ts)

/-! ## Lists of texts -/

theorem moreTexts_takes (found us : List String) :
    (moreTexts found).Takes (moreElements (us.map fun s => .text (.ok s)))
      (found.reverse ++ us) := by
  induction us generalizing found with
  | nil =>
    rw [List.append_nil]
    exact fun _ => rfl
  | cons s us ih =>
    intro rest
    have := ih (s :: found) rest
    rw [List.reverse_cons, List.append_assoc] at this
    exact this

theorem exists_of_moreTexts {found ss : List String} (hts : Honest ts)
    (h : moreTexts found ts = .ok (ss, rest)) :
    ∃ us, ts = moreElements (us.map fun s => .text (.ok s)) ++ rest ∧ ss = found.reverse ++ us := by
  fun_induction moreTexts found ts with
  | case1 found more =>
    cases h
    exact ⟨[], rfl, (List.append_nil _).symm⟩
  | case2 found value broken more ih =>
    obtain ⟨s, hs, h⟩ := exists_of_bind_ok h
    cases ofExcept_eq_ok hs
    cases (hts.tail _ List.mem_cons_self).broken_eq
    obtain ⟨us, rfl, rfl⟩ := ih s hts.tail.tail h
    exact ⟨s :: us, rfl, by rw [List.reverse_cons, List.append_assoc]; rfl⟩
  | case4 => exact absurd h (mismatch_ne_ok _ _ _)
  | _ => contradiction

theorem texts_takes (us : List String) :
    texts.Takes (Document.list (us.map fun s => .text (.ok s))).tokens us := by
  cases us with
  | nil => exact fun _ => rfl
  | cons s us => exact moreTexts_takes [s] us

theorem texts_sound : texts.Sound := by
  intro ts rest ss hts h
  unfold texts at h
  split at h
  · cases h
    exact ⟨.list [], rfl, texts_takes []⟩
  · rename_i value broken more
    obtain ⟨s, hs, h⟩ := exists_of_bind_ok h
    cases ofExcept_eq_ok hs
    cases (hts.tail _ List.mem_cons_self).broken_eq
    obtain ⟨us, rfl, rfl⟩ := exists_of_moreTexts hts.tail.tail h
    exact ⟨.list ((s :: us).map fun s => .text (.ok s)), rfl, texts_takes (s :: us)⟩
  · exact absurd h (mismatch_ne_ok _ _ _)
  · contradiction
  · contradiction
  · exact absurd h (mismatch_ne_ok _ _ _)

/-! ## Values of any kind -/

theorem ignored_takes (d : Document) : ignored.Takes d.tokens () := fun rest => by
  rw [ignored, skip_tokens, skip_done]
  rfl

theorem ignored_sound : ignored.Sound := by
  intro ts rest _ _ h
  obtain ⟨behind, hskip, h⟩ := exists_of_bind_ok h
  cases h
  obtain ⟨d, rfl⟩ := exists_document_of_skip (ofExcept_eq_ok hskip)
  exact ⟨d, rfl, ignored_takes d⟩

/-- A value that can be kept is kept as its tokens. -/
theorem kept_takes {depth : Nat} {front : List Token}
    (h : ∀ rest, skip (.strict (depthLimit - depth)) .value [] (front ++ rest) = .ok rest) :
    (kept depth).Takes front front := by
  intro rest
  have htake : (front ++ rest).take ((front ++ rest).length - rest.length) = front := by
    rw [List.length_append, Nat.add_sub_cancel, List.take_left]
  rw [kept, h rest]
  show Except.ok (List.take _ _, rest) = _
  rw [htake]

theorem kept_sound (depth : Nat) : (kept depth).Sound := by
  intro ts rest value hts h
  obtain ⟨behind, hskip, -⟩ := exists_of_bind_ok h
  have hskip := ofExcept_eq_ok hskip
  obtain ⟨front, rfl, hfront⟩ := exists_append_of_skip hskip
  obtain ⟨d, hd⟩ := exists_document_of_skip (skip_lenient_of_strict hts hskip)
  cases List.append_cancel_right hd
  have htakes := kept_takes hfront
  rw [htakes behind] at h
  cases h
  exact ⟨d, rfl, htakes⟩

theorem keep_sound (depth : Nat) (key : String) : (keep depth key).Sound :=
  (kept_sound depth).map fun tokens => some (Datum.kept tokens)

end Reader

end Latchkey.Json
