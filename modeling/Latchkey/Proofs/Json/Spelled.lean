/-
How documents are spelled: their tokens stand one after the other, with white space around them.
A text has the tokens of a document just when it spells the document (`Document.spells_iff`).
-/
import Latchkey.Json.Token
import Latchkey.Proofs.Json.Document
import Latchkey.Proofs.Json.SpelledNumeral
import Latchkey.Proofs.Json.SpelledText
import Mathlib.Data.List.Chain
import Mathlib.Data.List.TakeWhile

namespace Latchkey.Json

namespace Token

/-! ## Spelling -/

/-- How a token is spelled. -/
inductive Spells : Token → Bytes → Prop
  | openObject : Spells .openObject [0x7B]
  | closeObject : Spells .closeObject [0x7D]
  | openList : Spells .openList [0x5B]
  | closeList : Spells .closeList [0x5D]
  | colon : Spells .colon [0x3A]
  | comma : Spells .comma [0x2C]
  | text {value : Except Fault String} {inner : Bytes}
      (spells : Quotation.SpellsText value inner) :
      Spells (.text value none) (0x22 :: (inner ++ [0x22]))
  | number {n : Numeral} {bs : Bytes} (spells : n.Spells bs) : Spells (.number (.ok n)) bs
  | null : Spells (.literal (.ok none)) [0x6E, 0x75, 0x6C, 0x6C]
  | yes : Spells (.literal (.ok (some true))) [0x74, 0x72, 0x75, 0x65]
  | no : Spells (.literal (.ok (some false))) [0x66, 0x61, 0x6C, 0x73, 0x65]

/-- White space, or nothing. -/
def IsBlank (bs : Bytes) : Prop := ∀ b ∈ bs, isSpace b = true

/-- How tokens are spelled one after the other. -/
inductive SpellAll : List Token → Bytes → Prop
  | nil {blank : Bytes} (isBlank : IsBlank blank) : SpellAll [] blank
  | cons {t : Token} {ts : List Token} {blank bs rest : Bytes} (isBlank : IsBlank blank)
      (spells : Spells t bs) (others : SpellAll ts rest) :
      SpellAll (t :: ts) (blank ++ (bs ++ rest))

theorem SpellAll.blank_append {ts : List Token} {blank bs : Bytes} (hblank : IsBlank blank)
    (h : SpellAll ts bs) : SpellAll ts (blank ++ bs) := by
  have happend : ∀ {more : Bytes}, IsBlank more → IsBlank (blank ++ more) := fun hmore b hb =>
    (List.mem_append.1 hb).elim (hblank b) (hmore b)
  cases h with
  | nil isBlank => exact .nil (happend isBlank)
  | cons isBlank spells others =>
    rw [← List.append_assoc]
    exact .cons (happend isBlank) spells others

theorem SpellAll.append {ts us : List Token} {bs cs : Bytes} (hts : SpellAll ts bs)
    (hus : SpellAll us cs) : SpellAll (ts ++ us) (bs ++ cs) := by
  induction hts with
  | nil isBlank => exact hus.blank_append isBlank
  | cons isBlank spells _ ih =>
    rw [List.cons_append, List.append_assoc, List.append_assoc]
    exact .cons isBlank spells ih

theorem Spells.spellAll {t : Token} {bs : Bytes} (h : Spells t bs) : SpellAll [t] bs := by
  have hnone : IsBlank [] := nofun
  rw [← List.append_nil bs]
  exact SpellAll.cons hnone h (.nil hnone)

def IsNumber : Token → Prop
  | number _ => True
  | _ => False

/-- A number does not stand directly behind another one. -/
def Apart (ts : List Token) : Prop := ts.IsChain fun t u => t.IsNumber → ¬ u.IsNumber

/-- Nothing is wrong with the token that skipping it would meet. -/
def IsWhole : Token → Prop
  | text _ broken => broken = none
  | number numeral => numeral.isOk
  | literal value => value.isOk
  | stray => False
  | _ => True

/-! ## Scanning token by token -/

variable {t : Token} {ts : List Token} {bs blank rest : Bytes}

theorem scan_eq_append (bs : Bytes) (found : List Token) : scan found bs = found.reverse ++ all bs := by
  induction h : bs.length using Nat.strongRecOn generalizing bs found with
  | ind n ih =>
    unfold all
    rw [scan, scan.eq_def []]
    cases hn : next? bs with
    | none => simp
    | some next =>
      obtain ⟨t, rest⟩ := next
      have hlt := length_lt_of_next? hn
      simp only [ih rest.length (by omega) rest _ rfl]
      simp

theorem all_of_next?_none (h : next? bs = none) : all bs = [] := by
  rw [all, scan]
  split
  · rfl
  · rename_i hsome
    rw [h] at hsome
    contradiction

theorem all_of_next? (h : next? bs = some (t, rest)) : all bs = t :: all rest := by
  rw [all, scan]
  split
  · rename_i hnone
    rw [h] at hnone
    contradiction
  · rename_i t' rest' hsome
    obtain ⟨rfl, rfl⟩ := Prod.mk.inj (Option.some.inj (h.symm.trans hsome))
    exact scan_eq_append rest [t]

/-! ## What is spelled is scanned -/

theorem next?_blank_append (h : IsBlank blank) (bs : Bytes) : next? (blank ++ bs) = next? bs := by
  rw [next?, next?, List.dropWhile_append_of_pos h]

theorem next?_of_blank (h : IsBlank blank) : next? blank = none := by
  rw [← List.append_nil blank, next?_blank_append h]
  rfl

theorem next?_of_beginsNumber {b : UInt8} (h : Numeral.BeginsNumber b) (rest : Bytes) :
    next? (b :: rest) = some (ofNumber (b :: rest)) := by
  have hb : isSpace b = false ∧ b ≠ 0x22 ∧ (b = 0x2D ∨ 0x30 ≤ b ∧ b ≤ 0x39) := by
    have hdigit : ∀ d < 10, isSpace (Numeral.digitByte d) = false ∧ Numeral.digitByte d ≠ 0x22 ∧
      (Numeral.digitByte d = 0x2D ∨ 0x30 ≤ Numeral.digitByte d ∧ Numeral.digitByte d ≤ 0x39) := by
      decide
    rcases h with rfl | ⟨d, hd, rfl⟩
    · decide
    · exact hdigit d hd
  rw [next?, List.dropWhile_cons, hb.1]
  show some (startingWith b rest) = _
  rw [startingWith, if_neg hb.2.1, if_pos hb.2.2]

theorem next?_spelled (h : t.Spells bs) (hend : t.IsNumber → Numeral.EndsNumber rest) :
    next? (bs ++ rest) = some (t, rest) := by
  cases h with
  | text spells =>
    rename_i value inner
    show some (ofText (inner ++ [0x22] ++ rest)) = _
    rw [List.append_assoc, List.singleton_append, ofText, Quotation.skim_loose spells.isLoose,
      Quotation.read_spellsText spells]
  | number spells =>
    obtain ⟨b, more, rfl, hb⟩ := spells.eq_cons
    have hscan := Numeral.scan_spelled spells (hend trivial)
    rw [List.cons_append] at hscan ⊢
    rw [next?_of_beginsNumber hb, ofNumber, hscan]
  | _ => rfl

theorem endsNumber_cons {b : UInt8} (h : Numeral.digit? b = none ∧ b ≠ 0x2E ∧ b ≠ 0x65 ∧ b ≠ 0x45)
    (rest : Bytes) : Numeral.EndsNumber (b :: rest) := by
  rintro _ ⟨⟩
  exact h

theorem endsNumber_blank_append (h : IsBlank blank) (hrest : Numeral.EndsNumber rest) :
    Numeral.EndsNumber (blank ++ rest) := by
  have hspace : ∀ b : UInt8, isSpace b = true →
      Numeral.digit? b = none ∧ b ≠ 0x2E ∧ b ≠ 0x65 ∧ b ≠ 0x45 :=
    Bytes.forall_of_lt (by decide +kernel)
  cases blank with
  | nil => exact hrest
  | cons b blank => exact endsNumber_cons (hspace b (h b List.mem_cons_self)) _

/-- Tokens that do not begin with a number do not go on with one. -/
theorem endsNumber_of_spellAll (h : SpellAll ts bs) (hts : ∀ t ∈ ts.head?, ¬ t.IsNumber) :
    Numeral.EndsNumber bs := by
  cases h with
  | nil isBlank =>
    rw [← List.append_nil bs]
    exact endsNumber_blank_append isBlank nofun
  | cons isBlank spells _ =>
    refine endsNumber_blank_append isBlank ?_
    cases spells with
    | number spells => exact absurd trivial (hts _ rfl)
    | _ => exact endsNumber_cons (by decide) _

/-- Tokens that are spelled one after the other are scanned. -/
theorem all_spelled (h : SpellAll ts bs) (hapart : Apart ts) : all bs = ts := by
  induction h with
  | nil isBlank => exact all_of_next?_none (next?_of_blank isBlank)
  | cons isBlank spells others ih =>
    obtain ⟨hhead, htail⟩ := List.isChain_cons.1 hapart
    have hnext := next?_spelled spells fun ht =>
      endsNumber_of_spellAll others fun u hu => hhead u hu ht
    rw [all_of_next? ((next?_blank_append isBlank _).trans hnext), ih htail]

/-! ## What is scanned was spelled -/

theorem eq_append_of_expect {letters : Bytes} (h : expect letters bs = .ok rest) :
    bs = letters ++ rest := by
  fun_induction expect letters bs with
  | case1 => cases h; rfl
  | case3 l letters more ih => rw [List.cons_append, ← ih h]
  | _ => contradiction

theorem exists_spells_of_ofText (h : ofText bs = (t, rest)) (ht : t.IsWhole) :
    ∃ spelled, 0x22 :: bs = spelled ++ rest ∧ t.Spells spelled := by
  unfold ofText at h
  split at h
  · rename_i more hskim
    cases h
    obtain ⟨inner, rfl, hspells⟩ := Quotation.exists_spellsText_of_skim hskim
    exact ⟨_, by simp, .text hspells⟩
  · cases h
    cases ht

theorem exists_spells_of_ofNumber (h : ofNumber bs = (t, rest)) (ht : t.IsWhole) :
    ∃ spelled, bs = spelled ++ rest ∧ t.Spells spelled := by
  unfold ofNumber at h
  split at h
  · rename_i n more hscan
    cases h
    obtain ⟨spelled, rfl, hspells⟩ := Numeral.exists_spells_of_scan hscan
    exact ⟨spelled, rfl, .number hspells⟩
  · cases h
    cases ht

theorem exists_spells_of_ofLiteral {b : UInt8} {value : Option Bool} {letters : Bytes}
    (hb : literal? b = some (value, letters)) (h : ofLiteral value letters bs = (t, rest))
    (ht : t.IsWhole) : ∃ spelled, b :: bs = spelled ++ rest ∧ t.Spells spelled := by
  unfold ofLiteral at h
  split at h
  · rename_i more hexpect
    cases h
    rw [eq_append_of_expect hexpect]
    refine ⟨b :: letters, rfl, ?_⟩
    unfold literal? at hb
    split at hb
    · rename_i hn; subst hn; cases hb; exact .null
    split at hb
    · rename_i hn; subst hn; cases hb; exact .yes
    split at hb
    · rename_i hn; subst hn; cases hb; exact .no
    · contradiction
  · cases h
    cases ht

theorem spells_of_ofByte? {b : UInt8} (h : ofByte? b = some t) : t.Spells [b] := by
  unfold ofByte? at h
  split at h
  · rename_i hb; subst hb; cases h; exact .openObject
  split at h
  · rename_i hb; subst hb; cases h; exact .closeObject
  split at h
  · rename_i hb; subst hb; cases h; exact .openList
  split at h
  · rename_i hb; subst hb; cases h; exact .closeList
  split at h
  · rename_i hb; subst hb; cases h; exact .colon
  split at h
  · rename_i hb; subst hb; cases h; exact .comma
  · contradiction

theorem exists_spells_of_startingWith {b : UInt8} (h : startingWith b bs = (t, rest))
    (ht : t.IsWhole) : ∃ spelled, b :: bs = spelled ++ rest ∧ t.Spells spelled := by
  unfold startingWith at h
  split at h
  · rename_i hb
    subst hb
    exact exists_spells_of_ofText h ht
  · split at h
    · exact exists_spells_of_ofNumber h ht
    · split at h
      · rename_i hbyte
        cases h
        exact ⟨[b], rfl, spells_of_ofByte? hbyte⟩
      · rename_i hliteral
        exact exists_spells_of_ofLiteral hliteral h ht
      · cases h
        cases ht

/-- A token that is scanned was spelled behind white space. -/
theorem exists_spells_of_next? (h : next? bs = some (t, rest)) (ht : t.IsWhole) :
    ∃ blank spelled, IsBlank blank ∧ bs = blank ++ (spelled ++ rest) ∧ t.Spells spelled := by
  have hsplit := List.takeWhile_append_dropWhile (p := isSpace) (l := bs)
  unfold next? at h
  split at h
  · contradiction
  · rename_i b more hdrop
    obtain ⟨spelled, heq, hspells⟩ := exists_spells_of_startingWith (Option.some.inj h) ht
    refine ⟨bs.takeWhile isSpace, spelled, fun b hb => List.mem_takeWhile_imp hb, ?_, hspells⟩
    rw [← heq, ← hdrop, hsplit]

theorem isBlank_of_next? (h : next? bs = none) : IsBlank bs := by
  unfold next? at h
  split at h
  · rename_i hdrop
    exact List.dropWhile_eq_nil_iff.1 hdrop
  · contradiction

/-- If nothing is wrong with the tokens of a text, they were spelled one after the other. -/
theorem spellAll_all (h : ∀ t ∈ all bs, t.IsWhole) : SpellAll (all bs) bs := by
  induction hlen : bs.length using Nat.strongRecOn generalizing bs with
  | ind n ih =>
    cases hnext : next? bs with
    | none =>
      rw [all_of_next?_none hnext]
      exact .nil (isBlank_of_next? hnext)
    | some next =>
      obtain ⟨t, rest⟩ := next
      have hlt := length_lt_of_next? hnext
      rw [all_of_next? hnext] at h ⊢
      obtain ⟨blank, spelled, hblank, rfl, hspells⟩ :=
        exists_spells_of_next? hnext (h t List.mem_cons_self)
      exact .cons hblank hspells
        (ih rest.length (hlen ▸ hlt) (fun u hu => h u (List.mem_cons_of_mem t hu)) rfl)

end Token

/-! ## Documents -/

namespace Token

/-- The tokens are what their spelling is scanned to. -/
structure CanBeSpelled (ts : List Token) : Prop where
  isWhole : ∀ t ∈ ts, t.IsWhole
  apart : Apart ts

variable {t : Token} {ts us : List Token}

theorem canBeSpelled_singleton (h : t.IsWhole) : CanBeSpelled [t] :=
  ⟨fun _ hu => List.mem_singleton.1 hu ▸ h, List.isChain_singleton t⟩

theorem CanBeSpelled.cons (hts : CanBeSpelled ts) (h : t.IsWhole) (hnumber : ¬ t.IsNumber) :
    CanBeSpelled (t :: ts) where
  isWhole u hu := by
    rcases List.mem_cons.1 hu with rfl | hu
    · exact h
    · exact hts.isWhole u hu
  apart := List.isChain_cons.2 ⟨fun _ _ ht => absurd ht hnumber, hts.apart⟩

theorem CanBeSpelled.append (hts : CanBeSpelled ts) (hus : CanBeSpelled us)
    (hhead : ∀ u ∈ us.head?, ¬ u.IsNumber) : CanBeSpelled (ts ++ us) where
  isWhole u hu := by
    rcases List.mem_append.1 hu with hu | hu
    · exact hts.isWhole u hu
    · exact hus.isWhole u hu
  apart := List.isChain_append.2 ⟨hts.apart, hus.apart, fun _ _ u hu _ => hhead u hu⟩

end Token

namespace Document

open Token (CanBeSpelled canBeSpelled_singleton)

theorem head?_moreElements (ds : List Document) :
    ∀ t ∈ (moreElements ds).head?, ¬ t.IsNumber := by
  cases ds <;> rintro _ ⟨⟩ <;> exact id

theorem head?_moreMembers (ms : List (Except Fault String × Document)) :
    ∀ t ∈ (moreMembers ms).head?, ¬ t.IsNumber := by
  cases ms <;> rintro _ ⟨⟩ <;> exact id

mutual

theorem canBeSpelled_tokens (d : Document) : CanBeSpelled d.tokens := by
  cases d with
  | null => exact canBeSpelled_singleton rfl
  | flag b => exact canBeSpelled_singleton rfl
  | number n => exact canBeSpelled_singleton rfl
  | text value => exact canBeSpelled_singleton rfl
  | list ds =>
    cases ds with
    | nil => exact (canBeSpelled_singleton (t := .closeList) trivial).cons trivial id
    | cons d ds =>
      exact ((canBeSpelled_tokens d).cons (t := .openList) trivial id).append
        (canBeSpelled_moreElements ds) (head?_moreElements ds)
  | object ms =>
    cases ms with
    | nil => exact (canBeSpelled_singleton (t := .closeObject) trivial).cons trivial id
    | cons m ms =>
      exact ((canBeSpelled_memberTokens m).cons (t := .openObject) trivial id).append
        (canBeSpelled_moreMembers ms) (head?_moreMembers ms)

theorem canBeSpelled_memberTokens (m : Except Fault String × Document) :
    CanBeSpelled (memberTokens m) := by
  obtain ⟨key, d⟩ := m
  exact ((canBeSpelled_tokens d).cons (t := .colon) trivial id).cons rfl id

theorem canBeSpelled_moreElements (ds : List Document) : CanBeSpelled (moreElements ds) := by
  cases ds with
  | nil => exact canBeSpelled_singleton trivial
  | cons d ds =>
    exact ((canBeSpelled_tokens d).cons (t := .comma) trivial id).append
      (canBeSpelled_moreElements ds) (head?_moreElements ds)

theorem canBeSpelled_moreMembers (ms : List (Except Fault String × Document)) :
    CanBeSpelled (moreMembers ms) := by
  cases ms with
  | nil => exact canBeSpelled_singleton trivial
  | cons m ms =>
    exact ((canBeSpelled_memberTokens m).cons (t := .comma) trivial id).append
      (canBeSpelled_moreMembers ms) (head?_moreMembers ms)

end

/-- How a document may be spelled. -/
def Spells (d : Document) (bs : Bytes) : Prop := Token.SpellAll d.tokens bs

/-- A text spells a document just when it has the tokens of the document. -/
theorem spells_iff {d : Document} {bs : Bytes} : d.Spells bs ↔ Token.all bs = d.tokens := by
  have hd := canBeSpelled_tokens d
  constructor
  · intro h
    exact Token.all_spelled h hd.apart
  · intro h
    rw [Spells, ← h]
    exact Token.spellAll_all (h ▸ hd.isWhole)

/-- A text spells one document. -/
theorem Spells.unique {d d' : Document} {bs : Bytes} (h : d.Spells bs) (h' : d'.Spells bs) :
    d = d' :=
  tokens_injective ((spells_iff.1 h).symm.trans (spells_iff.1 h'))

end Document

end Latchkey.Json
