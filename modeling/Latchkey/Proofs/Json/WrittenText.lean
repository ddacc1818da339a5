/-
Texts that were written are read back: what stands between the quotation marks of a text spells it
(`spells_inner`), whichever of its characters are escaped.
-/
import Latchkey.Json.Value
import Latchkey.Proofs.Json.SpelledText

namespace Latchkey.Json.Quotation

open Bytes (utf8 utf8_cons utf8_nil)

/-! ## Bytes that stand for themselves -/

theorem isPlain_of_mem_utf8EncodeChar {c : Char} (hle : 0x20 ≤ c.toNat) (hmark : c ≠ '"')
    (hescape : c ≠ '\\') {b : UInt8} (hb : b ∈ String.utf8EncodeChar c) : IsPlain b := by
  by_cases h : c.toNat < 128
  · rw [Bytes.utf8EncodeChar_of_lt h, List.mem_singleton] at hb
    have hnat : b.toNat = c.toNat := by
      rw [hb, UInt8.toNat_ofNat', Nat.mod_eq_of_lt (by omega)]
    refine ⟨fun hlt => ?_, fun he => hmark ?_, fun he => hescape ?_⟩
    · rw [UInt8.lt_iff_toNat_lt, hnat] at hlt
      exact absurd hlt (Nat.not_lt.2 hle)
    · exact Char.toNat_inj.1 (hnat.symm.trans (congrArg UInt8.toNat he))
    · exact Char.toNat_inj.1 (hnat.symm.trans (congrArg UInt8.toNat he))
  · -- no byte of a longer character is one of ASCII
    have hb := Bytes.le_of_mem_utf8EncodeChar (Nat.le_of_not_lt h) hb
    refine ⟨fun hlt => ?_, ?_, ?_⟩
    · rw [UInt8.lt_iff_toNat_lt] at hlt
      exact absurd hlt (Nat.not_lt.2 (Nat.le_trans (by decide) hb))
    · rintro rfl
      exact absurd hb (by decide)
    · rintro rfl
      exact absurd hb (by decide)

theorem Spells.plain_append {bs content inner : Bytes} (h : ∀ b ∈ bs, IsPlain b)
    (others : Spells content inner) : Spells (bs ++ content) (bs ++ inner) := by
  induction bs with
  | nil => exact others
  | cons b bs ih =>
    exact .plain (h b List.mem_cons_self) (ih fun b' hb' => h b' (List.mem_cons_of_mem b hb'))

/-- Bytes that are all plain spell themselves. -/
theorem spells_plain {bs : Bytes} (h : ∀ b ∈ bs, ¬ b < 0x20 ∧ b ≠ 0x22 ∧ b ≠ 0x5C) :
    Spells bs bs := by
  have hplain := Spells.nil.plain_append fun b hb => ⟨(h b hb).1, (h b hb).2.1, (h b hb).2.2⟩
  rw [List.append_nil] at hplain
  exact hplain

/-! ## Escapes -/

theorem utf8EncodeChar_hexDigit {n : Nat} (h : n < 16) :
    String.utf8EncodeChar (Bytes.hexDigit n) = [hexByte n] := by
  refine Bytes.utf8EncodeChar_of_lt ?_
  revert n
  decide

theorem spellsUnit_hexByte {n : Nat} (h : n < 0x20) :
    SpellsUnit n [0x30, 0x30, hexByte (n / 16), hexByte (n % 16)] := by
  have hzero : IsHexDigit 0 0x30 := ⟨by decide, Or.inl (by decide)⟩
  exact ⟨0, 0, n / 16, n % 16, _, _, _, _, hzero, hzero, ⟨by omega, Or.inl rfl⟩,
    ⟨by omega, Or.inl rfl⟩, by omega, rfl⟩

/-- How an escape stands in bytes: it is the character itself, a letter, or four digits. -/
theorem utf8_escape_cases (c : Char) :
    (utf8 (Value.escape c) = String.utf8EncodeChar c ∧
      ∀ b ∈ String.utf8EncodeChar c, IsPlain b) ∨
    (∃ e b, utf8 (Value.escape c) = [0x5C, e] ∧ (e, b) ∈ letters ∧
      String.utf8EncodeChar c = [b]) ∨
    c.toNat < 0x20 ∧ utf8 (Value.escape c) =
      [0x5C, 0x75, 0x30, 0x30, hexByte (c.toNat / 16), hexByte (c.toNat % 16)] := by
  unfold Value.escape
  split
  · rename_i h; subst h
    exact Or.inr (Or.inl ⟨0x22, 0x22, by decide⟩)
  split
  · rename_i h; subst h
    exact Or.inr (Or.inl ⟨0x5C, 0x5C, by decide⟩)
  split
  · rename_i h; subst h
    exact Or.inr (Or.inl ⟨0x62, 0x08, by decide⟩)
  split
  · rename_i h; subst h
    exact Or.inr (Or.inl ⟨0x66, 0x0C, by decide⟩)
  split
  · rename_i h; subst h
    exact Or.inr (Or.inl ⟨0x6E, 0x0A, by decide⟩)
  split
  · rename_i h; subst h
    exact Or.inr (Or.inl ⟨0x72, 0x0D, by decide⟩)
  split
  · rename_i h; subst h
    exact Or.inr (Or.inl ⟨0x74, 0x09, by decide⟩)
  split
  · rename_i h
    refine Or.inr (Or.inr ⟨h, ?_⟩)
    simp only [utf8_cons, utf8_nil, utf8EncodeChar_hexDigit (show c.toNat / 16 < 16 by omega),
      utf8EncodeChar_hexDigit (show c.toNat % 16 < 16 by omega)]
    rfl
  · rename_i hmark hescape _ _ _ _ _ hcontrol
    refine Or.inl ⟨List.append_nil _, fun b hb => ?_⟩
    exact isPlain_of_mem_utf8EncodeChar (Nat.le_of_not_lt hcontrol) hmark hescape hb

/-- A character is spelled by its escape. -/
theorem Spells.escape (c : Char) {content inner : Bytes} (others : Spells content inner) :
    Spells (String.utf8EncodeChar c ++ content) (utf8 (Value.escape c) ++ inner) := by
  rcases utf8_escape_cases c with ⟨h, hplain⟩ | ⟨e, b, h, hletter, hc⟩ | ⟨hlt, h⟩ <;> rw [h]
  · exact others.plain_append hplain
  · rw [hc]
    exact .letter hletter others
  · exact .unit (spellsUnit_hexByte hlt) others

/-! ## Texts -/

/-- What stands between the quotation marks of a text that was written. -/
def inner (s : String) : Bytes := utf8 (s.toList.flatMap Value.escape)

theorem spells_flatMap_escape (cs : List Char) :
    Spells (utf8 cs) (utf8 (cs.flatMap Value.escape)) := by
  induction cs with
  | nil => exact .nil
  | cons c cs ih =>
    rw [utf8_cons, List.flatMap_cons, Bytes.utf8_append]
    exact ih.escape c

/-- A text that was written is spelled. -/
theorem spells_inner (s : String) : Spells (Bytes.ofString s) (inner s) := by
  rw [Bytes.ofString_eq_utf8]
  exact spells_flatMap_escape s.toList

end Latchkey.Json.Quotation
