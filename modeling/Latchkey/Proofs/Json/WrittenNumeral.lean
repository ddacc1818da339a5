/-
Integers that were written are read back: the decimal digits of an integer spell its numeral
(`spells_numeral`), whose value is the integer if it has 64 bits (`value_ofInt`).
-/
import Latchkey.Json.Value
import Latchkey.Proofs.Json.SpelledNumeral
import Latchkey.Text.Integer

namespace Latchkey.Json.Numeral

open Bytes (utf8 utf8_cons utf8_nil utf8_append)

/-! ## Decimal digits -/

/-- The decimal digits of a number. -/
def decimal (n : Nat) : List Nat := (Nat.toDigits 10 n).map fun c => c.toNat - 48

theorem decimal_of_lt {n : Nat} (h : n < 10) : decimal n = [n] := by
  rw [decimal, Nat.toDigits_of_lt_base h, List.map_singleton, Nat.toNat_digitChar_sub_48_of_lt_ten h]

theorem decimal_of_le {n : Nat} (h : 10 ≤ n) : decimal n = decimal (n / 10) ++ [n % 10] := by
  rw [decimal, Nat.toDigits_of_base_le (by decide) h, List.map_append, List.map_singleton,
    Nat.toNat_digitChar_sub_48_of_lt_ten (Nat.mod_lt n (by decide))]
  rfl

theorem lt_of_mem_decimal {n d : Nat} (h : d ∈ decimal n) : d < 10 := by
  induction n using Nat.strongRecOn with
  | ind n ih =>
    rcases Nat.lt_or_ge n 10 with hn | hn
    · rw [decimal_of_lt hn, List.mem_singleton] at h
      omega
    · rw [decimal_of_le hn, List.mem_append, List.mem_singleton] at h
      rcases h with h | rfl
      · exact ih (n / 10) (by omega) h
      · exact Nat.mod_lt n (by decide)

/-- The digits spell the number. -/
theorem foldl_decimal (n : Nat) : (decimal n).foldl (fun m d => m * 10 + d) 0 = n := by
  induction n using Nat.strongRecOn with
  | ind n ih =>
    rcases Nat.lt_or_ge n 10 with hn | hn
    · rw [decimal_of_lt hn]
      simp
    · rw [decimal_of_le hn, List.foldl_append, ih (n / 10) (by omega)]
      simp only [List.foldl_cons, List.foldl_nil]
      omega

/-- There is a first digit, and it is no zero if others follow. -/
theorem decimal_eq_cons (n : Nat) : ∃ d rest, decimal n = d :: rest ∧ (10 ≤ n → d ≠ 0) := by
  induction n using Nat.strongRecOn with
  | ind n ih =>
    rcases Nat.lt_or_ge n 10 with hn | hn
    · exact ⟨n, [], decimal_of_lt hn, by omega⟩
    · obtain ⟨d, rest, hcons, hd⟩ := ih (n / 10) (by omega)
      refine ⟨d, rest ++ [n % 10], by rw [decimal_of_le hn, hcons]; rfl, fun _ => ?_⟩
      rcases Nat.lt_or_ge (n / 10) 10 with hm | hm
      · rw [decimal_of_lt hm] at hcons
        have := (List.cons.inj hcons).1
        omega
      · exact hd hm

theorem utf8_toDigits (n : Nat) : utf8 (Nat.toDigits 10 n) = (decimal n).map digitByte := by
  induction n using Nat.strongRecOn with
  | ind n ih =>
    have hlast : ∀ d < 10, utf8 [Nat.digitChar d] = [digitByte d] := by decide
    rcases Nat.lt_or_ge n 10 with hn | hn
    · rw [decimal_of_lt hn, Nat.toDigits_of_lt_base hn, hlast n hn]
      rfl
    · rw [decimal_of_le hn, Nat.toDigits_of_base_le (by decide) hn, utf8_append, List.map_append,
        ih (n / 10) (by omega), hlast (n % 10) (Nat.mod_lt n (by decide))]
      rfl

/-! ## Spelling -/

/-- The spelling of an integer. -/
def ofInt (i : Int) : Numeral := ⟨decide (i < 0), decimal i.natAbs, none, none⟩

theorem numeral_eq (i : Int) :
    Value.numeral i = (if i < 0 then ['-'] else []) ++ Nat.toDigits 10 i.natAbs := by
  rw [Value.numeral, Int.toString_eq_repr, Int.repr_eq_if]
  by_cases h : i < 0
  · rw [if_neg (by omega), if_pos h, String.toList_append, Nat.toList_repr,
      show (-i).toNat = i.natAbs by omega]
    rfl
  · rw [if_pos (by omega), if_neg h, Nat.toList_repr, show i.toNat = i.natAbs by omega]
    rfl

theorem utf8_numeral (i : Int) :
    utf8 (Value.numeral i) =
      minusSign (decide (i < 0)) ++ ((decimal i.natAbs).map digitByte ++ ([] ++ [])) := by
  have hmark : utf8 ['-'] = [0x2D] := by decide
  rw [numeral_eq, utf8_append, utf8_toDigits, minusSign, List.append_nil, List.append_nil]
  by_cases h : i < 0
  · simp [h, hmark]
  · simp [h]

/-- An integer that was written is spelled. -/
theorem spells_numeral (i : Int) : (ofInt i).Spells (utf8 (Value.numeral i)) := by
  obtain ⟨d, ds, hcons, hd⟩ := decimal_eq_cons i.natAbs
  rw [utf8_numeral]
  refine .mk ⟨hcons ▸ List.cons_ne_nil d ds, fun _ => lt_of_mem_decimal⟩ (fun more hmore => ?_)
    .none .none
  rcases Nat.lt_or_ge i.natAbs 10 with hlt | hge
  · rw [decimal_of_lt hlt] at hmore
    exact (List.cons.inj hmore).2.symm
  · rw [hcons] at hmore
    exact absurd (List.cons.inj hmore).1 (hd hge)

/-! ## Value -/

theorem le_foldl (ds : List Nat) (m : Nat) : m ≤ ds.foldl (fun m d => m * 10 + d) m := by
  induction ds generalizing m with
  | nil => exact Nat.le_refl m
  | cons d ds ih =>
    have := ih (m * 10 + d)
    simp only [List.foldl_cons]
    omega

/-- Digits whose value fits 64 bits are all taken. -/
theorem fill_of_lt {ds : List Nat} {m count : Nat}
    (h : ds.foldl (fun m d => m * 10 + d) m < Nat.pow 2 64) :
    fill m count ds = (ds.foldl (fun m d => m * 10 + d) m, count + ds.length) := by
  induction ds generalizing m count with
  | nil => rfl
  | cons d ds ih =>
    rw [List.foldl_cons] at h ⊢
    rw [fill, if_pos (Nat.lt_of_le_of_lt (le_foldl ds _) h), ih h, List.length_cons]
    congr 1
    omega

/-- The value of the spelling of an integer of 64 bits is this integer. -/
theorem value_ofInt {i : Int} (hlow : Text.minSigned64 ≤ i) (hhigh : i ≤ Text.maxSigned64) :
    (ofInt i).value = .ok (.integer i) := by
  unfold Text.minSigned64 at hlow
  unfold Text.maxSigned64 at hhigh
  have hfill : fill 0 0 (decimal i.natAbs) = (i.natAbs, (decimal i.natAbs).length) := by
    rw [fill_of_lt (by rw [foldl_decimal]; show i.natAbs < 2 ^ 64; omega), foldl_decimal,
      Nat.zero_add]
  rw [value]
  simp only [ofInt, hfill, Nat.sub_self, true_and, decide_eq_true_eq]
  by_cases hneg : i < 0
  · rw [if_neg (by omega), if_pos ⟨by omega, by show i.natAbs ≤ 2 ^ 63; omega⟩]
    congr 2
    omega
  · rw [if_pos (by simpa using hneg)]
    congr 2
    omega

end Latchkey.Json.Numeral
