/-
White space at the ends of a text: trimming takes it off, leaves nothing of a blank text and
something of any other (`trim_eq_empty_iff`), and does not change a text without white space
(`trim_eq_self`), such as an opaque token.
-/
import Latchkey.Draws
import Latchkey.Text.Blank
import Mathlib.Data.List.GetD
import Mathlib.Data.List.TakeWhile

namespace Latchkey

namespace Text

/-- Nothing is left of a blank text, and of no other. -/
theorem trim_eq_empty_iff {s : String} : trim s = "" ↔ isBlank s = true := by
  have hstart : (s.toList.dropWhile isBlankChar).dropWhile isBlankChar =
      s.toList.dropWhile isBlankChar :=
    List.dropWhile_eq_self_iff.2 (List.dropWhile_get_zero_not isBlankChar s.toList)
  rw [trim, isBlank, ← String.toList_inj, String.toList_ofList, show "".toList = [] from rfl,
    List.reverse_eq_nil_iff, List.dropWhile_eq_nil_iff, List.all_eq_true]
  simp only [List.mem_reverse]
  rw [← List.dropWhile_eq_nil_iff, hstart, List.dropWhile_eq_nil_iff]

/-- A text without white space stays as it is. -/
theorem trim_eq_self {s : String} (h : ∀ c ∈ s.toList, isBlankChar c = false) : trim s = s := by
  have hkept : ∀ {cs : List Char}, (∀ c ∈ cs, isBlankChar c = false) →
      cs.dropWhile isBlankChar = cs := fun hcs =>
    List.dropWhile_eq_self_iff.2 fun hpos => by simp [hcs _ (List.getElem_mem hpos)]
  rw [trim, hkept h, hkept fun c hc => h c (List.mem_reverse.1 hc), List.reverse_reverse,
    String.ofList_toList]

end Text

namespace OpaqueToken

/-- An opaque token has no white space in it. -/
theorem isBlankChar_of_mem_ofBytes {bs : Bytes} {c : Char} (h : c ∈ (ofBytes bs).toList) :
    Text.isBlankChar c = false := by
  have hall : symbols.all (fun c => !Text.isBlankChar c) = true := by decide
  rw [ofBytes, String.toList_ofList] at h
  obtain ⟨b, -, rfl⟩ := List.mem_map.1 h
  by_cases hi : b.toNat % 62 < symbols.length
  · rw [List.getD_eq_getElem _ _ hi]
    exact Bool.not_inj (List.all_eq_true.1 hall _ (List.getElem_mem hi))
  · rw [List.getD_eq_default _ _ (Nat.le_of_not_lt hi)]
    decide

theorem isBlank_ofBytes {bs : Bytes} (h : bs ≠ []) : Text.isBlank (ofBytes bs) = false := by
  obtain ⟨b, rest, rfl⟩ := List.exists_cons_of_ne_nil h
  have hmem : symbols.getD (b.toNat % 62) 'A' ∈ (ofBytes (b :: rest)).toList := by simp [ofBytes]
  have hfirst := isBlankChar_of_mem_ofBytes hmem
  rw [Text.isBlank, ofBytes, String.toList_ofList, List.map_cons, List.all_cons, hfirst,
    Bool.false_and]

end OpaqueToken

end Latchkey
