/-
Texts and their bytes: the bytes of a text are those of its characters one after the other, they
spell the text again, and bytes of ASCII are the text that they are shown as.
-/
import Latchkey.Digest.Bytes
import Mathlib.Data.List.Basic

namespace Latchkey.Bytes

/-- The bytes of characters in UTF-8. -/
def utf8 (cs : List Char) : Bytes := cs.flatMap String.utf8EncodeChar

@[simp] theorem utf8_nil : utf8 [] = [] := rfl

@[simp] theorem utf8_cons (c : Char) (cs : List Char) :
    utf8 (c :: cs) = String.utf8EncodeChar c ++ utf8 cs := rfl

@[simp] theorem utf8_append (cs ds : List Char) : utf8 (cs ++ ds) = utf8 cs ++ utf8 ds :=
  List.flatMap_append

theorem ofString_ofList (cs : List Char) : ofString (String.ofList cs) = utf8 cs := by
  unfold ofString
  rw [String.toUTF8_eq_toByteArray, String.toByteArray_ofList, List.utf8Encode,
    List.data_toByteArray]
  rfl

theorem ofString_eq_utf8 (s : String) : ofString s = utf8 s.toList := by
  rw [← ofString_ofList, String.ofList_toList]

theorem toText?_ofString (s : String) : toText? (ofString s) = some s := by
  unfold toText? ofString
  rw [Array.toArray_toList]
  exact dif_pos s.isValidUTF8

theorem ofString_injective : Function.Injective ofString := fun s t h =>
  Option.some.inj ((toText?_ofString s).symm.trans (h ▸ toText?_ofString t))

theorem ofString_eq_nil_iff {s : String} : ofString s = [] ↔ s = "" := by
  have hempty : ofString "" = [] := rfl
  rw [← hempty, ofString_injective.eq_iff]

/-- Bytes spell no other text than the one whose bytes they are. -/
theorem toText?_eq_some_iff {bs : Bytes} {s : String} : toText? bs = some s ↔ bs = ofString s := by
  refine ⟨fun h => ?_, fun h => h ▸ toText?_ofString s⟩
  unfold toText? String.fromUTF8? at h
  split at h
  · cases h
    rfl
  · contradiction

/-- What holds of all numbers below 256 holds of all bytes. -/
theorem forall_of_lt {P : UInt8 → Prop} (h : ∀ n < 256, P (UInt8.ofNat n)) (b : UInt8) : P b := by
  have := h b.toNat b.toNat_lt
  rwa [UInt8.ofNat_toNat] at this

/-! ## Bytes of a character -/

theorem utf8EncodeChar_of_lt {c : Char} (h : c.toNat < 128) :
    String.utf8EncodeChar c = [UInt8.ofNat c.toNat] := by
  unfold String.utf8EncodeChar
  rw [if_pos (show c.val.toNat ≤ 0x7f from Nat.le_of_lt_succ h)]
  rfl

theorem le_of_mem_utf8EncodeChar {c : Char} (h : 128 ≤ c.toNat) {b : UInt8}
    (hb : b ∈ String.utf8EncodeChar c) : 128 ≤ b.toNat := by
  have hval : ¬ c.val.toNat ≤ 0x7f := Nat.not_le.2 h
  unfold String.utf8EncodeChar at hb
  simp only [hval, if_false] at hb
  split at hb
  · simp only [List.mem_cons, List.not_mem_nil, or_false] at hb
    rcases hb with rfl | rfl <;> simp <;> omega
  · split at hb
    · simp only [List.mem_cons, List.not_mem_nil, or_false] at hb
      rcases hb with rfl | rfl | rfl <;> simp <;> omega
    · simp only [List.mem_cons, List.not_mem_nil, or_false] at hb
      rcases hb with rfl | rfl | rfl | rfl <;> simp <;> omega

theorem ofString_toAscii {bs : Bytes} (h : ∀ b ∈ bs, b.toNat < 128) : ofString (toAscii bs) = bs := by
  unfold toAscii
  rw [ofString_ofList]
  induction bs with
  | nil => rfl
  | cons b rest ih =>
    have hb := h b List.mem_cons_self
    have hvalid : b.toNat.isValidChar := Or.inl (by omega)
    have hc : (Char.ofNat b.toNat).toNat = b.toNat := by
      rw [Char.ofNat, dif_pos hvalid]
      rfl
    rw [List.map_cons, utf8_cons, utf8EncodeChar_of_lt (hc.symm ▸ hb), hc, UInt8.ofNat_toNat,
      ih fun b' hb' => h b' (List.mem_cons_of_mem b hb')]
    rfl

end Latchkey.Bytes
