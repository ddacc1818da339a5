/-
Base64 loses nothing: the six-bit values of a byte string stand for it again, and so the text of a
byte string is decoded to it. What is decoded has only symbols of the alphabet.
-/
import Latchkey.Digest.Base64
import Mathlib.Data.List.GetD
import Mathlib.Data.List.TakeWhile

namespace Latchkey.Base64

/-! ## Six-bit values -/

theorem lt_of_mem_toSextets : ∀ {bs : Bytes} {v : Nat}, v ∈ toSextets bs → v < 64
  | a :: b :: c :: rest, v, h => by
    have ha := a.toNat_lt
    have hb := b.toNat_lt
    have hc := c.toNat_lt
    simp only [toSextets, List.mem_cons] at h
    rcases h with rfl | rfl | rfl | rfl | h
    · omega
    · omega
    · omega
    · omega
    · exact lt_of_mem_toSextets h
  | [a, b], v, h => by
    have ha := a.toNat_lt
    have hb := b.toNat_lt
    simp only [toSextets, List.mem_cons, List.not_mem_nil, or_false] at h
    rcases h with rfl | rfl | rfl <;> omega
  | [a], v, h => by
    have ha := a.toNat_lt
    simp only [toSextets, List.mem_cons, List.not_mem_nil, or_false] at h
    rcases h with rfl | rfl <;> omega

theorem ofNat_eq_of_toNat {n : Nat} {b : UInt8} (h : n = b.toNat) : UInt8.ofNat n = b := by
  rw [h, UInt8.ofNat_toNat]

theorem ofSextets_toSextets : ∀ bs : Bytes, ofSextets (toSextets bs) = .ok bs
  | a :: b :: c :: rest => by
    have ha := a.toNat_lt
    have hb := b.toNat_lt
    have hc := c.toNat_lt
    -- each byte is put together again from its parts in two neighbouring values
    have h1 : a.toNat / 4 * 4 + (a.toNat % 4 * 16 + b.toNat / 16) / 16 = a.toNat := by omega
    have h2 : (a.toNat % 4 * 16 + b.toNat / 16) % 16 * 16 +
        (b.toNat % 16 * 4 + c.toNat / 64) / 4 = b.toNat := by omega
    have h3 : (b.toNat % 16 * 4 + c.toNat / 64) % 4 * 64 + c.toNat % 64 = c.toNat := by omega
    simp only [toSextets, ofSextets, ofSextets_toSextets rest]
    rw [ofNat_eq_of_toNat h1, ofNat_eq_of_toNat h2, ofNat_eq_of_toNat h3]
    rfl
  | [a, b] => by
    have ha := a.toNat_lt
    have hb := b.toNat_lt
    have h1 : a.toNat / 4 * 4 + (a.toNat % 4 * 16 + b.toNat / 16) / 16 = a.toNat := by omega
    have h2 : (a.toNat % 4 * 16 + b.toNat / 16) % 16 * 16 + b.toNat % 16 * 4 / 4 = b.toNat := by
      omega
    simp only [toSextets, ofSextets]
    rw [if_pos (by omega), ofNat_eq_of_toNat h1, ofNat_eq_of_toNat h2]
  | [a] => by
    have ha := a.toNat_lt
    have h1 : a.toNat / 4 * 4 + a.toNat % 4 * 16 / 16 = a.toNat := by omega
    simp only [toSextets, ofSextets]
    rw [if_pos (by omega), ofNat_eq_of_toNat h1]
  | [] => rfl

/-- Four values for three bytes, and one more than bytes at the end. -/
theorem length_toSextets : ∀ bs : Bytes, (toSextets bs).length = (4 * bs.length + 2) / 3
  | a :: b :: c :: rest => by
    have ih := length_toSextets rest
    simp only [toSextets, List.length_cons, ih]
    omega
  | [a, b] => by simp [toSextets]
  | [a] => by simp [toSextets]
  | [] => rfl

/-! ## Symbols -/

variable (alphabet : Alphabet)

theorem value?_symbol {v : Nat} (hv : v < 64) :
    alphabet.value? (alphabet.symbols.getD v 0) = some v := by
  have hlen : v < alphabet.symbols.length := by rw [alphabet.length_eq]; exact hv
  rw [List.getD_eq_getElem _ _ hlen]
  refine List.idxOf?_eq_some_iff.2 ⟨hlen, rfl, fun j hj heq => ?_⟩
  have := (List.getElem_inj alphabet.nodup).1 heq
  omega

/-- The symbols of values have these values. -/
theorem values_map_symbol (offset : Nat) :
    ∀ {l : List Nat}, (∀ v ∈ l, v < 64) →
      values alphabet offset (l.map fun v => alphabet.symbols.getD v 0) = .ok l
  | [], _ => rfl
  | v :: rest, h => by
    rw [List.map_cons, values, value?_symbol alphabet (h v List.mem_cons_self)]
    show (do return v :: (← values alphabet (offset + 1) _)) = _
    rw [values_map_symbol (offset + 1) fun w hw => h w (List.mem_cons_of_mem v hw)]
    rfl

theorem values_encode (offset : Nat) (bs : Bytes) :
    values alphabet offset (encode alphabet bs) = .ok (toSextets bs) :=
  values_map_symbol alphabet offset fun _ => lt_of_mem_toSextets

theorem length_encode (bs : Bytes) : (encode alphabet bs).length = (4 * bs.length + 2) / 3 := by
  rw [encode, List.length_map, length_toSextets]

theorem mem_symbols_of_mem_encode {bs : Bytes} {b : UInt8} (h : b ∈ encode alphabet bs) :
    b ∈ alphabet.symbols := by
  obtain ⟨v, hv, rfl⟩ := List.mem_map.1 h
  have hlen : v < alphabet.symbols.length := by
    rw [alphabet.length_eq]
    exact lt_of_mem_toSextets hv
  rw [List.getD_eq_getElem _ _ hlen]
  exact List.getElem_mem hlen

/-- A text is decoded to what it encodes, if padding is not mistaken for a symbol. -/
theorem decode_encode (hpadding : padding ∉ alphabet.symbols) (bs : Bytes) :
    decode alphabet (encode alphabet bs) = .ok bs := by
  have hpadded : isPadded alphabet (encode alphabet bs) = false := by
    have htail : (encode alphabet bs).reverse.takeWhile (· == padding) = [] := by
      rw [List.takeWhile_eq_nil_iff]
      intro hpos heq
      have hmem := mem_symbols_of_mem_encode alphabet (List.mem_reverse.1 (List.getElem_mem hpos))
      exact hpadding (beq_iff_eq.1 heq ▸ hmem)
    rw [isPadded, htail]
    rfl
  rw [decode, hpadded, if_neg Bool.false_ne_true, values_encode]
  simp only [bind, Except.bind, ofSextets_toSextets]

theorem mem_symbols_of_values : ∀ {text : Bytes} {offset : Nat} {l : List Nat},
    values alphabet offset text = .ok l → ∀ b ∈ text, b ∈ alphabet.symbols
  | [], _, _, _, _, hb => absurd hb List.not_mem_nil
  | symbol :: rest, offset, l, h, b, hb => by
    rw [values] at h
    split at h
    · contradiction
    · rename_i v hv
      cases hrest : values alphabet (offset + 1) rest with
      | error fault =>
        rw [hrest] at h
        contradiction
      | ok l' =>
        rcases List.mem_cons.1 hb with rfl | hb
        · obtain ⟨hlt, heq, -⟩ := List.idxOf?_eq_some_iff.1 hv
          exact heq ▸ List.getElem_mem hlt
        · exact mem_symbols_of_values hrest b hb

theorem mem_symbols_of_decode {text bytes : Bytes} (h : decode alphabet text = .ok bytes) :
    ∀ b ∈ text, b ∈ alphabet.symbols := by
  unfold decode at h
  split at h
  · contradiction
  · cases hvalues : values alphabet 0 text with
    | error fault =>
      rw [hvalues] at h
      contradiction
    | ok l => exact mem_symbols_of_values alphabet hvalues

end Latchkey.Base64
