/-
How texts are spelled between quotation marks: bytes stand for themselves, and there are escapes of
one letter or of hexadecimal digits, for a character or for a pair of surrogates. However a text is
spelled, it is read as itself (`read_spelled`), and what is read was spelled
(`exists_spells_of_read`). What is only skimmed may also have surrogates without a partner and bytes
that spell no text (`skim_loose`, `exists_loose_of_skim`).
-/
import Latchkey.Json.Quotation
import Latchkey.Proofs.Digest.Bytes

namespace Latchkey.Json.Quotation

/-! ## Spelling -/

/-- The byte neither ends a text, nor begins an escape, nor is below the space. -/
structure IsPlain (b : UInt8) : Prop where
  not_control : ¬ b < 0x20
  ne_mark : b ≠ 0x22
  ne_escape : b ≠ 0x5C

/-- The escapes of one letter, with what they stand for. -/
def letters : List (UInt8 × UInt8) :=
  [(0x22, 0x22), (0x5C, 0x5C), (0x2F, 0x2F), (0x62, 0x08), (0x66, 0x0C), (0x6E, 0x0A),
    (0x72, 0x0D), (0x74, 0x09)]

/-- The byte of a hexadecimal digit. -/
def hexByte (n : Nat) : UInt8 := UInt8.ofNat (Bytes.hexDigit n).toNat

/-- A hexadecimal digit of either case. -/
def IsHexDigit (n : Nat) (b : UInt8) : Prop :=
  n < 16 ∧ (b = hexByte n ∨ b = UInt8.ofNat (Bytes.hexDigit n).toUpper.toNat)

/-- Four hexadecimal digits. -/
def SpellsUnit (n : Nat) (digits : Bytes) : Prop :=
  ∃ w x y z a b c d, IsHexDigit w a ∧ IsHexDigit x b ∧ IsHexDigit y c ∧ IsHexDigit z d ∧
    n = ((w * 16 + x) * 16 + y) * 16 + z ∧ digits = [a, b, c, d]

/-- The bytes of a text, and how they may be spelled. -/
inductive Spells : Bytes → Bytes → Prop
  | nil : Spells [] []
  | plain {b : UInt8} {content inner : Bytes} (isPlain : IsPlain b)
      (others : Spells content inner) : Spells (b :: content) (b :: inner)
  | letter {e b : UInt8} {content inner : Bytes} (isLetter : (e, b) ∈ letters)
      (others : Spells content inner) : Spells (b :: content) (0x5C :: e :: inner)
  | unit {c : Char} {digits content inner : Bytes} (isUnit : SpellsUnit c.toNat digits)
      (others : Spells content inner) :
      Spells (String.utf8EncodeChar c ++ content) (0x5C :: 0x75 :: (digits ++ inner))
  | pair {c : Char} {high low content inner : Bytes} (isAstral : 0x10000 ≤ c.toNat)
      (isHigh : SpellsUnit (0xD800 + (c.toNat - 0x10000) / 0x400) high)
      (isLow : SpellsUnit (0xDC00 + (c.toNat - 0x10000) % 0x400) low)
      (others : Spells content inner) :
      Spells (String.utf8EncodeChar c ++ content)
        (0x5C :: 0x75 :: (high ++ 0x5C :: 0x75 :: (low ++ inner)))

/-- What can stand between quotation marks, whether or not it spells a text. -/
inductive IsLoose : Bytes → Prop
  | nil : IsLoose []
  | plain {b : UInt8} {inner : Bytes} (isPlain : IsPlain b) (others : IsLoose inner) :
      IsLoose (b :: inner)
  | letter {e b : UInt8} {inner : Bytes} (isLetter : (e, b) ∈ letters) (others : IsLoose inner) :
      IsLoose (0x5C :: e :: inner)
  | unit {n : Nat} {digits inner : Bytes} (isUnit : SpellsUnit n digits) (others : IsLoose inner) :
      IsLoose (0x5C :: 0x75 :: (digits ++ inner))

/-- How a text may be spelled; one that cannot be read is known by its fault. -/
inductive SpellsText : Except Fault String → Bytes → Prop
  | readable {s : String} {inner : Bytes} (spells : Spells (Bytes.ofString s) inner) :
      SpellsText (.ok s) inner
  | unreadable {fault : Fault} {inner : Bytes} (isLoose : IsLoose inner)
      (reads : read [] (inner ++ [0x22]) = .error fault) : SpellsText (.error fault) inner

variable {bs inner content rest : Bytes}

theorem Spells.isLoose (h : Spells content inner) : IsLoose inner := by
  induction h with
  | nil => exact .nil
  | plain isPlain _ ih => exact .plain isPlain ih
  | letter isLetter _ ih => exact .letter isLetter ih
  | unit isUnit _ ih => exact .unit isUnit ih
  | pair _ isHigh isLow _ ih => exact .unit isHigh (.unit isLow ih)

/-! ## Escapes -/

theorem hexValue?_eq_some_iff {b : UInt8} {n : Nat} : hexValue? b = some n ↔ IsHexDigit n b := by
  have hof : ∀ b : UInt8, ∀ n ∈ hexValue? b,
      n < 16 ∧ (b = hexByte n ∨ b = UInt8.ofNat (Bytes.hexDigit n).toUpper.toNat) :=
    Bytes.forall_of_lt (by decide +kernel)
  have hto : ∀ n < 16, hexValue? (hexByte n) = some n ∧
      hexValue? (UInt8.ofNat (Bytes.hexDigit n).toUpper.toNat) = some n := by
    decide +kernel
  constructor
  · exact hof b n
  · rintro ⟨hn, rfl | rfl⟩
    · exact (hto n hn).1
    · exact (hto n hn).2

theorem letter?_eq_some_iff {e b : UInt8} : letter? e = some b ↔ (e, b) ∈ letters := by
  have hof : ∀ e : UInt8, ∀ b ∈ letter? e, (e, b) ∈ letters :=
    Bytes.forall_of_lt (by decide +kernel)
  -- the table is checked entry by entry and not over all pairs of bytes
  have hto : ∀ p ∈ letters, (letter? p.1 == some p.2) = true := List.all_eq_true.1 (by decide)
  exact ⟨hof e b, fun h => beq_iff_eq.1 (hto (e, b) h)⟩

theorem ne_of_isLetter {e b : UInt8} (h : (e, b) ∈ letters) : e ≠ 0x75 := by
  have hne : ∀ p ∈ letters, (p.1 != 0x75) = true := List.all_eq_true.1 (by decide)
  exact bne_iff_ne.1 (hne (e, b) h)

/-- Four digits are those of a unit just when they are read as one. -/
theorem unit?_eq_some_iff {a b c d : UInt8} {n : Nat} :
    unit? a b c d = some n ↔ SpellsUnit n [a, b, c, d] := by
  simp only [unit?, SpellsUnit, bind, Option.bind_eq_some_iff, hexValue?_eq_some_iff, pure,
    Option.some.injEq, List.cons.injEq, and_true]
  constructor
  · rintro ⟨w, hw, x, hx, y, hy, z, hz, rfl⟩
    exact ⟨w, x, y, z, a, b, c, d, hw, hx, hy, hz, by omega, rfl, rfl, rfl, rfl⟩
  · rintro ⟨w, x, y, z, _, _, _, _, hw, hx, hy, hz, rfl, rfl, rfl, rfl, rfl⟩
    exact ⟨w, hw, x, hx, y, hy, z, hz, by omega⟩

theorem SpellsUnit.exists_digits {n : Nat} {digits : Bytes} (h : SpellsUnit n digits) :
    ∃ a b c d, digits = [a, b, c, d] ∧ unit? a b c d = some n := by
  obtain ⟨_, _, _, _, a, b, c, d, _, _, _, _, _, rfl⟩ := id h
  exact ⟨a, b, c, d, rfl, unit?_eq_some_iff.2 h⟩

/-! ## Skimming -/

theorem skim_cons_plain {b : UInt8} (h : IsPlain b) (rest : Bytes) :
    skim (b :: rest) = skim rest := by
  obtain ⟨hcontrol, hmark, hescape⟩ := h
  rw [skim, if_neg hcontrol] <;> simp_all

theorem skim_letter {e b : UInt8} (h : (e, b) ∈ letters) (rest : Bytes) :
    skim (0x5C :: e :: rest) = skim rest := by
  have hu := ne_of_isLetter h
  rw [skim, letter?_eq_some_iff.2 h]
  · rfl
  · simp_all
  · simp_all

theorem skim_unit {n : Nat} {digits : Bytes} (h : SpellsUnit n digits) (rest : Bytes) :
    skim (0x5C :: 0x75 :: (digits ++ rest)) = skim rest := by
  obtain ⟨a, b, c, d, rfl, hunit⟩ := h.exists_digits
  show skim (0x5C :: 0x75 :: a :: b :: c :: d :: rest) = _
  rw [skim, hunit]
  rfl

/-- What stands between quotation marks is skimmed. -/
theorem skim_loose (h : IsLoose inner) (rest : Bytes) : skim (inner ++ 0x22 :: rest) = .ok rest := by
  induction h with
  | nil => rfl
  | plain isPlain _ ih => exact (skim_cons_plain isPlain _).trans ih
  | letter isLetter _ ih => exact (skim_letter isLetter _).trans ih
  | unit isUnit _ ih =>
    rw [List.cons_append, List.cons_append, List.append_assoc, skim_unit isUnit, ih]

/-- A byte that begins nothing else stands for itself. -/
theorem isPlain_of_cases {b : UInt8} (hmark : b = 0x22 → False)
    (hescape : ∀ e more, b = 0x5C → rest = e :: more → False) (hlast : b = 0x5C → rest = [] → False)
    (hcontrol : ¬ b < 0x20) : IsPlain b := by
  refine ⟨hcontrol, hmark, fun hb => ?_⟩
  cases rest with
  | nil => exact hlast hb rfl
  | cons e more => exact hescape e more hb rfl

/-- What is skimmed stood between quotation marks. -/
theorem exists_loose_of_skim (h : skim bs = .ok rest) :
    ∃ inner, bs = inner ++ 0x22 :: rest ∧ IsLoose inner := by
  fun_induction skim bs with
  | case2 => cases h; exact ⟨[], rfl, .nil⟩
  | case3 a b c d more hunit ih =>
    obtain ⟨inner, rfl, hloose⟩ := ih h
    obtain ⟨n, hn⟩ := Option.isSome_iff_exists.1 hunit
    exact ⟨_, rfl, .unit (unit?_eq_some_iff.1 hn) hloose⟩
  | case6 e more _ _ hletter ih =>
    obtain ⟨inner, rfl, hloose⟩ := ih h
    obtain ⟨b, hb⟩ := Option.isSome_iff_exists.1 hletter
    exact ⟨_, rfl, .letter (letter?_eq_some_iff.1 hb) hloose⟩
  | case10 b more hmark _ _ hescape hlast hcontrol ih =>
    obtain ⟨inner, rfl, hloose⟩ := ih h
    exact ⟨b :: inner, rfl, .plain (isPlain_of_cases hmark hescape hlast hcontrol) hloose⟩
  | _ => contradiction

/-! ## Reading -/

theorem read_cons_plain {b : UInt8} (h : IsPlain b) (content rest : Bytes) :
    read content (b :: rest) = read (b :: content) rest := by
  obtain ⟨hcontrol, hmark, hescape⟩ := h
  rw [read, if_neg hcontrol] <;> simp_all

theorem read_letter {e b : UInt8} (h : (e, b) ∈ letters) (content rest : Bytes) :
    read content (0x5C :: e :: rest) = read (b :: content) rest := by
  have hu := ne_of_isLetter h
  rw [read, letter?_eq_some_iff.2 h]
  · simp_all
  · simp_all

theorem isHighSurrogate_iff {n : Nat} : isHighSurrogate n = true ↔ 0xD800 ≤ n ∧ n ≤ 0xDBFF := by
  rw [isHighSurrogate, Bool.and_eq_true, decide_eq_true_iff, decide_eq_true_iff]

theorem isLowSurrogate_iff {n : Nat} : isLowSurrogate n = true ↔ 0xDC00 ≤ n ∧ n ≤ 0xDFFF := by
  rw [isLowSurrogate, Bool.and_eq_true, decide_eq_true_iff, decide_eq_true_iff]

section

variable {n m : Nat} {digits others : Bytes}

/-- A unit that is no high surrogate is a character unless it is a low one. -/
theorem read_of_not_high (h : SpellsUnit n digits) (hhigh : ¬ isHighSurrogate n = true)
    (content rest : Bytes) :
    read content (0x5C :: 0x75 :: (digits ++ rest)) =
      if isLowSurrogate n then .error .loneSurrogate else read (push content n) rest := by
  obtain ⟨a, b, c, d, rfl, hunit⟩ := h.exists_digits
  show read content (0x5C :: 0x75 :: a :: b :: c :: d :: rest) = _
  rw [read, hunit]
  simp only [hhigh, Bool.false_eq_true, not_false_eq_true, if_true]

/-- A high surrogate makes a pair with a low one behind it. -/
theorem read_of_high (h : SpellsUnit n digits) (hhigh : isHighSurrogate n = true)
    (h' : SpellsUnit m others) (content rest : Bytes) :
    read content (0x5C :: 0x75 :: (digits ++ 0x5C :: 0x75 :: (others ++ rest))) =
      if isLowSurrogate m then read (push content (pairValue n m)) rest
      else .error .loneSurrogate := by
  have hlow : ¬ isLowSurrogate n = true := by
    rw [isHighSurrogate_iff] at hhigh
    rw [isLowSurrogate_iff]
    omega
  obtain ⟨a, b, c, d, rfl, hunit⟩ := h.exists_digits
  obtain ⟨a', b', c', d', rfl, hunit'⟩ := h'.exists_digits
  show read content
    (0x5C :: 0x75 :: a :: b :: c :: d :: 0x5C :: 0x75 :: a' :: b' :: c' :: d' :: rest) = _
  rw [read, hunit]
  simp only [hunit', hlow, hhigh, not_true_eq_false, Bool.false_eq_true, if_false]

/-- A high surrogate without another unit behind it is a fault. -/
theorem read_unpaired (h : SpellsUnit n digits) (hhigh : isHighSurrogate n = true) {b : UInt8}
    {more : Bytes} (hb : b ≠ 0x5C ∨ ∃ e behind, more = e :: behind ∧ e ≠ 0x75)
    (content : Bytes) :
    read content (0x5C :: 0x75 :: (digits ++ b :: more)) =
      .error (.unpairedSurrogate (b == 0x22)) := by
  have hlow : ¬ isLowSurrogate n = true := by
    rw [isHighSurrogate_iff] at hhigh
    rw [isLowSurrogate_iff]
    omega
  obtain ⟨a₁, a₂, a₃, a₄, rfl, hunit⟩ := h.exists_digits
  show read content (0x5C :: 0x75 :: a₁ :: a₂ :: a₃ :: a₄ :: b :: more) = _
  rw [read, hunit]
  simp only [hlow, hhigh, not_true_eq_false, Bool.false_eq_true, if_false]
  rcases hb with hb | ⟨e, behind, rfl, he⟩
  · split <;> simp_all
  · split <;> simp_all

end

theorem read_unit {c : Char} {digits : Bytes} (h : SpellsUnit c.toNat digits)
    (content rest : Bytes) :
    read content (0x5C :: 0x75 :: (digits ++ rest)) =
      read ((String.utf8EncodeChar c).reverse ++ content) rest := by
  have hvalid : c.toNat < 0xD800 ∨ 0xDFFF < c.toNat ∧ c.toNat < 0x110000 := c.valid
  have hhigh : ¬ isHighSurrogate c.toNat = true := mt isHighSurrogate_iff.1 (by omega)
  have hlow : ¬ isLowSurrogate c.toNat = true := mt isLowSurrogate_iff.1 (by omega)
  rw [read_of_not_high h hhigh, if_neg hlow, push, Char.ofNat_toNat]

theorem read_pair {c : Char} {high low : Bytes} (hastral : 0x10000 ≤ c.toNat)
    (hhigh : SpellsUnit (0xD800 + (c.toNat - 0x10000) / 0x400) high)
    (hlow : SpellsUnit (0xDC00 + (c.toNat - 0x10000) % 0x400) low) (content rest : Bytes) :
    read content (0x5C :: 0x75 :: (high ++ 0x5C :: 0x75 :: (low ++ rest))) =
      read ((String.utf8EncodeChar c).reverse ++ content) rest := by
  have hvalid : c.toNat < 0xD800 ∨ 0xDFFF < c.toNat ∧ c.toNat < 0x110000 := c.valid
  have hvalue : pairValue (0xD800 + (c.toNat - 0x10000) / 0x400)
      (0xDC00 + (c.toNat - 0x10000) % 0x400) = c.toNat := by
    rw [pairValue]
    omega
  rw [read_of_high hhigh (isHighSurrogate_iff.2 (by omega)) hlow,
    if_pos (isLowSurrogate_iff.2 (by omega)), hvalue, push, Char.ofNat_toNat]

theorem read_spells (h : Spells bs inner) (content rest : Bytes) :
    read content (inner ++ rest) = read (bs.reverse ++ content) rest := by
  induction h generalizing content with
  | nil => rfl
  | plain isPlain _ ih =>
    rw [List.cons_append, read_cons_plain isPlain, ih, List.reverse_cons, List.append_assoc]
    rfl
  | letter isLetter _ ih =>
    rw [List.cons_append, List.cons_append, read_letter isLetter, ih, List.reverse_cons,
      List.append_assoc]
    rfl
  | unit isUnit _ ih =>
    rw [List.cons_append, List.cons_append, List.append_assoc, read_unit isUnit, ih,
      List.reverse_append, List.append_assoc]
  | pair isAstral isHigh isLow _ ih =>
    simp only [List.cons_append, List.append_assoc]
    rw [read_pair isAstral isHigh isLow, ih, List.reverse_append, List.append_assoc]

/-- However a text is spelled, it is read as itself. -/
theorem read_spelled {s : String} (h : Spells (Bytes.ofString s) inner) (rest : Bytes) :
    read [] (inner ++ 0x22 :: rest) = .ok s := by
  rw [read_spells h, List.append_nil, read, List.reverse_reverse, Bytes.toText?_ofString]

/-! ## What is read was spelled -/

theorem SpellsUnit.lt {n : Nat} {digits : Bytes} (h : SpellsUnit n digits) : n < 0x10000 := by
  obtain ⟨w, x, y, z, _, _, _, _, ⟨hw, -⟩, ⟨hx, -⟩, ⟨hy, -⟩, ⟨hz, -⟩, rfl, -⟩ := h
  omega

/-- The character of a number that is no surrogate and not too large. -/
theorem toNat_ofNat_of_valid {n : Nat} (h : n < 0xD800 ∨ 0xDFFF < n ∧ n < 0x110000) :
    (Char.ofNat n).toNat = n := by
  rw [Char.ofNat, dif_pos h]
  rfl

theorem reverse_push (content : Bytes) (n : Nat) :
    (push content n).reverse = content.reverse ++ String.utf8EncodeChar (Char.ofNat n) := by
  rw [push, List.reverse_append, List.reverse_reverse]

/-- What is read behind some bytes are these bytes and a text that was spelled. -/
theorem exists_spells_of_read {s : String} (h : read content bs = .ok s) :
    ∃ piece inner rest, bs = inner ++ 0x22 :: rest ∧ Spells piece inner ∧
      Bytes.ofString s = content.reverse ++ piece := by
  fun_induction read content bs with
  | case2 content rest s' htext =>
    cases h
    refine ⟨[], [], rest, rfl, .nil, ?_⟩
    rw [List.append_nil, Bytes.toText?_eq_some_iff.1 htext]
  | case6 content a b c d more n hunit hlow hhigh ih =>
    obtain ⟨piece, inner, rest, rfl, hspells, hs⟩ := ih h
    have hunit := unit?_eq_some_iff.1 hunit
    have hvalid : n < 0xD800 ∨ 0xDFFF < n ∧ n < 0x110000 := by
      have := hunit.lt
      rw [isLowSurrogate_iff] at hlow
      rw [isHighSurrogate_iff] at hhigh
      omega
    rw [← toNat_ofNat_of_valid hvalid] at hunit
    refine ⟨_, _, rest, rfl, .unit hunit hspells, ?_⟩
    rw [hs, reverse_push, List.append_assoc]
  | case8 content a b c d high hunit _ hhigh a₂ b₂ c₂ d₂ more low hunit₂ hlow ih =>
    obtain ⟨piece, inner, rest, rfl, hspells, hs⟩ := ih h
    have hhigh := isHighSurrogate_iff.1 (not_not.1 hhigh)
    have hlow := isLowSurrogate_iff.1 hlow
    have hchar : (Char.ofNat (pairValue high low)).toNat = pairValue high low :=
      toNat_ofNat_of_valid (Or.inr (by unfold pairValue; omega))
    have hfirst : high = 0xD800 + ((Char.ofNat (pairValue high low)).toNat - 0x10000) / 0x400 := by
      rw [hchar]
      unfold pairValue
      omega
    have hsecond : low = 0xDC00 + ((Char.ofNat (pairValue high low)).toNat - 0x10000) % 0x400 := by
      rw [hchar]
      unfold pairValue
      omega
    refine ⟨_, _, rest, rfl, .pair (by rw [hchar]; unfold pairValue; omega)
      (hfirst ▸ unit?_eq_some_iff.1 hunit) (hsecond ▸ unit?_eq_some_iff.1 hunit₂) hspells, ?_⟩
    rw [hs, reverse_push, List.append_assoc]
  | case15 content e more _ _ b hletter ih =>
    obtain ⟨piece, inner, rest, rfl, hspells, hs⟩ := ih h
    refine ⟨_, _, rest, rfl, .letter (letter?_eq_some_iff.1 hletter) hspells, ?_⟩
    rw [hs, List.reverse_cons, List.append_assoc]
    rfl
  | case19 content b more hmark _ _ hescape hlast hcontrol ih =>
    obtain ⟨piece, inner, rest, rfl, hspells, hs⟩ := ih h
    refine ⟨b :: piece, b :: inner, rest, rfl,
      .plain (isPlain_of_cases hmark hescape hlast hcontrol) hspells, ?_⟩
    rw [hs, List.reverse_cons, List.append_assoc]
    rfl
  | _ => contradiction

/-- A text that is read was spelled. -/
theorem exists_spells_of_read_nil {s : String} (h : read [] bs = .ok s) :
    ∃ inner rest, bs = inner ++ 0x22 :: rest ∧ Spells (Bytes.ofString s) inner := by
  obtain ⟨piece, inner, rest, rfl, hspells, hs⟩ := exists_spells_of_read h
  exact ⟨inner, rest, rfl, hs ▸ hspells⟩

/-! ## Texts that may be unreadable -/

/-- Reading does not look behind the closing mark, neither from here on nor from behind a unit,
which looks at what follows it. -/
structure IsSelfContained (inner : Bytes) : Prop where
  read_eq : ∀ content rest,
    read content (inner ++ 0x22 :: rest) = read content (inner ++ [0x22])
  read_unit_eq : ∀ {n : Nat} {digits : Bytes} (content rest : Bytes), SpellsUnit n digits →
    read content (0x5C :: 0x75 :: (digits ++ (inner ++ 0x22 :: rest))) =
      read content (0x5C :: 0x75 :: (digits ++ (inner ++ [0x22])))

theorem isSelfContained (h : IsLoose inner) : IsSelfContained inner := by
  -- behind a unit, one that is no high surrogate goes on as if it were not there
  have hunit : ∀ {inner : Bytes},
      (∀ content rest, read content (inner ++ 0x22 :: rest) = read content (inner ++ [0x22])) →
      (∀ {n : Nat} {digits : Bytes} (content rest : Bytes), SpellsUnit n digits →
        isHighSurrogate n = true →
        read content (0x5C :: 0x75 :: (digits ++ (inner ++ 0x22 :: rest))) =
          read content (0x5C :: 0x75 :: (digits ++ (inner ++ [0x22])))) →
      IsSelfContained inner := by
    refine fun hread hhigh => ⟨hread, fun {n _} content rest hn => ?_⟩
    by_cases hs : isHighSurrogate n = true
    · exact hhigh content rest hn hs
    · rw [read_of_not_high hn hs, read_of_not_high hn hs, hread]
  induction h with
  | nil =>
    refine hunit (fun content rest => by simp only [List.nil_append, read]) ?_
    intro n digits content rest hn hs
    rw [List.nil_append, List.nil_append, read_unpaired hn hs (Or.inl (by decide)),
      read_unpaired hn hs (Or.inl (by decide))]
  | plain isPlain _ ih =>
    refine hunit (fun content rest => ?_) fun content rest hn hs => ?_
    · rw [List.cons_append, List.cons_append, read_cons_plain isPlain, read_cons_plain isPlain,
        ih.read_eq]
    · rw [List.cons_append, List.cons_append, read_unpaired hn hs (Or.inl isPlain.ne_escape),
        read_unpaired hn hs (Or.inl isPlain.ne_escape)]
  | letter isLetter _ ih =>
    refine hunit (fun content rest => ?_) fun content rest hn hs => ?_
    · simp only [List.cons_append, read_letter isLetter, ih.read_eq]
    · have he := ne_of_isLetter isLetter
      simp only [List.cons_append]
      rw [read_unpaired hn hs (Or.inr ⟨_, _, rfl, he⟩),
        read_unpaired hn hs (Or.inr ⟨_, _, rfl, he⟩)]
  | unit isUnit _ ih =>
    refine hunit (fun content rest => ?_) fun content rest hn hs => ?_
    · simp only [List.cons_append, List.append_assoc, ih.read_unit_eq content rest isUnit]
    · simp only [List.cons_append, List.append_assoc]
      rw [read_of_high hn hs isUnit, read_of_high hn hs isUnit, ih.read_eq]

variable {value : Except Fault String}

theorem SpellsText.isLoose (h : SpellsText value inner) : IsLoose inner := by
  cases h with
  | readable spells => exact spells.isLoose
  | unreadable isLoose _ => exact isLoose

/-- However a text is spelled, readable or not, it is read as what it is. -/
theorem read_spellsText (h : SpellsText value inner) (rest : Bytes) :
    read [] (inner ++ 0x22 :: rest) = value := by
  cases h with
  | readable spells => exact read_spelled spells rest
  | unreadable isLoose reads => exact ((isSelfContained isLoose).read_eq [] rest).trans reads

/-- What is skimmed spells a text, which may be unreadable. -/
theorem exists_spellsText_of_skim (h : skim bs = .ok rest) :
    ∃ inner, bs = inner ++ 0x22 :: rest ∧ SpellsText (read [] bs) inner := by
  obtain ⟨inner, rfl, hloose⟩ := exists_loose_of_skim h
  refine ⟨inner, rfl, ?_⟩
  cases hread : read [] (inner ++ 0x22 :: rest) with
  | error fault =>
    exact .unreadable hloose (((isSelfContained hloose).read_eq [] rest).symm.trans hread)
  | ok s =>
    -- what was spelled ends where the skimming does
    obtain ⟨inner', rest', heq, hspells⟩ := exists_spells_of_read_nil hread
    have hskim := skim_loose hspells.isLoose rest'
    rw [← heq, h] at hskim
    cases hskim
    rw [List.append_cancel_right heq]
    exact .readable hspells

end Latchkey.Json.Quotation
