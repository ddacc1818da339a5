/-
Stored passwords are read back as they were written: the text is cut at its dollar signs, the cost
is read, and salt and digest are decoded. So a password is compared with the one that was stored by
their digests (`verify_hash`), and these are made from the keys: two passwords of at most 71 bytes
that have the same key are the same (`eq_of_keyOf_eq`), and longer ones are cut off.
-/
import Latchkey.Password.Hash
import Latchkey.Proofs.Digest.Base64
import Latchkey.Proofs.Digest.Bytes

namespace Latchkey.Password

open Base64 (Alphabet)

/-! ## Pieces -/

/-- What is no dollar sign is read into the piece. -/
theorem pieces_append {cs : List Char} (h : ∀ c ∈ cs, c ≠ '$') (piece rest : List Char) :
    pieces piece (cs ++ rest) = pieces (cs.reverse ++ piece) rest := by
  induction cs generalizing piece with
  | nil => rfl
  | cons c cs ih =>
    have hc : c ≠ '$' := h c List.mem_cons_self
    rw [List.cons_append, pieces, if_neg hc, ih fun d hd => h d (List.mem_cons_of_mem c hd),
      List.reverse_cons, List.append_assoc]
    rfl

/-- A text of two dollar-free pieces and a third one. -/
theorem pieces_three {as bs cs : List Char} (ha : ∀ c ∈ as, c ≠ '$') (hb : ∀ c ∈ bs, c ≠ '$')
    (hc : ∀ c ∈ cs, c ≠ '$') (hane : as ≠ []) (hbne : bs ≠ []) (hcne : cs ≠ []) :
    pieces [] ('$' :: (as ++ '$' :: (bs ++ '$' :: cs))) = [as, bs, cs] := by
  have hlast : pieces [] cs = [cs] := by
    have h := pieces_append hc [] []
    rw [List.append_nil, List.append_nil] at h
    rw [h, pieces, if_neg (by simpa using hcne), List.reverse_reverse]
  have hsecond : pieces [] (bs ++ '$' :: cs) = [bs, cs] := by
    rw [pieces_append hb, List.append_nil, pieces, if_pos rfl, if_neg (by simpa using hbne), hlast,
      List.reverse_reverse]
  have hfirst : pieces [] (as ++ '$' :: (bs ++ '$' :: cs)) = [as, bs, cs] := by
    rw [pieces_append ha, List.append_nil, pieces, if_pos rfl, if_neg (by simpa using hane),
      hsecond, List.reverse_reverse]
  rw [pieces, if_pos rfl, if_pos List.isEmpty_nil, hfirst]

/-! ## Symbols -/

theorem symbol_bounds : ∀ b ∈ Alphabet.bcrypt.symbols, b.toNat < 128 ∧ b ≠ 36 := by
  decide +kernel

theorem padding_notMem : Base64.padding ∉ Alphabet.bcrypt.symbols := by
  decide +kernel

theorem decode_encode (bs : Bytes) : decode (Base64.encode .bcrypt bs) = .ok bs := by
  rw [decode, Base64.decode_encode .bcrypt padding_notMem]
  rfl

/-! ## Stored texts -/

/-- Salt and digest of a stored text, encoded. -/
def body (password : String) (salt : Bytes) : Bytes :=
  Base64.encode .bcrypt salt ++ Base64.encode .bcrypt (digest cost salt (keyOf password))

theorem lt_of_mem_body {password : String} {salt : Bytes} {b : UInt8} (h : b ∈ body password salt) :
    b.toNat < 128 ∧ b ≠ 36 := by
  rcases List.mem_append.1 h with h | h <;>
    exact symbol_bounds b (Base64.mem_symbols_of_mem_encode .bcrypt h)

theorem length_body (password : String) {salt : Bytes} (h : salt.length = 16) :
    (body password salt).length = 53 := by
  rw [body, List.length_append, Base64.length_encode, Base64.length_encode, length_digest, h]

theorem toList_hash (password : String) (salt : Bytes) :
    (hash password salt).toList = '$' :: (['2', 'b'] ++ '$' :: (['1', '0'] ++
      '$' :: (Bytes.toAscii (body password salt)).toList)) := by
  have hcost : Nat.toDigits 10 cost = ['1', '0'] := by decide
  simp [hash, body, Bytes.toAscii, hcost]

theorem ne_dollar_of_mem_body {password : String} {salt : Bytes} :
    ∀ c ∈ (Bytes.toAscii (body password salt)).toList, c ≠ '$' := by
  intro c hc
  rw [Bytes.toAscii, String.toList_ofList] at hc
  obtain ⟨b, hb, rfl⟩ := List.mem_map.1 hc
  obtain ⟨hlt, hne⟩ := lt_of_mem_body hb
  -- a byte of ASCII is the number of its character
  have hvalid : b.toNat.isValidChar := Or.inl (by omega)
  intro h
  have hnum : (Char.ofNat b.toNat).toNat = 36 := by rw [h]; rfl
  rw [Char.ofNat, dif_pos hvalid] at hnum
  exact hne (UInt8.toNat_inj.1 hnum)

theorem isContinuation_of_mem_body {password : String} {salt : Bytes} {b : UInt8}
    (h : b ∈ body password salt) : isContinuation b = false := by
  have hascii := (lt_of_mem_body h).1
  have hbelow : ¬ (0x80 : UInt8) ≤ b := fun hle => by
    have hle : (128 : Nat) ≤ b.toNat := UInt8.le_iff_toNat_le.1 hle
    omega
  simp [isContinuation, hbelow]

theorem pieces_hash (password : String) {salt : Bytes} (h : salt.length = 16) :
    pieces [] (hash password salt).toList =
      [['2', 'b'], ['1', '0'], (Bytes.toAscii (body password salt)).toList] := by
  have hnonempty : (Bytes.toAscii (body password salt)).toList ≠ [] := by
    intro hnil
    have hlength := length_body password h
    rw [Bytes.toAscii, String.toList_ofList, List.map_eq_nil_iff] at hnil
    rw [hnil] at hlength
    cases hlength
  rw [toList_hash]
  exact pieces_three (by simp) (by simp) ne_dollar_of_mem_body (by decide) (by decide) hnonempty

/-- A stored text is taken apart into its cost and its two encoded parts. -/
theorem parse_hash (password : String) {salt : Bytes} (h : salt.length = 16) :
    parse (hash password salt) = .ok ⟨cost, Base64.encode .bcrypt salt,
      Base64.encode .bcrypt (digest cost salt (keyOf password))⟩ := by
  have hversion : versions.contains (String.ofList ['2', 'b']) = true := by decide
  have hcost : Text.readInteger 0 Text.maxUnsigned32 ['1', '0'] = .ok 10 := by decide
  have hbody : Bytes.ofString (Bytes.toAscii (body password salt)) = body password salt :=
    Bytes.ofString_toAscii fun b hb => (lt_of_mem_body hb).1
  have hlength := length_body password h
  -- the cut falls between two symbols, each of one byte
  have hcontinues : isContinuation ((body password salt).getD 22 0) = false := by
    have hlt : 22 < (body password salt).length := by rw [hlength]; decide
    rw [List.getD_eq_getElem _ _ hlt]
    exact isContinuation_of_mem_body (List.getElem_mem hlt)
  have hsalt : (Base64.encode .bcrypt salt).length = 22 := by rw [Base64.length_encode, h]
  have htake : (body password salt).take 22 = Base64.encode .bcrypt salt :=
    List.take_left' hsalt
  have hdrop : (body password salt).drop 22 =
      Base64.encode .bcrypt (digest cost salt (keyOf password)) := List.drop_left' hsalt
  unfold parse
  simp only [pieces_hash password h, hversion, not_true, if_false, hcost, String.ofList_toList,
    hbody, hlength, hcontinues, Bool.false_eq_true, not_false_eq_true, and_self, if_true, htake,
    hdrop]
  rfl

/-! ## Comparing passwords -/

/-- A text that can be taken apart is compared with the digest of the password. -/
theorem verify_of_parse {hash : String} {parts : Parts} {salt stored : Bytes}
    (hparse : parse hash = .ok parts) (hsalt : decode parts.salt = .ok salt)
    (hrange : ¬ (parts.cost < lowestCost ∨ highestCost < parts.cost))
    (hstored : decode parts.digest = .ok stored) (password : String) :
    verify password hash = .ok (stored == digest parts.cost salt (keyOf password)) := by
  unfold verify
  simp only [hparse, hsalt, hstored, hrange, bind, Except.bind, pure, Except.pure, if_false]

/-- A password is compared with the one that was stored by what the digest makes of their keys. -/
theorem verify_hash (password password' : String) {salt : Bytes} (h : salt.length = 16) :
    verify password' (hash password salt) =
      .ok (digest cost salt (keyOf password) == digest cost salt (keyOf password')) := by
  have hrange : ¬ (cost < lowestCost ∨ highestCost < cost) := by decide
  exact verify_of_parse (parse_hash password h) (decode_encode salt) hrange (decode_encode _)
    password'

theorem verify_hash_self (password : String) {salt : Bytes} (h : salt.length = 16) :
    verify password (hash password salt) = .ok true := by
  rw [verify_hash password password h, beq_self_eq_true]

/-- A stored text is that of a password with the same digest. -/
theorem verify_hash_eq_true_iff {password password' : String} {salt : Bytes}
    (h : salt.length = 16) : verify password' (hash password salt) = .ok true ↔
      digest cost salt (keyOf password') = digest cost salt (keyOf password) := by
  rw [verify_hash password password' h, Except.ok.injEq, beq_iff_eq, eq_comm]

/-! ## Keys -/

/-- A password of at most 71 bytes is all in its key. -/
theorem keyOf_of_length_le {password : String} (h : (Bytes.ofString password).length ≤ 71) :
    keyOf password = Bytes.ofString password ++ [0] := by
  rw [keyOf, List.take_of_length_le]
  rw [List.length_append]
  exact Nat.succ_le_succ h

theorem eq_of_ofString_eq {s t : String} (h : Bytes.ofString s = Bytes.ofString t) : s = t := by
  have hs := Bytes.toText?_ofString s
  rw [h, Bytes.toText?_ofString t] at hs
  exact (Option.some.inj hs).symm

/-- Passwords of at most 71 bytes are told apart by their keys. -/
theorem eq_of_keyOf_eq {password password' : String} (h : (Bytes.ofString password).length ≤ 71)
    (h' : (Bytes.ofString password').length ≤ 71) (heq : keyOf password = keyOf password') :
    password = password' := by
  rw [keyOf_of_length_le h, keyOf_of_length_le h'] at heq
  exact eq_of_ofString_eq (List.append_cancel_right heq)

/-- Behind its first 72 bytes a password does not matter. -/
theorem keyOf_of_length_ge {password : String} (h : 72 ≤ (Bytes.ofString password).length) :
    keyOf password = (Bytes.ofString password).take 72 := by
  rw [keyOf, List.take_append_of_le_length h]

end Latchkey.Password
