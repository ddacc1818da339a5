/-
Reading records. Members make something known to a reader of some fields (`Reader.Gathers`), and an
object is read as just this unless a required field is missing (`object_takes`,
`exists_gathers_of_object`); it is refused as soon as a field comes a second time
(`object_repeats`). A list is read field by field (`exists_elements_of_record`). However a record is
spelled, it is decoded so (`Form.decode_spelled`), and what is decoded was spelled
(`Form.exists_spells_of_decode`).
-/
import Latchkey.Proofs.Json.Reader
import Latchkey.Proofs.Json.Spelled
import Mathlib.Data.List.Forall2

namespace Latchkey.Json

open Document (keyed keyed_cons memberTokens moreMembers moreMembers_append commaMembers
  commaMembers_cons objectTokens commaElements commaElements_cons moreElements_eq elementTokens)

namespace Reader

/-! ## Members -/

/-- What members make known, beside what is known already, to a reader of some fields. -/
inductive Gathers (fields : List RecordField) (unknown : Unknown) :
    Members → List (String × Document) → Members → Prop
  | nil {known : Members} : Gathers fields unknown known [] known
  | field {known final : Members} {key : String} {d : Document} {ms : List (String × Document)}
      {f : RecordField} {v : Datum} (isField : fields.find? (·.key == key) = some f)
      (isNew : (known.lookup key).isSome = false) (takes : f.read.Takes d.tokens v)
      (others : Gathers fields unknown (known ++ [(key, v)]) ms final) :
      Gathers fields unknown known ((key, d) :: ms) final
  | other {known final : Members} {key : String} {d : Document} {ms : List (String × Document)}
      {v : Option Datum} (isNoField : fields.find? (·.key == key) = none)
      (takes : (unknown key).Takes d.tokens v)
      (others : Gathers fields unknown (known ++ (v.map (key, ·)).toList) ms final) :
      Gathers fields unknown known ((key, d) :: ms) final

variable {fields : List RecordField} {unknown : Unknown} {known next final : Members}
  {key : String} {d : Document} {ms : List (String × Document)} {ts rest : List Token}

theorem memberValue_takes {α : Type} {read : Reader α} {a : α} (key : String)
    (h : read.Takes ts a) : (memberValue key read).Takes (.colon :: ts) a := fun rest => by
  rw [List.cons_append, memberValue, h rest]
  rfl

theorem within_eq_ok {α : Type} {step : Step} {r : Reading α} {a : α} (h : within step r = .ok a) :
    r = .ok a := by
  cases r with
  | error failure => contradiction
  | ok b => exact h

theorem exists_of_memberValue {α : Type} {read : Reader α} {a : α} (hread : read.Sound)
    (hts : Honest ts) (h : memberValue key read ts = .ok (a, rest)) :
    ∃ d : Document, ts = .colon :: d.tokens ++ rest ∧ read.Takes d.tokens a := by
  cases ts with
  | nil => contradiction
  | cons t ts =>
    cases t with
    | colon =>
      obtain ⟨d, rfl, htakes⟩ := hread hts.tail (within_eq_ok h)
      exact ⟨d, rfl, htakes⟩
    | _ => contradiction

/-- A member is taken behind its key. -/
theorem member_takes (h : Gathers fields unknown known ((key, d) :: ms) final) :
    ∃ next, Gathers fields unknown next ms final ∧
      (member fields unknown known key).Takes (.colon :: d.tokens) next := by
  cases h with
  | field isField isNew takes others =>
    refine ⟨_, others, fun rest => ?_⟩
    rw [member, isField]
    simp only [isNew, memberValue_takes key takes rest]
    rfl
  | other isNoField takes others =>
    refine ⟨_, others, fun rest => ?_⟩
    rw [member, isNoField]
    simp only [memberValue_takes key takes rest]
    rfl

theorem exists_of_member (hfields : ∀ f ∈ fields, f.read.Sound)
    (hunknown : ∀ key, (unknown key).Sound) (hts : Honest ts)
    (h : member fields unknown known key ts = .ok (next, rest)) :
    ∃ d : Document, ts = .colon :: d.tokens ++ rest ∧ ∀ {ms final},
      Gathers fields unknown next ms final → Gathers fields unknown known ((key, d) :: ms) final := by
  unfold member at h
  split at h
  · rename_i f hfind
    split at h
    · contradiction
    · rename_i hnew
      obtain ⟨⟨v, behind⟩, hvalue, heq⟩ := exists_of_bind_ok h
      cases heq
      obtain ⟨d, hd, htakes⟩ :=
        exists_of_memberValue (hfields f (List.mem_of_find?_eq_some hfind)) hts hvalue
      exact ⟨d, hd, .field hfind (Bool.eq_false_iff.2 hnew) htakes⟩
  · rename_i hfind
    obtain ⟨⟨v, behind⟩, hvalue, heq⟩ := exists_of_bind_ok h
    cases heq
    obtain ⟨d, hd, htakes⟩ := exists_of_memberValue (hunknown key) hts hvalue
    exact ⟨d, hd, .other hfind htakes⟩

/-! ## Objects -/

/-- What stands in front of a member or an element, if it is not the first one. -/
def lead (first : Bool) : List Token := if first then [] else [.comma]

theorem members_cons (h : Gathers fields unknown known ((key, d) :: ms) final) :
    ∃ next, Gathers fields unknown next ms final ∧ ∀ first fuel ts,
      members fields unknown (fuel + 1) first known
        (lead first ++ (memberTokens (.ok key, d) ++ ts)) =
      members fields unknown fuel false next ts := by
  obtain ⟨next, hnext, hmember⟩ := member_takes h
  refine ⟨next, hnext, fun first fuel ts => ?_⟩
  have hmember := hmember ts
  cases first with
  | false =>
    show members fields unknown (fuel + 1) false known (.comma :: .text (.ok key) none ::
      (.colon :: d.tokens ++ ts)) = _
    rw [members]
    simp only [nextKey, ofExcept, pure, Except.pure, bind, Except.bind, hmember]
  | true =>
    show members fields unknown (fuel + 1) true known (.text (.ok key) none ::
      (.colon :: d.tokens ++ ts)) = _
    rw [members]
    simp only [nextKey, ofExcept, pure, Except.pure, bind, Except.bind, hmember]

theorem members_append (h : Gathers fields unknown known ms next) (fuel : Nat) (ts : List Token) :
    members fields unknown (fuel + ms.length) false known (commaMembers (keyed ms) ++ ts) =
      members fields unknown fuel false next ts := by
  induction ms generalizing known with
  | nil =>
    cases h
    rfl
  | cons m ms ih =>
    obtain ⟨key, d⟩ := m
    obtain ⟨_, hmore, hcons⟩ := members_cons h
    have hfirst := hcons false (fuel + ms.length) (commaMembers (keyed ms) ++ ts)
    rw [ih hmore] at hfirst
    rw [← hfirst, keyed_cons, commaMembers_cons, List.append_assoc]
    rfl

theorem length_le_length_commaMembers (ms : List (String × Document)) :
    ms.length ≤ (commaMembers (keyed ms)).length := by
  induction ms with
  | nil => exact Nat.le_refl 0
  | cons m ms ih =>
    obtain ⟨key, d⟩ := m
    rw [keyed_cons, commaMembers_cons, List.length_append]
    simp only [List.length_cons]
    omega

/-- Behind the members that come first in an object, reading goes on with what they make known. -/
theorem members_objectTokens (h : Gathers fields unknown known ms next) (hms : ms ≠ [])
    (ns : List (String × Document)) (rest : List Token) :
    ∃ fuel, members fields unknown ((objectTokens (keyed (ms ++ ns)) ++ rest).length + 1) true known
        (objectTokens (keyed (ms ++ ns)) ++ rest) =
      members fields unknown (fuel + 1) false next (moreMembers (keyed ns) ++ rest) := by
  obtain ⟨⟨key, d⟩, ms, rfl⟩ := List.exists_cons_of_ne_nil hms
  obtain ⟨_, hmore, hcons⟩ := members_cons h
  have htokens : objectTokens (keyed ((key, d) :: ms ++ ns)) ++ rest =
      lead true ++ (memberTokens (.ok key, d) ++
        (commaMembers (keyed ms) ++ (moreMembers (keyed ns) ++ rest))) := by
    have happend : keyed (ms ++ ns) = keyed ms ++ keyed ns := List.map_append
    rw [List.cons_append, keyed_cons, happend, objectTokens, moreMembers_append, List.append_assoc,
      List.append_assoc]
    rfl
  have hlen : ms.length < (objectTokens (keyed ((key, d) :: ms ++ ns)) ++ rest).length := by
    have := length_le_length_commaMembers ms
    rw [htokens]
    simp only [lead, memberTokens, if_true, List.nil_append, List.length_append, List.length_cons]
    omega
  obtain ⟨fuel, hfuel⟩ := Nat.exists_eq_add_of_lt hlen
  refine ⟨fuel, ?_⟩
  rw [hfuel, htokens, hcons, Nat.add_assoc, Nat.add_comm, members_append hmore]

/-- The members of the whole object are within the bound. -/
theorem object_of_members (hmissing : missing? fields known = none)
    (h : members fields unknown (ts.length + 1) true [] ts = .ok (known, rest)) :
    object fields unknown ts = .ok (known, rest) := by
  rw [object, h]
  simp only [bind, Except.bind, hmissing]
  rfl

/-- An object is read as what its members make known if no required field is missing. -/
theorem object_takes (h : Gathers fields unknown [] ms known)
    (hmissing : missing? fields known = none) :
    (object fields unknown).Takes (objectTokens (keyed ms)) known := by
  intro rest
  refine object_of_members hmissing ?_
  by_cases hms : ms = []
  · subst hms
    cases h
    rfl
  · obtain ⟨fuel, hfuel⟩ := members_objectTokens h hms [] rest
    rw [List.append_nil] at hfuel
    rw [hfuel]
    rfl

/-- A record is read as what its members make known if no required field is missing. -/
theorem record_takes (name : String) (h : Gathers fields passOver [] ms known)
    (hmissing : missing? fields known = none) :
    (record name fields).Takes (Document.record ms).tokens known := by
  intro rest
  rw [Document.record, Document.tokens_object]
  exact object_takes h hmissing rest

/-! ## Objects with a field twice -/

/-- A second member of a field is refused, whatever it holds. -/
theorem member_repeats (hfield : (fields.find? (·.key == key)).isSome = true)
    (hknown : (known.lookup key).isSome = true) (ts : List Token) :
    member fields unknown known key ts = fail (.duplicateField key) := by
  obtain ⟨f, hf⟩ := Option.isSome_iff_exists.1 hfield
  rw [member, hf]
  exact if_pos hknown

/-- An object is refused at the second member of a field. -/
theorem object_repeats (h : Gathers fields unknown [] ms known)
    (hfield : (fields.find? (·.key == key)).isSome = true)
    (hknown : (known.lookup key).isSome = true) (ns : List (String × Document))
    (rest : List Token) :
    object fields unknown (objectTokens (keyed (ms ++ (key, d) :: ns)) ++ rest) =
      fail (.duplicateField key) := by
  have hms : ms ≠ [] := by
    rintro rfl
    cases h
    contradiction
  obtain ⟨fuel, hfuel⟩ := members_objectTokens h hms ((key, d) :: ns) rest
  rw [object, hfuel, keyed_cons, moreMembers, memberTokens, members]
  simp only [List.cons_append, nextKey, ofExcept, pure, Except.pure, bind, Except.bind,
    member_repeats hfield hknown]
  rfl

/-! ## Objects with a field once -/

/-- A value that the field takes. -/
def FitsField (f : RecordField) (d : Document) : Prop := ∃ v, f.read.Takes d.tokens v

theorem Gathers.filter_of_known {f : RecordField} (h : Gathers fields unknown known ms final)
    (hfield : fields.find? (·.key == key) = some f) (hknown : (known.lookup key).isSome = true) :
    ms.filter (·.1 == key) = [] := by
  induction h with
  | nil => rfl
  | @field known _ k _ ms _ v isField isNew _ _ ih =>
    have hne : k ≠ key := by
      rintro rfl
      rw [isNew] at hknown
      contradiction
    rw [List.filter_cons_of_neg (by simpa using hne)]
    refine ih ?_
    rw [List.lookup_append, Option.isSome_or, hknown, Bool.true_or]
  | @other known _ k _ ms v isNoField _ _ ih =>
    have hne : k ≠ key := by
      rintro rfl
      rw [isNoField] at hfield
      contradiction
    rw [List.filter_cons_of_neg (by simpa using hne)]
    refine ih ?_
    rw [List.lookup_append, Option.isSome_or, hknown, Bool.true_or]

/-- A field that members make known is one of them, and only once. -/
theorem Gathers.exists_only {f : RecordField} (h : Gathers fields unknown known ms final)
    (hfield : fields.find? (·.key == key) = some f) (hnew : known.lookup key = none)
    (hfinal : (final.lookup key).isSome = true) :
    ∃ d, ms.filter (·.1 == key) = [(key, d)] ∧ FitsField f d := by
  induction h with
  | nil =>
    rw [hnew] at hfinal
    contradiction
  | @field known _ k d ms g v isField isNew takes others ih =>
    by_cases hk : k = key
    · subst hk
      obtain rfl := Option.some.inj (isField.symm.trans hfield)
      refine ⟨d, ?_, v, takes⟩
      have hmore := others.filter_of_known hfield (by simp [List.lookup_append])
      rw [List.filter_cons_of_pos (by simp), hmore]
    · rw [List.filter_cons_of_neg (by simpa using hk)]
      refine ih ?_ hfinal
      rw [List.lookup_append, hnew, List.lookup_cons, beq_eq_false_iff_ne.2 (Ne.symm hk)]
      rfl
  | @other known _ k d ms v isNoField _ others ih =>
    have hne : k ≠ key := by
      rintro rfl
      rw [isNoField] at hfield
      contradiction
    rw [List.filter_cons_of_neg (by simpa using hne)]
    refine ih ?_ hfinal
    rw [List.lookup_append, hnew]
    cases v with
    | none => rfl
    | some v =>
      rw [Option.map_some, Option.toList_some, List.lookup_cons,
        beq_eq_false_iff_ne.2 (Ne.symm hne)]
      rfl

/-! ## What is read as an object -/

theorem eq_of_nextKey_none {first : Bool} (h : nextKey first ts = .ok (none, rest)) :
    ts = .closeObject :: rest := by
  unfold nextKey at h
  split at h
  · cases h
    rfl
  · contradiction
  · split at h
    · obtain ⟨_, -, heq⟩ := exists_of_bind_ok h
      cases heq
    · obtain ⟨_, -, heq⟩ := exists_of_bind_ok h
      cases heq
    all_goals contradiction

theorem eq_of_nextKey_some {first : Bool} (hts : Honest ts)
    (h : nextKey first ts = .ok (some key, rest)) :
    ts = lead first ++ .text (.ok key) none :: rest := by
  unfold nextKey at h
  split at h
  · cases h
  · contradiction
  · split at h
    · obtain ⟨s, hs, heq⟩ := exists_of_bind_ok h
      cases ofExcept_eq_ok hs
      cases heq
      cases (hts _ List.mem_cons_self).broken_eq
      rfl
    · obtain ⟨s, hs, heq⟩ := exists_of_bind_ok h
      cases ofExcept_eq_ok hs
      cases heq
      cases (hts.tail _ List.mem_cons_self).broken_eq
      rfl
    all_goals contradiction

section

variable (hfields : ∀ f ∈ fields, f.read.Sound) (hunknown : ∀ key, (unknown key).Sound)
include hfields hunknown

/-- Members are read one at a time up to the end of the object. -/
theorem exists_of_members {first : Bool} {fuel : Nat} (hts : Honest ts)
    (h : members fields unknown (fuel + 1) first known ts = .ok (final, rest)) :
    ts = .closeObject :: rest ∧ final = known ∨
      ∃ key d next behind, ts = lead first ++ (memberTokens (.ok key, d) ++ behind) ∧
        members fields unknown fuel false next behind = .ok (final, rest) ∧
        ∀ {ms final}, Gathers fields unknown next ms final →
          Gathers fields unknown known ((key, d) :: ms) final := by
  obtain ⟨⟨key?, behind⟩, hkey, hmore⟩ := exists_of_bind_ok h
  cases key? with
  | none =>
    cases hmore
    exact Or.inl ⟨eq_of_nextKey_none hkey, rfl⟩
  | some key =>
    obtain ⟨⟨next, more⟩, hmember, hmembers⟩ := exists_of_bind_ok hmore
    have heq := eq_of_nextKey_some hts hkey
    have hbehind : Honest behind := (heq ▸ hts).of_append.tail
    obtain ⟨d, rfl, hgathers⟩ := exists_of_member hfields hunknown hbehind hmember
    exact Or.inr ⟨key, d, next, more, heq, hmembers, hgathers⟩

theorem exists_gathers_of_members {fuel : Nat} (hts : Honest ts)
    (h : members fields unknown fuel false known ts = .ok (final, rest)) :
    ∃ ms, ts = moreMembers (keyed ms) ++ rest ∧ Gathers fields unknown known ms final := by
  induction fuel generalizing known ts with
  | zero => contradiction
  | succ fuel ih =>
    rcases exists_of_members hfields hunknown hts h with
      ⟨rfl, rfl⟩ | ⟨key, d, next, behind, rfl, hmore, hgathers⟩
    · exact ⟨[], rfl, .nil⟩
    · obtain ⟨ms, rfl, hms⟩ := ih hts.of_append.of_append hmore
      refine ⟨(key, d) :: ms, ?_, hgathers hms⟩
      rw [keyed_cons, moreMembers, List.append_assoc]
      rfl

/-- What is read as an object is one, and its members make known what is read. -/
theorem exists_gathers_of_object (hts : Honest ts)
    (h : object fields unknown ts = .ok (known, rest)) :
    ∃ ms, ts = objectTokens (keyed ms) ++ rest ∧ Gathers fields unknown [] ms known ∧
      missing? fields known = none := by
  obtain ⟨⟨final, behind⟩, hmembers, hend⟩ := exists_of_bind_ok h
  dsimp only at hend
  split at hend
  · contradiction
  · rename_i hmissing
    cases hend
    rcases exists_of_members hfields hunknown hts hmembers with
      ⟨rfl, rfl⟩ | ⟨key, d, next, behind, rfl, hmore, hgathers⟩
    · exact ⟨[], rfl, .nil, hmissing⟩
    · obtain ⟨ms, rfl, hms⟩ :=
        exists_gathers_of_members hfields hunknown hts.of_append.of_append hmore
      refine ⟨(key, d) :: ms, ?_, hgathers hms, hmissing⟩
      rw [keyed_cons, objectTokens, List.append_assoc]
      rfl

end

/-! ## Lists -/

theorem eq_of_nextElement {first : Bool} {us : List Token}
    (h : nextElement first ts = .ok (some us)) : ts = lead first ++ us := by
  unfold nextElement at h
  split at h
  · contradiction
  · cases h
  · split at h
    · cases h
      rfl
    · contradiction
    · contradiction
    · cases h
      rfl
    · contradiction

theorem eq_of_listEnd {us : List Token} (h : listEnd ts = .ok us) : ts = .closeList :: us := by
  unfold listEnd at h
  split at h
  · cases h
    rfl
  all_goals contradiction

section

variable {name : String} {size i : Nat} {f : RecordField}

theorem exists_of_elements_cons (hf : f.read.Sound) (hpresence : f.presence ≠ .defaulted)
    (hts : Honest ts) (h : elements name size i (f :: fields) known ts = .ok (final, rest)) :
    ∃ d next behind, ts = lead (i == 0) ++ (d.tokens ++ behind) ∧ FitsField f d ∧
      elements name size (i + 1) fields next behind = .ok (final, rest) := by
  obtain ⟨us?, hus, hmore⟩ := exists_of_bind_ok h
  cases us? with
  | none =>
    dsimp only at hmore
    rw [if_neg hpresence] at hmore
    contradiction
  | some us =>
    obtain ⟨⟨v, behind⟩, hread, helements⟩ := exists_of_bind_ok hmore
    have heq := eq_of_nextElement hus
    obtain ⟨d, rfl, htakes⟩ := hf (heq ▸ hts).of_append (within_eq_ok hread)
    exact ⟨d, _, behind, heq, ⟨v, htakes⟩, helements⟩

variable (hfields : ∀ f ∈ fields, f.read.Sound ∧ f.presence ≠ .defaulted)
include hfields

theorem exists_of_elements (hts : Honest ts)
    (h : elements name size (i + 1) fields known ts = .ok (final, rest)) :
    ∃ ds, ts = commaElements ds ++ rest ∧ List.Forall₂ FitsField fields ds := by
  induction fields generalizing known ts i with
  | nil =>
    cases h
    exact ⟨[], rfl, .nil⟩
  | cons f fields ih =>
    obtain ⟨hf, hpresence⟩ := hfields f List.mem_cons_self
    obtain ⟨d, next, behind, rfl, hfits, hmore⟩ := exists_of_elements_cons hf hpresence hts h
    obtain ⟨ds, rfl, hds⟩ :=
      ih (fun g hg => hfields g (List.mem_cons_of_mem f hg)) hts.of_append.of_append hmore
    refine ⟨d :: ds, ?_, .cons hfits hds⟩
    rw [commaElements_cons, List.append_assoc]
    rfl

/-- A list that is read as a record has a value for every field. -/
theorem exists_elements_of_record (hts : Honest ts)
    (h : record name fields (.openList :: ts) = .ok (known, rest)) :
    ∃ ds, ts = elementTokens ds ++ rest ∧ List.Forall₂ FitsField fields ds := by
  obtain ⟨⟨final, behind⟩, helements, hmore⟩ := exists_of_bind_ok h
  obtain ⟨us, hend, heq⟩ := exists_of_bind_ok hmore
  cases heq
  cases eq_of_listEnd hend
  cases fields with
  | nil =>
    cases helements
    exact ⟨[], rfl, .nil⟩
  | cons f fields =>
    obtain ⟨hf, hpresence⟩ := hfields f List.mem_cons_self
    obtain ⟨d, next, behind, rfl, hfits, hmore⟩ :=
      exists_of_elements_cons hf hpresence hts helements
    obtain ⟨ds, rfl, hds⟩ := exists_of_elements
      (fun g hg => hfields g (List.mem_cons_of_mem f hg)) hts.of_append.of_append hmore
    refine ⟨d :: ds, ?_, .cons hfits hds⟩
    rw [elementTokens, moreElements_eq, List.append_assoc, List.append_assoc]
    rfl

end

end Reader

/-! ## Whole texts -/

theorem Document.honest_tokens (d : Document) : Honest d.tokens := by
  rintro t ht s fault rfl
  have hwhole : some fault = none := d.canBeSpelled_tokens.isWhole _ ht
  contradiction

/-- Of a text that can be read, the end is found by skimming, too. -/
theorem isHonest_ofText (bs : Bytes) : (Token.ofText bs).1.IsHonest := by
  intro s fault h
  unfold Token.ofText at h
  split at h
  · cases (Token.text.inj h).2
  · rename_i hskim
    obtain ⟨inner, rest, rfl, hspells⟩ :=
      Quotation.exists_spells_of_read_nil (Token.text.inj h).1
    rw [Quotation.skim_loose hspells.isLoose] at hskim
    contradiction

theorem isHonest_startingWith (b : UInt8) (rest : Bytes) :
    (Token.startingWith b rest).1.IsHonest := by
  unfold Token.startingWith
  split
  · exact isHonest_ofText rest
  · split
    · unfold Token.ofNumber
      split <;> exact nofun
    · split
      · rename_i hbyte
        rintro s fault rfl
        cases Token.spells_of_ofByte? hbyte
      · unfold Token.ofLiteral
        split <;> exact nofun
      · exact nofun

theorem honest_all (bs : Bytes) : Honest (Token.all bs) := by
  induction hlen : bs.length using Nat.strongRecOn generalizing bs with
  | ind n ih =>
    cases hnext : Token.next? bs with
    | none =>
      rw [Token.all_of_next?_none hnext]
      exact fun _ hu => absurd hu List.not_mem_nil
    | some next =>
      obtain ⟨t, rest⟩ := next
      have hlt := Token.length_lt_of_next? hnext
      rw [Token.all_of_next? hnext]
      intro u hu
      rcases List.mem_cons.1 hu with rfl | hu
      · unfold Token.next? at hnext
        split at hnext
        · contradiction
        · rename_i b more _
          have hhonest := isHonest_startingWith b more
          rw [Option.some.inj hnext] at hhonest
          exact hhonest
      · exact ih rest.length (hlen ▸ hlt) rest rfl u hu

/-- However a document is spelled, it is decoded to what its reader takes. -/
theorem decode_spelled {α : Type} {read : Reader α} {d : Document} {bs : Bytes} {a : α}
    (h : d.Spells bs) (htakes : read.Takes d.tokens a) : decode read bs = .ok a := by
  have hread := htakes []
  rw [List.append_nil] at hread
  rw [decode, Document.spells_iff.1 h, hread]
  rfl

/-- However an object is spelled, it is decoded to what its members make known. -/
theorem Form.decode_spelled {α : Type} {form : Form α} {ms : List (String × Document)}
    {known : Members} {bs : Bytes} (h : (Document.record ms).Spells bs)
    (hgathers : Reader.Gathers form.fields Reader.passOver [] ms known)
    (hmissing : Reader.missing? form.fields known = none) :
    form.decode bs = .ok (form.make known) :=
  Json.decode_spelled h ((Reader.record_takes form.name hgathers hmissing).map form.make)

/-- However an object is spelled, a second member of a field is refused. -/
theorem Form.decode_repeats {α : Type} {form : Form α} {ms ns : List (String × Document)}
    {known : Members} {key : String} {d : Document} {bs : Bytes}
    (h : (Document.record (ms ++ (key, d) :: ns)).Spells bs)
    (hgathers : Reader.Gathers form.fields Reader.passOver [] ms known)
    (hfield : (form.fields.find? (·.key == key)).isSome = true)
    (hknown : (known.lookup key).isSome = true) :
    form.decode bs = fail (.duplicateField key) := by
  have hobject := Reader.object_repeats hgathers hfield hknown (d := d) ns []
  rw [List.append_nil] at hobject
  have hrecord : form.read (Document.record (ms ++ (key, d) :: ns)).tokens =
      fail (.duplicateField key) := by
    rw [Form.read, Reader.map, Document.record, Document.tokens_object, Reader.record, hobject]
    rfl
  rw [Form.decode, Json.decode, Document.spells_iff.1 h, hrecord]
  rfl

theorem decode_eq_ok_iff {α : Type} {read : Reader α} {bs : Bytes} {a : α} :
    decode read bs = .ok a ↔ read (Token.all bs) = .ok (a, []) := by
  constructor
  · intro h
    obtain ⟨⟨b, rest⟩, hread, hend⟩ := exists_of_bind_ok h
    cases rest with
    | nil =>
      cases hend
      exact hread
    | cons t rest => contradiction
  · intro h
    rw [decode, h]
    rfl

/-- A text that is decoded to a record spells an object whose members make it known, or a list of
the values of its fields. -/
theorem Form.exists_spells_of_decode {α : Type} {form : Form α} {bs : Bytes} {a : α}
    (hfields : ∀ f ∈ form.fields, f.read.Sound ∧ f.presence ≠ .defaulted)
    (h : form.decode bs = .ok a) :
    (∃ ms known, (Document.record ms).Spells bs ∧
      Reader.Gathers form.fields Reader.passOver [] ms known ∧
      Reader.missing? form.fields known = none) ∨
    ∃ ds, (Document.list ds).Spells bs ∧ List.Forall₂ Reader.FitsField form.fields ds := by
  have hhonest := honest_all bs
  obtain ⟨⟨known, rest⟩, hread, heq⟩ := exists_of_bind_ok (decode_eq_ok_iff.1 h)
  cases heq
  cases htokens : Token.all bs with
  | nil =>
    rw [htokens] at hread
    contradiction
  | cons t ts =>
    rw [htokens] at hread hhonest
    cases t with
    | openObject =>
      obtain ⟨ms, rfl, hgathers, hmissing⟩ := Reader.exists_gathers_of_object
        (fun f hf => (hfields f hf).1) (fun _ => Reader.ignored_sound.map _) hhonest.tail hread
      refine Or.inl ⟨ms, known, ?_, hgathers, hmissing⟩
      rw [Document.spells_iff, htokens, List.append_nil, Document.record, Document.tokens_object]
    | openList =>
      obtain ⟨ds, rfl, hfits⟩ := Reader.exists_elements_of_record hfields hhonest.tail hread
      refine Or.inr ⟨ds, ?_, hfits⟩
      rw [Document.spells_iff, htokens, List.append_nil, Document.tokens_list]
    | _ => exact absurd hread (mismatch_ne_ok _ _ _)

end Latchkey.Json
