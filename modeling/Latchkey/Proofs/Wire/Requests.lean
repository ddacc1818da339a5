/-
Requests mean what their members say. However the text of an object is spelled, in which order its
members come and which others are among them, it is decoded to what the members of the request hold
and to the defaults of those that are missing; a member that comes twice is refused
(`requests_mean_members`).
-/
import Latchkey.Proofs.Json.Record
import Latchkey.Proofs.Json.Written
import Latchkey.Wire.Message

namespace Latchkey

open Json

/-! ## Members of requests -/

/-- What a member of a request may hold: a text, or also `null`. -/
inductive MemberKind
  | text
  | nullableText

/-- A value of the right kind. -/
inductive MemberKind.Allows : MemberKind → Document → Prop
  | text {kind : MemberKind} {s : String} : Allows kind (.text (.ok s))
  | null : Allows .nullableText .null

/-- The text that the first member with a key holds. -/
def textOf? (ms : List (String × Document)) (key : String) : Option String :=
  match ms.lookup key with
  | some (.text (.ok s)) => some s
  | _ => none

section

variable (kinds : List (String × MemberKind)) (ms : List (String × Document))

/-- The members of the request hold values of the right kind. -/
def WellTyped : Prop := ∀ key kind d, (key, kind) ∈ kinds → (key, d) ∈ ms → kind.Allows d

/-- No member of the request comes twice. -/
def Once : Prop := ∀ key ∈ kinds.map Prod.fst, (ms.map Prod.fst).count key ≤ 1

end

/-- Every text of an object with members of the right kinds means what these members hold. -/
structure MeansMembers {α : Type} (form : Form α) (kinds : List (String × MemberKind))
    (given : (String → Option String) → α) : Prop where
  decodes : ∀ {ms bs}, (Document.record ms).Spells bs → WellTyped kinds ms → Once kinds ms →
    form.decode bs = .ok (given (textOf? ms))
  /-- Neither other members matter nor the order. -/
  alike : ∀ {ms ms' bs bs'}, (Document.record ms).Spells bs → WellTyped kinds ms →
    Once kinds ms → (Document.record ms').Spells bs' → Once kinds ms' →
    (∀ key ∈ kinds.map Prod.fst, ∀ d, (key, d) ∈ ms ↔ (key, d) ∈ ms') →
    form.decode bs' = form.decode bs
  twice : ∀ {ms bs}, (Document.record ms).Spells bs → WellTyped kinds ms → ¬ Once kinds ms →
    ∃ key ∈ kinds.map Prod.fst, 2 ≤ (ms.map Prod.fst).count key ∧
      form.decode bs = fail (.duplicateField key)

/-! ## Fields -/

/-- The field of a member. -/
def MemberKind.field (kind : MemberKind) (key : String) : RecordField :=
  match kind with
  | text => .text .defaulted key
  | nullableText => .nullableText .defaulted key

/-- The fields of the members of a request. -/
def fieldsOf (kinds : List (String × MemberKind)) : List RecordField :=
  kinds.map fun m => m.2.field m.1

/-- What is read of a value of the right kind. -/
def datumOf : Document → Datum
  | .text (.ok s) => .text s
  | _ => .null

/-- What is read of the members of the request. -/
def membersOf (kinds : List (String × MemberKind)) (ms : List (String × Document)) : Members :=
  (ms.filter fun m => m.1 ∈ kinds.map Prod.fst).map fun m => (m.1, datumOf m.2)

theorem MemberKind.field_key (kind : MemberKind) (key : String) : (kind.field key).key = key := by
  cases kind <;> rfl

theorem MemberKind.field_presence (kind : MemberKind) (key : String) :
    (kind.field key).presence = .defaulted := by
  cases kind <;> rfl

theorem MemberKind.field_takes {kind : MemberKind} {d : Document} (h : kind.Allows d)
    (key : String) : (kind.field key).read.Takes d.tokens (datumOf d) := by
  cases h with
  | text => cases kind <;> exact fun _ => rfl
  | null => exact fun _ => rfl

variable {kinds : List (String × MemberKind)} {ms : List (String × Document)} {key : String}
  {known : Members}

theorem exists_of_find?_fieldsOf {f : RecordField}
    (h : (fieldsOf kinds).find? (·.key == key) = some f) :
    ∃ kind, (key, kind) ∈ kinds ∧ f = kind.field key := by
  have hkey := List.find?_some h
  simp only [beq_iff_eq] at hkey
  obtain ⟨⟨k, kind⟩, hmem, rfl⟩ := List.mem_map.1 (List.mem_of_find?_eq_some h)
  rw [kind.field_key] at hkey
  subst hkey
  exact ⟨kind, hmem, rfl⟩

theorem find?_fieldsOf_isSome :
    ((fieldsOf kinds).find? (·.key == key)).isSome = true ↔ key ∈ kinds.map Prod.fst := by
  rw [List.find?_isSome, fieldsOf]
  simp [MemberKind.field_key]

theorem missing?_fieldsOf (known : Members) : Reader.missing? (fieldsOf kinds) known = none := by
  have hall : ∀ f ∈ fieldsOf kinds, f.presence = .defaulted := by
    intro f hf
    obtain ⟨m, -, rfl⟩ := List.mem_map.1 hf
    exact m.2.field_presence m.1
  rw [Reader.missing?, Option.map_eq_none_iff, List.find?_eq_none]
  intro f hf
  simp [hall f hf]

/-! ## Members that come once -/

section

variable {m : String × Document}

theorem WellTyped.of_append {before behind : List (String × Document)}
    (h : WellTyped kinds (before ++ behind)) : WellTyped kinds before :=
  fun key kind d hkind hd => h key kind d hkind (List.mem_append_left behind hd)

theorem WellTyped.of_cons (h : WellTyped kinds (m :: ms)) : WellTyped kinds ms :=
  fun key kind d hkind hd => h key kind d hkind (List.mem_cons_of_mem m hd)

theorem Once.of_cons (h : Once kinds (m :: ms)) : Once kinds ms := fun key hkey =>
  Nat.le_trans (List.count_le_count_cons ..) (h key hkey)

theorem Once.not_mem {d : Document} (h : Once kinds ((key, d) :: ms))
    (hkey : key ∈ kinds.map Prod.fst) : key ∉ ms.map Prod.fst := by
  intro hmem
  have hone := h key hkey
  rw [List.map_cons, List.count_cons_self] at hone
  have := List.count_pos_iff.2 hmem
  omega

/-- A member that comes once is the one that is found. -/
theorem Once.lookup_eq {d : Document} (h : Once kinds ms) (hkey : key ∈ kinds.map Prod.fst) :
    ms.lookup key = some d ↔ (key, d) ∈ ms := by
  induction ms with
  | nil => simp
  | cons m ms ih =>
    obtain ⟨k, d'⟩ := m
    by_cases hk : key = k
    · subst hk
      have hnot := h.not_mem hkey
      simp only [List.lookup_cons_self, Option.some.injEq, List.mem_cons, Prod.mk.injEq, true_and]
      constructor
      · exact fun hd => Or.inl hd.symm
      · rintro (hd | hd)
        · exact hd.symm
        · exact absurd (List.mem_map_of_mem hd) hnot
    · rw [List.lookup_cons, beq_eq_false_iff_ne.2 hk, List.mem_cons, ← ih h.of_cons]
      simp [hk]

/-- If members of the request come twice, one is the first to come again. -/
theorem exists_repetition (h : ¬ Once kinds ms) :
    ∃ before key d behind, ms = before ++ (key, d) :: behind ∧ Once kinds before ∧
      key ∈ kinds.map Prod.fst ∧ key ∈ before.map Prod.fst := by
  induction ms using List.reverseRecOn with
  | nil => exact absurd (fun _ _ => Nat.zero_le 1) h
  | append_singleton init m ih =>
    obtain ⟨k, d⟩ := m
    by_cases hinit : Once kinds init
    · simp only [Once, not_forall] at h
      obtain ⟨key, hkey, hcount⟩ := h
      have hone := hinit key hkey
      rw [List.map_append, List.count_append, List.map_singleton, List.count_singleton] at hcount
      by_cases hk : k = key
      · subst hk
        refine ⟨init, k, d, [], rfl, hinit, hkey, List.count_pos_iff.1 ?_⟩
        simp at hcount
        omega
      · simp [hk] at hcount
        omega
    · obtain ⟨before, key, d', behind, rfl, hbefore, hkey, hmem⟩ := ih hinit
      exact ⟨before, key, d', behind ++ [(k, d)], by simp, hbefore, hkey, hmem⟩

end

/-! ## Reading -/

theorem membersOf_cons_of_mem {d : Document} (hkey : key ∈ kinds.map Prod.fst) :
    membersOf kinds ((key, d) :: ms) = (key, datumOf d) :: membersOf kinds ms := by
  simp [membersOf, hkey]

theorem membersOf_cons_of_not_mem {d : Document} (hkey : key ∉ kinds.map Prod.fst) :
    membersOf kinds ((key, d) :: ms) = membersOf kinds ms := by
  simp [membersOf, hkey]

theorem lookup_membersOf (hkey : key ∈ kinds.map Prod.fst) :
    (membersOf kinds ms).lookup key = (ms.lookup key).map datumOf := by
  induction ms with
  | nil => rfl
  | cons m ms ih =>
    obtain ⟨k, d⟩ := m
    by_cases hk : key = k
    · subst hk
      rw [membersOf_cons_of_mem hkey, List.lookup_cons_self, List.lookup_cons_self]
      rfl
    · by_cases hknown : k ∈ kinds.map Prod.fst
      · rw [membersOf_cons_of_mem hknown, List.lookup_cons, List.lookup_cons,
          beq_eq_false_iff_ne.2 hk]
        exact ih
      · rw [membersOf_cons_of_not_mem hknown, List.lookup_cons, beq_eq_false_iff_ne.2 hk]
        exact ih

/-- Members of the right kinds that come once each are read. -/
theorem gathers_membersOf (htypes : WellTyped kinds ms) (hone : Once kinds ms)
    (hnew : ∀ key ∈ ms.map Prod.fst, known.lookup key = none) :
    Reader.Gathers (fieldsOf kinds) Reader.passOver known ms (known ++ membersOf kinds ms) := by
  induction ms generalizing known with
  | nil =>
    rw [membersOf, List.filter_nil, List.map_nil, List.append_nil]
    exact .nil
  | cons m ms ih =>
    obtain ⟨key, d⟩ := m
    rw [List.map_cons, List.forall_mem_cons] at hnew
    by_cases hkey : key ∈ kinds.map Prod.fst
    · obtain ⟨f, hf⟩ := Option.isSome_iff_exists.1 (find?_fieldsOf_isSome.2 hkey)
      obtain ⟨kind, hkind, rfl⟩ := exists_of_find?_fieldsOf hf
      have hnext : ∀ k ∈ ms.map Prod.fst, (known ++ [(key, datumOf d)]).lookup k = none := by
        intro k hk
        have hne : k ≠ key := fun h => hone.not_mem hkey (h ▸ hk)
        rw [List.lookup_append, hnew.2 k hk, List.lookup_cons, beq_eq_false_iff_ne.2 hne]
        rfl
      have hmore := ih htypes.of_cons hone.of_cons hnext
      rw [membersOf_cons_of_mem hkey]
      rw [List.append_assoc] at hmore
      refine .field hf (by rw [hnew.1]; rfl) (kind.field_takes ?_ key) hmore
      exact htypes key kind d hkind List.mem_cons_self
    · rw [membersOf_cons_of_not_mem hkey]
      refine .other ?_ ((Reader.ignored_takes d).map _) ?_
      · rw [← Option.not_isSome_iff_eq_none, find?_fieldsOf_isSome]
        exact hkey
      · rw [Option.map_none, Option.toList_none, List.append_nil]
        exact ih htypes.of_cons hone.of_cons hnew.2

theorem gathers_membersOf_nil (htypes : WellTyped kinds ms) (hone : Once kinds ms) :
    Reader.Gathers (fieldsOf kinds) Reader.passOver [] ms (membersOf kinds ms) := by
  have hgathers := gathers_membersOf htypes hone fun key _ => List.lookup_nil (a := key)
  rw [List.nil_append] at hgathers
  exact hgathers

theorem textAt?_membersOf (hkey : key ∈ kinds.map Prod.fst) :
    (membersOf kinds ms).textAt? key = textOf? ms key := by
  rw [Members.textAt?, textOf?, lookup_membersOf hkey]
  cases ms.lookup key with
  | none => rfl
  | some d =>
    cases d with
    | text value => cases value <;> rfl
    | _ => rfl

/-- A form whose fields are members of these kinds, and whose value depends on nothing else, means
what the members hold. -/
theorem meansMembers {α : Type} {form : Form α} {given : (String → Option String) → α}
    (hfields : form.fields = fieldsOf kinds) (hmake : ∀ known, form.make known = given known.textAt?)
    (hgiven : ∀ {g g' : String → Option String},
      (∀ key ∈ kinds.map Prod.fst, g key = g' key) → given g = given g') :
    MeansMembers form kinds given := by
  have hdecodes : ∀ {ms bs}, (Document.record ms).Spells bs → WellTyped kinds ms →
      Once kinds ms → form.decode bs = .ok (given (textOf? ms)) := by
    intro ms bs hspells htypes hone
    have hgathers := gathers_membersOf_nil htypes hone
    rw [← hfields] at hgathers
    rw [Form.decode_spelled hspells hgathers (hfields ▸ missing?_fieldsOf _), hmake]
    exact congrArg _ (hgiven fun key hkey => textAt?_membersOf hkey)
  refine ⟨hdecodes, ?_, ?_⟩
  · intro ms ms' bs bs' hspells htypes hone hspells' hone' hsame
    have htypes' : WellTyped kinds ms' := fun key kind d hkind hd =>
      htypes key kind d hkind ((hsame key (List.mem_map_of_mem hkind) d).2 hd)
    rw [hdecodes hspells htypes hone, hdecodes hspells' htypes' hone']
    refine congrArg _ (hgiven fun key hkey => ?_)
    have hlookup : ms'.lookup key = ms.lookup key := by
      ext d
      rw [hone'.lookup_eq hkey, hone.lookup_eq hkey, hsame key hkey]
    rw [textOf?, textOf?, hlookup]
  · intro ms bs hspells htypes hnot
    obtain ⟨before, key, d, behind, rfl, hone, hkey, hmem⟩ := exists_repetition hnot
    refine ⟨key, hkey, ?_, ?_⟩
    · have := List.count_pos_iff.2 hmem
      rw [List.map_append, List.map_cons, List.count_append, List.count_cons_self]
      omega
    · have hgathers := gathers_membersOf_nil htypes.of_append hone
      have hknown : ((membersOf kinds before).lookup key).isSome = true := by
        obtain ⟨m, hm, rfl⟩ := List.mem_map.1 hmem
        rw [lookup_membersOf hkey, (hone.lookup_eq hkey).2 hm]
        rfl
      have hfield := find?_fieldsOf_isSome.2 hkey
      rw [← hfields] at hgathers hfield
      exact Form.decode_repeats hspells hgathers hfield hknown

/-! ## The requests -/

/-- Requests are decoded to what their members hold, in whatever way and among whatever other
members they are written; only the device key of a login by username may also be `null`. -/
theorem requests_mean_members :
    MeansMembers UsernameRequest.form
      [("username", .text), ("password", .text), ("device_key", .nullableText)]
      (fun given => ⟨(given "username").getD "", (given "password").getD "", given "device_key"⟩) ∧
    MeansMembers AnonymousLoginRequest.form [("device_key", .text)]
      (fun given => ⟨(given "device_key").getD ""⟩) ∧
    MeansMembers RefreshRequest.form [("device_key", .text), ("refresh_token", .text)]
      (fun given => ⟨(given "device_key").getD "", (given "refresh_token").getD ""⟩) ∧
    MeansMembers LogoutRequest.form [("device_key", .text)]
      (fun given => ⟨(given "device_key").getD ""⟩) := by
  have htext : ∀ (known : Members) (key : String),
      known.textAt key = (known.textAt? key).getD "" := by
    intro known key
    rw [Members.textAt, Members.textAt?]
    split <;> rfl
  refine ⟨meansMembers rfl (fun known => ?_) fun h => ?_, meansMembers rfl (fun known => ?_) fun h => ?_,
    meansMembers rfl (fun known => ?_) fun h => ?_, meansMembers rfl (fun known => ?_) fun h => ?_⟩
  · simp only [UsernameRequest.form, htext]
  · simp [h]
  · simp only [AnonymousLoginRequest.form, htext]
  · simp [h]
  · simp only [RefreshRequest.form, htext]
  · simp [h]
  · simp only [LogoutRequest.form, htext]
  · simp [h]

/-- A login with an escape in a key, a space, and a member that is not the request's. -/
def spacedLogin : Bytes :=
  Bytes.ofString "\x7b\"\\u0070assword\":\"p\", \"x\":[null]\x7d"

theorem spacedLogin_spelled :
    (Document.record [("password", .text (.ok "p")), ("x", .list [.null])]).Spells spacedLogin := by
  have hdigits : Quotation.SpellsUnit ('p').toNat [0x30, 0x30, 0x37, 0x30] :=
    Quotation.unit?_eq_some_iff.1 (by decide)
  have hkey : Quotation.Spells (Bytes.ofString "password") (Bytes.ofString "\\u0070assword") := by
    have hrest : Quotation.Spells (Bytes.ofString "assword") (Bytes.ofString "assword") :=
      Quotation.spells_plain (by decide +kernel)
    have hspells := Quotation.Spells.unit hdigits hrest
    have hcontent : Bytes.ofString "password" =
        String.utf8EncodeChar 'p' ++ Bytes.ofString "assword" := by decide
    rw [hcontent]
    exact hspells
  have hp : Quotation.Spells (Bytes.ofString "p") (Bytes.ofString "p") :=
    Quotation.spells_plain (by decide +kernel)
  have hx : Quotation.Spells (Bytes.ofString "x") (Bytes.ofString "x") :=
    Quotation.spells_plain (by decide +kernel)
  have hblank : Token.IsBlank [0x20] := by
    intro b hb
    rw [List.mem_singleton.1 hb]
    rfl
  exact Token.Spells.openObject.spellAll.append <|
    (Token.Spells.text (.readable hkey)).spellAll.append <|
    Token.Spells.colon.spellAll.append <|
    (Token.Spells.text (.readable hp)).spellAll.append <|
    Token.Spells.comma.spellAll.append <|
    ((Token.Spells.text (.readable hx)).spellAll.blank_append hblank).append <|
    Token.Spells.colon.spellAll.append <| Token.Spells.openList.spellAll.append <|
    Token.Spells.null.spellAll.append <| Token.Spells.closeList.spellAll.append
      Token.Spells.closeObject.spellAll

theorem spacedLogin_decoded : UsernameRequest.form.decode spacedLogin = .ok ⟨"", "p", none⟩ := by
  have htypes : WellTyped
      [("username", .text), ("password", .text), ("device_key", .nullableText)]
      [("password", .text (.ok "p")), ("x", .list [.null])] := by
    intro key kind d hkind hd
    simp only [List.mem_cons, Prod.mk.injEq, List.not_mem_nil, or_false] at hd
    rcases hd with ⟨-, rfl⟩ | ⟨rfl, -⟩
    · exact .text
    · simp at hkind
  have hone : Once [("username", .text), ("password", .text), ("device_key", .nullableText)]
      [("password", .text (.ok "p")), ("x", .list [.null])] := by
    unfold Once
    decide
  exact requests_mean_members.1.decodes spacedLogin_spelled htypes hone

/-- A login without an account must say a device key: `null` is not one. -/
theorem null_deviceKey_refused :
    WellTyped [("device_key", .nullableText)] [("device_key", .null)] ∧
    Once [("device_key", .nullableText)] [("device_key", .null)] ∧
    (Document.record [("device_key", .null)]).Spells
      (Bytes.ofString "\x7b\"device_key\":null\x7d") ∧
    AnonymousLoginRequest.form.decode (Bytes.ofString "\x7b\"device_key\":null\x7d") =
      .error ⟨[.key "device_key"], .wrongType .null .text⟩ := by
  have hspells : (Document.record [("device_key", .null)]).Spells
      (Bytes.ofString "\x7b\"device_key\":null\x7d") := by
    have hrender : (Value.object [("device_key", .null)]).render =
        "\x7b\"device_key\":null\x7d" := by decide
    rw [← hrender]
    exact Value.spells_render (.object [("device_key", .null)])
  refine ⟨?_, ?_, hspells, ?_⟩
  · intro key kind d hkind hd
    simp only [List.mem_singleton, Prod.mk.injEq] at hkind hd
    obtain ⟨-, rfl⟩ := hkind
    obtain ⟨-, rfl⟩ := hd
    exact .null
  · unfold Once
    decide
  · rw [Form.decode, Json.decode, Document.spells_iff.1 hspells]
    rfl

end Latchkey
