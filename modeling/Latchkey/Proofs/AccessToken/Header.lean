/-
Which headers are accepted: those that state the one algorithm in use, in an object as the only
member with its key or in a list at its place among the values of all fields
(`exists_spells_of_acceptsHeader`). What else a header says has the right kind and does not matter.
-/
import Latchkey.AccessToken.Header
import Latchkey.Proofs.Json.Record

namespace Latchkey.AccessToken

open Json
open Json.Reader (FitsField)

/-- A value that names the algorithm: its name, or an object with this only key, which holds
`null`. -/
inductive NamesAlgorithm : Document → Prop
  | name : NamesAlgorithm (.text (.ok algorithm))
  | key : NamesAlgorithm (.record [(algorithm, .null)])

/-- A header that states the algorithm. -/
inductive StatesAlgorithm : Document → Prop
  | object {ms : List (String × Document)} {a : Document}
      (isOnly : ms.filter (·.1 == "alg") = [("alg", a)]) (names : NamesAlgorithm a) :
      StatesAlgorithm (.record ms)
  | list {ds : List Document} {a : Document} (isWhole : ds.length = 10)
      (isSecond : ds[1]? = some a) (names : NamesAlgorithm a) : StatesAlgorithm (.list ds)

/-! ## The algorithm -/

theorem exists_of_readAlgorithm {ts rest : List Token} {v : Datum} (hts : Honest ts)
    (h : Header.readAlgorithm ts = .ok (v, rest)) :
    v = .text algorithm ∧ ∃ d, NamesAlgorithm d ∧ ts = d.tokens ++ rest := by
  unfold Header.readAlgorithm at h
  split at h
  · rename_i name broken more
    split at h
    · rename_i hname
      subst hname
      cases h
      cases (hts _ List.mem_cons_self).broken_eq
      exact ⟨rfl, _, .name, rfl⟩
    · contradiction
  · rename_i name broken more
    split at h
    · rename_i hname
      subst hname
      cases h
      cases (hts.tail _ List.mem_cons_self).broken_eq
      exact ⟨rfl, _, .key, rfl⟩
    · contradiction
  · contradiction

theorem readAlgorithm_takes {d : Document} (h : NamesAlgorithm d) :
    Header.readAlgorithm.Takes d.tokens (.text algorithm) := by
  cases h <;> exact fun _ => rfl

theorem readAlgorithm_sound : Header.readAlgorithm.Sound := by
  intro ts rest v hts h
  obtain ⟨rfl, d, hd, heq⟩ := exists_of_readAlgorithm hts h
  exact ⟨d, heq, readAlgorithm_takes hd⟩

/-- The field of the algorithm. -/
def Header.algorithmField : RecordField := ⟨"alg", .required, Header.readAlgorithm⟩

/-- What the field of the algorithm takes names it. -/
theorem namesAlgorithm_of_fits {d : Document} (h : FitsField Header.algorithmField d) :
    NamesAlgorithm d := by
  obtain ⟨v, htakes⟩ := h
  have hread := htakes []
  rw [List.append_nil] at hread
  obtain ⟨-, d', hd', heq⟩ := exists_of_readAlgorithm d.honest_tokens hread
  rw [List.append_nil] at heq
  rw [Document.tokens_injective heq]
  exact hd'

/-! ## The other fields -/

/-- A key that is read in a header is an object. -/
theorem webKey_sound : WebKey.read.Sound := by
  intro ts rest v hts h
  unfold WebKey.read at h
  split at h
  · obtain ⟨⟨members, behind⟩, hobject, hmore⟩ := exists_of_bind_ok h
    dsimp only at hmore
    split at hmore
    · rename_i hdescribes
      cases hmore
      obtain ⟨ms, rfl, hgathers, hmissing⟩ := Reader.exists_gathers_of_object
        (fun _ hf => absurd hf List.not_mem_nil) (Reader.keep_sound 2) hts.tail hobject
      refine ⟨.record ms, ?_, fun rest' => ?_⟩
      · rw [Document.record, Document.tokens_object]
        rfl
      · have htakes := Reader.object_takes hgathers hmissing rest'
        rw [Document.record, Document.tokens_object, List.cons_append, WebKey.read, htakes]
        simp only [bind, Except.bind, hdescribes, if_true]
        rfl
    · contradiction
  · contradiction

theorem header_fields {f : RecordField} (hf : f ∈ Header.form.fields) :
    f.read.Sound ∧ f.presence ≠ .defaulted := by
  have htext : ∀ key, (RecordField.nullableText .omittable key).read.Sound ∧
      (RecordField.nullableText .omittable key).presence ≠ .defaulted :=
    fun _ => ⟨(Reader.nullable_sound Reader.text_sound).map fun s =>
      (s.map Datum.text).getD .null, nofun⟩
  have hnullable : ∀ (key : String) {read : Reader Datum}, read.Sound →
      (Header.nullableField key read).read.Sound ∧
      (Header.nullableField key read).presence ≠ .defaulted :=
    fun _ _ hread => ⟨(Reader.nullable_sound hread).map (·.getD .null), nofun⟩
  simp only [Header.form, List.mem_cons, List.not_mem_nil, or_false] at hf
  rcases hf with rfl | rfl | rfl | rfl | rfl | rfl | rfl | rfl | rfl | rfl
  · exact htext "typ"
  · exact ⟨readAlgorithm_sound, nofun⟩
  · exact htext "cty"
  · exact htext "jku"
  · exact hnullable "jwk" webKey_sound
  · exact htext "kid"
  · exact htext "x5u"
  · exact hnullable "x5c" (Reader.texts_sound.map _)
  · exact htext "x5t"
  · exact htext "x5t#S256"

/-! ## Headers -/

/-- A header that is accepted is a document that states the algorithm. -/
theorem exists_spells_of_acceptsHeader {header : Bytes} (h : acceptsHeader header = true) :
    ∃ d : Document, d.Spells header ∧ StatesAlgorithm d := by
  cases hdecode : Header.form.decode header with
  | error failure =>
    rw [acceptsHeader, hdecode] at h
    contradiction
  | ok =>
    rcases Form.exists_spells_of_decode (fun _ => header_fields) hdecode with
      ⟨ms, known, hspells, hgathers, hmissing⟩ | ⟨ds, hspells, hfits⟩
    · have hknown : (known.lookup "alg").isSome = true := by
        rw [Reader.missing?, Option.map_eq_none_iff, List.find?_eq_none] at hmissing
        have := hmissing Header.algorithmField (by simp [Header.form, Header.algorithmField])
        simpa [Header.algorithmField, Option.isSome_iff_ne_none] using this
      obtain ⟨a, honly, hfits⟩ :=
        hgathers.exists_only (f := Header.algorithmField) rfl List.lookup_nil hknown
      exact ⟨_, hspells, .object honly (namesAlgorithm_of_fits hfits)⟩
    · have hlength : 10 = ds.length := hfits.length_eq
      have hsecond : 1 < ds.length := by omega
      have hfit := hfits.get (i := 1) (by decide) hsecond
      exact ⟨_, hspells, .list hlength.symm (List.getElem?_eq_getElem hsecond)
        (namesAlgorithm_of_fits hfit)⟩

end Latchkey.AccessToken
