/-
Records that were written are read back: a reader of an object reads the members of its fields, one
after the other, and passes over the others (`record_written`).
-/
import Latchkey.Proofs.Json.Record
import Latchkey.Proofs.Json.Written

namespace Latchkey.Json

namespace Reader

/-! ## Scalars -/

/-- An integer that is within the bounds is read, if these are within those of 64 bits. -/
theorem integer_written {lowest highest i : Int} (wanted : Wanted) (hi : lowest ≤ i ∧ i ≤ highest)
    (hlowest : Text.minSigned64 ≤ lowest) (hhighest : highest ≤ Text.maxSigned64) :
    (integer lowest highest wanted).Takes (Value.integer i).tokens i := by
  intro rest
  have hvalue := Numeral.value_ofInt (Int.le_trans hlowest hi.1) (Int.le_trans hi.2 hhighest)
  rw [Value.tokens, List.singleton_append, integer]
  simp only [bind, Except.bind, hvalue, ofExcept]
  exact if_pos hi

theorem signed64_written (x : Int64) : signed64.Takes (Value.integer x.toInt).tokens x := by
  intro rest
  have hrange : Text.minSigned64 ≤ x.toInt ∧ x.toInt ≤ Text.maxSigned64 :=
    ⟨Int64.le_toInt x, Int.le_of_lt_add_one (Int64.toInt_lt x)⟩
  rw [signed64, integer_written .signed64 hrange (Int.le_refl _) (Int.le_refl _) rest]
  show Except.ok (Int64.ofInt x.toInt, rest) = _
  rw [Int64.ofInt_toInt]

theorem signed32_written (x : Int32) : signed32.Takes (Value.integer x.toInt).tokens x := by
  intro rest
  have hrange : -2147483648 ≤ x.toInt ∧ x.toInt ≤ 2147483647 :=
    ⟨Int32.le_toInt x, Int.le_of_lt_add_one (Int32.toInt_lt x)⟩
  rw [signed32, integer_written .signed32 hrange (by decide) (by decide) rest]
  show Except.ok (Int32.ofInt x.toInt, rest) = _
  rw [Int32.ofInt_toInt]

/-! ## Objects -/

variable {fields : List RecordField} {unknown : Unknown} {known final : Members}
  {ms : List (String × Value)} {key : String} {v : Value}

theorem Gathers.none_written : Gathers fields unknown known (Value.documents []) known := .nil

/-- A member that was written for a field makes known what its value is read as. -/
theorem Gathers.written {f : RecordField} {d : Datum}
    (isField : fields.find? (·.key == key) = some f)
    (isNew : (known.lookup key).isSome = false) (reads : f.read.Takes v.tokens d)
    (others : Gathers fields unknown (known ++ [(key, d)]) (Value.documents ms) final) :
    Gathers fields unknown known (Value.documents ((key, v) :: ms)) final := by
  rw [← Value.tokens_document] at reads
  exact .field isField isNew reads others

/-- A member that was written for nobody is passed over. -/
theorem Gathers.ignored (isNoField : fields.find? (·.key == key) = none)
    (others : Gathers fields passOver known (Value.documents ms) final) :
    Gathers fields passOver known (Value.documents ((key, v) :: ms)) final := by
  refine .other isNoField ((ignored_takes v.document).map _) ?_
  rw [Option.map_none, Option.toList_none, List.append_nil]
  exact others

/-- The members of an object are read behind its opening brace. -/
theorem object_written (h : Gathers fields passOver [] (Value.documents ms) known)
    (hmissing : missing? fields known = none) :
    ∃ ts, (Value.object ms).tokens = .openObject :: ts ∧
      (object fields passOver).Takes ts known := by
  refine ⟨_, ?_, object_takes h hmissing⟩
  rw [← Value.tokens_document, Value.document, Document.record, Document.tokens_object]

/-- A record is read as what its members make known if they leave out no required field. -/
theorem record_written (name : String)
    (h : Gathers fields passOver [] (Value.documents ms) known)
    (hmissing : missing? fields known = none) :
    (record name fields).Takes (Value.object ms).tokens known := by
  rw [← Value.tokens_document]
  exact record_takes name h hmissing

end Reader

namespace RecordField

theorem text_written (presence : Presence) (key s : String) :
    (text presence key).read.Takes (Value.text s).tokens (.text s) := fun _ => rfl

theorem nullableText_written (presence : Presence) (key s : String) :
    (nullableText presence key).read.Takes (Value.text s).tokens (.text s) := fun _ => rfl

theorem signed64_written (key : String) (x : Int64) :
    (signed64 key).read.Takes (Value.integer x.toInt).tokens (.signed64 x) :=
  (Reader.signed64_written x).map Datum.signed64

theorem signed32_written (key : String) (x : Int32) :
    (signed32 key).read.Takes (Value.integer x.toInt).tokens (.signed32 x) :=
  (Reader.signed32_written x).map Datum.signed32

theorem flag_written (key : String) (b : Bool) :
    (flag key).read.Takes (Value.flag b).tokens (.flag b) := fun _ => rfl

end RecordField

/-- The text of a value is decoded to what is read of its tokens. -/
theorem decode_render {α : Type} {read : Reader α} {v : Value} {a : α}
    (h : read.Takes v.tokens a) : decode read (Bytes.ofString v.render) = .ok a := by
  rw [← Value.tokens_document] at h
  exact decode_spelled (Value.spells_render v) h

/-- A form reads an object that makes known all that it asks for. -/
theorem Form.decode_written {α : Type} {form : Form α} {ms : List (String × Value)}
    {known : Members}
    (h : Reader.Gathers form.fields Reader.passOver [] (Value.documents ms) known)
    (hmissing : Reader.missing? form.fields known = none) :
    form.decode (Bytes.ofString (Value.object ms).render) = .ok (form.make known) :=
  decode_render ((Reader.record_written form.name h hmissing).map form.make)

end Latchkey.Json
