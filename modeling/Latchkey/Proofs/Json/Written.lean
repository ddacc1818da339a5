/-
Values that were written are read back: a value is a document (`Value.document`) with the same
tokens, and the text of the value spells it (`spells_render`).
-/
import Latchkey.Proofs.Json.Spelled
import Latchkey.Proofs.Json.WrittenNumeral
import Latchkey.Proofs.Json.WrittenText

namespace Latchkey.Json.Value

open Bytes (utf8 utf8_cons utf8_nil utf8_append)

/-! ## The tokens of a value -/

mutual

/-- The tokens that spell a value. -/
def tokens : Value → List Token
  | null => [.literal (.ok none)]
  | flag b => [.literal (.ok (some b))]
  | integer i => [.number (.ok (.ofInt i))]
  | text s => [.text (.ok s) none]
  | object [] => [.openObject, .closeObject]
  | object (m :: ms) => .openObject :: memberTokens m ++ moreTokens ms

/-- A key and its value. -/
def memberTokens : String × Value → List Token
  | (key, value) => .text (.ok key) none :: .colon :: tokens value

/-- The members behind the first one, and the end of the object. -/
def moreTokens : List (String × Value) → List Token
  | [] => [.closeObject]
  | m :: ms => .comma :: memberTokens m ++ moreTokens ms

end

/-! ## Values are documents -/

mutual

def document : Value → Document
  | null => .null
  | flag b => .flag b
  | integer i => .number (.ofInt i)
  | text s => .text (.ok s)
  | object ms => .record (documents ms)

def documents : List (String × Value) → List (String × Document)
  | [] => []
  | (key, v) :: ms => (key, document v) :: documents ms

end

mutual

theorem tokens_document (v : Value) : v.document.tokens = v.tokens := by
  cases v with
  | null => rfl
  | flag b => rfl
  | integer i => rfl
  | text s => rfl
  | object ms =>
    cases ms with
    | nil => rfl
    | cons m ms =>
      obtain ⟨key, v⟩ := m
      rw [document, documents, Document.record, Document.keyed, List.map_cons, Document.tokens,
        Document.memberTokens, tokens_document v]
      exact congrArg _ (moreTokens_documents ms)

theorem moreTokens_documents (ms : List (String × Value)) :
    Document.moreMembers (Document.keyed (documents ms)) = moreTokens ms := by
  cases ms with
  | nil => rfl
  | cons m ms =>
    obtain ⟨key, v⟩ := m
    rw [documents, Document.keyed, List.map_cons, Document.moreMembers, Document.memberTokens,
      tokens_document v]
    exact congrArg _ (moreTokens_documents ms)

end

/-! ## Values are spelled -/

open Token (SpellAll)

theorem spells_quote (s : String) : Token.Spells (.text (.ok s) none) (utf8 (quote s)) := by
  have hmark : String.utf8EncodeChar '"' = [0x22] := by decide
  rw [quote, utf8_append, utf8_cons, utf8_cons, utf8_nil, hmark]
  exact .text (.readable (Quotation.spells_inner s))

mutual

theorem spellAll_chars (v : Value) : SpellAll v.tokens (utf8 v.chars) := by
  cases v with
  | null => exact Token.Spells.null.spellAll
  | flag b =>
    cases b with
    | false => exact Token.Spells.no.spellAll
    | true => exact Token.Spells.yes.spellAll
  | integer i => exact (Token.Spells.number (Numeral.spells_numeral i)).spellAll
  | text s => exact (spells_quote s).spellAll
  | object ms =>
    cases ms with
    | nil => exact Token.Spells.openObject.spellAll.append Token.Spells.closeObject.spellAll
    | cons m ms =>
      rw [chars, utf8_append, utf8_cons]
      exact (Token.Spells.openObject.spellAll.append (spellAll_memberChars m)).append
        (spellAll_moreChars ms)

theorem spellAll_memberChars (m : String × Value) :
    SpellAll (memberTokens m) (utf8 (memberChars m)) := by
  obtain ⟨key, v⟩ := m
  rw [memberChars, utf8_append, utf8_cons]
  exact (spells_quote key).spellAll.append (Token.Spells.colon.spellAll.append (spellAll_chars v))

theorem spellAll_moreChars (ms : List (String × Value)) :
    SpellAll (moreTokens ms) (utf8 (moreChars ms)) := by
  cases ms with
  | nil => exact Token.Spells.closeObject.spellAll
  | cons m ms =>
    rw [moreChars, utf8_append, utf8_cons]
    exact (Token.Spells.comma.spellAll.append (spellAll_memberChars m)).append
      (spellAll_moreChars ms)

end

/-- A value is spelled by its text. -/
theorem spells_render (v : Value) : v.document.Spells (Bytes.ofString v.render) := by
  rw [Document.Spells, tokens_document, render, Bytes.ofString_ofList]
  exact spellAll_chars v

end Latchkey.Json.Value
