/-
Documents are JSON values of any kind, with lists and with numbers as they are spelled. Passing over
a value follows brackets with a stack, and what it passes over are exactly the tokens of a document:
those of any document are passed over (`skip_tokens`), and a value that is passed over has the tokens
of some document (`exists_document_of_skip`). No two documents have the same tokens
(`tokens_injective`).
-/
import Latchkey.Json.Skip

namespace Latchkey.Json

/-- A value of any kind. A text or a key that cannot be read is known by its fault. -/
inductive Document
  | null
  | flag (value : Bool)
  | number (numeral : Numeral)
  | text (value : Except Fault String)
  | list (elements : List Document)
  | object (members : List (Except Fault String × Document))

namespace Document

mutual

/-- The tokens that a document is made of. -/
def tokens : Document → List Token
  | null => [.literal (.ok none)]
  | flag b => [.literal (.ok (some b))]
  | number n => [.number (.ok n)]
  | text value => [.text value none]
  | list [] => [.openList, .closeList]
  | list (d :: ds) => .openList :: tokens d ++ moreElements ds
  | object [] => [.openObject, .closeObject]
  | object (m :: ms) => .openObject :: memberTokens m ++ moreMembers ms

/-- A key and its value. -/
def memberTokens : Except Fault String × Document → List Token
  | (key, d) => .text key none :: .colon :: tokens d

/-- The elements behind the first one, and the end of the list. -/
def moreElements : List Document → List Token
  | [] => [.closeList]
  | d :: ds => .comma :: tokens d ++ moreElements ds

/-- The members behind the first one, and the end of the object. -/
def moreMembers : List (Except Fault String × Document) → List Token
  | [] => [.closeObject]
  | m :: ms => .comma :: memberTokens m ++ moreMembers ms

end

/-- Members whose keys can be read. -/
def keyed (ms : List (String × Document)) : List (Except Fault String × Document) :=
  ms.map fun m => (.ok m.1, m.2)

theorem keyed_cons (key : String) (d : Document) (ms : List (String × Document)) :
    keyed ((key, d) :: ms) = (.ok key, d) :: keyed ms := rfl

/-- An object whose keys can all be read. -/
def record (ms : List (String × Document)) : Document := .object (keyed ms)

/-- Elements, each behind a comma. -/
def commaElements (ds : List Document) : List Token := ds.flatMap fun d => .comma :: tokens d

/-- Members, each behind a comma. -/
def commaMembers (ms : List (Except Fault String × Document)) : List Token :=
  ms.flatMap fun m => .comma :: memberTokens m

theorem commaElements_cons (d : Document) (ds : List Document) :
    commaElements (d :: ds) = .comma :: tokens d ++ commaElements ds := rfl

theorem commaMembers_cons (m : Except Fault String × Document)
    (ms : List (Except Fault String × Document)) :
    commaMembers (m :: ms) = .comma :: memberTokens m ++ commaMembers ms := rfl

theorem moreElements_eq (ds : List Document) :
    moreElements ds = commaElements ds ++ [.closeList] := by
  induction ds with
  | nil => rfl
  | cons d ds ih => rw [moreElements, ih, commaElements_cons, List.append_assoc]

theorem moreMembers_append (ms ns : List (Except Fault String × Document)) :
    moreMembers (ms ++ ns) = commaMembers ms ++ moreMembers ns := by
  induction ms with
  | nil => rfl
  | cons m ms ih => rw [List.cons_append, moreMembers, ih, commaMembers_cons, List.append_assoc]

/-- What follows the opening bracket of a list. -/
def elementTokens : List Document → List Token
  | [] => [.closeList]
  | d :: ds => tokens d ++ moreElements ds

/-- What follows the opening brace of an object. -/
def objectTokens : List (Except Fault String × Document) → List Token
  | [] => [.closeObject]
  | m :: ms => memberTokens m ++ moreMembers ms

theorem tokens_list (ds : List Document) : (list ds).tokens = .openList :: elementTokens ds := by
  cases ds <;> rfl

theorem tokens_object (ms : List (Except Fault String × Document)) :
    (object ms).tokens = .openObject :: objectTokens ms := by
  cases ms <;> rfl

end Document

open Document (memberTokens moreElements moreMembers)

/-! ## Stages that come to the same -/

theorem skip_done (manner : Manner) (ts : List Token) : skip manner .after [] ts = .ok ts := by
  cases ts <;> rfl

/-- Behind a comma of a list a value must begin. -/
theorem skip_listNext (stack : List Frame) (ts : List Token) :
    skip .lenient .listNext stack ts = skip .lenient .value stack ts := by
  cases ts with
  | nil => rfl
  | cons t ts => cases t <;> rfl

/-- A list that is not empty begins with a value. -/
theorem skip_listStart {t : Token} (h : t ≠ .closeList) (stack : List Frame) (ts : List Token) :
    skip .lenient .listStart stack (t :: ts) = skip .lenient .value stack (t :: ts) := by
  cases t with
  | closeList => exact absurd rfl h
  | _ => rfl

/-- An object that is not empty begins with a key, like what follows a comma of an object. -/
theorem skip_objectStart {t : Token} (h : t ≠ .closeObject) (stack : List Frame)
    (ts : List Token) :
    skip .lenient .objectStart stack (t :: ts) = skip .lenient .objectNext stack (t :: ts) := by
  cases t with
  | closeObject => exact absurd rfl h
  | _ => rfl

/-! ## Documents are passed over -/

namespace Document

/-- The first token of a document closes nothing. -/
theorem tokens_eq_cons (d : Document) : ∃ t ts, d.tokens = t :: ts ∧ t ≠ .closeList := by
  cases d with
  | list ds => cases ds <;> exact ⟨_, _, rfl, nofun⟩
  | object ms => cases ms <;> exact ⟨_, _, rfl, nofun⟩
  | _ => exact ⟨_, _, rfl, nofun⟩

end Document

mutual

/-- The tokens of a document are passed over. -/
theorem skip_tokens (d : Document) (stack : List Frame) (rest : List Token) :
    skip .lenient .value stack (d.tokens ++ rest) = skip .lenient .after stack rest := by
  cases d with
  | null => rfl
  | flag b => rfl
  | number n => rfl
  | text value => rfl
  | list ds =>
    cases ds with
    | nil => rfl
    | cons d ds =>
      obtain ⟨t, ts, hcons, ht⟩ := d.tokens_eq_cons
      have hvalue := skip_tokens d (.list :: stack) (moreElements ds ++ rest)
      rw [hcons, List.cons_append, ← skip_listStart ht] at hvalue
      rw [Document.tokens, hcons, List.append_assoc, ← skip_moreElements ds stack rest]
      exact hvalue
  | object ms =>
    cases ms with
    | nil => rfl
    | cons m ms =>
      obtain ⟨key, d⟩ := m
      rw [Document.tokens, memberTokens, List.append_assoc, ← skip_moreMembers ms stack rest]
      exact skip_tokens d (.object :: stack) _

theorem skip_moreElements (ds : List Document) (stack : List Frame) (rest : List Token) :
    skip .lenient .after (.list :: stack) (moreElements ds ++ rest) =
      skip .lenient .after stack rest := by
  cases ds with
  | nil => rfl
  | cons d ds =>
    rw [moreElements, List.append_assoc, ← skip_moreElements ds stack rest]
    exact (skip_listNext _ _).trans (skip_tokens d (.list :: stack) _)

theorem skip_moreMembers (ms : List (Except Fault String × Document)) (stack : List Frame)
    (rest : List Token) :
    skip .lenient .after (.object :: stack) (moreMembers ms ++ rest) =
      skip .lenient .after stack rest := by
  cases ms with
  | nil => rfl
  | cons m ms =>
    obtain ⟨key, d⟩ := m
    rw [moreMembers, memberTokens, List.append_assoc, ← skip_moreMembers ms stack rest]
    exact skip_tokens d (.object :: stack) _

end

/-! ## What is passed over are documents -/

variable {stack : List Frame} {ts rest : List Token}

/-- A key that is passed over is followed by a colon and a value. -/
theorem exists_member_of_skip (h : skip .lenient .objectNext stack ts = .ok rest) :
    ∃ key behind, ts = .text key none :: .colon :: behind ∧
      skip .lenient .value stack behind = .ok rest := by
  cases ts with
  | nil => contradiction
  | cons t ts =>
    cases t with
    | text key broken =>
      cases broken with
      | some fault => contradiction
      | none =>
        cases ts with
        | nil => contradiction
        | cons t ts =>
          cases t with
          | colon => exact ⟨key, ts, rfl, h⟩
          | _ => contradiction
    | _ => contradiction

/-- What is passed over in these tokens are documents: one where a value must begin, and behind a
value those up to the end of the list or object around it. -/
structure Passes (ts : List Token) : Prop where
  value : ∀ {stack : List Frame} {rest : List Token}, skip .lenient .value stack ts = .ok rest →
    ∃ (d : Document) (behind : List Token), ts = d.tokens ++ behind ∧
      skip .lenient .after stack behind = .ok rest
  elements : ∀ {stack : List Frame} {rest : List Token},
    skip .lenient .after (.list :: stack) ts = .ok rest →
    ∃ (ds : List Document) (behind : List Token), ts = moreElements ds ++ behind ∧
      skip .lenient .after stack behind = .ok rest
  members : ∀ {stack : List Frame} {rest : List Token},
    skip .lenient .after (.object :: stack) ts = .ok rest →
    ∃ (ms : List (Except Fault String × Document)) (behind : List Token),
      ts = moreMembers ms ++ behind ∧ skip .lenient .after stack behind = .ok rest

section

variable {n : Nat} (ih : ∀ us : List Token, us.length < n → Passes us)
include ih

/-- The elements of a list from a value on. -/
theorem exists_elements_of_passes (hlen : ts.length < n)
    (h : skip .lenient .value (.list :: stack) ts = .ok rest) :
    ∃ (d : Document) (ds : List Document) (behind : List Token),
      ts = d.tokens ++ moreElements ds ++ behind ∧ skip .lenient .after stack behind = .ok rest := by
  obtain ⟨d, more, rfl, hmore⟩ := (ih ts hlen).value h
  rw [List.length_append] at hlen
  obtain ⟨ds, behind, rfl, hbehind⟩ := (ih more (by omega)).elements hmore
  exact ⟨d, ds, behind, (List.append_assoc ..).symm, hbehind⟩

/-- The members of an object from a key on. -/
theorem exists_members_of_passes (hlen : ts.length < n)
    (h : skip .lenient .objectNext (.object :: stack) ts = .ok rest) :
    ∃ (m : Except Fault String × Document) (ms : List (Except Fault String × Document))
      (behind : List Token),
      ts = memberTokens m ++ moreMembers ms ++ behind ∧
        skip .lenient .after stack behind = .ok rest := by
  obtain ⟨key, us, rfl, hvalue⟩ := exists_member_of_skip h
  simp only [List.length_cons] at hlen
  obtain ⟨d, more, rfl, hmore⟩ := (ih us (by omega)).value hvalue
  rw [List.length_append] at hlen
  obtain ⟨ms, behind, rfl, hbehind⟩ := (ih more (by omega)).members hmore
  refine ⟨(key, d), ms, behind, ?_, hbehind⟩
  rw [memberTokens, List.append_assoc]
  rfl

theorem exists_document_of_passes (hlen : ts.length ≤ n)
    (h : skip .lenient .value stack ts = .ok rest) :
    ∃ (d : Document) (behind : List Token), ts = d.tokens ++ behind ∧
      skip .lenient .after stack behind = .ok rest := by
  cases ts with
  | nil => contradiction
  | cons t ts =>
    cases t with
    | text value broken =>
      cases broken with
      | some fault => contradiction
      | none => exact ⟨.text value, ts, rfl, h⟩
    | number numeral =>
      cases numeral with
      | error fault => contradiction
      | ok n => exact ⟨.number n, ts, rfl, h⟩
    | literal value =>
      rcases value with fault | _ | b
      · contradiction
      · exact ⟨.null, ts, rfl, h⟩
      · exact ⟨.flag b, ts, rfl, h⟩
    | openList =>
      replace h : skip .lenient .listStart (.list :: stack) ts = .ok rest := h
      cases ts with
      | nil => contradiction
      | cons t ts =>
        by_cases hclose : t = .closeList
        · subst hclose
          exact ⟨.list [], ts, rfl, h⟩
        · rw [skip_listStart hclose] at h
          obtain ⟨d, ds, behind, heq, hbehind⟩ := exists_elements_of_passes ih hlen h
          exact ⟨.list (d :: ds), behind, congrArg _ heq, hbehind⟩
    | openObject =>
      replace h : skip .lenient .objectStart (.object :: stack) ts = .ok rest := h
      cases ts with
      | nil => contradiction
      | cons t ts =>
        by_cases hclose : t = .closeObject
        · subst hclose
          exact ⟨.object [], ts, rfl, h⟩
        · rw [skip_objectStart hclose] at h
          obtain ⟨m, ms, behind, heq, hbehind⟩ := exists_members_of_passes ih hlen h
          exact ⟨.object (m :: ms), behind, congrArg _ heq, hbehind⟩
    | _ => contradiction

end

/-- Tokens that are passed over are those of documents. -/
theorem passes (ts : List Token) : Passes ts := by
  induction hlen : ts.length using Nat.strongRecOn generalizing ts with
  | ind n ih =>
    have ih : ∀ us : List Token, us.length < n → Passes us := fun us hus => ih us.length hus us rfl
    refine ⟨exists_document_of_passes ih (Nat.le_of_eq hlen), fun h => ?_, fun h => ?_⟩
    · rename_i stack rest
      cases ts with
      | nil => contradiction
      | cons t ts =>
        cases t with
        | closeList => exact ⟨[], ts, rfl, h⟩
        | comma =>
          replace h : skip .lenient .listNext (.list :: stack) ts = .ok rest := h
          rw [skip_listNext] at h
          obtain ⟨d, ds, behind, rfl, hbehind⟩ :=
            exists_elements_of_passes ih (Nat.lt_of_succ_le (Nat.le_of_eq hlen)) h
          exact ⟨d :: ds, behind, rfl, hbehind⟩
        | _ => contradiction
    · rename_i stack rest
      cases ts with
      | nil => contradiction
      | cons t ts =>
        cases t with
        | closeObject => exact ⟨[], ts, rfl, h⟩
        | comma =>
          obtain ⟨m, ms, behind, rfl, hbehind⟩ :=
            exists_members_of_passes ih (Nat.lt_of_succ_le (Nat.le_of_eq hlen)) h
          exact ⟨m :: ms, behind, rfl, hbehind⟩
        | _ => contradiction

/-- A value that is passed over is a document. -/
theorem exists_document_of_skip (h : skip .lenient .value [] ts = .ok rest) :
    ∃ d : Document, ts = d.tokens ++ rest := by
  obtain ⟨d, behind, rfl, hbehind⟩ := (passes ts).value h
  rw [skip_done] at hbehind
  cases hbehind
  exact ⟨d, rfl⟩

/-! ## Documents are told apart -/

namespace Document

mutual

/-- Whatever follows it, a document can be told from its tokens. -/
theorem tokens_append_inj (d : Document) {d' : Document} {ts ts' : List Token}
    (h : d.tokens ++ ts = d'.tokens ++ ts') : d = d' ∧ ts = ts' := by
  cases d with
  | list ds =>
    rw [tokens_list] at h
    cases d' with
    | list ds' =>
      rw [tokens_list] at h
      obtain ⟨rfl, rfl⟩ := elementTokens_append_inj ds (List.cons.inj h).2
      exact ⟨rfl, rfl⟩
    | object ms =>
      rw [tokens_object] at h
      cases h
    | _ => cases h
  | object ms =>
    rw [tokens_object] at h
    cases d' with
    | list ds' =>
      rw [tokens_list] at h
      cases h
    | object ms' =>
      rw [tokens_object] at h
      obtain ⟨rfl, rfl⟩ := objectTokens_append_inj ms (List.cons.inj h).2
      exact ⟨rfl, rfl⟩
    | _ => cases h
  | _ =>
    cases d' with
    | list ds =>
      rw [tokens_list] at h
      cases h
    | object ms =>
      rw [tokens_object] at h
      cases h
    | _ =>
      cases h <;> exact ⟨rfl, rfl⟩
termination_by structural d

theorem elementTokens_append_inj (ds : List Document) {ds' : List Document} {ts ts' : List Token}
    (h : elementTokens ds ++ ts = elementTokens ds' ++ ts') : ds = ds' ∧ ts = ts' := by
  cases ds with
  | nil =>
    cases ds' with
    | nil => exact ⟨rfl, (List.cons.inj h).2⟩
    | cons d' ds' =>
      obtain ⟨t, us, hcons, hclose⟩ := d'.tokens_eq_cons
      rw [elementTokens, elementTokens, hcons] at h
      exact absurd (List.cons.inj h).1.symm hclose
  | cons d ds =>
    cases ds' with
    | nil =>
      obtain ⟨t, us, hcons, hclose⟩ := d.tokens_eq_cons
      rw [elementTokens, elementTokens, hcons] at h
      exact absurd (List.cons.inj h).1 hclose
    | cons d' ds' =>
      rw [elementTokens, elementTokens, List.append_assoc, List.append_assoc] at h
      obtain ⟨rfl, hmore⟩ := tokens_append_inj d h
      obtain ⟨rfl, rfl⟩ := moreElements_append_inj ds hmore
      exact ⟨rfl, rfl⟩
termination_by structural ds

theorem moreElements_append_inj (ds : List Document) {ds' : List Document} {ts ts' : List Token}
    (h : moreElements ds ++ ts = moreElements ds' ++ ts') : ds = ds' ∧ ts = ts' := by
  cases ds with
  | nil =>
    cases ds' with
    | nil => exact ⟨rfl, (List.cons.inj h).2⟩
    | cons d' ds' => cases h
  | cons d ds =>
    cases ds' with
    | nil => cases h
    | cons d' ds' =>
      rw [moreElements, moreElements, List.append_assoc, List.append_assoc] at h
      obtain ⟨rfl, hmore⟩ := tokens_append_inj d (List.cons.inj h).2
      obtain ⟨rfl, rfl⟩ := moreElements_append_inj ds hmore
      exact ⟨rfl, rfl⟩
termination_by structural ds

theorem objectTokens_append_inj (ms : List (Except Fault String × Document))
    {ms' : List (Except Fault String × Document)} {ts ts' : List Token}
    (h : objectTokens ms ++ ts = objectTokens ms' ++ ts') : ms = ms' ∧ ts = ts' := by
  cases ms with
  | nil =>
    cases ms' with
    | nil => exact ⟨rfl, (List.cons.inj h).2⟩
    | cons m' ms' =>
      rw [objectTokens, objectTokens, memberTokens] at h
      cases h
  | cons m ms =>
    cases ms' with
    | nil =>
      rw [objectTokens, objectTokens, memberTokens] at h
      cases h
    | cons m' ms' =>
      obtain ⟨key, d⟩ := m
      obtain ⟨key', d'⟩ := m'
      rw [objectTokens, objectTokens, memberTokens, memberTokens, List.append_assoc,
        List.append_assoc] at h
      obtain ⟨hkey, hrest⟩ := List.cons.inj h
      cases hkey
      obtain ⟨rfl, hmore⟩ := tokens_append_inj d (List.cons.inj hrest).2
      obtain ⟨rfl, rfl⟩ := moreMembers_append_inj ms hmore
      exact ⟨rfl, rfl⟩
termination_by structural ms

theorem moreMembers_append_inj (ms : List (Except Fault String × Document))
    {ms' : List (Except Fault String × Document)} {ts ts' : List Token}
    (h : moreMembers ms ++ ts = moreMembers ms' ++ ts') : ms = ms' ∧ ts = ts' := by
  cases ms with
  | nil =>
    cases ms' with
    | nil => exact ⟨rfl, (List.cons.inj h).2⟩
    | cons m' ms' => cases h
  | cons m ms =>
    cases ms' with
    | nil => cases h
    | cons m' ms' =>
      obtain ⟨key, d⟩ := m
      obtain ⟨key', d'⟩ := m'
      rw [moreMembers, moreMembers, memberTokens, memberTokens, List.append_assoc,
        List.append_assoc] at h
      obtain ⟨hkey, hrest⟩ := List.cons.inj (List.cons.inj h).2
      cases hkey
      obtain ⟨rfl, hmore⟩ := tokens_append_inj d (List.cons.inj hrest).2
      obtain ⟨rfl, rfl⟩ := moreMembers_append_inj ms hmore
      exact ⟨rfl, rfl⟩
termination_by structural ms

end

theorem tokens_injective : Function.Injective tokens := by
  intro d d' h
  have happend := congrArg (· ++ []) h
  exact (d.tokens_append_inj happend).1

end Document
end Latchkey.Json
