/-
The signing secret over consecutive calls. Where a secret is found, every call gives it and leaves
the sources alone (`calls_of_known`); where none is found, the first call writes the one that it
makes, which the next call reads back (`calls_of_unknown`). So every secret can sign tokens, and a
file that can be written is changed at most once (`secret_outlives_calls`).
-/
import Latchkey.AccessToken.Issuer
import Latchkey.Proofs.Digest.Bytes
import Latchkey.Proofs.Text.Trim
import Latchkey.SecretSources

namespace Latchkey.SecretSources

/-! ## Where a secret is found -/

/-- The variable is set to a text that is not empty, the secret. -/
def VariableHolds (value : Option Bytes) (secret : String) : Prop :=
  value = some (Bytes.ofString secret) ∧ secret ≠ ""

/-- The first variable that holds any secret holds this one. -/
def EnvironmentHolds (environment : List (Option Bytes)) (secret : String) : Prop :=
  ∃ before value behind, environment = before ++ value :: behind ∧ VariableHolds value secret ∧
    ∀ v ∈ before, ∀ other, ¬ VariableHolds v other

/-- The file is a text that is not blank: the secret, perhaps with white space around it. -/
def FileHolds (content : Option Bytes) (secret : String) : Prop :=
  ∃ text, content = some (Bytes.ofString text) ∧ Text.isBlank text = false ∧
    secret = Text.trim text

/-- No variable holds a secret, nor does the file. -/
structure HoldNone (s : SecretSources) : Prop where
  environment : ∀ value ∈ s.environment, ∀ secret, ¬ VariableHolds value secret
  file : ∀ secret, ¬ FileHolds s.file secret

theorem ofVariable?_eq_some_iff {value : Option Bytes} {secret : String} :
    ofVariable? value = some secret ↔ VariableHolds value secret := by
  rw [ofVariable?, VariableHolds, Option.bind_eq_some_iff]
  simp only [Option.filter_eq_some_iff, Bytes.toText?_eq_some_iff, Bool.not_eq_true',
    String.isEmpty_eq_false_iff]
  exact ⟨fun ⟨_, hvalue, rfl, hne⟩ => ⟨hvalue, hne⟩, fun ⟨hvalue, hne⟩ => ⟨_, hvalue, rfl, hne⟩⟩

theorem ofVariable?_eq_none_iff {value : Option Bytes} :
    ofVariable? value = none ↔ ∀ secret, ¬ VariableHolds value secret := by
  simp only [Option.eq_none_iff_forall_ne_some, ne_eq, ofVariable?_eq_some_iff]

theorem ofFile?_eq_some_iff {content : Option Bytes} {secret : String} :
    ofFile? content = some secret ↔ FileHolds content secret := by
  rw [ofFile?, FileHolds, Option.bind_eq_some_iff]
  simp only [Option.filter_eq_some_iff, Option.map_eq_some_iff, Bytes.toText?_eq_some_iff,
    Bool.not_eq_true', String.isEmpty_eq_false_iff]
  constructor
  · rintro ⟨_, hcontent, ⟨text, rfl, rfl⟩, hne⟩
    exact ⟨text, hcontent, Bool.eq_false_iff.2 fun h => hne (Text.trim_eq_empty_iff.2 h), rfl⟩
  · rintro ⟨text, hcontent, hblank, rfl⟩
    refine ⟨_, hcontent, ⟨text, rfl, rfl⟩, fun h => ?_⟩
    exact absurd (Text.trim_eq_empty_iff.1 h) (Bool.eq_false_iff.1 hblank)

theorem known?_eq_none_iff {s : SecretSources} : s.known? = none ↔ s.HoldNone := by
  rw [known?, Option.or_eq_none_iff, List.findSome?_eq_none_iff]
  simp only [ofVariable?_eq_none_iff]
  rw [Option.eq_none_iff_forall_ne_some]
  simp only [ne_eq, ofFile?_eq_some_iff]
  exact ⟨fun ⟨he, hf⟩ => ⟨he, hf⟩, fun h => ⟨h.environment, h.file⟩⟩

/-- A secret that is known is in the environment, or in the file if no variable holds one. -/
theorem known?_eq_some_iff {s : SecretSources} {secret : String} :
    s.known? = some secret ↔ EnvironmentHolds s.environment secret ∨
      (∀ value ∈ s.environment, ∀ other, ¬ VariableHolds value other) ∧ FileHolds s.file secret := by
  rw [known?, Option.or_eq_some_iff, List.findSome?_eq_some_iff, List.findSome?_eq_none_iff]
  simp only [ofVariable?_eq_some_iff, ofVariable?_eq_none_iff, ofFile?_eq_some_iff]
  rfl

theorem ne_empty_of_known? {s : SecretSources} {secret : String} (h : s.known? = some secret) :
    secret ≠ "" := by
  rcases known?_eq_some_iff.1 h with ⟨_, _, _, -, hvalue, -⟩ | ⟨-, text, -, hblank, rfl⟩
  · exact hvalue.2
  · exact fun h => Bool.eq_false_iff.1 hblank (Text.trim_eq_empty_iff.1 h)

/-! ## Consecutive calls -/

/-- Consecutive calls, each with the secret that it makes if it finds none: the secrets that they
give, and the sources behind each of them. -/
def calls : List String → SecretSources → List (String × SecretSources)
  | [], _ => []
  | fresh :: rest, s => s.resolve fresh :: calls rest (s.resolve fresh).2

variable {s : SecretSources}

/-- A secret that is found is given by every call, and nothing changes. -/
theorem calls_of_known {secret : String} (h : s.known? = some secret) (fresh : List String) :
    s.calls fresh = List.replicate fresh.length (secret, s) := by
  have hresolve : ∀ f, s.resolve f = (secret, s) := fun f => by rw [resolve, h]
  induction fresh with
  | nil => rfl
  | cons f rest ih => rw [calls, hresolve, ih, List.length_cons, List.replicate_succ]

/-- The sources with a secret in the file. -/
def keeping (s : SecretSources) (secret : String) : SecretSources :=
  { s with file := some (Bytes.ofString secret) }

/-- The first call that finds no secret puts the one that it makes into the file, where all others
find it. -/
theorem calls_of_unknown (hnone : s.HoldNone) (hwritable : s.isWritable = true) {fresh : String}
    (hfresh : FileHolds (some (Bytes.ofString fresh)) fresh) (rest : List String) :
    s.calls (fresh :: rest) = List.replicate (rest.length + 1) (fresh, s.keeping fresh) := by
  have hresolve : s.resolve fresh = (fresh, s.keeping fresh) := by
    rw [resolve, known?_eq_none_iff.2 hnone, if_pos hwritable]
    rfl
  have hknown : (s.keeping fresh).known? = some fresh :=
    known?_eq_some_iff.2 (Or.inr ⟨hnone.environment, hfresh⟩)
  rw [calls, hresolve, calls_of_known hknown, List.replicate_succ]

theorem ne_empty_of_mem_calls {fresh : List String} (h : ∀ f ∈ fresh, f ≠ "") :
    ∀ call ∈ s.calls fresh, call.1 ≠ "" := by
  induction fresh generalizing s with
  | nil => exact fun _ hcall => nomatch hcall
  | cons f rest ih =>
    have hresolve : (s.resolve f).1 ≠ "" := by
      unfold resolve
      split
      · rename_i hknown
        exact ne_empty_of_known? hknown
      · exact h f List.mem_cons_self
    exact List.forall_mem_cons.2 ⟨hresolve, ih fun f' hf' => h f' (List.mem_cons_of_mem f hf')⟩

/-! ## The secret outlives the calls -/

/-- The secret that a call makes of random bytes. -/
def ofDraw (draw : Vector UInt8 OpaqueToken.length) : String := OpaqueToken.ofBytes draw.toList

/-- A secret that is made can be read back from the file. -/
theorem fileHolds_ofDraw (draw : Vector UInt8 OpaqueToken.length) :
    FileHolds (some (Bytes.ofString (ofDraw draw))) (ofDraw draw) := by
  have hne : draw.toList ≠ [] := fun hnil => by
    have hlength := draw.length_toList
    rw [hnil] at hlength
    cases hlength
  exact ⟨_, rfl, OpaqueToken.isBlank_ofBytes hne,
    (Text.trim_eq_self fun _ hc => OpaqueToken.isBlankChar_of_mem_ofBytes hc).symm⟩

theorem exists_issuer {secret : String} (h : secret ≠ "") {lifetime : Duration}
    (hlifetime : 0 < lifetime) :
    ∃ issuer, Issuer.ofSecret (Bytes.ofString secret) lifetime = .ok issuer := by
  have hne : Bytes.ofString secret ≠ [] := mt Bytes.ofString_eq_nil_iff.1 h
  rw [Issuer.ofSecret, dif_neg hne, dif_pos hlifetime]
  exact ⟨_, rfl⟩

/-- Every call gives a secret that an issuer can sign with. If the file can be written, all calls
give the same one, and the sources behind each are those behind the first: with the secret in the
file if none was found, and else as they were. A file that holds a secret is never changed, and its
trimmed text is the secret if no variable holds one; nor is the file changed if a variable does. -/
theorem secret_outlives_calls (s : SecretSources) (draws : List (Vector UInt8 OpaqueToken.length)) :
    (∀ call ∈ s.calls (draws.map ofDraw), call.1 ≠ "" ∧ ∀ lifetime, 0 < lifetime →
      ∃ issuer, Issuer.ofSecret (Bytes.ofString call.1) lifetime = .ok issuer) ∧
    (s.isWritable = true → ∃ secret after,
      s.calls (draws.map ofDraw) = List.replicate draws.length (secret, after) ∧
      (s.HoldNone → after = { s with file := some (Bytes.ofString secret) }) ∧
      (¬ s.HoldNone → after = s)) ∧
    (∀ secret, FileHolds s.file secret → ∀ call ∈ s.calls (draws.map ofDraw), call.2 = s ∧
      ((∀ value ∈ s.environment, ∀ other, ¬ VariableHolds value other) → call.1 = secret)) ∧
    ((∃ value ∈ s.environment, ∃ secret, VariableHolds value secret) →
      ∀ call ∈ s.calls (draws.map ofDraw), call.2 = s ∧ EnvironmentHolds s.environment call.1) := by
  have hne : ∀ call ∈ s.calls (draws.map ofDraw), call.1 ≠ "" := by
    refine ne_empty_of_mem_calls fun f hf => ?_
    obtain ⟨draw, -, rfl⟩ := List.mem_map.1 hf
    exact ne_empty_of_known? (s := ⟨[], _, true⟩) (ofFile?_eq_some_iff.2 (fileHolds_ofDraw draw))
  refine ⟨fun call hcall => ⟨hne call hcall, fun _ => exists_issuer (hne call hcall)⟩, ?_⟩
  cases hknown : s.known? with
  | some secret =>
    have hcalls := calls_of_known hknown (draws.map ofDraw)
    rw [List.length_map] at hcalls
    have hsame : ∀ call ∈ s.calls (draws.map ofDraw), call = (secret, s) := fun call hcall =>
      List.eq_of_mem_replicate (hcalls ▸ hcall)
    have hsome : ¬ s.HoldNone := fun h => by
      rw [known?_eq_none_iff.2 h] at hknown
      contradiction
    refine ⟨fun _ => ⟨secret, s, hcalls, fun h => absurd h hsome, fun _ => rfl⟩,
      fun other hfile call hcall => ?_, fun ⟨value, hvalue, other, hother⟩ call hcall => ?_⟩
    · rw [hsame call hcall]
      refine ⟨rfl, fun henv => ?_⟩
      have hother : s.known? = some other := known?_eq_some_iff.2 (Or.inr ⟨henv, hfile⟩)
      exact Option.some.inj (hknown.symm.trans hother)
    · rw [hsame call hcall]
      rcases known?_eq_some_iff.1 hknown with henv | ⟨henv, -⟩
      · exact ⟨rfl, henv⟩
      · exact absurd hother (henv value hvalue other)
  | none =>
    have hnone : s.HoldNone := known?_eq_none_iff.1 hknown
    refine ⟨fun hwritable => ?_, fun secret hfile => absurd hfile (hnone.file secret),
      fun ⟨value, hvalue, secret, hsecret⟩ => absurd hsecret (hnone.environment value hvalue secret)⟩
    cases draws with
    | nil => exact ⟨"", s.keeping "", rfl, fun _ => rfl, fun h => absurd hnone h⟩
    | cons draw rest =>
      have hcalls := calls_of_unknown hnone hwritable (fileHolds_ofDraw draw) (rest.map ofDraw)
      rw [List.length_map] at hcalls
      exact ⟨ofDraw draw, s.keeping (ofDraw draw), hcalls, fun _ => rfl, fun h => absurd hnone h⟩

end Latchkey.SecretSources
