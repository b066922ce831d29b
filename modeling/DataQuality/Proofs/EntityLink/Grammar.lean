import DataQuality.EntityLink
import Mathlib.Data.List.TakeWhile

/-!
# The grammar of entity links

`parts?` takes apart only texts of one form: a bracket, the entity type, the table and, if the
link is narrowed, a field with a name in it, then the closing bracket. `Parts.write` is that form
and `Parts.WellFormed` says which characters may stand in its places.
-/

namespace DataQuality.EntityLink

namespace Parts

/-- The text of a link with these parts. -/
def write (parts : Parts) : List Char :=
  ['<', '#', 'E', ':', ':'] ++ parts.entityType ++ ':' :: ':' :: parts.table ++
    (match parts.narrowed with
      | some (field, name) => ':' :: ':' :: field ++ ':' :: ':' :: name
      | none => []) ++
    ['>']

/-- Entity types and fields are nonempty runs of letters, tables and names in a field nonempty
runs of name characters. -/
structure WellFormed (parts : Parts) : Prop where
  entityType_ne_nil : parts.entityType ≠ []
  entityType_letters : ∀ c ∈ parts.entityType, isLetter c = true
  table_ne_nil : parts.table ≠ []
  table_chars : ∀ c ∈ parts.table, isNameChar c = true
  field_ne_nil : ∀ narrowed ∈ parts.narrowed, narrowed.1 ≠ []
  field_letters : ∀ narrowed ∈ parts.narrowed, ∀ c ∈ narrowed.1, isLetter c = true
  name_ne_nil : ∀ narrowed ∈ parts.narrowed, narrowed.2 ≠ []
  name_chars : ∀ narrowed ∈ parts.narrowed, ∀ c ∈ narrowed.2, isNameChar c = true

end Parts

theorem ne_colon_of_isLetter {c : Char} (h : isLetter c = true) : c ≠ ':' := by
  rintro rfl
  exact absurd h (by decide)

theorem ne_colon_of_isNameChar {c : Char} (h : isNameChar c = true) : c ≠ ':' := by
  rintro rfl
  exact absurd h (by decide)

theorem ne_bracket_of_isNameChar {c : Char} (h : isNameChar c = true) : c ≠ '>' := by
  rintro rfl
  exact absurd h (by decide)

/-- A run is nonempty, of its class, and together with what follows it the whole text. -/
theorem run?_eq_some {p : Char → Bool} {cs word rest : List Char}
    (h : run? p cs = some (word, rest)) :
    word ≠ [] ∧ (∀ c ∈ word, p c = true) ∧ cs = word ++ rest := by
  unfold run? at h
  split at h
  next => cases h
  next first others htake =>
    simp only [Option.some.injEq, Prod.mk.injEq] at h
    obtain ⟨rfl, rfl⟩ := h
    refine ⟨List.cons_ne_nil _ _, ?_, ?_⟩
    · intro c hc
      rw [← htake] at hc
      exact List.mem_takeWhile_imp hc
    · rw [← htake]
      exact List.takeWhile_append_dropWhile.symm

theorem afterColons?_eq_some {cs rest : List Char} (h : afterColons? cs = some rest) :
    cs = ':' :: ':' :: rest := by
  unfold afterColons? at h
  split at h
  · cases h
    rfl
  · cases h

/-- Texts that are taken apart are the texts of well-formed parts. -/
theorem parts?_eq_some {cs : List Char} {parts : Parts} (h : parts? cs = some parts) :
    parts.WellFormed ∧ cs = parts.write := by
  unfold parts? at h
  split at h
  next rest =>
    simp only [Option.bind_eq_bind, Option.bind_eq_some_iff, Prod.exists] at h
    obtain ⟨entityType, afterType, htype, afterType', hcolons, table, afterTable, htable, h⟩ := h
    obtain ⟨htypeNe, htypeLetters, rfl⟩ := run?_eq_some htype
    obtain ⟨htableNe, htableChars, rfl⟩ := run?_eq_some htable
    obtain rfl := afterColons?_eq_some hcolons
    -- the link ends behind the table, or goes on with a field and a name
    split at h
    next hend =>
      cases h
      subst hend
      refine ⟨⟨htypeNe, htypeLetters, htableNe, htableChars, ?_, ?_, ?_, ?_⟩, ?_⟩
      all_goals simp [Parts.write]
    next =>
      simp only [Option.bind_eq_some_iff, Prod.exists] at h
      obtain ⟨afterField', hcolons', field, afterField, hfield, afterName', hcolons'', name,
        afterName, hname, h⟩ := h
      obtain rfl := afterColons?_eq_some hcolons'
      obtain ⟨hfieldNe, hfieldLetters, rfl⟩ := run?_eq_some hfield
      obtain rfl := afterColons?_eq_some hcolons''
      obtain ⟨hnameNe, hnameChars, rfl⟩ := run?_eq_some hname
      split at h
      next hend =>
        cases h
        subst hend
        refine ⟨⟨htypeNe, htypeLetters, htableNe, htableChars, ?_, ?_, ?_, ?_⟩, ?_⟩
        all_goals simp_all [Parts.write]
      next => cases h
  next => cases h

end DataQuality.EntityLink
