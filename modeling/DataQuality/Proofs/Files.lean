import DataQuality.Files
import Mathlib.Tactic.SplitIfs

/-!
# Files that are written

A file that was created at a path is found there again whatever is written to it: putting a file
where no directory is leaves every way through the tree as it was.
-/

namespace DataQuality.Files

variable {files next : Files} {path : String} {place : List String} {content : ByteArray}

theorem node?_put_of_ne {parts : List String} (h : parts = [] ∨ nodeName parts ≠ nodeName place)
    (node : FileNode) : (files.put place node).node? parts = files.node? parts := by
  unfold node?
  by_cases hroot : parts = []
  · rw [if_pos hroot, if_pos hroot]
  · have hne := h.resolve_left hroot
    rw [if_neg hroot, if_neg hroot, put, Keyed.find?_insert_of_ne hne]

theorem node?_put_self (h : place ≠ []) (node : FileNode) :
    (files.put place node).node? place = some node := by
  unfold node?
  rw [if_neg h, put, Keyed.find?_insert_self]

/-- A directory stays one when something is put where no directory is. -/
theorem node?_put_of_directory {parts : List String} (hplace : files.node? place ≠ some .directory)
    (hparts : files.node? parts = some .directory) (node : FileNode) :
    (files.put place node).node? parts = some .directory := by
  by_cases hroot : parts = []
  · rw [node?_put_of_ne (.inl hroot), hparts]
  · have hne : nodeName parts ≠ nodeName place := by
      intro heq
      apply hplace
      have hnotRoot : place ≠ [] := by
        rintro rfl
        exact hplace rfl
      rw [node?, if_neg hroot, heq] at hparts
      rw [node?, if_neg hnotRoot, hparts]
    rw [node?_put_of_ne (.inr hne), hparts]

/-- Such a change blocks no way. -/
theorem walk_put (hplace : files.node? place ≠ some .directory) (node : FileNode)
    {start parts result : List String} (h : files.walk start parts = .ok result) :
    (files.put place node).walk start parts = .ok result := by
  induction parts generalizing start with
  | nil => exact h
  | cons part rest ih =>
      rw [walk] at h ⊢
      cases hnode : files.node? start with
      | none =>
          rw [hnode] at h
          cases h
      | some found =>
          cases found with
          | file content =>
              rw [hnode] at h
              cases h
          | directory =>
              rw [hnode] at h
              rw [node?_put_of_directory hplace hnode]
              dsimp only at h ⊢
              split_ifs at h ⊢ with hlong hstay hup
              · exact ih h
              · exact ih h
              · exact ih h

theorem resolve_put (hplace : files.node? place ≠ some .directory) (node : FileNode)
    {result : List String} (h : files.resolve path = .ok result) :
    (files.put place node).resolve path = .ok result := by
  unfold resolve at h ⊢
  split_ifs at h ⊢
  all_goals exact walk_put hplace node h

/-- A file with a content stands at a path. -/
structure FileAt (files : Files) (path : String) (place : List String) (content : ByteArray) :
    Prop where
  resolve_eq : files.resolve path = .ok place
  node?_eq : files.node? place = some (.file content)

theorem FileAt.ne_directory (h : files.FileAt path place content) :
    files.node? place ≠ some .directory := by
  rw [h.node?_eq]
  exact fun heq => by cases heq

theorem FileAt.place_ne_nil (h : files.FileAt path place content) : place ≠ [] := by
  rintro rfl
  exact h.ne_directory rfl

theorem FileAt.read (h : files.FileAt path place content) : files.read path = .ok content := by
  rw [Files.read, h.resolve_eq]
  simp only [h.node?_eq]

/-- A file of encoded text is read as that text. -/
theorem FileAt.readText {text : String} (h : files.FileAt path place text.toUTF8) :
    files.readText path = .ok text := by
  have hvalid : text.toUTF8.IsValidUTF8 := text.isValidUTF8
  rw [Files.readText, h.read]
  simp only [String.fromUTF8?, dif_pos hvalid]
  rfl

theorem FileAt.append (h : files.FileAt path place content) (more : ByteArray) :
    (files.append place more).FileAt path place (content ++ more) := by
  rw [Files.append, h.node?_eq]
  exact ⟨resolve_put h.ne_directory _ h.resolve_eq, node?_put_self h.place_ne_nil _⟩

/-- A file that is created is empty. -/
theorem fileAt_of_create (h : files.create path = .ok (place, next)) :
    next.FileAt path place ByteArray.empty := by
  unfold create at h
  split at h
  next => cases h
  next found hresolve =>
    split_ifs at h with hslash
    have hpath : withoutSlashes path = path := Decidable.not_not.mp hslash
    split at h
    next => cases h
    next hnode =>
      cases h
      have hdirectory : files.node? place ≠ some .directory := fun heq => hnode heq
      have hroot : place ≠ [] := by
        rintro rfl
        exact hdirectory rfl
      have hresolved : files.resolve path = .ok place := by
        rw [hpath, ite_self] at hresolve
        exact hresolve
      exact ⟨resolve_put hdirectory _ hresolved, node?_put_self hroot _⟩

end DataQuality.Files
