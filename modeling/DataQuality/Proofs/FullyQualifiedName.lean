import DataQuality.FullyQualifiedName
import Mathlib.Data.List.Basic

/-!
# Splitting and joining names

The splitter starts every part as it starts the whole name, outside quotes, since quotes come in
pairs around a part. So a joined name is split into the parts that it was joined from, unless a
part holds a quote, which the splitter drops. Whatever a text is split into can be joined again,
and the text that this gives stands for the same parts.
-/

namespace DataQuality.FullyQualifiedName

/-! ## The splitter -/

theorem splitChars_ne_nil (quoted : Bool) (cs : List Char) : splitChars quoted cs ≠ [] := by
  induction cs generalizing quoted with
  | nil => exact List.cons_ne_nil _ _
  | cons c rest ih =>
      rw [splitChars]
      split
      next => exact ih _
      next =>
        split
        next => exact List.cons_ne_nil _ _
        next =>
          split
          next => exact List.cons_ne_nil _ _
          next => exact List.cons_ne_nil _ _

theorem splitChars_quote (quoted : Bool) (rest : List Char) :
    splitChars quoted (quote :: rest) = splitChars (!quoted) rest := by
  rw [splitChars, if_pos rfl]

theorem splitChars_separator (rest : List Char) :
    splitChars false (separator :: rest) = [] :: splitChars false rest := by
  rw [splitChars, if_neg (by decide), if_pos ⟨rfl, rfl⟩]

/-- A character that means nothing to the splitter belongs to the first part. -/
theorem splitChars_cons {quoted : Bool} {c : Char} (hquote : c ≠ quote)
    (hseparator : c = separator → quoted = true) (rest : List Char) :
    splitChars quoted (c :: rest) = (splitChars quoted rest).modifyHead (c :: ·) := by
  have hplain : ¬(c = separator ∧ quoted = false) := by
    rintro ⟨hc, hquoted⟩
    rw [hseparator hc] at hquoted
    cases hquoted
  rw [splitChars, if_neg hquote, if_neg hplain]
  cases hrest : splitChars quoted rest with
  | nil => exact absurd hrest (splitChars_ne_nil quoted rest)
  | cons first others => rfl

/-- A run of such characters belongs to the first part. -/
theorem splitChars_append {quoted : Bool} {part : List Char} (hquote : quote ∉ part)
    (hseparator : separator ∈ part → quoted = true) (rest : List Char) :
    splitChars quoted (part ++ rest) = (splitChars quoted rest).modifyHead (part ++ ·) := by
  induction part with
  | nil => exact (congrFun List.modifyHead_id _).symm
  | cons c part ih =>
      obtain ⟨hc, hpart⟩ := List.ne_and_not_mem_of_not_mem_cons hquote
      have hfirst : c = separator → quoted = true :=
        fun heq => hseparator (heq ▸ List.mem_cons_self)
      have hothers : separator ∈ part → quoted = true :=
        fun hmem => hseparator (List.mem_cons_of_mem c hmem)
      rw [List.cons_append, splitChars_cons hc.symm hfirst, ih hpart hothers,
        List.modifyHead_modifyHead]
      rfl

theorem quote_notMem_splitChars (quoted : Bool) (cs : List Char) :
    ∀ part ∈ splitChars quoted cs, quote ∉ part := by
  induction cs generalizing quoted with
  | nil => simp [splitChars]
  | cons c rest ih =>
      by_cases hquote : c = quote
      · subst hquote
        rw [splitChars_quote]
        exact ih _
      · by_cases hseparator : c = separator ∧ quoted = false
        · obtain ⟨rfl, rfl⟩ := hseparator
          rw [splitChars_separator]
          exact List.forall_mem_cons.mpr ⟨List.not_mem_nil, ih _⟩
        · have hquoted : c = separator → quoted = true :=
            fun hc => (Bool.not_eq_false quoted).mp fun hfalse => hseparator ⟨hc, hfalse⟩
          have hrest := ih quoted
          rw [splitChars_cons hquote hquoted]
          cases hparts : splitChars quoted rest with
          | nil => exact absurd hparts (splitChars_ne_nil quoted rest)
          | cons first others =>
              rw [hparts] at hrest
              obtain ⟨hfirst, hothers⟩ := List.forall_mem_cons.mp hrest
              refine List.forall_mem_cons.mpr ⟨?_, hothers⟩
              exact List.not_mem_cons_of_ne_of_not_mem (Ne.symm hquote) hfirst

/-! ## Joined parts -/

/-- A written part is one part, and what follows it is split as if it stood alone. -/
theorem splitChars_writePart {part : List Char} (h : quote ∉ part) (rest : List Char) :
    splitChars false (writePart part ++ rest) =
      (splitChars false rest).modifyHead (part ++ ·) := by
  unfold writePart
  split
  next =>
    -- the closing quote leads back to where the opening one came from
    rw [List.cons_append, splitChars_quote, List.append_assoc, List.singleton_append,
      Bool.not_false, splitChars_append h fun _ => rfl, splitChars_quote, Bool.not_true]
  next hseparator => exact splitChars_append h (fun hmem => absurd hmem hseparator) rest

theorem splitChars_joinChars {parts : List (List Char)} (hne : parts ≠ [])
    (h : ∀ part ∈ parts, quote ∉ part) : splitChars false (joinChars parts) = parts := by
  induction parts with
  | nil => exact absurd rfl hne
  | cons part rest ih =>
      obtain ⟨hpart, hrest⟩ := List.forall_mem_cons.mp h
      cases rest with
      | nil =>
          have hwritten := splitChars_writePart hpart []
          rw [List.append_nil] at hwritten
          rw [joinChars, hwritten, splitChars, List.modifyHead_cons, List.append_nil]
      | cons next others =>
          rw [joinChars, splitChars_writePart hpart, splitChars_separator,
            ih (List.cons_ne_nil _ _) hrest, List.modifyHead_cons, List.append_nil]
          exact List.cons_ne_nil _ _

/-! ## Names -/

theorem split_ne_nil (name : String) : split name ≠ [] := by
  rw [split, ne_eq, List.map_eq_nil_iff]
  exact splitChars_ne_nil false name.toList

theorem quote_notMem_split (name : String) : ∀ part ∈ split name, quote ∉ part.toList := by
  intro part hpart
  obtain ⟨cs, hcs, rfl⟩ := List.mem_map.mp hpart
  rw [String.toList_ofList]
  exact quote_notMem_splitChars false name.toList cs hcs

/-- Parts without quotes survive being joined and split again. -/
theorem split_join {parts : List String} (hne : parts ≠ [])
    (h : ∀ part ∈ parts, quote ∉ part.toList) : split (join parts) = parts := by
  have hchars : ∀ cs ∈ parts.map String.toList, quote ∉ cs := by
    intro cs hcs
    obtain ⟨part, hpart, rfl⟩ := List.mem_map.mp hcs
    exact h part hpart
  rw [split, join, String.toList_ofList,
    splitChars_joinChars (fun hnil => hne (List.map_eq_nil_iff.mp hnil)) hchars, List.map_map]
  exact List.map_id'' (fun part => String.ofList_toList) parts

/-- A name of one part is that part, unless it has to stand in quotes. -/
theorem join_singleton_of_notMem {part : String} (h : separator ∉ part.toList) :
    join [part] = part := by
  rw [join, List.map_singleton, joinChars, writePart, if_neg h, String.ofList_toList]

/-- The service of a name is its first part, if that is not empty. -/
theorem service?_of_split {name first : String} {rest : List String}
    (h : split name = first :: rest) : service? name = if first = "" then none else some first := by
  rw [split, List.map_eq_cons_iff] at h
  obtain ⟨cs, others, hsplit, rfl, -⟩ := h
  rw [service?, hsplit]
  cases cs with
  | nil => rfl
  | cons c rest => exact (if_neg (by simp)).symm

theorem service?_join {first : String} {rest : List String} (hne : first ≠ "")
    (h : ∀ part ∈ first :: rest, quote ∉ part.toList) :
    service? (join (first :: rest)) = some first := by
  rw [service?_of_split (split_join (List.cons_ne_nil _ _) h), if_neg hne]

/-- Joining and splitting are inverse to each other up to quotes. Parts come back if there are any
and none holds a quote, and only then. Every text is split into such parts, so that joining them
gives one written form of the name. The service of a joined name is its first part. -/
theorem split_join_inverse :
    (∀ parts : List String,
      split (join parts) = parts ↔ parts ≠ [] ∧ ∀ part ∈ parts, quote ∉ part.toList) ∧
    (∀ name : String,
      (split name ≠ [] ∧ ∀ part ∈ split name, quote ∉ part.toList) ∧
      split (join (split name)) = split name ∧
      join (split (join (split name))) = join (split name)) ∧
    ∀ (first : String) (rest : List String),
      split (join (first :: rest)) = first :: rest →
        service? (join (first :: rest)) = if first = "" then none else some first := by
  refine ⟨fun parts => ⟨fun h => ?_, fun h => split_join h.1 h.2⟩, fun name => ?_,
    fun first rest => service?_of_split⟩
  · rw [← h]
    exact ⟨split_ne_nil _, quote_notMem_split _⟩
  · have hagain := split_join (split_ne_nil name) (quote_notMem_split name)
    exact ⟨⟨split_ne_nil name, quote_notMem_split name⟩, hagain, congrArg join hagain⟩

/-- A service with a dot in its name, an empty part, and a part that is nothing but dots. -/
theorem split_join_inverse_dotted :
    split (join ["my.svc", "", "..", "orders"]) = ["my.svc", "", "..", "orders"] ∧
      service? (join ["my.svc", "", "..", "orders"]) = some "my.svc" := by
  obtain ⟨hiff, -, hservice⟩ := split_join_inverse
  have hsplit := (hiff ["my.svc", "", "..", "orders"]).mpr ⟨List.cons_ne_nil _ _, by decide⟩
  exact ⟨hsplit, hservice _ _ hsplit⟩

end DataQuality.FullyQualifiedName
