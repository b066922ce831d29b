import DataQuality.Proofs.EntityLink.Grammar
import DataQuality.Proofs.Text

/-!
# Parsing entity links

`parse` accepts exactly the texts that links are written as, blanks around them apart, and reads
the link that is written. A link can be written so that it is read back if its entity type is a
word and its table and column are names. The texts that are refused fall into two classes: those
of the form of a link that is narrowed by another field than a column, and all others.
-/

namespace DataQuality.EntityLink

/-- A nonempty text of ASCII letters. -/
def IsWord (s : String) : Prop := s ≠ "" ∧ ∀ c ∈ s.toList, c.isAlpha = true

/-- A nonempty text without the characters that separate and enclose the parts of a link. -/
def IsName (s : String) : Prop := s ≠ "" ∧ ':' ∉ s.toList ∧ '<' ∉ s.toList ∧ '>' ∉ s.toList

/-- A link whose parts can be told apart in its text. -/
structure WellFormed (link : EntityLink) : Prop where
  entityType : IsWord link.entityType
  table : IsName link.table
  column : ∀ column ∈ link.column, IsName column

/-- The text of a link that is narrowed by any field. -/
def narrowedText (entityType table field name : String) : String :=
  "<#E::" ++ entityType ++ "::" ++ table ++ "::" ++ field ++ "::" ++ name ++ ">"

/-- A text has the form of a link, but its field is not that of columns. -/
def NarrowedBy (field s : String) : Prop :=
  IsWord field ∧ field ≠ "columns" ∧
    ∃ entityType table name, IsWord entityType ∧ IsName table ∧ IsName name ∧
      s = narrowedText entityType table field name

/-! ## Classes of characters -/

theorem isLetter_eq_isAlpha (c : Char) : isLetter c = c.isAlpha := by
  have hupper : c.isUpper = (decide ('A' ≤ c) && decide (c ≤ 'Z')) :=
    Bool.decide_and ('A' ≤ c) (c ≤ 'Z')
  have hlower : c.isLower = (decide ('a' ≤ c) && decide (c ≤ 'z')) := rfl
  have halpha : c.isAlpha = (c.isUpper || c.isLower) := rfl
  rw [halpha, hupper, hlower, isLetter]

theorem isNameChar_iff {c : Char} : isNameChar c = true ↔ c ≠ ':' ∧ c ≠ '<' ∧ c ≠ '>' := by
  simp [isNameChar, and_assoc]

theorem isWord_iff {s : String} :
    IsWord s ↔ s.toList ≠ [] ∧ ∀ c ∈ s.toList, isLetter c = true := by
  simp only [IsWord, isLetter_eq_isAlpha, ne_eq, String.toList_eq_nil_iff]

theorem isName_iff {s : String} :
    IsName s ↔ s.toList ≠ [] ∧ ∀ c ∈ s.toList, isNameChar c = true := by
  simp only [IsName, isNameChar_iff, ne_eq, String.toList_eq_nil_iff]
  refine and_congr_right fun _ => ⟨?_, ?_⟩
  · rintro ⟨hcolon, hopen, hclose⟩ c hc
    exact ⟨fun h => hcolon (h ▸ hc), fun h => hopen (h ▸ hc), fun h => hclose (h ▸ hc)⟩
  · intro h
    exact ⟨fun hc => (h _ hc).1 rfl, fun hc => (h _ hc).2.1 rfl, fun hc => (h _ hc).2.2 rfl⟩

/-! ## Taking written texts apart -/

theorem run?_append {p : Char → Bool} {word rest : List Char} (hne : word ≠ [])
    (hword : ∀ c ∈ word, p c = true) (hrest : ∀ c ∈ rest.head?, p c = false) :
    run? p (word ++ rest) = some (word, rest) := by
  obtain ⟨htake, hdrop⟩ := Text.span_append hword hrest
  unfold run?
  rw [htake, hdrop]
  cases word with
  | nil => exact absurd rfl hne
  | cons c word => rfl

theorem run?_word {word : List Char} (hne : word ≠ []) (hword : ∀ c ∈ word, isLetter c = true)
    (rest : List Char) : run? isLetter (word ++ ':' :: rest) = some (word, ':' :: rest) := by
  apply run?_append hne hword
  rintro c hc
  cases hc
  decide

/-- A name ends at the separator or the bracket behind it. -/
theorem run?_name {name : List Char} (hne : name ≠ []) (hname : ∀ c ∈ name, isNameChar c = true)
    (mark : Char) (hmark : isNameChar mark = false) (rest : List Char) :
    run? isNameChar (name ++ mark :: rest) = some (name, mark :: rest) := by
  apply run?_append hne hname
  rintro c hc
  cases hc
  exact hmark

/-- The text of well-formed parts is taken apart into them. -/
theorem parts?_write {parts : Parts} (h : parts.WellFormed) :
    parts? parts.write = some parts := by
  obtain ⟨entityType, table, narrowed⟩ := parts
  have htype := run?_word h.entityType_ne_nil h.entityType_letters
  have htable := run?_name h.table_ne_nil h.table_chars
  cases narrowed with
  | none =>
      simp only [Parts.write, List.append_assoc, List.cons_append, List.nil_append, parts?, htype,
        afterColons?, htable '>' (by decide), Option.bind_eq_bind, Option.bind_some,
        if_true]
      rfl
  | some narrowed =>
      obtain ⟨field, name⟩ := narrowed
      have hfield := run?_word (h.field_ne_nil _ rfl) (h.field_letters _ rfl)
      have hname := run?_name (h.name_ne_nil _ rfl) (h.name_chars _ rfl)
      have hmore : ∀ rest : List Char, ':' :: rest ≠ ['>'] := by simp
      simp only [Parts.write, List.append_assoc, List.cons_append, List.nil_append, parts?, htype,
        afterColons?, htable ':' (by decide), hmore, hfield,
        hname '>' (by decide), Option.bind_eq_bind, Option.bind_some, if_true, if_false]
      rfl

theorem parts?_eq_some_iff {cs : List Char} {parts : Parts} :
    parts? cs = some parts ↔ parts.WellFormed ∧ cs = parts.write := by
  constructor
  · exact parts?_eq_some
  · rintro ⟨hwell, rfl⟩
    exact parts?_write hwell

/-! ## Links as parts -/

/-- The parts of the text of a link. -/
def parts (link : EntityLink) : Parts :=
  ⟨link.entityType.toList, link.table.toList,
    link.column.map fun column => (columnsField, column.toList)⟩

theorem write_parts (link : EntityLink) : link.parts.write = link.write := by
  unfold Parts.write write parts
  cases link.column with
  | none => rfl
  | some column => rfl

theorem wellFormed_parts_iff (link : EntityLink) : link.parts.WellFormed ↔ link.WellFormed := by
  constructor
  · intro h
    refine ⟨isWord_iff.mpr ⟨h.entityType_ne_nil, h.entityType_letters⟩,
      isName_iff.mpr ⟨h.table_ne_nil, h.table_chars⟩, ?_⟩
    intro column hcolumn
    have hnarrowed : (columnsField, column.toList) ∈ link.parts.narrowed :=
      Option.map_eq_some_iff.mpr ⟨column, hcolumn, rfl⟩
    exact isName_iff.mpr ⟨h.name_ne_nil _ hnarrowed, h.name_chars _ hnarrowed⟩
  · intro h
    have hnarrowed : ∀ narrowed ∈ link.parts.narrowed,
        narrowed.1 = columnsField ∧ narrowed.2 ≠ [] ∧ ∀ c ∈ narrowed.2, isNameChar c = true := by
      intro narrowed hmem
      obtain ⟨column, hcolumn, rfl⟩ := Option.map_eq_some_iff.mp hmem
      exact ⟨rfl, isName_iff.mp (h.column column hcolumn)⟩
    exact
      { entityType_ne_nil := (isWord_iff.mp h.entityType).1
        entityType_letters := (isWord_iff.mp h.entityType).2
        table_ne_nil := (isName_iff.mp h.table).1
        table_chars := (isName_iff.mp h.table).2
        field_ne_nil := fun narrowed hmem => (hnarrowed narrowed hmem).1 ▸ by decide
        field_letters := fun narrowed hmem =>
          (hnarrowed narrowed hmem).1 ▸ List.all_eq_true.mp (by decide)
        name_ne_nil := fun narrowed hmem => (hnarrowed narrowed hmem).2.1
        name_chars := fun narrowed hmem => (hnarrowed narrowed hmem).2.2 }

theorem wellFormed_narrowed_iff {entityType table field name : String} :
    Parts.WellFormed ⟨entityType.toList, table.toList, some (field.toList, name.toList)⟩ ↔
      IsWord entityType ∧ IsName table ∧ IsWord field ∧ IsName name := by
  simp only [isWord_iff, isName_iff]
  constructor
  · intro h
    exact ⟨⟨h.entityType_ne_nil, h.entityType_letters⟩, ⟨h.table_ne_nil, h.table_chars⟩,
      ⟨h.field_ne_nil _ rfl, h.field_letters _ rfl⟩, ⟨h.name_ne_nil _ rfl, h.name_chars _ rfl⟩⟩
  · rintro ⟨htype, htable, hfield, hname⟩
    exact ⟨htype.1, htype.2, htable.1, htable.2, by simpa using hfield.1,
      by simpa using hfield.2, by simpa using hname.1, by simpa using hname.2⟩

/-- The text of a link that is narrowed by another field, as that of its parts. -/
theorem narrowedBy_iff {field s : String} :
    NarrowedBy field s ↔
      field.toList ≠ columnsField ∧
        ∃ entityType table name, Parts.WellFormed ⟨entityType, table, some (field.toList, name)⟩ ∧
          s.toList = Parts.write ⟨entityType, table, some (field.toList, name)⟩ := by
  have hcolumns : field ≠ "columns" ↔ field.toList ≠ columnsField :=
    not_congr String.toList_inj.symm
  have htext : ∀ entityType table name : String,
      (narrowedText entityType table field name).toList =
        Parts.write ⟨entityType.toList, table.toList, some (field.toList, name.toList)⟩ := by
    intro entityType table name
    simp [narrowedText, Parts.write]
  rw [NarrowedBy, hcolumns]
  constructor
  · rintro ⟨hfield, hne, entityType, table, name, htype, htable, hname, rfl⟩
    exact ⟨hne, entityType.toList, table.toList, name.toList,
      wellFormed_narrowed_iff.mpr ⟨htype, htable, hfield, hname⟩, htext entityType table name⟩
  · rintro ⟨hne, entityType, table, name, hwell, hs⟩
    have hparts : Parts.WellFormed ⟨(String.ofList entityType).toList,
        (String.ofList table).toList, some (field.toList, (String.ofList name).toList)⟩ := by
      simpa only [String.toList_ofList] using hwell
    obtain ⟨htype, htable, hfield, hname⟩ := wellFormed_narrowed_iff.mp hparts
    refine ⟨hfield, hne, _, _, _, htype, htable, hname, ?_⟩
    apply String.toList_inj.mp
    rw [htext]
    simpa only [String.toList_ofList] using hs

/-! ## Parsing -/

theorem toList_trim (s : String) : (Text.trim s).toList = Text.trimChars s.toList :=
  String.toList_ofList

/-- What `parse` makes of the parts of a text. -/
theorem parse_of_parts {s : String} {parts : Parts}
    (h : parts? (Text.trimChars s.toList) = some parts) :
    parse s =
      match parts.narrowed with
      | none => .ok ⟨String.ofList parts.entityType, String.ofList parts.table, none⟩
      | some (field, name) =>
          if field = columnsField then
            .ok ⟨String.ofList parts.entityType, String.ofList parts.table,
              some (String.ofList name)⟩
          else .error (.unsupportedField s (String.ofList field)) := by
  obtain ⟨entityType, table, narrowed⟩ := parts
  rw [parse, h]
  cases narrowed with
  | none => rfl
  | some narrowed => rfl

theorem parse_of_parts_link {s : String} {link : EntityLink}
    (h : parts? (Text.trimChars s.toList) = some link.parts) : parse s = .ok link := by
  rw [parse_of_parts h]
  obtain ⟨entityType, table, column⟩ := link
  cases column with
  | none => simp [parts]
  | some column => simp [parts]

/-- The three outcomes of parsing: the link that is written, a field that links do not have, and
no form of a link at all. -/
theorem parse_cases (s : String) :
    (∃ link, parse s = .ok link ∧ link.WellFormed ∧ Text.trim s = link.render) ∨
    (∃ field, parse s = .error (.unsupportedField s field) ∧ NarrowedBy field (Text.trim s)) ∨
    (parse s = .error (.malformed s) ∧ parts? (Text.trimChars s.toList) = none) := by
  cases hparts : parts? (Text.trimChars s.toList) with
  | none =>
      refine .inr (.inr ⟨?_, rfl⟩)
      rw [parse, hparts]
  | some found =>
      have hparse := parse_of_parts hparts
      obtain ⟨hwell, hwrite⟩ := parts?_eq_some hparts
      -- parts that are those of a link can only come from its text
      have hlink : ∀ link : EntityLink, link.parts = found →
          link.WellFormed ∧ Text.trim s = link.render := by
        rintro link rfl
        rw [write_parts] at hwrite
        exact ⟨(wellFormed_parts_iff link).mp hwell, congrArg String.ofList hwrite⟩
      obtain ⟨entityType, table, narrowed⟩ := found
      cases narrowed with
      | none => exact .inl ⟨_, hparse, hlink _ (by simp [parts])⟩
      | some narrowed =>
          obtain ⟨field, name⟩ := narrowed
          by_cases hfield : field = columnsField
          · exact .inl ⟨_, hparse.trans (if_pos hfield), hlink _ (by simp [parts, hfield])⟩
          · refine .inr (.inl ⟨_, hparse.trans (if_neg hfield), narrowedBy_iff.mpr ?_⟩)
            rw [String.toList_ofList, toList_trim]
            exact ⟨hfield, entityType, table, name, hwell, hwrite⟩

theorem parse_eq_ok_iff {s : String} {link : EntityLink} :
    parse s = .ok link ↔ link.WellFormed ∧ Text.trim s = link.render := by
  constructor
  · intro h
    rcases parse_cases s with ⟨found, hfound, hlink⟩ | ⟨field, hfield, -⟩ | ⟨hnone, -⟩
    · cases h.symm.trans hfound
      exact hlink
    · cases h.symm.trans hfield
    · cases h.symm.trans hnone
  · rintro ⟨hwell, hrender⟩
    apply parse_of_parts_link
    rw [parts?_eq_some_iff, wellFormed_parts_iff, write_parts]
    exact ⟨hwell, String.ofList_inj.mp hrender⟩

theorem parse_of_narrowedBy {s field : String} (h : NarrowedBy field (Text.trim s)) :
    parse s = .error (.unsupportedField s field) := by
  obtain ⟨hne, entityType, table, name, hparts⟩ := narrowedBy_iff.mp h
  rw [toList_trim] at hparts
  rw [parse_of_parts (parts?_eq_some_iff.mpr hparts)]
  simp [hne]

theorem parse_eq_unsupportedField_iff {s t field : String} :
    parse s = .error (.unsupportedField t field) ↔ t = s ∧ NarrowedBy field (Text.trim s) := by
  constructor
  · intro h
    rcases parse_cases s with ⟨found, hfound, -⟩ | ⟨field, hfield, hnarrowed⟩ | ⟨hnone, -⟩
    · cases h.symm.trans hfound
    · cases h.symm.trans hfield
      exact ⟨rfl, hnarrowed⟩
    · cases h.symm.trans hnone
  · rintro ⟨rfl, hnarrowed⟩
    exact parse_of_narrowedBy hnarrowed

theorem parse_eq_malformed_iff {s t : String} :
    parse s = .error (.malformed t) ↔
      t = s ∧ (¬∃ link : EntityLink, link.WellFormed ∧ Text.trim s = link.render) ∧
        ¬∃ field, NarrowedBy field (Text.trim s) := by
  constructor
  · intro h
    refine ⟨?_, ?_, ?_⟩
    · rcases parse_cases s with ⟨found, hfound, -⟩ | ⟨field, hfield, -⟩ | ⟨hnone, -⟩
      · cases h.symm.trans hfound
      · cases h.symm.trans hfield
      · cases h.symm.trans hnone
        rfl
    · rintro ⟨link, hlink⟩
      cases h.symm.trans (parse_eq_ok_iff.mpr hlink)
    · rintro ⟨field, hnarrowed⟩
      cases h.symm.trans (parse_of_narrowedBy hnarrowed)
  · rintro ⟨rfl, hlink, hfield⟩
    rcases parse_cases t with ⟨found, -, hfound⟩ | ⟨field, -, hnarrowed⟩ | ⟨hnone, -⟩
    · exact absurd ⟨found, hfound⟩ hlink
    · exact absurd ⟨field, hnarrowed⟩ hfield
    · exact hnone

/-! ## Links that are written and read back -/

/-- Nothing is trimmed off a text between characters that are not blank. -/
theorem trimChars_of_ends {first last : Char} (hfirst : Text.isBlank first = false)
    (hlast : Text.isBlank last = false) (middle : List Char) :
    Text.trimChars (first :: middle ++ [last]) = first :: middle ++ [last] := by
  simp [Text.trimChars, Text.trimEnd, hfirst, hlast]

theorem trim_render (link : EntityLink) : Text.trim link.render = link.render := by
  obtain ⟨middle, hmiddle⟩ : ∃ middle, link.write = '<' :: middle ++ ['>'] := ⟨_, rfl⟩
  rw [Text.trim, render, String.toList_ofList, hmiddle,
    trimChars_of_ends (by decide) (by decide)]

theorem parse_render_iff (link : EntityLink) : parse link.render = .ok link ↔ link.WellFormed := by
  rw [parse_eq_ok_iff, trim_render]
  exact and_iff_left rfl

theorem isWord_table : IsWord "table" := ⟨by decide, List.all_eq_true.mp (by decide)⟩

theorem wellFormed_ofTable_iff (table : String) : (ofTable table).WellFormed ↔ IsName table :=
  ⟨fun h => h.table, fun h => ⟨isWord_table, h, by simp [ofTable]⟩⟩

theorem wellFormed_ofColumn_iff (table column : String) :
    (ofColumn table column).WellFormed ↔ IsName table ∧ IsName column :=
  ⟨fun h => ⟨h.table, h.column column rfl⟩,
    fun h => ⟨isWord_table, h.1, by simpa [ofColumn] using h.2⟩⟩

/-- Parsing accepts exactly what is written for well-formed links, blanks around it apart, and
gives the link. A text that is a link but for its field is refused for the field, and every other
text is malformed. Hence a link to a table or to a column is read back from its text exactly if
table and column are names. -/
theorem parse_accepts_exactly_written_links :
    (∀ s link, parse s = .ok link ↔ link.WellFormed ∧ Text.trim s = link.render) ∧
    (∀ s t field, parse s = .error (.unsupportedField t field) ↔
      t = s ∧ NarrowedBy field (Text.trim s)) ∧
    (∀ s t, parse s = .error (.malformed t) ↔
      t = s ∧ (¬∃ link : EntityLink, link.WellFormed ∧ Text.trim s = link.render) ∧
        ¬∃ field, NarrowedBy field (Text.trim s)) ∧
    (∀ table, parse (ofTable table).render = .ok (ofTable table) ↔ IsName table) ∧
    ∀ table column, parse (ofColumn table column).render = .ok (ofColumn table column) ↔
      IsName table ∧ IsName column := by
  refine ⟨fun s link => parse_eq_ok_iff, fun s t field => parse_eq_unsupportedField_iff,
    fun s t => parse_eq_malformed_iff, ?_, ?_⟩
  · intro table
    rw [parse_render_iff, wellFormed_ofTable_iff]
  · intro table column
    rw [parse_render_iff, wellFormed_ofColumn_iff]

end DataQuality.EntityLink
