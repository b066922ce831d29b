import DataQuality.Proofs.EntityLink.Grammar

/-!
# The two readers of entity links

`parse` reads a link from a text without the blanks around it, `tableOf?` and `columnOf?` cut the
text as it is. On a text that `parse` accepts they find the same table and column, except that
blanks behind the closing bracket stay with the last name: with the table of a link to a table,
with the column of a link to a column.
-/

namespace DataQuality

namespace Text

/-- The blanks at the end of a text. -/
def trailing (cs : List Char) : List Char :=
  (cs.reverse.takeWhile isBlank).reverse

theorem isBlank_of_mem_trailing {cs : List Char} {c : Char} (h : c ∈ trailing cs) :
    isBlank c = true := by
  rw [trailing, List.mem_reverse] at h
  exact List.mem_takeWhile_imp h

theorem trimEnd_append_trailing (cs : List Char) : trimEnd cs ++ trailing cs = cs := by
  rw [trimEnd, trailing, ← List.reverse_append, List.takeWhile_append_dropWhile,
    List.reverse_reverse]

/-- Blanks behind a character that is none are the trailing ones. -/
theorem trailing_append_cons {front trail : List Char} {c : Char} (hc : isBlank c = false)
    (htrail : ∀ b ∈ trail, isBlank b = true) : trailing (front ++ c :: trail) = trail := by
  have hrev : (front ++ c :: trail).reverse = trail.reverse ++ (c :: front.reverse) := by simp
  have hblank : ∀ b ∈ trail.reverse, isBlank b = true := by simpa using htrail
  rw [trailing, hrev, List.takeWhile_append_of_pos hblank,
    List.takeWhile_cons_of_neg (by simp [hc]), List.append_nil, List.reverse_reverse]

/-- A text is what trimming leaves of it between two runs of blanks. -/
theorem exists_blanks_around (cs : List Char) :
    ∃ lead trail, (∀ c ∈ lead, isBlank c = true) ∧ (∀ c ∈ trail, isBlank c = true) ∧
      cs = lead ++ trimChars cs ++ trail := by
  refine ⟨cs.takeWhile isBlank, trailing (cs.dropWhile isBlank),
    fun c hc => List.mem_takeWhile_imp hc, fun c hc => isBlank_of_mem_trailing hc, ?_⟩
  rw [trimChars, List.append_assoc, trimEnd_append_trailing, List.takeWhile_append_dropWhile]

theorem ne_colon_of_isBlank {c : Char} (h : isBlank c = true) : c ≠ ':' := by
  rintro rfl
  exact absurd h (by decide)

theorem ne_bracket_of_isBlank {c : Char} (h : isBlank c = true) : c ≠ '>' := by
  rintro rfl
  exact absurd h (by decide)

end Text

namespace EntityLink

/-! ## Segments -/

theorem segments_of_notMem {cs : List Char} (h : ':' ∉ cs) : segments cs = [cs] := by
  induction cs with
  | nil => rfl
  | cons c rest ih =>
      rw [List.mem_cons, not_or] at h
      rw [segments.eq_3 c rest (fun _ hc _ => h.1 hc.symm), ih h.2]

/-- The first two colons that follow each other end the first segment. -/
theorem segments_append_colons {cs : List Char} (h : ':' ∉ cs) (rest : List Char) :
    segments (cs ++ ':' :: ':' :: rest) = cs :: segments rest := by
  induction cs with
  | nil => rfl
  | cons c cs ih =>
      rw [List.mem_cons, not_or] at h
      rw [List.cons_append, segments.eq_3 c _ (fun _ hc _ => h.1 hc.symm), ih h.2]

theorem withoutBracket_of_notMem {cs : List Char} (h : '>' ∉ cs) : withoutBracket cs = cs := by
  refine List.filter_eq_self.mpr fun c hc => ?_
  have hne : c ≠ '>' := fun he => h (he ▸ hc)
  simpa using hne

theorem withoutBracket_append (xs ys : List Char) :
    withoutBracket (xs ++ ys) = withoutBracket xs ++ withoutBracket ys :=
  List.filter_append xs ys

/-- A name of a link with what stands behind it, once the bracket between them is dropped. -/
theorem withoutBracket_name {name trail : List Char} (hname : ∀ c ∈ name, isNameChar c = true)
    (htrail : ∀ c ∈ trail, Text.isBlank c = true) :
    withoutBracket (name ++ '>' :: trail) = name ++ trail := by
  have hn : '>' ∉ name := fun h => ne_bracket_of_isNameChar (hname _ h) rfl
  have ht : '>' ∉ trail := fun h => Text.ne_bracket_of_isBlank (htrail _ h) rfl
  have hb : withoutBracket ('>' :: trail) = withoutBracket trail := rfl
  rw [withoutBracket_append, hb, withoutBracket_of_notMem hn, withoutBracket_of_notMem ht]

/-- The segments of a link with blanks around it. -/
theorem segments_write {parts : Parts} (h : parts.WellFormed) {lead trail : List Char}
    (hlead : ∀ c ∈ lead, Text.isBlank c = true) (htrail : ∀ c ∈ trail, Text.isBlank c = true) :
    segments (lead ++ parts.write ++ trail) =
      (lead ++ ['<', '#', 'E']) :: parts.entityType ::
        (match parts.narrowed with
          | none => [parts.table ++ '>' :: trail]
          | some (field, name) => [parts.table, field, name ++ '>' :: trail]) := by
  -- neither the parts nor the blanks have a colon, so only the written separators separate
  have hfirst : ':' ∉ lead ++ ['<', '#', 'E'] := by
    simpa using fun hmem => Text.ne_colon_of_isBlank (hlead _ hmem) rfl
  have htype : ':' ∉ parts.entityType :=
    fun hmem => ne_colon_of_isLetter (h.entityType_letters _ hmem) rfl
  have htable : ':' ∉ parts.table :=
    fun hmem => ne_colon_of_isNameChar (h.table_chars _ hmem) rfl
  have hend : ':' ∉ '>' :: trail := by
    simpa using fun hmem => Text.ne_colon_of_isBlank (htrail _ hmem) rfl
  cases hnarrowed : parts.narrowed with
  | none =>
      have htext : lead ++ parts.write ++ trail =
          (lead ++ ['<', '#', 'E']) ++ ':' :: ':' :: (parts.entityType ++ ':' :: ':' ::
            (parts.table ++ '>' :: trail)) := by
        simp [Parts.write, hnarrowed]
      rw [htext, segments_append_colons hfirst, segments_append_colons htype,
        segments_of_notMem (by simpa using ⟨htable, by simpa using hend⟩)]
  | some narrowed =>
      obtain ⟨field, name⟩ := narrowed
      have hfield : ':' ∉ field :=
        fun hmem => ne_colon_of_isLetter (h.field_letters _ hnarrowed _ hmem) rfl
      have hname : ':' ∉ name :=
        fun hmem => ne_colon_of_isNameChar (h.name_chars _ hnarrowed _ hmem) rfl
      have htext : lead ++ parts.write ++ trail =
          (lead ++ ['<', '#', 'E']) ++ ':' :: ':' :: (parts.entityType ++ ':' :: ':' ::
            (parts.table ++ ':' :: ':' :: (field ++ ':' :: ':' :: (name ++ '>' :: trail)))) := by
        simp [Parts.write, hnarrowed]
      rw [htext, segments_append_colons hfirst, segments_append_colons htype,
        segments_append_colons htable, segments_append_colons hfield,
        segments_of_notMem (by simpa using ⟨hname, by simpa using hend⟩)]

/-! ## What the readers find -/

/-- The parts of the link that `parse` reads, and the blanks around them. -/
theorem exists_parts_of_parse {s : String} {link : EntityLink} (h : parse s = .ok link) :
    ∃ (parts : Parts) (lead trail : List Char), parts.WellFormed ∧
      (∀ c ∈ lead, Text.isBlank c = true) ∧ (∀ c ∈ trail, Text.isBlank c = true) ∧
      s.toList = lead ++ parts.write ++ trail ∧
      link.table = String.ofList parts.table ∧
      link.column = parts.narrowed.map (fun narrowed => String.ofList narrowed.2) ∧
      ∀ narrowed ∈ parts.narrowed, narrowed.1 = columnsField := by
  obtain ⟨lead, trail, hlead, htrail, htext⟩ := Text.exists_blanks_around s.toList
  unfold parse at h
  split at h
  next => cases h
  next entityType table hparts =>
    obtain ⟨hwell, hwrite⟩ := parts?_eq_some hparts
    cases h
    exact ⟨_, lead, trail, hwell, hlead, htrail, hwrite ▸ htext, rfl, rfl, by simp⟩
  next entityType table field column hparts =>
    obtain ⟨hwell, hwrite⟩ := parts?_eq_some hparts
    split at h
    next hfield =>
      cases h
      exact ⟨_, lead, trail, hwell, hlead, htrail, hwrite ▸ htext, rfl, rfl, by simpa using hfield⟩
    next => cases h

/-- The blanks behind a link are the trailing ones, since it ends in a bracket. -/
theorem trailing_write (parts : Parts) {lead trail : List Char}
    (htrail : ∀ c ∈ trail, Text.isBlank c = true) :
    Text.trailing (lead ++ parts.write ++ trail) = trail := by
  obtain ⟨body, hbody⟩ : ∃ body, parts.write = body ++ ['>'] := ⟨_, rfl⟩
  have htext : lead ++ parts.write ++ trail = (lead ++ body) ++ '>' :: trail := by simp [hbody]
  rw [htext]
  exact Text.trailing_append_cons (by decide) htrail

/-- The table is what the third segment names, if it names anything. -/
theorem tableOf?_of_segment {s : String} {segment name : List Char}
    (hsegment : (segments s.toList)[2]? = some segment) (hname : withoutBracket segment = name)
    (hne : name ≠ []) : tableOf? s = some (String.ofList name) := by
  cases name with
  | nil => exact absurd rfl hne
  | cons c rest => simp only [tableOf?, hsegment, hname]

/-- On a link to a table the lenient readers find no column, and the table with the blanks that
trail the text. -/
theorem tableOf?_of_parse_table {s : String} {link : EntityLink} (h : parse s = .ok link)
    (hcolumn : link.column = none) :
    tableOf? s = some (link.table ++ String.ofList (Text.trailing s.toList)) ∧
      columnOf? s = none := by
  obtain ⟨parts, lead, trail, hwell, hlead, htrail, htext, htable, hlink, -⟩ :=
    exists_parts_of_parse h
  have hnarrowed : parts.narrowed = none := by
    rw [hcolumn] at hlink
    exact Option.map_eq_none_iff.mp hlink.symm
  have hsegments := segments_write hwell hlead htrail
  rw [hnarrowed, ← htext] at hsegments
  constructor
  · rw [htext, trailing_write parts htrail, htable, ← String.ofList_append]
    refine tableOf?_of_segment (by rw [hsegments]; rfl)
      (withoutBracket_name hwell.table_chars htrail) ?_
    exact List.append_ne_nil_of_left_ne_nil hwell.table_ne_nil trail
  · simp only [columnOf?, hsegments, List.drop_succ_cons, List.drop_nil]

/-- On a link to a column they find its table, and the column with the blanks that trail the
text. -/
theorem columnOf?_of_parse_column {s column : String} {link : EntityLink}
    (h : parse s = .ok link) (hcolumn : link.column = some column) :
    tableOf? s = some link.table ∧
      columnOf? s = some (column ++ String.ofList (Text.trailing s.toList)) := by
  obtain ⟨parts, lead, trail, hwell, hlead, htrail, htext, htable, hlink, hfield⟩ :=
    exists_parts_of_parse h
  rw [hcolumn] at hlink
  obtain ⟨⟨field, name⟩, hnarrowed, hname⟩ := Option.map_eq_some_iff.mp hlink.symm
  have hsegments := segments_write hwell hlead htrail
  rw [hnarrowed, ← htext] at hsegments
  constructor
  · have hbracket : '>' ∉ parts.table :=
      fun hmem => ne_bracket_of_isNameChar (hwell.table_chars _ hmem) rfl
    rw [htable]
    exact tableOf?_of_segment (by rw [hsegments]; rfl) (withoutBracket_of_notMem hbracket)
      hwell.table_ne_nil
  · have hcolumns : field = columnsField := hfield _ hnarrowed
    have hbare := withoutBracket_name (hwell.name_chars _ hnarrowed) htrail
    have htrailing : Text.trailing s.toList = trail := htext ▸ trailing_write parts htrail
    simp only [columnOf?, hsegments, List.drop_succ_cons, List.drop_zero, hcolumns, if_true,
      hbare, htrailing, ← hname, String.ofList_append]

/-- A text that trails no blanks is read alike by both readers, and no other accepted text is:
its last name keeps the blanks that `parse` drops. -/
theorem readers_agree_iff {s : String} {link : EntityLink} (h : parse s = .ok link) :
    (tableOf? s = some link.table ∧ columnOf? s = link.column ↔ Text.trailing s.toList = []) ∧
      (link.column = none →
        tableOf? s = some (link.table ++ String.ofList (Text.trailing s.toList)) ∧
          columnOf? s = none) ∧
      ∀ column ∈ link.column, tableOf? s = some link.table ∧
        columnOf? s = some (column ++ String.ofList (Text.trailing s.toList)) := by
  refine ⟨?_, fun hcolumn => tableOf?_of_parse_table h hcolumn,
    fun column hcolumn => columnOf?_of_parse_column h hcolumn⟩
  cases hcolumn : link.column with
  | none =>
      obtain ⟨htable, hnone⟩ := tableOf?_of_parse_table h hcolumn
      rw [htable, hnone]
      simp [String.ext_iff]
  | some column =>
      obtain ⟨htable, hsome⟩ := columnOf?_of_parse_column h hcolumn
      rw [htable, hsome]
      simp [String.ext_iff]

/-- Blanks before the link make no difference, those behind it do. -/
theorem readers_differ_on_padded_column :
    parse " <#E::table::svc.db.sch.orders::columns::id> " =
        .ok (ofColumn "svc.db.sch.orders" "id") ∧
      ¬(tableOf? " <#E::table::svc.db.sch.orders::columns::id> " = some "svc.db.sch.orders" ∧
        columnOf? " <#E::table::svc.db.sch.orders::columns::id> " = some "id") := by
  have hparse : parse " <#E::table::svc.db.sch.orders::columns::id> " =
      .ok (ofColumn "svc.db.sch.orders" "id") := by rfl
  refine ⟨hparse, fun hagree => ?_⟩
  have htrailing := (readers_agree_iff hparse).1.mp hagree
  exact absurd htrailing (by decide)

/-- Not every text that `parse` accepts is read alike. -/
theorem exists_readers_disagree :
    ¬∀ (s : String) (link : EntityLink), parse s = .ok link →
      tableOf? s = some link.table ∧ columnOf? s = link.column := by
  intro hall
  have hparse : parse "<#E::table::svc.db.sch.orders> " = .ok (ofTable "svc.db.sch.orders") := by
    rfl
  have htable : tableOf? "<#E::table::svc.db.sch.orders> " = some "svc.db.sch.orders " := by rfl
  have hsome := (hall _ _ hparse).1
  rw [htable] at hsome
  exact absurd hsome (by decide)

end EntityLink

end DataQuality
