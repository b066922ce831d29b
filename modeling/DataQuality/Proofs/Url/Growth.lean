import DataQuality.Proofs.Url.Host

/-!
# Paths that grow

A slash behind a path makes one more segment, and a margin, a space or a control character, makes
the last segment longer, which is not made of dots then. So a path with slashes and margins at its
end leads somewhere else than without them, however many there are.
-/

namespace DataQuality.Url

/-- A text with nothing but slashes and margins. -/
def IsEnd (cs : List Char) : Prop :=
  ∀ c ∈ cs, c = '/' ∨ isMargin c = true

/-! ## The length of a path -/

theorem pathText_append (path more : List (List Char)) :
    pathText (path ++ more) = pathText path ++ pathText more :=
  List.flatMap_append

/-- How much text a path is. -/
def extent (path : List (List Char)) : Nat :=
  (pathText path).length

theorem extent_concat (path : List (List Char)) (segment : List Char) :
    extent (path ++ [segment]) = extent path + (segment.length + 1) := by
  rw [extent, pathText_append, List.length_append]
  simp [extent, pathText]

theorem extent_dropLast_le (path : List (List Char)) : extent path.dropLast ≤ extent path := by
  rcases List.eq_nil_or_concat' path with rfl | ⟨front, last, rfl⟩
  · exact Nat.le_refl _
  · rw [List.dropLast_concat, extent_concat]
    exact Nat.le_add_right _ _

theorem extent_descend_le (path : List (List Char)) (segment : List Char) :
    extent (descend path segment) ≤ extent path + (segment.length + 1) := by
  unfold descend
  split
  · exact (extent_dropLast_le path).trans (Nat.le_add_right _ _)
  · split
    · exact Nat.le_add_right _ _
    · exact (extent_concat path segment).le

theorem descend_nil (path : List (List Char)) : descend path [] = path ++ [[]] :=
  rfl

theorem stem_addSegments_nil (path : List (List Char)) : stem (addSegments path [[]]) = path := by
  have hadd : addSegments path [[]] = path ++ [[]] := rfl
  rw [hadd]
  simp [stem]

/-- A path without its empty end is no longer than where it leads to. -/
theorem extent_stem_le (cs : List Char) :
    extent (stem (parsePath cs)) ≤ extent (destination cs) := by
  obtain ⟨front, last, hwritten, hpath⟩ := exists_last_parsePath cs
  rw [destination_eq hwritten, hpath]
  by_cases hlast : last = []
  · subst hlast
    rw [stem_addSegments_nil, descend_nil, extent_concat]
    exact Nat.le_add_right _ _
  · rw [(stem_addSegments_iff _ last).mpr hlast]

/-! ## What an end adds -/

variable {c : Char}

theorem percentEncode_of_isMargin (h : isMargin c = true) :
    ∃ b : UInt8, b.toNat ≤ 32 ∧ percentEncode inPath [c] = percentByte b := by
  have hpath : inPath c = false := of_isMargin (p := fun c => inPath c = false) (by decide) h
  have hnumber : c.toNat ≤ 32 := of_decide_eq_true h
  refine ⟨c.val.toUInt8, ?_, ?_⟩
  · rw [UInt32.toNat_toUInt8]
    exact (Nat.mod_le _ _).trans hnumber
  · simp [percentEncode, hpath, utf8Bytes_of_isMargin h]

/-- The segments made of dots, in lower case. -/
def dotTexts : List (List Char) :=
  [['.', '.'], ['.', '%', '2', 'e'], ['%', '2', 'e', '.'], ['%', '2', 'e', '%', '2', 'e'], ['.'],
    ['%', '2', 'e']]

/-- A segment that ends in an encoded margin is not made of dots. -/
theorem descend_append_percentByte (path : List (List Char)) (segment : List Char) {b : UInt8}
    (h : b.toNat ≤ 32) :
    descend path (segment ++ percentByte b) = path ++ [segment ++ percentByte b] := by
  have hencode : ∀ n ≤ 32, ∀ dots ∈ dotTexts,
      ¬(['%', upperHex (n / 16), upperHex (n % 16)].map Char.toLower <:+ dots) := by
    decide
  have hne : ∀ dots ∈ dotTexts, (segment ++ percentByte b).map Char.toLower ≠ dots := by
    rintro dots hdots rfl
    refine hencode b.toNat h _ hdots ?_
    rw [List.map_append]
    exact List.suffix_append _ _
  simp only [dotTexts, List.forall_mem_cons] at hne
  obtain ⟨hdouble, hsecond, hfirst, hboth, hsingle, hencoded, -⟩ := hne
  have hnotDouble : isDoubleDot (segment ++ percentByte b) = false := by
    simp only [isDoubleDot, Bool.or_eq_false_iff, beq_eq_false_iff_ne]
    exact ⟨⟨⟨hdouble, hsecond⟩, hfirst⟩, hboth⟩
  have hnotSingle : isSingleDot (segment ++ percentByte b) = false := by
    simp only [isSingleDot, Bool.or_eq_false_iff, beq_eq_false_iff_ne]
    exact ⟨hsingle, hencoded⟩
  rw [descend, hnotDouble, hnotSingle]
  rfl

theorem exists_writtenSegments_concat {d : Char} (h : isSlash d = true) (hc : isMargin c = true)
    (rest : List Char) :
    ∃ front last, writtenSegments (d :: rest) = front ++ [percentEncode inPath last] ∧
      writtenSegments (d :: rest ++ [c]) = front ++ [percentEncode inPath (last ++ [c])] := by
  have hunify : unify c = c := if_neg (ne_of_isMargin hc (by decide))
  have hslash : c ≠ '/' := ne_of_isMargin hc (by decide)
  obtain ⟨front, last, hrest, hmore⟩ := exists_splitAt_concat hslash (rest.map unify)
  refine ⟨front.map (percentEncode inPath), last, ?_, ?_⟩
  · rw [writtenSegments, pathBody_cons h, hrest, List.map_append, List.map_singleton]
  · rw [List.cons_append, writtenSegments, pathBody_cons h, List.map_append, List.map_singleton,
      hunify, hmore, List.map_append, List.map_singleton]

/-- A path becomes longer with every slash and every margin at its end. -/
theorem extent_destination_concat {d : Char} (h : isSlash d = true)
    (hc : c = '/' ∨ isMargin c = true) (rest : List Char) :
    extent (destination (d :: rest)) < extent (destination (d :: rest ++ [c])) := by
  rcases hc with rfl | hc
  · have hmore : writtenSegments (d :: rest ++ ['/']) = writtenSegments (d :: rest) ++ [[]] :=
      writtenSegments_append h rest []
    have hempty : destination (d :: rest ++ ['/']) = destination (d :: rest) ++ [[]] :=
      (destination_eq hmore).trans (descend_nil _)
    rw [hempty, extent_concat]
    omega
  · obtain ⟨front, last, hwritten, hmore⟩ := exists_writtenSegments_concat h hc rest
    obtain ⟨b, hb, hencode⟩ := percentEncode_of_isMargin hc
    have hlast : percentEncode inPath (last ++ [c]) =
        percentEncode inPath last ++ percentByte b := by
      rw [← hencode]
      exact List.flatMap_append
    have hshort := extent_descend_le (front.foldl descend []) (percentEncode inPath last)
    rw [destination_eq hwritten, destination_eq hmore, hlast, descend_append_percentByte _ _ hb,
      extent_concat, List.length_append]
    have hbyte : (percentByte b).length = 3 := rfl
    omega

theorem extent_destination_le {d : Char} (h : isSlash d = true) {more : List Char}
    (hmore : IsEnd more) (rest : List Char) :
    extent (destination (d :: rest)) ≤ extent (destination (d :: rest ++ more)) := by
  induction more generalizing rest with
  | nil => rw [List.append_nil]
  | cons c more ih =>
      obtain ⟨hc, hmore⟩ := List.forall_mem_cons.mp hmore
      have hstep := extent_destination_concat h hc rest
      have hrest := ih hmore (rest ++ [c])
      simp only [List.cons_append, List.append_assoc, List.nil_append] at hstep hrest ⊢
      omega

/-- A path with something at its end does not lead to where it leads without. -/
theorem stem_parsePath_ne {cs more : List Char} (hmore : IsEnd more) (hne : more ≠ [])
    (hhead : ∀ c ∈ (cs ++ more).head?, isSlash c = true) :
    stem (parsePath cs) ≠ destination (cs ++ more) := by
  intro heq
  obtain ⟨c, others, rfl⟩ := List.exists_cons_of_ne_nil hne
  obtain ⟨hc, hothers⟩ := List.forall_mem_cons.mp hmore
  have hextent := congrArg extent heq
  cases cs with
  | nil =>
      -- nothing is there before the first character of the end, which is a slash
      have hslash : isSlash c = true := hhead c rfl
      have hstart : destination [c] = [[]] := by
        rw [destination, writtenSegments, pathBody_cons hslash]
        rfl
      have hgrows := extent_destination_le hslash hothers []
      have hempty : extent (stem (parsePath [])) = 0 := by decide
      have hone : extent [[]] = 1 := rfl
      rw [hstart] at hgrows
      simp only [List.nil_append, List.cons_append] at hextent hgrows
      omega
  | cons d rest =>
      have hslash : isSlash d = true := hhead d rfl
      have hstem := extent_stem_le (d :: rest)
      have hstep := extent_destination_concat hslash hc rest
      have hgrows := extent_destination_le hslash hothers (rest ++ [c])
      simp only [List.cons_append, List.append_assoc, List.nil_append] at hextent hstep hgrows
      omega

end DataQuality.Url
