import DataQuality.Proofs.Url.Form
import DataQuality.Url.Basic
import Mathlib.Data.List.Basic

/-!
# Reading paths

How the path of an address is read by what is behind it: split at slashes, with percent signs and
two digits standing for bytes. A segment that is added to a path is read as the text that it was,
unless that text is one or two dots, which would stand for another segment, or holds tabs or line
breaks, which do not count in an address.
-/

namespace DataQuality.Url

/-! ## Splitting -/

variable {separator : Char} {path : List (List Char)}

theorem splitAt_ne_nil (separator : Char) (cs : List Char) : splitAt separator cs ≠ [] := by
  cases cs with
  | nil => exact List.cons_ne_nil _ _
  | cons c rest =>
      rw [splitAt]
      split
      next => exact List.cons_ne_nil _ _
      next => split <;> exact List.cons_ne_nil _ _

theorem notMem_of_mem_splitAt {cs part : List Char} (h : part ∈ splitAt separator cs) :
    separator ∉ part := by
  induction cs generalizing part with
  | nil =>
      rw [splitAt, List.mem_singleton] at h
      rw [h]
      exact List.not_mem_nil
  | cons c rest ih =>
      rw [splitAt] at h
      split at h
      next =>
        rcases List.mem_cons.mp h with rfl | hrest
        · exact List.not_mem_nil
        · exact ih hrest
      next hc =>
        cases hparts : splitAt separator rest with
        | nil => exact absurd hparts (splitAt_ne_nil separator rest)
        | cons first others =>
            rw [hparts] at h ih
            rcases List.mem_cons.mp h with rfl | hothers
            · exact List.not_mem_cons_of_ne_of_not_mem (Ne.symm hc) (ih List.mem_cons_self)
            · exact ih (List.mem_cons_of_mem first hothers)

theorem splitAt_append_separator (cs more : List Char) :
    splitAt separator (cs ++ separator :: more) =
      splitAt separator cs ++ splitAt separator more := by
  induction cs with
  | nil => exact splitAt_append List.not_mem_nil
  | cons c rest ih =>
      rw [List.cons_append, splitAt, splitAt, ih]
      split
      next => rfl
      next =>
        cases hparts : splitAt separator rest with
        | nil => exact absurd hparts (splitAt_ne_nil separator rest)
        | cons first others => rfl

/-- A character that separates nothing goes on with the last part. -/
theorem exists_splitAt_concat {c : Char} (h : c ≠ separator) (cs : List Char) :
    ∃ front last, splitAt separator cs = front ++ [last] ∧
      splitAt separator (cs ++ [c]) = front ++ [last ++ [c]] := by
  induction cs with
  | nil => exact ⟨[], [], rfl, by rw [List.nil_append, splitAt, if_neg h]; rfl⟩
  | cons d rest ih =>
      obtain ⟨front, last, hrest, hmore⟩ := ih
      rw [List.cons_append, splitAt, splitAt, hrest, hmore]
      split
      next => exact ⟨[] :: front, last, rfl, rfl⟩
      next =>
        cases front with
        | nil => exact ⟨[], d :: last, rfl, rfl⟩
        | cons first others => exact ⟨(d :: first) :: others, last, rfl, rfl⟩

/-- The last part of a text is empty if the text is, or ends with a separator. -/
theorem getLast?_splitAt_eq_nil_iff {cs : List Char} :
    (splitAt separator cs).getLast? = some [] ↔ cs = [] ∨ cs.getLast? = some separator := by
  rcases List.eq_nil_or_concat cs with rfl | ⟨front, c, rfl⟩
  · exact iff_of_true rfl (.inl rfl)
  · rw [List.concat_eq_append]
    by_cases hc : c = separator
    · subst hc
      rw [splitAt_append_separator]
      simp [splitAt]
    · obtain ⟨parts, last, -, hparts⟩ := exists_splitAt_concat hc front
      rw [hparts]
      simp [hc]

/-- No segment of a path holds a slash. -/
def SlashFree (path : List (List Char)) : Prop :=
  ∀ segment ∈ path, '/' ∉ segment

theorem SlashFree.append {more : List (List Char)} (h : SlashFree path) (hmore : SlashFree more) :
    SlashFree (path ++ more) :=
  List.forall_mem_append.mpr ⟨h, hmore⟩

theorem SlashFree.dropLast (h : SlashFree path) : SlashFree path.dropLast :=
  fun segment hsegment => h segment (List.dropLast_subset path hsegment)

theorem slashFree_singleton {segment : List Char} : SlashFree [segment] ↔ '/' ∉ segment :=
  List.forall_mem_singleton

/-- A path is split into its segments, after what stands before the first slash. -/
theorem splitAt_pathText (h : SlashFree path) : splitAt '/' (pathText path) = [] :: path := by
  have hsplit : ∀ segment, '/' ∉ segment → SlashFree path →
      splitAt '/' (segment ++ pathText path) = segment :: path := by
    clear h
    induction path with
    | nil =>
        intro segment hsegment _
        rw [pathText, List.flatMap_nil, List.append_nil, splitAt_of_notMem hsegment]
    | cons next rest ih =>
        intro segment hsegment hpath
        obtain ⟨hnext, hrest⟩ := List.forall_mem_cons.mp hpath
        have htext : pathText (next :: rest) = '/' :: (next ++ pathText rest) := rfl
        rw [htext, splitAt_append hsegment, ih next hnext hrest]
  exact hsplit [] List.not_mem_nil h

/-! ## Encoded segments -/

/-- The bytes of a text. -/
def textBytes (cs : List Char) : List UInt8 :=
  cs.flatMap utf8Bytes

theorem textBytes_injective : Function.Injective textBytes := by
  intro cs other h
  have hdecode := congrArg decodeUtf8? h
  rw [textBytes, textBytes, decodeUtf8?_flatMap, decodeUtf8?_flatMap] at hdecode
  exact Option.some.inj hdecode

theorem percentEncode_cons (admitted : Char → Bool) (c : Char) (rest : List Char) :
    percentEncode admitted (c :: rest) =
      (if admitted c then [c] else (utf8Bytes c).flatMap percentByte) ++
        percentEncode admitted rest :=
  List.flatMap_cons

theorem percentDecode_percentEncode {admitted : Char → Bool} (h : admitted '%' = false)
    (cs : List Char) : percentDecode (percentEncode admitted cs) = textBytes cs := by
  induction cs with
  | nil => rfl
  | cons c rest ih =>
      rw [percentEncode_cons, textBytes, List.flatMap_cons]
      split
      next hadmitted =>
        have hc : c ≠ '%' := by
          rintro rfl
          rw [h] at hadmitted
          cases hadmitted
        rw [List.singleton_append, percentDecode_cons hc, ih, textBytes]
      next => rw [percentDecode_flatMap, ih, textBytes]

theorem percentDecode_of_notMem {cs : List Char} (h : '%' ∉ cs) :
    percentDecode cs = textBytes cs := by
  induction cs with
  | nil => rfl
  | cons c rest ih =>
      obtain ⟨hc, hrest⟩ := List.ne_and_not_mem_of_not_mem_cons h
      rw [percentDecode_cons hc.symm, ih hrest, textBytes, textBytes, List.flatMap_cons]

theorem slash_ne_upperHex : ∀ n < 16, upperHex n ≠ '/' := by decide

theorem slash_notMem_percentByte (b : UInt8) : '/' ∉ percentByte b := by
  have hbyte : b.toNat < 256 := b.toNat_lt
  intro h
  simp only [percentByte, List.mem_cons, List.not_mem_nil, or_false] at h
  rcases h with h | h | h
  · exact absurd h (by decide)
  · exact slash_ne_upperHex _ (by omega) h.symm
  · exact slash_ne_upperHex _ (by omega) h.symm

/-- An encoded text holds a slash only if it was there and may stand as it is. -/
theorem slash_notMem_percentEncode {admitted : Char → Bool} {cs : List Char}
    (h : admitted '/' = true → '/' ∉ cs) : '/' ∉ percentEncode admitted cs := by
  intro hmem
  obtain ⟨c, hc, hencoded⟩ := List.mem_flatMap.mp hmem
  split at hencoded
  next hadmitted =>
    obtain rfl := List.mem_singleton.mp hencoded
    exact h hadmitted hc
  next =>
    obtain ⟨b, -, hb⟩ := List.mem_flatMap.mp hencoded
    exact slash_notMem_percentByte b hb

/-! ## Dots -/

/-- A character in lower case is the character itself, or a letter further on. -/
theorem toLower_cases (c : Char) :
    c.toLower = c ∨ c.toLower.toNat = c.toNat + 32 ∧ 65 ≤ c.toNat ∧ c.toNat ≤ 90 := by
  unfold Char.toLower
  split
  next h =>
    have hleast := UInt32.le_iff_toNat_le.mp h.1
    have hgreatest := UInt32.le_iff_toNat_le.mp h.2
    simp only [Char.toNat_val, Char.reduceToNat] at hleast hgreatest
    refine .inr ⟨?_, hleast, hgreatest⟩
    change (c.val + 32).toNat = c.toNat + 32
    rw [UInt32.toNat_add, Char.toNat_val]
    change (c.toNat + 32) % 2 ^ 32 = _
    omega
  next => exact .inl rfl

theorem eq_of_toLower_eq {c d : Char} (h : c.toLower = d) (hd : d.toNat < 97) : c = d := by
  rcases toLower_cases c with hsame | ⟨hnumber, hleast, -⟩
  · exact hsame.symm.trans h
  · rw [h] at hnumber
    omega

theorem hexValue?_of_toLower_eq {c : Char} (h : c.toLower = 'e') :
    Text.hexValue? c = some 14 := by
  have hletter : c = 'e' ∨ c = 'E' := by
    rcases toLower_cases c with hsame | ⟨hnumber, -, -⟩
    · exact .inl (hsame.symm.trans h)
    · rw [h] at hnumber
      have hnat : c.toNat = 'E'.toNat := Nat.add_right_cancel hnumber.symm
      exact .inr (Char.toNat_inj.mp hnat)
  rcases hletter with rfl | rfl <;> decide

/-- The ways to write a dot in a segment that may be one of dots. -/
inductive DotText : List Char → Prop where
  | plain : DotText ['.']
  | encoded {e : Char} : e.toLower = 'e' → DotText ['%', '2', e]

theorem DotText.of_map {segment : List Char}
    (h : segment.map Char.toLower = ['.'] ∨ segment.map Char.toLower = ['%', '2', 'e']) :
    DotText segment := by
  rcases h with h | h
  · obtain ⟨dot, rfl, hdot⟩ := List.map_eq_singleton_iff.mp h
    rw [eq_of_toLower_eq hdot (by decide)]
    exact .plain
  · obtain ⟨percent, others, rfl, hpercent, h⟩ := List.map_eq_cons_iff.mp h
    obtain ⟨two, others, rfl, htwo, h⟩ := List.map_eq_cons_iff.mp h
    obtain ⟨e, rfl, he⟩ := List.map_eq_singleton_iff.mp h
    rw [eq_of_toLower_eq hpercent (by decide), eq_of_toLower_eq htwo (by decide)]
    exact .encoded he

theorem utf8Bytes_dot : utf8Bytes '.' = [46] := by
  rw [utf8Bytes_eq]
  decide

/-- A dot is read as a dot, however it is written. -/
theorem DotText.percentDecode_append {dot : List Char} (h : DotText dot) (rest : List Char) :
    percentDecode (dot ++ rest) = 46 :: percentDecode rest := by
  cases h with
  | plain =>
      rw [List.singleton_append, percentDecode_cons (by decide), utf8Bytes_dot,
        List.singleton_append]
  | encoded he =>
      have htwo : Text.hexValue? '2' = some 2 := by decide
      simp only [List.cons_append, List.nil_append, percentDecode, htwo,
        hexValue?_of_toLower_eq he]
      rfl

theorem dotText_of_isSingleDot {segment : List Char} (h : isSingleDot segment = true) :
    DotText segment := by
  simp only [isSingleDot, Bool.or_eq_true, beq_iff_eq] at h
  exact .of_map h

theorem exists_dotText_of_isDoubleDot {segment : List Char} (h : isDoubleDot segment = true) :
    ∃ first second, DotText first ∧ DotText second ∧ segment = first ++ second := by
  have hsplit : ∀ first second : List Char, segment.map Char.toLower = first ++ second →
      first = ['.'] ∨ first = ['%', '2', 'e'] → second = ['.'] ∨ second = ['%', '2', 'e'] →
      ∃ first second, DotText first ∧ DotText second ∧ segment = first ++ second := by
    intro first second hlower hfirst hsecond
    obtain ⟨a, b, rfl, rfl, rfl⟩ := List.map_eq_append_iff.mp hlower
    exact ⟨a, b, .of_map hfirst, .of_map hsecond, rfl⟩
  simp only [isDoubleDot, Bool.or_eq_true, beq_iff_eq] at h
  rcases h with ((h | h) | h) | h
  · exact hsplit ['.'] ['.'] h (.inl rfl) (.inl rfl)
  · exact hsplit ['.'] ['%', '2', 'e'] h (.inl rfl) (.inr rfl)
  · exact hsplit ['%', '2', 'e'] ['.'] h (.inr rfl) (.inl rfl)
  · exact hsplit ['%', '2', 'e'] ['%', '2', 'e'] h (.inr rfl) (.inr rfl)

/-- A text that is encoded whole is taken for a dot only if it is one. -/
theorem eq_of_isSingleDot_percentEncode {admitted : Char → Bool} (h : admitted '%' = false)
    {cs : List Char} (hdot : isSingleDot (percentEncode admitted cs) = true) : cs = ['.'] := by
  have hread := (dotText_of_isSingleDot hdot).percentDecode_append []
  rw [List.append_nil, percentDecode_percentEncode h] at hread
  have hbytes : textBytes ['.'] = [46] := by simp [textBytes, utf8Bytes_dot]
  exact textBytes_injective (hread.trans hbytes.symm)

theorem eq_of_isDoubleDot_percentEncode {admitted : Char → Bool} (h : admitted '%' = false)
    {cs : List Char} (hdots : isDoubleDot (percentEncode admitted cs) = true) :
    cs = ['.', '.'] := by
  obtain ⟨first, second, hfirst, hsecond, hcs⟩ := exists_dotText_of_isDoubleDot hdots
  have hread := hfirst.percentDecode_append second
  have hrest := hsecond.percentDecode_append []
  rw [List.append_nil] at hrest
  rw [← hcs, percentDecode_percentEncode h, hrest] at hread
  have hbytes : textBytes ['.', '.'] = [46, 46] := by simp [textBytes, utf8Bytes_dot]
  exact textBytes_injective (hread.trans hbytes.symm)

/-! ## Segments that are added -/

/-- A text without characters that do not count in an address, and not one that stands for another
segment. -/
def Travels (name : String) : Prop :=
  name ≠ "." ∧ name ≠ ".." ∧ ∀ c ∈ name.toList, c ≠ '\t' ∧ c ≠ '\n' ∧ c ≠ '\r'

theorem significant_eq_self_iff {cs : List Char} :
    significant cs = cs ↔ ∀ c ∈ cs, c ≠ '\t' ∧ c ≠ '\n' ∧ c ≠ '\r' := by
  simp only [significant, List.filter_eq_self, Bool.and_eq_true, bne_iff_ne, and_assoc]

instance (name : String) : Decidable (Travels name) :=
  decidable_of_iff (name ≠ "." ∧ name ≠ ".." ∧ significant name.toList = name.toList)
    (and_congr_right fun _ => and_congr_right fun _ => significant_eq_self_iff)

theorem addSegments_singleton (path : List (List Char)) (segment : List Char) :
    addSegments path [segment] =
      if isDoubleDot segment then path.dropLast ++ [[]]
      else if isSingleDot segment then path ++ [[]]
      else path ++ [segment] := by
  simp only [addSegments, List.isEmpty_nil, if_true]

/-- What is added last to a path is at its end, or it is made of dots and the end is empty. -/
theorem exists_last_addSegments (path : List (List Char)) (segment : List Char) :
    ∃ front last, addSegments path [segment] = front ++ [last] ∧
      (front = path ∨ front = path.dropLast) ∧ (last = [] ∨ last = segment) := by
  rw [addSegments_singleton]
  split
  · exact ⟨_, _, rfl, .inr rfl, .inl rfl⟩
  · split
    · exact ⟨_, _, rfl, .inl rfl, .inl rfl⟩
    · exact ⟨_, _, rfl, .inl rfl, .inr rfl⟩

theorem SlashFree.addSegments {segment : List Char} (h : SlashFree path)
    (hsegment : '/' ∉ segment) : SlashFree (addSegments path [segment]) := by
  obtain ⟨front, last, hpath, hfront, hlast⟩ := exists_last_addSegments path segment
  rw [hpath]
  refine SlashFree.append ?_ (slashFree_singleton.mpr ?_)
  · rcases hfront with rfl | rfl
    · exact h
    · exact h.dropLast
  · rcases hlast with rfl | rfl
    · exact List.not_mem_nil
    · exact hsegment

theorem addSegment_eq (path : List (List Char)) (name : String) :
    addSegment path name =
      if name = "." ∨ name = ".." then path
      else addSegments path [percentEncode inSegment (significant name.toList)] := by
  have hdot : name.toList = ['.'] ↔ name = "." := @String.toList_inj name "."
  have hdots : name.toList = ['.', '.'] ↔ name = ".." := @String.toList_inj name ".."
  simp only [addSegment, hdot, hdots]

theorem SlashFree.addSegment (h : SlashFree path) (segment : String) :
    SlashFree (addSegment path segment) := by
  rw [addSegment_eq]
  split
  · exact h
  · exact h.addSegments (slash_notMem_percentEncode fun hslash => absurd hslash (by decide))

theorem addSegment_of_travels {name : String} (h : Travels name) (path : List (List Char)) :
    addSegment path name = path ++ [percentEncode inSegment name.toList] := by
  obtain ⟨hdot, hdots, hcounts⟩ := h
  have hpercent : inSegment '%' = false := by decide
  rw [addSegment_eq, if_neg (not_or.mpr ⟨hdot, hdots⟩), significant_eq_self_iff.mpr hcounts,
    addSegments_singleton, if_neg, if_neg]
  · exact fun h => hdot (String.toList_inj.mp (eq_of_isSingleDot_percentEncode hpercent h))
  · exact fun h => hdots (String.toList_inj.mp (eq_of_isDoubleDot_percentEncode hpercent h))

theorem length_addSegment_le (path : List (List Char)) (name : String) :
    (addSegment path name).length ≤ path.length + 1 := by
  rw [addSegment_eq]
  split
  · exact Nat.le_succ _
  · obtain ⟨front, last, hpath, hfront, -⟩ :=
      exists_last_addSegments path (percentEncode inSegment (significant name.toList))
    rw [hpath, List.length_append, List.length_singleton]
    rcases hfront with rfl | rfl
    · exact Nat.le_refl _
    · rw [List.length_dropLast]
      omega

/-- A text that is added to a path is read as its last segment, behind all others, if it travels,
and only then. -/
theorem map_percentDecode_addSegment_iff {name : String} :
    (addSegment path name).map percentDecode =
      path.map percentDecode ++ [textBytes name.toList] ↔ Travels name := by
  have hpercent : inSegment '%' = false := by decide
  constructor
  · intro hread
    rw [addSegment_eq] at hread
    split at hread
    next =>
      -- the text was left out
      have hlength := congrArg List.length hread
      simp at hlength
    next hdots =>
      obtain ⟨hdot, hdots⟩ := not_or.mp hdots
      obtain ⟨front, last, hpath, -, hlast⟩ :=
        exists_last_addSegments path (percentEncode inSegment (significant name.toList))
      rw [hpath, List.map_append, List.map_singleton] at hread
      have hbytes := (List.append_singleton_inj.mp hread).2
      have hcounts : significant name.toList = name.toList := by
        rcases hlast with rfl | rfl
        · have hempty : [] = name.toList := textBytes_injective hbytes
          rw [← hempty]
          rfl
        · rw [percentDecode_percentEncode hpercent] at hbytes
          exact textBytes_injective hbytes
      exact ⟨hdot, hdots, significant_eq_self_iff.mp hcounts⟩
  · intro h
    rw [addSegment_of_travels h, List.map_append, List.map_singleton,
      percentDecode_percentEncode hpercent]

/-! ## Paths of addresses -/

/-- Goes down to a segment, or up for two dots. -/
def descend (path : List (List Char)) (segment : List Char) : List (List Char) :=
  if isDoubleDot segment then path.dropLast
  else if isSingleDot segment then path
  else path ++ [segment]

theorem addSegments_append_singleton (path segments : List (List Char)) (last : List Char) :
    addSegments path (segments ++ [last]) = addSegments (segments.foldl descend path) [last] := by
  induction segments generalizing path with
  | nil => rfl
  | cons segment rest ih =>
      have hmore : (rest ++ [last]).isEmpty = false := by
        rw [List.isEmpty_eq_false_iff]
        exact List.append_ne_nil_of_right_ne_nil rest (List.cons_ne_nil _ _)
      rw [List.cons_append, addSegments, List.foldl_cons, ← ih, descend]
      simp only [hmore, Bool.false_eq_true, if_false, List.append_nil]
      split
      · rfl
      · split <;> rfl

theorem SlashFree.foldl_descend {segments : List (List Char)} (h : SlashFree path)
    (hsegments : SlashFree segments) : SlashFree (segments.foldl descend path) := by
  induction segments generalizing path with
  | nil => exact h
  | cons segment rest ih =>
      obtain ⟨hsegment, hrest⟩ := List.forall_mem_cons.mp hsegments
      refine ih ?_ hrest
      unfold descend
      split
      · exact h.dropLast
      · split
        · exact h
        · exact h.append (slashFree_singleton.mpr hsegment)

/-- The text of a path without the slash that it may start with, which may be a backslash. -/
def pathBody (cs : List Char) : List Char :=
  let unified := cs.map fun c => if c = '\\' then '/' else c
  match unified with
  | '/' :: rest => rest
  | _ => unified

/-- The segments of a path as they are written. -/
def writtenSegments (cs : List Char) : List (List Char) :=
  (splitAt '/' (pathBody cs)).map (percentEncode inPath)

theorem parsePath_eq (cs : List Char) : parsePath cs = addSegments [] (writtenSegments cs) :=
  rfl

theorem slashFree_writtenSegments (cs : List Char) : SlashFree (writtenSegments cs) := by
  intro segment hsegment
  obtain ⟨part, hpart, rfl⟩ := List.mem_map.mp hsegment
  exact slash_notMem_percentEncode fun _ => notMem_of_mem_splitAt hpart

/-- Going down a path, the segment that was written last is the last to be added. -/
theorem exists_last_parsePath (cs : List Char) :
    ∃ front last, writtenSegments cs = front ++ [last] ∧
      parsePath cs = addSegments (front.foldl descend []) [last] := by
  have hne : writtenSegments cs ≠ [] := by
    rw [writtenSegments, ne_eq, List.map_eq_nil_iff]
    exact splitAt_ne_nil '/' _
  have hwritten := List.dropLast_append_getLast hne
  refine ⟨_, _, hwritten.symm, ?_⟩
  rw [parsePath_eq, ← addSegments_append_singleton, hwritten]

theorem slashFree_parsePath (cs : List Char) : SlashFree (parsePath cs) := by
  obtain ⟨front, last, hwritten, hpath⟩ := exists_last_parsePath cs
  have hfree := slashFree_writtenSegments cs
  rw [hwritten] at hfree
  obtain ⟨hfront, hlast⟩ := List.forall_mem_append.mp hfree
  have hempty : SlashFree [] := fun _ h => absurd h List.not_mem_nil
  rw [hpath]
  exact (hempty.foldl_descend hfront).addSegments (slashFree_singleton.mp hlast)

theorem parsePath_ne_nil (cs : List Char) : parsePath cs ≠ [] := by
  obtain ⟨front, last, -, hpath⟩ := exists_last_parsePath cs
  obtain ⟨front', last', hend, -⟩ := exists_last_addSegments (front.foldl descend []) last
  rw [hpath, hend]
  exact List.append_ne_nil_of_right_ne_nil front' (List.cons_ne_nil _ _)

/-- A path without the empty segment that it may end with. -/
def stem (path : List (List Char)) : List (List Char) :=
  if path.getLast? = some [] then path.dropLast else path

/-- Without its empty end, a path to which a segment was added last has gone down to it, unless it
was that segment that was empty. -/
theorem stem_addSegments_iff (path : List (List Char)) (last : List Char) :
    stem (addSegments path [last]) = descend path last ↔ last ≠ [] := by
  have hempty : isDoubleDot [] = false ∧ isSingleDot [] = false := by decide
  rw [addSegments_singleton, descend]
  by_cases hlast : last = []
  · subst hlast
    simp [hempty, stem]
  · refine iff_of_true ?_ hlast
    split
    · simp [stem]
    · split
      · simp [stem]
      · simp [stem, hlast]

theorem percentEncode_eq_nil_iff {admitted : Char → Bool} {cs : List Char} :
    percentEncode admitted cs = [] ↔ cs = [] := by
  constructor
  · intro h
    cases cs with
    | nil => rfl
    | cons c rest =>
        rw [percentEncode_cons, List.append_eq_nil_iff] at h
        have hbytes : textBytes [c] = textBytes [] := by
          have hfirst := h.1
          split at hfirst
          · cases hfirst
          · have hnone : utf8Bytes c = [] := by
              cases hutf8 : utf8Bytes c with
              | nil => rfl
              | cons b others =>
                  rw [hutf8] at hfirst
                  cases hfirst
            rw [textBytes, List.flatMap_singleton, hnone]
            rfl
        cases textBytes_injective hbytes
  · rintro rfl
    rfl

theorem getLast?_writtenSegments_eq_nil_iff {cs : List Char} :
    (writtenSegments cs).getLast? = some [] ↔
      pathBody cs = [] ∨ (pathBody cs).getLast? = some '/' := by
  rw [writtenSegments, List.getLast?_map, ← getLast?_splitAt_eq_nil_iff, Option.map_eq_some_iff]
  simp only [percentEncode_eq_nil_iff, exists_eq_right]

/-- A character of a path as it is read. -/
def unify (c : Char) : Char :=
  if c = '\\' then '/' else c

theorem unify_eq_slash_iff {c : Char} : unify c = '/' ↔ isSlash c = true := by
  unfold unify isSlash
  split <;> simp_all

theorem pathBody_cons {c : Char} (h : isSlash c = true) (rest : List Char) :
    pathBody (c :: rest) = rest.map unify := by
  rw [isSlash, Bool.or_eq_true, beq_iff_eq, beq_iff_eq] at h
  rcases h with rfl | rfl <;> rfl

/-- What follows a path and a slash is read segment by segment, as what came before. -/
theorem writtenSegments_append {c : Char} (h : isSlash c = true) (rest more : List Char) :
    writtenSegments (c :: rest ++ '/' :: more) =
      writtenSegments (c :: rest) ++
        (splitAt '/' (more.map unify)).map (percentEncode inPath) := by
  have hmap : (rest ++ '/' :: more).map unify = rest.map unify ++ '/' :: more.map unify :=
    List.map_append
  rw [List.cons_append, writtenSegments, writtenSegments, pathBody_cons h, pathBody_cons h, hmap,
    splitAt_append_separator, List.map_append]

/-- Where the segments of a path lead to, one after the other. -/
def destination (cs : List Char) : List (List Char) :=
  (writtenSegments cs).foldl descend []

theorem destination_eq {cs : List Char} {front : List (List Char)} {last : List Char}
    (h : writtenSegments cs = front ++ [last]) :
    destination cs = descend (front.foldl descend []) last := by
  rw [destination, h, List.foldl_append, List.foldl_cons, List.foldl_nil]

theorem parsePath_append {c : Char} (h : isSlash c = true) (rest : List Char) :
    parsePath (c :: rest ++ "/v1/".toList) = destination (c :: rest) ++ [['v', '1'], []] := by
  have hversion : (splitAt '/' ("v1/".toList.map unify)).map (percentEncode inPath) =
      [['v', '1'], []] := by decide
  have hsegments : writtenSegments (c :: rest ++ "/v1/".toList) =
      (writtenSegments (c :: rest) ++ [['v', '1']]) ++ [[]] := by
    rw [List.append_assoc, List.singleton_append, ← hversion]
    exact writtenSegments_append h rest "v1/".toList
  have hplain : isDoubleDot ['v', '1'] = false ∧ isSingleDot ['v', '1'] = false := by decide
  have hempty : isDoubleDot [] = false ∧ isSingleDot [] = false := by decide
  rw [parsePath_eq, hsegments, addSegments_append_singleton, List.foldl_append, List.foldl_cons,
    List.foldl_nil, descend, hplain.1, hplain.2, addSegments_singleton, hempty.1, hempty.2]
  simp [destination]

/-- A path goes on below what it was if it did not end with a slash, and only then. -/
theorem parsePath_append_iff {cs : List Char} (hcs : ∀ c ∈ cs.head?, isSlash c = true) :
    parsePath (cs ++ "/v1/".toList) = stem (parsePath cs) ++ [['v', '1'], []] ↔
      ∀ c ∈ cs.getLast?, isSlash c = false := by
  cases cs with
  | nil => exact iff_of_true (by decide) fun _ h => nomatch h
  | cons c rest =>
      have hc : isSlash c = true := hcs c rfl
      obtain ⟨front, last, hwritten, hpath⟩ := exists_last_parsePath (c :: rest)
      have hend : last = [] ↔ rest = [] ∨ ∃ d ∈ rest.getLast?, isSlash d = true := by
        have hlast := @getLast?_writtenSegments_eq_nil_iff (c :: rest)
        rw [hwritten, pathBody_cons hc] at hlast
        simpa [unify_eq_slash_iff] using hlast
      rw [parsePath_append hc, destination_eq hwritten, hpath, List.append_left_inj, eq_comm,
        stem_addSegments_iff, ne_eq, hend]
      cases rest with
      | nil => simp [hc]
      | cons next others => simp

/-- The segments of the path of an address, as they are read behind it. -/
def segments (url : Url) : List (List UInt8) :=
  ((splitAt '/' (pathText url.path)).drop 1).map percentDecode

theorem segments_eq {url : Url} (h : SlashFree url.path) :
    url.segments = url.path.map percentDecode := by
  rw [segments, splitAt_pathText h, List.drop_succ_cons, List.drop_zero]

end DataQuality.Url
