import DataQuality.Json.Reader
import DataQuality.Json.Writer
import DataQuality.Proofs.Text
import Mathlib.Tactic.SplitIfs

/-!
# Reading JSON text back

The text of a value is read back as the datum of the value, members in the order in which they
were written, whatever follows the text. This holds of values whose whole numbers fit in words and
that are not nested too deeply; doubles are left out. The text never contains a line feed.
-/

namespace DataQuality.Json

/-! ## Strings -/

theorem hexNumber?_hexDigits : ∀ n, n < 32 →
    Text.hexNumber? 0 ['0', '0', hexDigit (n / 16), hexDigit (n % 16)] = some n := by
  decide

theorem readCodes_letter {letter plain : Char} (hletter : letter ≠ 'u')
    (h : escaped? letter = some plain) (cs : List Char) :
    readCodes ('\\' :: letter :: cs) =
      (readCodes cs).map fun codes => (plain.toNat :: codes.1, codes.2) := by
  rw [readCodes]
  · rw [h]
    cases readCodes cs with
    | none => rfl
    | some codes => rfl
  · intro a b c d rest heq
    exact absurd heq hletter

theorem readCodes_hexDigits {code : Nat} {a b c d : Char}
    (h : Text.hexNumber? 0 [a, b, c, d] = some code) (cs : List Char) :
    readCodes ('\\' :: 'u' :: a :: b :: c :: d :: cs) =
      (readCodes cs).map fun codes => (code :: codes.1, codes.2) := by
  rw [readCodes, h]
  cases readCodes cs with
  | none => rfl
  | some codes => rfl

theorem readCodes_plain {c : Char} (hquote : c ≠ '\x22') (hslash : c ≠ '\\')
    (hcontrol : ¬c.toNat < 32) (cs : List Char) :
    readCodes (c :: cs) = (readCodes cs).map fun codes => (c.toNat :: codes.1, codes.2) := by
  rw [readCodes]
  · rw [if_neg hquote, if_neg (not_or.mpr ⟨hslash, hcontrol⟩)]
    cases readCodes cs with
    | none => rfl
    | some codes => rfl
  · intro a b d e rest hc
    exact absurd hc hslash
  · intro d rest hc
    exact absurd hc hslash

/-- A character is written as an escape of one letter, by its code number, or as itself. -/
theorem escapeChar_cases (c : Char) :
    (∃ letter, letter ≠ 'u' ∧ letter ≠ '\n' ∧ escaped? letter = some c ∧
      escapeChar c = ['\\', letter]) ∨
    (c.toNat < 32 ∧ escapeChar c =
      ['\\', 'u', '0', '0', hexDigit (c.toNat / 16), hexDigit (c.toNat % 16)]) ∨
    (c ≠ '\x22' ∧ c ≠ '\\' ∧ ¬c.toNat < 32 ∧ escapeChar c = [c]) := by
  have hcode : Char.ofNat c.toNat = c := Char.ofNat_toNat c
  unfold escapeChar
  split_ifs with hquote hslash hfeed hreturn htab hback hform hcontrol
  · exact .inl ⟨'\x22', by decide, by decide, by rw [hquote]; rfl, rfl⟩
  · exact .inl ⟨'\\', by decide, by decide, by rw [hslash]; rfl, rfl⟩
  · exact .inl ⟨'n', by decide, by decide, by rw [hfeed]; rfl, rfl⟩
  · exact .inl ⟨'r', by decide, by decide, by rw [hreturn]; rfl, rfl⟩
  · exact .inl ⟨'t', by decide, by decide, by rw [htab]; rfl, rfl⟩
  · exact .inl ⟨'b', by decide, by decide, by rw [← hcode, hback]; rfl, rfl⟩
  · exact .inl ⟨'f', by decide, by decide, by rw [← hcode, hform]; rfl, rfl⟩
  · exact .inr (.inl ⟨hcontrol, rfl⟩)
  · exact .inr (.inr ⟨hquote, hslash, hcontrol, rfl⟩)

/-- However a character is written, it is read as its code number. -/
theorem readCodes_escapeChar (c : Char) (cs : List Char) :
    readCodes (escapeChar c ++ cs) =
      (readCodes cs).map fun codes => (c.toNat :: codes.1, codes.2) := by
  rcases escapeChar_cases c with ⟨letter, hletter, -, hescaped, h⟩ | ⟨hcontrol, h⟩ |
    ⟨hquote, hslash, hcontrol, h⟩
  · rw [h]
    exact readCodes_letter hletter hescaped cs
  · rw [h]
    exact readCodes_hexDigits (hexNumber?_hexDigits c.toNat hcontrol) cs
  · rw [h]
    exact readCodes_plain hquote hslash hcontrol cs

theorem readCodes_flatMap (cs rest : List Char) :
    readCodes (cs.flatMap escapeChar ++ '\x22' :: rest) = some (cs.map Char.toNat, rest) := by
  induction cs with
  | nil => rfl
  | cons c cs ih =>
      rw [List.flatMap_cons, List.append_assoc, readCodes_escapeChar, ih]
      rfl

/-- The code numbers of characters are no halves of surrogate pairs. -/
theorem joinSurrogates_toNat (cs : List Char) : joinSurrogates (cs.map Char.toNat) = some cs := by
  induction cs with
  | nil => rfl
  | cons c rest ih =>
      have hcode : Char.ofNat c.toNat = c := Char.ofNat_toNat c
      have hvalid : c.toNat < 0xD800 ∨ 0xDFFF < c.toNat := by
        rcases c.valid with h | h
        · exact .inl h
        · exact .inr h.1
      cases rest with
      | nil =>
          simp only [List.map_cons, List.map_nil, joinSurrogates]
          rw [if_neg (by omega), hcode]
      | cons next rest =>
          simp only [List.map_cons, joinSurrogates] at ih ⊢
          rw [if_neg (by omega), if_neg (by omega), ih, hcode]
          rfl

/-- A written string is read back, and what follows it is left. -/
theorem readString_write (s : String) (rest : List Char) :
    readString (s.toList.flatMap escapeChar ++ '\x22' :: rest) = (.text s, some rest) := by
  rw [readString, readCodes_flatMap]
  simp only [joinSurrogates_toNat, String.ofList_toList]

/-! ## Whole numbers -/

/-- What may follow a value: nothing, or what ends it inside an array or a record. -/
def Delimited (rest : List Char) : Prop :=
  ∀ c ∈ rest.head?, c = ',' ∨ c = ']' ∨ c = '\x7d'

/-- Whole numbers that fit in a word, with a sign or without. -/
def FitsWord (n : Int) : Prop :=
  Int64.minValue.toInt ≤ n ∧ n < UInt64.size

theorem Delimited.nil : Delimited [] := by
  intro c h
  cases h

theorem Delimited.cons {c : Char} (h : c = ',' ∨ c = ']' ∨ c = '\x7d') (rest : List Char) :
    Delimited (c :: rest) := by
  intro d hd
  cases hd
  exact h

theorem digitsValue_decimalDigits (n : Nat) :
    Decimal.digitsValue 0 (Decimal.decimalDigits n) = n := by
  have heq : Decimal.digitsValue 0 (Decimal.decimalDigits n) =
      Nat.ofDigitChars 10 (Nat.toDigits 10 n) 0 := Nat.ofDigitChars_eq_foldl.symm
  rw [heq, Nat.ofDigitChars_ten_toDigits]

theorem isDigit_of_mem_decimalDigits {n : Nat} {c : Char} (h : c ∈ Decimal.decimalDigits n) :
    c.isDigit = true :=
  Nat.isDigit_of_mem_toDigits (by decide) (by decide) h

/-- Only zero is written with a zero in front. -/
theorem eq_zero_of_head?_decimalDigits {n : Nat}
    (h : (Decimal.decimalDigits n).head? = some '0') : n = 0 := by
  -- on the number without its last digit, which has the same first digit
  induction n using Nat.strongRecOn with
  | ind n ih =>
      by_cases hsmall : n < 10
      · rw [Decimal.decimalDigits, Nat.toDigits_of_lt_base hsmall] at h
        have hzero : ∀ digit < 10, Nat.digitChar digit = '0' → digit = 0 := by decide
        exact hzero n hsmall (Option.some.inj h)
      · have hlarge : 10 ≤ n := Nat.le_of_not_lt hsmall
        rw [Decimal.decimalDigits, Nat.toDigits_of_base_le (by decide) hlarge,
          List.head?_append] at h
        cases hfirst : (Nat.toDigits 10 (n / 10)).head? with
        | none => exact absurd (List.head?_eq_none_iff.mp hfirst) Nat.toDigits_ne_nil
        | some digit =>
            rw [hfirst, Option.some_or] at h
            have hzero := ih (n / 10) (by omega) (hfirst.trans h)
            omega

/-- The digits of a number are read up to where they end. -/
theorem takeWhile_decimalDigits (n : Nat) {rest : List Char} (h : Delimited rest) :
    (Decimal.decimalDigits n ++ rest).takeWhile Char.isDigit = Decimal.decimalDigits n ∧
      (Decimal.decimalDigits n ++ rest).dropWhile Char.isDigit = rest := by
  refine Text.span_append (fun c hc => isDigit_of_mem_decimalDigits hc) fun c hc => ?_
  rcases h c hc with rfl | rfl | rfl <;> decide

/-- A number without fraction and exponent is whole. -/
theorem readNumber_decimalDigits (negative : Bool) (n : Nat) {rest : List Char}
    (h : Delimited rest) :
    readNumber negative (Decimal.decimalDigits n ++ rest) =
      (numberDatum (wholeNumber negative (Decimal.decimalDigits n)), some rest) := by
  obtain ⟨htake, hdrop⟩ := takeWhile_decimalDigits n h
  unfold readNumber
  simp only [htake, hdrop]
  refine (if_neg ?_).trans ?_
  · -- the digits are there, and a zero in front of others is not among them
    cases hdigits : Decimal.decimalDigits n with
    | nil => exact absurd hdigits Nat.toDigits_ne_nil
    | cons digit others =>
        by_cases hzero : digit = '0'
        · have hn : n = 0 := eq_zero_of_head?_decimalDigits (by rw [hdigits, hzero]; rfl)
          subst hn
          cases hdigits
          decide
        · simp [hzero]
  · cases rest with
    | nil => rfl
    | cons c after => rcases h c rfl with rfl | rfl | rfl <;> rfl

/-- A whole number that fits in a word is kept as it is. -/
theorem wholeNumber_decimalDigits {n : Int} (h : FitsWord n) :
    wholeNumber (decide (n < 0)) (Decimal.decimalDigits n.natAbs) = some (.int n) := by
  obtain ⟨hleast, hgreatest⟩ := h
  unfold wholeNumber
  rw [digitsValue_decimalDigits]
  by_cases hnegative : n < 0
  · rw [if_neg (by simp [hnegative]), if_pos ⟨by simp [hnegative], by omega, by omega⟩]
    exact congrArg (fun k => some (Json.int k)) (by omega)
  · rw [if_pos ⟨by simp [hnegative], by omega⟩]
    exact congrArg (fun k => some (Json.int k)) (by omega)

/-- A whole number starts with a sign or a digit. -/
theorem exists_integerText_cons (n : Int) :
    ∃ c cs, Decimal.integerText n = c :: cs ∧ (c = '-' ∨ c.isDigit = true) := by
  unfold Decimal.integerText
  split
  next => exact ⟨'-', _, rfl, .inl rfl⟩
  next =>
    cases hdigits : Decimal.decimalDigits n.natAbs with
    | nil => exact absurd hdigits Nat.toDigits_ne_nil
    | cons digit others =>
        have hdigit : digit ∈ Decimal.decimalDigits n.natAbs := hdigits ▸ List.mem_cons_self
        exact ⟨digit, others, rfl, .inr (isDigit_of_mem_decimalDigits hdigit)⟩

/-! ## Values -/

/-- A character that is no space is not skipped. -/
theorem skipSpace_cons {c : Char} (h : isSpace c = false) (cs : List Char) :
    skipSpace (c :: cs) = c :: cs :=
  List.dropWhile_cons_of_neg (Bool.eq_false_iff.mp h)

theorem ne_of_isDigit {c d : Char} (h : c.isDigit = true) (hd : d.isDigit = false) : c ≠ d := by
  rintro rfl
  rw [hd] at h
  cases h

theorem isSpace_of_isDigit {c : Char} (h : c.isDigit = true) : isSpace c = false := by
  simp only [isSpace, Bool.or_eq_false_iff, beq_eq_false_iff_ne]
  exact ⟨⟨⟨ne_of_isDigit h (by decide), ne_of_isDigit h (by decide)⟩, ne_of_isDigit h (by decide)⟩,
    ne_of_isDigit h (by decide)⟩

theorem readValue_integerText {n : Int} (h : FitsWord n) {rest : List Char}
    (hrest : Delimited rest) (fuel depth : Nat) :
    readValue (fuel + 1) depth (Decimal.integerText n ++ rest) =
      (.scalar (.ofInt n), some rest) := by
  have hwhole := wholeNumber_decimalDigits h
  by_cases hnegative : n < 0
  · rw [decide_eq_true hnegative] at hwhole
    rw [Decimal.integerText, if_pos hnegative, List.cons_append, readValue,
      skipSpace_cons (by decide)]
    simp only [Char.reduceEq, if_false, if_true]
    rw [readNumber_decimalDigits true n.natAbs hrest, hwhole]
    rfl
  · rw [decide_eq_false hnegative] at hwhole
    have hnumber : readNumber false (Decimal.decimalDigits n.natAbs ++ rest) =
        (.scalar (.ofInt n), some rest) := by
      rw [readNumber_decimalDigits false n.natAbs hrest, hwhole]
      rfl
    rw [Decimal.integerText, if_neg hnegative]
    cases hdigits : Decimal.decimalDigits n.natAbs with
    | nil => exact absurd hdigits Nat.toDigits_ne_nil
    | cons digit others =>
        have hdigit : digit.isDigit = true :=
          isDigit_of_mem_decimalDigits (hdigits ▸ List.mem_cons_self)
        have hquote : digit ≠ '\x22' := ne_of_isDigit hdigit (by decide)
        have hsign : digit ≠ '-' := ne_of_isDigit hdigit (by decide)
        rw [hdigits, List.cons_append] at hnumber
        rw [List.cons_append, readValue, skipSpace_cons (isSpace_of_isDigit hdigit)]
        simp only [hquote, hsign, hdigit, if_false, if_true]
        exact hnumber

/-- Values that are read back from their text: no doubles, whole numbers that fit in words, and
at most so many levels of arrays and records. -/
inductive Readable : Nat → Json → Prop where
  | null {depth : Nat} : Readable depth .null
  | bool {depth : Nat} (value : Bool) : Readable depth (.bool value)
  | int {depth : Nat} {n : Int} (fits : FitsWord n) : Readable depth (.int n)
  | string {depth : Nat} (s : String) : Readable depth (.string s)
  | array {depth : Nat} {items : List Json} (each : ∀ item ∈ items, Readable depth item) :
      Readable (depth + 1) (.array items)
  | object {depth : Nat} {members : List (String × Json)}
      (each : ∀ member ∈ members, Readable depth member.2) :
      Readable (depth + 1) (.object members)

/-- The text of a value is read as the datum of the value, if no other value follows. -/
def ReadsBack (depth : Nat) (value : Json) : Prop :=
  ∀ fuel rest, value.write.length ≤ fuel → Delimited rest →
    readValue fuel depth (value.write ++ rest) = (Datum.ofSorted value, some rest)

/-- A value starts with neither a space nor a closing bracket. -/
theorem Readable.exists_write_cons {depth : Nat} {value : Json} (h : Readable depth value) :
    ∃ c cs, value.write = c :: cs ∧ isSpace c = false ∧ c ≠ ']' := by
  cases h with
  | null => exact ⟨'n', _, rfl, by decide, by decide⟩
  | bool value =>
      cases value with
      | true => exact ⟨'t', _, rfl, by decide, by decide⟩
      | false => exact ⟨'f', _, rfl, by decide, by decide⟩
  | int fits =>
      obtain ⟨c, cs, htext, hc⟩ := exists_integerText_cons _
      refine ⟨c, cs, htext, ?_⟩
      rcases hc with rfl | hdigit
      · exact ⟨by decide, by decide⟩
      · exact ⟨isSpace_of_isDigit hdigit, ne_of_isDigit hdigit (by decide)⟩
  | string s => exact ⟨'\x22', _, rfl, by decide, by decide⟩
  | array each => exact ⟨'[', _, rfl, by decide, by decide⟩
  | object each => exact ⟨'\x7b', _, rfl, by decide, by decide⟩

/-- The texts of items that follow others. -/
def writeFurther (items : List Json) : List Char :=
  items.flatMap fun item => ',' :: item.write

/-- The texts of members that follow others. -/
def writeFurtherMembers (members : List (String × Json)) : List Char :=
  members.flatMap fun member => ',' :: (writeString member.1 ++ ':' :: member.2.write)

theorem writeItems_cons (item : Json) (items : List Json) :
    writeItems (item :: items) = item.write ++ writeFurther items := by
  induction items generalizing item with
  | nil => exact (List.append_nil _).symm
  | cons next rest ih =>
      rw [writeItems, ih next]
      · rfl
      · exact List.cons_ne_nil next rest

theorem writeMembers_cons (member : String × Json) (members : List (String × Json)) :
    writeMembers (member :: members) =
      writeString member.1 ++ ':' :: (member.2.write ++ writeFurtherMembers members) := by
  induction members generalizing member with
  | nil => simp [writeMembers, writeFurtherMembers]
  | cons next rest ih =>
      rw [writeMembers, ih next]
      · simp [writeFurtherMembers]
      · exact List.cons_ne_nil next rest

theorem delimited_writeFurther (items : List Json) (rest : List Char) :
    Delimited (writeFurther items ++ ']' :: rest) := by
  cases items with
  | nil => exact .cons (.inr (.inl rfl)) rest
  | cons item others => exact .cons (.inl rfl) _

theorem delimited_writeFurtherMembers (members : List (String × Json)) (rest : List Char) :
    Delimited (writeFurtherMembers members ++ '\x7d' :: rest) := by
  cases members with
  | nil => exact .cons (.inr (.inr rfl)) rest
  | cons member others => exact .cons (.inl rfl) _

/-- Items that follow others are read one after the other. -/
theorem readItems_further {depth : Nat} {items : List Json}
    (hitems : ∀ item ∈ items, ReadsBack depth item) (rest : List Char) {fuel : Nat}
    (hfuel : (writeFurther items).length < fuel) :
    readItems fuel depth false (writeFurther items ++ ']' :: rest) =
      (Datum.ofSortedItems items, some rest) := by
  induction items generalizing fuel with
  | nil =>
      cases fuel with
      | zero => cases hfuel
      | succ fuel => rfl
  | cons item others ih =>
      cases fuel with
      | zero => cases hfuel
      | succ fuel =>
          have hlength : (writeFurther (item :: others)).length =
              item.write.length + (writeFurther others).length + 1 := by
            simp [writeFurther]
          have htext : writeFurther (item :: others) ++ ']' :: rest =
              ',' :: (item.write ++ (writeFurther others ++ ']' :: rest)) := by
            simp [writeFurther]
          have hitem := hitems item List.mem_cons_self fuel _ (by omega)
            (delimited_writeFurther others rest)
          have hothers := ih (fun other hother => hitems other (List.mem_cons_of_mem _ hother))
            (show (writeFurther others).length < fuel by omega)
          rw [htext, readItems, skipSpace_cons (by decide)]
          simp only [Char.reduceEq, if_false, or_true, if_true, Bool.false_eq_true, hitem, hothers]
          rfl

theorem readItems_write {depth : Nat} {items : List Json}
    (hreadable : ∀ item ∈ items, Readable depth item)
    (hitems : ∀ item ∈ items, ReadsBack depth item) (rest : List Char) {fuel : Nat}
    (hfuel : (writeItems items).length < fuel) :
    readItems fuel depth true (writeItems items ++ ']' :: rest) =
      (Datum.ofSortedItems items, some rest) := by
  cases fuel with
  | zero => cases hfuel
  | succ fuel =>
      cases items with
      | nil => rfl
      | cons item others =>
          obtain ⟨c, cs, hwrite, hspace, hbracket⟩ :=
            (hreadable item List.mem_cons_self).exists_write_cons
          rw [writeItems_cons, List.length_append] at hfuel
          have hpositive : 0 < item.write.length := by
            rw [hwrite]
            exact Nat.succ_pos _
          have hitem := hitems item List.mem_cons_self fuel _ (by omega)
            (delimited_writeFurther others rest)
          have hothers := readItems_further
            (fun other hother => hitems other (List.mem_cons_of_mem _ hother)) rest
            (show (writeFurther others).length < fuel by omega)
          rw [writeItems_cons, List.append_assoc, readItems]
          rw [hwrite, List.cons_append] at hitem ⊢
          rw [skipSpace_cons hspace]
          simp only [hbracket, if_false, true_or, if_true, hitem, hothers]
          rfl

/-- A member is read after the quote that opens its key. -/
theorem readMembers_member {depth : Nat} {member : String × Json}
    (hmember : ReadsBack depth member.2) {others : List (String × Json)} {rest : List Char}
    {fuel : Nat} (hfuel : member.2.write.length ≤ fuel)
    (hothers : readMembers fuel depth false (writeFurtherMembers others ++ '\x7d' :: rest) =
      (Datum.ofSortedMembers others, some rest)) (first : Bool) :
    readMembers (fuel + 1) depth first
        ((if first then [] else [',']) ++ writeMembers (member :: others) ++ '\x7d' :: rest) =
      (Datum.ofSortedMembers (member :: others), some rest) := by
  have hvalue := hmember fuel _ hfuel (delimited_writeFurtherMembers others rest)
  have htext : writeMembers (member :: others) ++ '\x7d' :: rest =
      '\x22' :: (member.1.toList.flatMap escapeChar ++ '\x22' :: (':' :: (member.2.write ++
        (writeFurtherMembers others ++ '\x7d' :: rest)))) := by
    simp [writeMembers_cons, writeString]
  rw [List.append_assoc, htext]
  cases first with
  | true =>
      rw [if_pos rfl, List.nil_append, readMembers, skipSpace_cons (by decide)]
      simp only [Char.reduceEq, if_false, true_or, if_true, readString_write,
        skipSpace_cons (show isSpace ':' = false by decide), hvalue, hothers]
      rfl
  | false =>
      rw [if_neg Bool.false_ne_true, List.singleton_append, readMembers,
        skipSpace_cons (by decide)]
      simp only [Char.reduceEq, if_false, or_true, if_true, Bool.false_eq_true,
        skipSpace_cons (show isSpace '\x22' = false by decide), readString_write,
        skipSpace_cons (show isSpace ':' = false by decide), hvalue, hothers]
      rfl

theorem writeFurtherMembers_cons (member : String × Json) (members : List (String × Json)) :
    writeFurtherMembers (member :: members) = ',' :: writeMembers (member :: members) := by
  simp [writeMembers_cons, writeFurtherMembers]

/-- Members that follow others are read one after the other. -/
theorem readMembers_further {depth : Nat} {members : List (String × Json)}
    (hmembers : ∀ member ∈ members, ReadsBack depth member.2) (rest : List Char) {fuel : Nat}
    (hfuel : (writeFurtherMembers members).length < fuel) :
    readMembers fuel depth false (writeFurtherMembers members ++ '\x7d' :: rest) =
      (Datum.ofSortedMembers members, some rest) := by
  induction members generalizing fuel with
  | nil =>
      cases fuel with
      | zero => cases hfuel
      | succ fuel => rfl
  | cons member others ih =>
      cases fuel with
      | zero => cases hfuel
      | succ fuel =>
          rw [writeFurtherMembers_cons] at hfuel ⊢
          rw [writeMembers_cons] at hfuel
          simp only [List.length_cons, List.length_append] at hfuel
          have hothers := ih
            (fun other hother => hmembers other (List.mem_cons_of_mem _ hother))
            (show (writeFurtherMembers others).length < fuel by omega)
          exact readMembers_member (hmembers member List.mem_cons_self) (by omega) hothers false

theorem readMembers_write {depth : Nat} {members : List (String × Json)}
    (hmembers : ∀ member ∈ members, ReadsBack depth member.2) (rest : List Char) {fuel : Nat}
    (hfuel : (writeMembers members).length < fuel) :
    readMembers fuel depth true (writeMembers members ++ '\x7d' :: rest) =
      (Datum.ofSortedMembers members, some rest) := by
  cases fuel with
  | zero => cases hfuel
  | succ fuel =>
      cases members with
      | nil => rfl
      | cons member others =>
          rw [writeMembers_cons] at hfuel
          simp only [List.length_cons, List.length_append] at hfuel
          have hothers := readMembers_further
            (fun other hother => hmembers other (List.mem_cons_of_mem _ hother)) rest
            (show (writeFurtherMembers others).length < fuel by omega)
          exact readMembers_member (hmembers member List.mem_cons_self) (by omega) hothers true

/-- The text of a readable value is read back, whatever follows it. -/
theorem Readable.readsBack {depth : Nat} {value : Json} (h : Readable depth value) :
    ReadsBack depth value := by
  induction h with
  | null =>
      intro fuel rest hfuel _
      cases fuel with
      | zero => cases hfuel
      | succ fuel => rfl
  | bool value =>
      intro fuel rest hfuel _
      cases fuel with
      | zero => cases value <;> cases hfuel
      | succ fuel => cases value <;> rfl
  | int fits =>
      intro fuel rest hfuel hrest
      cases fuel with
      | zero =>
          obtain ⟨c, cs, htext, -⟩ := exists_integerText_cons _
          rw [write, htext] at hfuel
          cases hfuel
      | succ fuel => exact readValue_integerText fits hrest fuel _
  | string s =>
      intro fuel rest hfuel _
      cases fuel with
      | zero => cases hfuel
      | succ fuel =>
          rw [write, writeString, List.cons_append, List.append_assoc, readValue,
            skipSpace_cons (by decide)]
          exact readString_write s rest
  | @array depth items each ih =>
      intro fuel rest hfuel _
      cases fuel with
      | zero => cases hfuel
      | succ fuel =>
          simp only [write, List.length_cons, List.length_append, List.length_nil] at hfuel
          have hitems := readItems_write each ih rest
            (show (writeItems items).length < fuel by omega)
          rw [write, List.cons_append, List.append_assoc, readValue, skipSpace_cons (by decide)]
          simp only [Char.reduceEq, if_false, if_true, Nat.add_sub_cancel, List.singleton_append,
            show Char.isDigit '[' = false by decide, Bool.false_eq_true, hitems]
          rfl
  | @object depth members each ih =>
      intro fuel rest hfuel _
      cases fuel with
      | zero => cases hfuel
      | succ fuel =>
          simp only [write, List.length_cons, List.length_append, List.length_nil] at hfuel
          have hmembers := readMembers_write ih rest
            (show (writeMembers members).length < fuel by omega)
          rw [write, List.cons_append, List.append_assoc, readValue, skipSpace_cons (by decide)]
          simp only [Char.reduceEq, if_false, if_true, Nat.add_sub_cancel, List.singleton_append,
            show Char.isDigit '\x7b' = false by decide, Bool.false_eq_true, hmembers]
          rfl

/-- The text of a readable value is the document of the value, in the order of its members. -/
theorem readDocument_render {value : Json} (h : Readable depthLimit value) :
    readDocument value.render = ⟨Datum.ofSorted value, true⟩ := by
  have hread := h.readsBack (2 * value.write.length + 2) [] (by omega) .nil
  rw [List.append_nil] at hread
  rw [readDocument, render, String.toList_ofList]
  simp only [hread]
  rfl

/-! ## Line feeds -/

theorem ne_lineFeed_of_hexDigit : ∀ n, n < 16 → hexDigit n ≠ '\n' := by
  decide

theorem lineFeed_notMem_writeString (s : String) : '\n' ∉ writeString s := by
  have hchar : ∀ c, '\n' ∉ escapeChar c := by
    intro c hmem
    rcases escapeChar_cases c with ⟨letter, -, hletter, -, h⟩ | ⟨hcontrol, h⟩ |
      ⟨-, -, hcontrol, h⟩
    · rw [h] at hmem
      simp [hletter.symm] at hmem
    · rw [h] at hmem
      simp [(ne_lineFeed_of_hexDigit (c.toNat / 16) (by omega)).symm,
        (ne_lineFeed_of_hexDigit (c.toNat % 16) (by omega)).symm] at hmem
    · rw [h] at hmem
      rw [← List.mem_singleton.mp hmem] at hcontrol
      exact hcontrol (by decide)
  simp [writeString, hchar]

theorem lineFeed_notMem_integerText (n : Int) : '\n' ∉ Decimal.integerText n := by
  have hdigits : '\n' ∉ Decimal.decimalDigits n.natAbs := by
    intro hmem
    have hdigit := isDigit_of_mem_decimalDigits hmem
    revert hdigit
    decide
  unfold Decimal.integerText
  split
  next => simp [hdigits]
  next => exact hdigits

/-- The text of a readable value is one line. -/
theorem Readable.lineFeed_notMem {depth : Nat} {value : Json} (h : Readable depth value) :
    '\n' ∉ value.write := by
  induction h with
  | null => decide
  | bool value => cases value <;> decide
  | int fits => exact lineFeed_notMem_integerText _
  | string s => exact lineFeed_notMem_writeString s
  | @array depth items each ih =>
      have hitems : '\n' ∉ writeItems items := by
        cases items with
        | nil => exact List.not_mem_nil
        | cons item others =>
            rw [writeItems_cons]
            simp only [List.mem_append, writeFurther, List.mem_flatMap, List.mem_cons]
            rintro (hmem | ⟨other, hother, heq | hmem⟩)
            · exact ih item List.mem_cons_self hmem
            · cases heq
            · exact ih other (List.mem_cons_of_mem _ hother) hmem
      simp [write, hitems]
  | @object depth members each ih =>
      have hmembers : '\n' ∉ writeMembers members := by
        cases members with
        | nil => exact List.not_mem_nil
        | cons member others =>
            rw [writeMembers_cons]
            simp only [List.mem_append, List.mem_cons, writeFurtherMembers, List.mem_flatMap]
            rintro (hmem | heq | hmem | ⟨other, hother, heq | hmem | heq | hmem⟩)
            · exact lineFeed_notMem_writeString _ hmem
            · cases heq
            · exact ih member List.mem_cons_self hmem
            · cases heq
            · exact lineFeed_notMem_writeString _ hmem
            · cases heq
            · exact ih other (List.mem_cons_of_mem _ hother) hmem
      simp [write, hmembers]

end DataQuality.Json
