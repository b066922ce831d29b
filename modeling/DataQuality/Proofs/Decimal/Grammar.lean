import DataQuality.Decimal.Reader
import DataQuality.Proofs.Text

/-!
# The grammar of numbers

Exactly the texts of one form are read as doubles: a sign, which may be left out, and then digits
with or without a point and an exponent, or one of the words for infinity and not-a-number in any
case. Neither a point nor an exponent stands for a number alone.
-/

namespace DataQuality.Decimal

/-- A sign, which may be left out. -/
inductive IsSign : List Char → Prop where
  | absent : IsSign []
  | plus : IsSign ['+']
  | minus : IsSign ['-']

/-- Digits, any number of them. -/
def IsDigits (cs : List Char) : Prop := ∀ c ∈ cs, c.isDigit = true

/-- An exponent, which may be left out. -/
inductive IsExponent : List Char → Prop where
  | absent : IsExponent []
  | present {mark : Char} {sign digits : List Char} :
      mark = 'e' ∨ mark = 'E' → IsSign sign → digits ≠ [] → IsDigits digits →
      IsExponent (mark :: (sign ++ digits))

/-- A number without its sign, written in digits. -/
inductive IsMagnitude : List Char → Prop where
  | whole {digits exponent : List Char} :
      digits ≠ [] → IsDigits digits → IsExponent exponent → IsMagnitude (digits ++ exponent)
  | pointed {whole fraction exponent : List Char} :
      ¬(whole = [] ∧ fraction = []) → IsDigits whole → IsDigits fraction → IsExponent exponent →
      IsMagnitude (whole ++ '.' :: (fraction ++ exponent))

/-- A word for a double, in any case. -/
def IsWord (cs : List Char) : Prop :=
  String.ofList (cs.map Char.toLower) ∈ ["inf", "infinity", "nan"]

/-- The text of a number. -/
def IsNumber (s : String) : Prop :=
  ∃ sign rest, IsSign sign ∧ (IsMagnitude rest ∨ IsWord rest) ∧ s.toList = sign ++ rest

/-! ## Signs -/

/-- What a sign is read from starts with it. -/
theorem exists_isSign_append (cs : List Char) :
    ∃ sign, IsSign sign ∧ cs = sign ++ (readSign cs).2 := by
  unfold readSign
  split
  next rest => exact ⟨['-'], .minus, rfl⟩
  next rest => exact ⟨['+'], .plus, rfl⟩
  next => exact ⟨[], .absent, rfl⟩

/-- A sign is read off what starts with none. -/
theorem readSign_append {sign rest : List Char} (hsign : IsSign sign)
    (hrest : ∀ c ∈ rest.head?, c ≠ '+' ∧ c ≠ '-') : (readSign (sign ++ rest)).2 = rest := by
  cases hsign with
  | plus => rfl
  | minus => rfl
  | absent =>
      rw [List.nil_append]
      unfold readSign
      split
      next => exact absurd rfl (hrest '-' rfl).2
      next => exact absurd rfl (hrest '+' rfl).1
      next => rfl

theorem ne_sign_of_isDigit {c : Char} (h : c.isDigit = true) : c ≠ '+' ∧ c ≠ '-' := by
  constructor <;> rintro rfl <;> exact absurd h (by decide)

/-! ## Digits and exponents -/

theorem isDigits_takeWhile (cs : List Char) : IsDigits (cs.takeWhile Char.isDigit) :=
  fun _ hc => List.mem_takeWhile_imp hc

theorem isSome_digitsOnly?_iff {cs : List Char} :
    (digitsOnly? cs).isSome ↔ cs ≠ [] ∧ IsDigits cs := by
  unfold digitsOnly?
  split
  next h => simpa [IsDigits] using h
  next h => simpa [IsDigits] using h

theorem isSome_readExponent?_cons {mark : Char} {rest : List Char} :
    (readExponent? (mark :: rest)).isSome ↔
      (mark = 'e' ∨ mark = 'E') ∧ (readSign rest).2 ≠ [] ∧ IsDigits (readSign rest).2 := by
  rw [← isSome_digitsOnly?_iff]
  simp only [readExponent?]
  split
  next hmark =>
    cases digitsOnly? (readSign rest).2 <;> simp [hmark]
  next hmark => simp [hmark]

theorem isSome_readExponent?_iff {cs : List Char} :
    (readExponent? cs).isSome ↔ IsExponent cs := by
  cases cs with
  | nil => exact iff_of_true rfl .absent
  | cons mark rest =>
      rw [isSome_readExponent?_cons]
      constructor
      · rintro ⟨hmark, hne, hdigits⟩
        obtain ⟨sign, hsign, hrest⟩ := exists_isSign_append rest
        rw [hrest]
        exact .present hmark hsign hne hdigits
      · rintro (_ | ⟨hmark, hsign, hne, hdigits⟩)
        have hread := readSign_append hsign fun c hc =>
          ne_sign_of_isDigit (hdigits c (List.mem_of_mem_head? hc))
        rw [hread]
        exact ⟨hmark, hne, hdigits⟩

/-- An exponent starts with its mark. -/
theorem IsExponent.eq_mark {cs : List Char} (h : IsExponent cs) :
    ∀ c ∈ cs.head?, c = 'e' ∨ c = 'E' := by
  cases h with
  | absent => exact nofun
  | present hmark => rintro c ⟨⟩; exact hmark

theorem IsExponent.isDigit_head {cs : List Char} (h : IsExponent cs) :
    ∀ c ∈ cs.head?, c.isDigit = false := by
  intro c hc
  rcases h.eq_mark c hc with rfl | rfl <;> decide

/-! ## Numbers -/

/-- A number is given unless something speaks against it, if its exponent is. -/
theorem isSome_unless {α β : Type} {refused : Prop} [Decidable refused] {found : Option α}
    {f : α → β} :
    (if refused then none else found >>= fun a => some (f a)).isSome ↔
      ¬refused ∧ found.isSome := by
  by_cases hrefused : refused <;> cases found <;> simp [hrefused]

/-- Digits without a point behind them. -/
theorem isSome_readMagnitude?_whole {digits rest : List Char} (hdigits : IsDigits digits)
    (hrest : ∀ c ∈ rest.head?, c.isDigit = false ∧ c ≠ '.') :
    (readMagnitude? (digits ++ rest)).isSome ↔ digits ≠ [] ∧ IsExponent rest := by
  obtain ⟨htake, hdrop⟩ := Text.span_append hdigits fun c hc => (hrest c hc).1
  rw [← isSome_readExponent?_iff]
  simp only [readMagnitude?, htake, hdrop]
  split
  next => exact absurd rfl (hrest '.' rfl).2
  next => exact isSome_unless.trans (by simp)

/-- Digits with a point behind them. -/
theorem isSome_readMagnitude?_pointed {whole after : List Char} (hwhole : IsDigits whole) :
    (readMagnitude? (whole ++ '.' :: after)).isSome ↔
      ¬(whole = [] ∧ after.takeWhile Char.isDigit = []) ∧
        IsExponent (after.dropWhile Char.isDigit) := by
  have hpoint : ∀ c ∈ ('.' :: after).head?, c.isDigit = false := by
    rintro c ⟨⟩
    decide
  obtain ⟨htake, hdrop⟩ := Text.span_append hwhole hpoint
  rw [← isSome_readExponent?_iff]
  simp only [readMagnitude?, htake, hdrop]
  exact isSome_unless

theorem isSome_readMagnitude?_iff {cs : List Char} :
    (readMagnitude? cs).isSome ↔ IsMagnitude cs := by
  constructor
  · obtain ⟨digits, rest, rfl, hdigits, hrest⟩ := Text.exists_span Char.isDigit cs
    -- behind the digits that come first there is a point or there is none
    by_cases hpoint : ∃ after, rest = '.' :: after
    · obtain ⟨after, rfl⟩ := hpoint
      rw [isSome_readMagnitude?_pointed hdigits]
      rintro ⟨hne, hexponent⟩
      rw [← List.takeWhile_append_dropWhile (p := Char.isDigit) (l := after)]
      exact .pointed hne hdigits (isDigits_takeWhile after) hexponent
    · have hnone : ∀ c ∈ rest.head?, c.isDigit = false ∧ c ≠ '.' := by
        refine fun c hc => ⟨hrest c hc, ?_⟩
        rintro rfl
        exact hpoint (List.head?_eq_some_iff.mp hc)
      rw [isSome_readMagnitude?_whole hdigits hnone]
      rintro ⟨hne, hexponent⟩
      exact .whole hne hdigits hexponent
  · rintro (⟨hne, hdigits, hexponent⟩ | ⟨hne, hwhole, hfraction, hexponent⟩)
    · refine (isSome_readMagnitude?_whole hdigits fun c hc => ?_).mpr ⟨hne, hexponent⟩
      rcases hexponent.eq_mark c hc with rfl | rfl <;> decide
    · obtain ⟨htake, hdrop⟩ := Text.span_append hfraction hexponent.isDigit_head
      rw [isSome_readMagnitude?_pointed hwhole, htake, hdrop]
      exact ⟨hne, hexponent⟩

/-- A number starts with none of the signs once its own is taken off. -/
theorem IsMagnitude.ne_sign {cs : List Char} (h : IsMagnitude cs) :
    ∀ c ∈ cs.head?, c ≠ '+' ∧ c ≠ '-' := by
  intro c hc
  cases h with
  | @whole digits exponent hne hdigits hexponent =>
      obtain ⟨digit, others, rfl⟩ := List.exists_cons_of_ne_nil hne
      cases hc
      exact ne_sign_of_isDigit (hdigits _ List.mem_cons_self)
  | @pointed digits fraction exponent hne hdigits =>
      cases digits with
      | nil => cases hc; decide
      | cons digit others =>
          cases hc
          exact ne_sign_of_isDigit (hdigits _ List.mem_cons_self)

/-! ## Words -/

theorem isSome_wordValue?_iff (negative : Bool) {cs : List Char} :
    (wordValue? negative (String.ofList (cs.map Char.toLower))).isSome ↔ IsWord cs := by
  unfold wordValue? IsWord
  split
  next h => rcases h with h | h <;> simp [h]
  next h =>
    split
    next hnan => simp [hnan]
    next hnan => simp_all

theorem IsWord.ne_sign {cs : List Char} (h : IsWord cs) :
    ∀ c ∈ cs.head?, c ≠ '+' ∧ c ≠ '-' := by
  intro c hc
  obtain ⟨others, rfl⟩ : ∃ others, cs = c :: others := List.head?_eq_some_iff.mp hc
  simp only [IsWord, List.mem_cons, List.not_mem_nil, or_false, ← String.toList_inj,
    String.toList_ofList, List.map_cons] at h
  constructor <;> rintro rfl <;> revert h <;> simp

/-! ## Numbers with their sign -/

/-- Exactly the texts of numbers are read. -/
theorem isSome_readFloat?_iff {s : String} : (readFloat? s).isSome ↔ IsNumber s := by
  have hread : (readFloat? s).isSome ↔
      IsMagnitude (readSign s.toList).2 ∨ IsWord (readSign s.toList).2 := by
    rw [← isSome_readMagnitude?_iff, ← isSome_wordValue?_iff (readSign s.toList).1]
    simp only [readFloat?]
    split
    next h => simp [h]
    next h => simp [h]
  rw [hread]
  constructor
  · intro h
    obtain ⟨sign, hsign, htext⟩ := exists_isSign_append s.toList
    exact ⟨sign, _, hsign, h, htext⟩
  · rintro ⟨sign, rest, hsign, hrest, htext⟩
    have hrestSign := readSign_append hsign (hrest.elim IsMagnitude.ne_sign IsWord.ne_sign)
    rw [htext, hrestSign]
    exact hrest

end DataQuality.Decimal
