/-!
# Settled answers

An answer that may be an error is settled by two conditions: one under which there is an answer,
and one for each error under which that error arises. The conditions of an answer that is reached
in steps are those of its steps: there is one if every step succeeds, and its error is that of the
first step that fails.
-/

namespace DataQuality

variable {ε δ α β : Type}

/-- What is known of an answer that was computed, of the value behind it. -/
theorem exists_ok_of_map {answer : Except ε α} {f : α → β} {b : β}
    (h : answer.toOption.map f = some b) : ∃ a, answer = .ok a ∧ f a = b := by
  cases answer with
  | error e => cases h
  | ok a => exact ⟨a, rfl, Option.some.inj h⟩

/-- There is an answer exactly under one condition, and each error exactly under its own. -/
structure Settles (answer : Except ε α) (good : Prop) (bad : ε → Prop) : Prop where
  ok_iff : (∃ a, answer = .ok a) ↔ good
  error_iff : ∀ e, answer = .error e ↔ bad e

namespace Settles

variable {answer : Except ε α} {good good' : Prop} {bad bad' : ε → Prop}

/-- Every answer is settled by itself. -/
theorem refl (answer : Except ε α) : Settles answer (∃ a, answer = .ok a) (answer = .error ·) where
  ok_iff := Iff.rfl
  error_iff _ := Iff.rfl

theorem ok (a : α) : Settles (.ok a : Except ε α) True fun _ => False where
  ok_iff := ⟨fun _ => trivial, fun _ => ⟨a, rfl⟩⟩
  error_iff _ := ⟨nofun, False.elim⟩

theorem error (e : ε) : Settles (.error e : Except ε α) False (e = ·) where
  ok_iff := ⟨nofun, False.elim⟩
  error_iff e' := Except.error.injEq e e' ▸ Iff.rfl

/-- Conditions may be put in other words. -/
theorem congr (h : Settles answer good bad) (hgood : good ↔ good') (hbad : ∀ e, bad e ↔ bad' e) :
    Settles answer good' bad' where
  ok_iff := h.ok_iff.trans hgood
  error_iff e := (h.error_iff e).trans (hbad e)

/-- An answer that says no more than that there is one. -/
theorem eq_ok_iff {answer : Except ε Unit} (h : Settles answer good bad) :
    answer = .ok () ↔ good :=
  ⟨fun hok => h.ok_iff.mp ⟨(), hok⟩, fun hgood => (h.ok_iff.mpr hgood).elim fun _ hok => hok⟩

/-- The first of two steps fails, or else the second one. -/
theorem bind {next : α → Except ε β} (h : Settles answer good bad)
    (hnext : ∀ a, answer = .ok a → Settles (next a) good' bad') :
    Settles (answer >>= next) (good ∧ good') fun e => bad e ∨ good ∧ bad' e := by
  cases hanswer : answer with
  | error e =>
      have hgood : ¬good := fun hgood => by
        obtain ⟨a, ha⟩ := h.ok_iff.mpr hgood
        cases hanswer.symm.trans ha
      have hbad : ∀ e', e = e' ↔ bad e' := fun e' => by
        rw [← h.error_iff, hanswer, Except.error.injEq]
      exact (error e).congr (by simp [hgood]) fun e' => by simp [hgood, hbad]
  | ok a =>
      have hgood : good := h.ok_iff.mp ⟨a, hanswer⟩
      have hbad : ∀ e, ¬bad e := fun e he => by
        cases hanswer.symm.trans ((h.error_iff e).mpr he)
      exact (hnext a hanswer).congr (by simp [hgood]) fun e => by simp [hgood, hbad]

/-- What is made of an answer is settled as the answer is. -/
theorem returns (h : Settles answer good bad) (f : α → β) :
    Settles (answer >>= fun a => pure (f a)) good bad :=
  (h.bind fun a _ => ok (f a)).congr (by simp) fun e => by simp

/-- Errors in other words. -/
theorem mapError (h : Settles answer good bad) (f : ε → δ) :
    Settles (answer.mapError f) good fun e => ∃ cause, bad cause ∧ f cause = e where
  ok_iff := by
    rw [← h.ok_iff]
    cases answer with
    | error e => exact ⟨nofun, nofun⟩
    | ok a => exact ⟨fun _ => ⟨a, rfl⟩, fun _ => ⟨a, rfl⟩⟩
  error_iff e := by
    simp only [← h.error_iff]
    cases answer with
    | error cause =>
        constructor
        · rintro ⟨⟩
          exact ⟨cause, rfl, rfl⟩
        · rintro ⟨_, ⟨⟩, rfl⟩
          rfl
    | ok a => exact ⟨nofun, fun ⟨_, hcause, _⟩ => nomatch hcause⟩

/-- A choice between two answers. -/
theorem ite {yes no : Except ε α} {p : Prop} [Decidable p] (hyes : p → Settles yes good bad)
    (hno : ¬p → Settles no good' bad') : Settles (if p then yes else no)
      (p ∧ good ∨ ¬p ∧ good') fun e => p ∧ bad e ∨ ¬p ∧ bad' e := by
  by_cases hp : p
  · rw [if_pos hp]
    exact (hyes hp).congr (by simp [hp]) fun e => by simp [hp]
  · rw [if_neg hp]
    exact (hno hp).congr (by simp [hp]) fun e => by simp [hp]

/-- A test in front of what is left to be done. -/
theorem guard {rest : Except ε α} {refused : Prop} [Decidable refused] (e : ε)
    (h : ¬refused → Settles rest good bad) :
    Settles (if refused then .error e else rest) (¬refused ∧ good)
      fun e' => refused ∧ e = e' ∨ ¬refused ∧ bad e' :=
  (ite (fun _ => error e) h).congr (by simp) fun _ => Iff.rfl

end Settles

/-! ## Lists -/

/-- What is wrong with the first bad item of a list. -/
def FirstBad (good : α → Prop) (bad : α → ε → Prop) (items : List α) (e : ε) : Prop :=
  ∃ before item after, items = before ++ item :: after ∧ (∀ earlier ∈ before, good earlier) ∧
    bad item e

section FirstBad

variable {good : α → Prop} {bad : α → ε → Prop} {item : α} {rest : List α} {e : ε}

@[simp] theorem firstBad_nil : ¬FirstBad good bad [] e := by
  rintro ⟨before, item, after, hsplit, -⟩
  exact absurd hsplit.symm (List.append_ne_nil_of_right_ne_nil before (List.cons_ne_nil item after))

@[simp] theorem firstBad_cons :
    FirstBad good bad (item :: rest) e ↔ bad item e ∨ good item ∧ FirstBad good bad rest e := by
  constructor
  · rintro ⟨before, found, after, hsplit, hbefore, hfound⟩
    cases before with
    | nil =>
        cases hsplit
        exact .inl hfound
    | cons first before =>
        cases hsplit
        obtain ⟨hfirst, hbefore⟩ := List.forall_mem_cons.mp hbefore
        exact .inr ⟨hfirst, before, found, after, rfl, hbefore, hfound⟩
  · rintro (hbad | ⟨hgood, before, found, after, rfl, hbefore, hfound⟩)
    · exact ⟨[], item, rest, rfl, List.forall_mem_nil _, hbad⟩
    · exact ⟨item :: before, found, after, rfl, List.forall_mem_cons.mpr ⟨hgood, hbefore⟩, hfound⟩

/-- A list with a bad item has a first one. -/
theorem exists_firstBad {items : List α} (hbad : ∀ item, ¬good item → ∃ e, bad item e)
    (h : ∃ item ∈ items, ¬good item) : ∃ e, FirstBad good bad items e := by
  induction items with
  | nil => simp at h
  | cons item rest ih =>
      simp only [firstBad_cons]
      by_cases hgood : good item
      · obtain ⟨e, he⟩ := ih (by simpa [hgood] using h)
        exact ⟨e, .inr ⟨hgood, he⟩⟩
      · obtain ⟨e, he⟩ := hbad item hgood
        exact ⟨e, .inl he⟩

/-- A walk over a list that stops at the first item that is refused. -/
theorem Settles.walk {check : α → Except ε Unit} {walk : List α → Except ε Unit}
    (hcheck : ∀ item, Settles (check item) (good item) (bad item)) (hnil : walk [] = .ok ())
    (hcons : ∀ item rest, walk (item :: rest) = check item >>= fun _ => walk rest)
    (items : List α) :
    Settles (walk items) (∀ item ∈ items, good item) (FirstBad good bad items) := by
  induction items with
  | nil =>
      rw [hnil]
      exact (Settles.ok ()).congr (by simp) fun e => by simp
  | cons item rest ih =>
      rw [hcons]
      exact ((hcheck item).bind fun _ _ => ih).congr (by simp) fun e => by simp

end FirstBad

end DataQuality
