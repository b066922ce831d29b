import DataQuality.Uuid
import DataQuality.Proofs.Document.Record

/-!
# Identifiers and their texts

The text that is written for an identifier is read as that identifier. So different identifiers
have different texts.
-/

namespace DataQuality.Uuid

theorem digitOf?_digitChar : ∀ d : Fin 16, digitOf? (digitChar d) = some d := by decide

theorem mapM_digitOf? (digits : List (Fin 16)) :
    (digits.map digitChar).mapM digitOf? = some digits := by
  induction digits with
  | nil => rfl
  | cons d rest ih =>
      rw [List.map_cons, List.mapM_cons, digitOf?_digitChar, ih]
      rfl

theorem ofDigits?_digits (id : Uuid) : ofDigits? (id.digits.map digitChar) = some id := by
  simp only [ofDigits?, mapM_digitOf?, id.length_eq, dif_pos]

/-- Characters in the groups that an identifier is written in. -/
theorem exists_groups {cs : List Char} (h : cs.length = 32) :
    ∃ a b c d e : List Char, cs = a ++ (b ++ (c ++ (d ++ e))) ∧ a.length = 8 ∧ b.length = 4 ∧
      c.length = 4 ∧ d.length = 4 ∧ e.length = 12 := by
  refine ⟨cs.take 8, (cs.drop 8).take 4, (cs.drop 12).take 4, (cs.drop 16).take 4, cs.drop 20,
    ?_, ?_, ?_, ?_, ?_, ?_⟩
  · have h12 : cs.drop 12 = (cs.drop 8).drop 4 := by rw [List.drop_drop]
    have h16 : cs.drop 16 = (cs.drop 12).drop 4 := by rw [List.drop_drop]
    have h20 : cs.drop 20 = (cs.drop 16).drop 4 := by rw [List.drop_drop]
    rw [h20, List.take_append_drop, h16, List.take_append_drop, h12, List.take_append_drop,
      List.take_append_drop]
  all_goals simp only [List.length_take, List.length_drop, h, Nat.reduceSub, Nat.reduceLeDiff,
    Nat.min_def, if_true]

theorem groups_append {a b c d e : List Char} (ha : a.length = 8) (hb : b.length = 4)
    (hc : c.length = 4) (hd : d.length = 4) :
    groups (a ++ (b ++ (c ++ (d ++ e)))) =
      a ++ '-' :: (b ++ '-' :: (c ++ '-' :: (d ++ '-' :: e))) := by
  simp [groups, List.drop_append, ha, hb, hc, hd, List.drop_of_length_le]

/-- Groups are read digit by digit. -/
theorem ofGroups?_groups {cs : List Char} (h : cs.length = 32) :
    ofGroups? (groups cs) = ofDigits? cs := by
  obtain ⟨a, b, c, d, e, rfl, ha, hb, hc, hd, he⟩ := exists_groups h
  have hbare : (groups (a ++ (b ++ (c ++ (d ++ e))))).take 8 ++
      ((groups (a ++ (b ++ (c ++ (d ++ e))))).drop 9).take 4 ++
      ((groups (a ++ (b ++ (c ++ (d ++ e))))).drop 14).take 4 ++
      ((groups (a ++ (b ++ (c ++ (d ++ e))))).drop 19).take 4 ++
      (groups (a ++ (b ++ (c ++ (d ++ e))))).drop 24 = a ++ (b ++ (c ++ (d ++ e))) := by
    rw [groups_append ha hb hc hd]
    simp [List.drop_append, ha, hb, hc, hd, List.drop_of_length_le]
  simp only [ofGroups?, hbare, if_true]

theorem length_groups {cs : List Char} (h : cs.length = 32) : (groups cs).length = 36 := by
  obtain ⟨a, b, c, d, e, rfl, ha, hb, hc, hd, he⟩ := exists_groups h
  rw [groups_append ha hb hc hd]
  simp [ha, hb, hc, hd, he]

/-- The text of an identifier is read as that identifier. -/
theorem parse?_render (id : Uuid) : parse? id.render = some id := by
  have hlength : (id.digits.map digitChar).length = 32 := by rw [List.length_map, id.length_eq]
  have hgroups := length_groups hlength
  simp only [parse?, render, String.toList_ofList, hgroups]
  rw [if_neg (by decide), if_pos True.intro, ofGroups?_groups hlength, ofDigits?_digits]

theorem render_injective {id id' : Uuid} (h : id.render = id'.render) : id = id' := by
  have hparse := congrArg parse? h
  rw [parse?_render, parse?_render] at hparse
  exact Option.some.inj hparse

theorem reads : Decoder.Reads decoder toJson := fun id => by
  have hparse : (Datum.ofJson id.toJson).text?.bind parse? = some id := parse?_render id
  rw [decoder, hparse]

end DataQuality.Uuid
