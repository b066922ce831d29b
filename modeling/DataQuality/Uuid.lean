import DataQuality.Document.Decoder

/-!
# Identifiers

A universally unique identifier is thirty-two hexadecimal digits. Four spellings are read:
the digits alone, in hyphenated groups, the groups in braces, and the groups after `urn:uuid:`,
digits in either case. One is written: hyphenated, in lower case.
-/

namespace DataQuality

/-- An identifier as its digits. -/
structure Uuid where
  digits : List (Fin 16)
  length_eq : digits.length = 32
  deriving DecidableEq, Repr

namespace Uuid

/-- The character of a hexadecimal digit. -/
def digitChar (d : Fin 16) : Char :=
  if d.val < 10 then Char.ofNat (48 + d.val) else Char.ofNat (87 + d.val)

/-- The hexadecimal digit of a character. -/
def digitOf? (c : Char) : Option (Fin 16) :=
  if '0' ≤ c ∧ c ≤ '9' then some (Fin.ofNat 16 (c.toNat - 48))
  else if 'a' ≤ c ∧ c ≤ 'f' then some (Fin.ofNat 16 (c.toNat - 87))
  else if 'A' ≤ c ∧ c ≤ 'F' then some (Fin.ofNat 16 (c.toNat - 55))
  else none

/-- Digits in groups of eight, four, four, four and twelve, with hyphens between them. -/
def groups (cs : List Char) : List Char :=
  cs.take 8 ++ '-' :: (cs.drop 8).take 4 ++ '-' :: (cs.drop 12).take 4 ++
    '-' :: (cs.drop 16).take 4 ++ '-' :: cs.drop 20

/-- The hyphenated text of an identifier. -/
def render (id : Uuid) : String :=
  String.ofList (groups (id.digits.map digitChar))

/-- An identifier from its digits without hyphens. -/
def ofDigits? (cs : List Char) : Option Uuid :=
  match cs.mapM digitOf? with
  | none => none
  | some digits => if h : digits.length = 32 then some ⟨digits, h⟩ else none

/-- An identifier from its hyphenated text. -/
def ofGroups? (cs : List Char) : Option Uuid :=
  let bare := cs.take 8 ++ (cs.drop 9).take 4 ++ (cs.drop 14).take 4 ++ (cs.drop 19).take 4 ++
    cs.drop 24
  if groups bare = cs then ofDigits? bare else none

/-- What stands before the groups in a uniform resource name. -/
def resourcePart : List Char := ['u', 'r', 'n', ':', 'u', 'u', 'i', 'd', ':']

/-- The identifier of a text in any of its spellings. -/
def parse? (s : String) : Option Uuid :=
  let cs := s.toList
  if cs.length = 32 then ofDigits? cs
  else if cs.length = 36 then ofGroups? cs
  else if cs.length = 38 ∧ cs.head? = some '\x7b' ∧ cs.getLast? = some '\x7d' then
    ofGroups? (cs.drop 1).dropLast
  else if cs.length = 45 ∧ cs.take 9 = resourcePart then ofGroups? (cs.drop 9)
  else none

/-- An identifier in a document is a text. -/
def decoder : Decoder Uuid := fun datum =>
  match datum.text?.bind parse? with
  | some id => .ok id
  | none => .error .malformed

/-- The identifier as a JSON text. -/
def toJson (id : Uuid) : Json := .string id.render

/-- The identifier whose digits write a number. -/
def ofNat (n : Nat) : Uuid :=
  ⟨(List.range 32).map fun i => Fin.ofNat 16 (n / Nat.pow 16 (31 - i)), by simp⟩

end Uuid

end DataQuality
