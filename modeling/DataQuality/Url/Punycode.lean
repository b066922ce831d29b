/-!
# Letters beyond ASCII in ASCII

A label with characters beyond ASCII is written as its ASCII characters, a hyphen, and a sequence
of numbers that say where the others go, in increasing order of the characters. A number is
written with digits whose range depends on their place and on the numbers before.
-/

namespace DataQuality.Url.Punycode

/-- The number of digits. -/
def base : Nat := 36

def digitChar (d : Nat) : Char :=
  if d < 26 then Char.ofNat (97 + d) else Char.ofNat (22 + d)

/-- The digit of a character, in either case. -/
def digitValue? (c : Char) : Option Nat :=
  if 'a' ≤ c ∧ c ≤ 'z' then some (c.toNat - 97)
  else if 'A' ≤ c ∧ c ≤ 'Z' then some (c.toNat - 65)
  else if '0' ≤ c ∧ c ≤ '9' then some (c.toNat - 22)
  else none

/-- The digits below which one ends its number, at the place with weight `k`. -/
def threshold (k bias : Nat) : Nat :=
  max 1 (min 26 (k - bias))

theorem threshold_pos (k bias : Nat) : 1 ≤ threshold k bias := by
  unfold threshold
  omega

/-- Scales a distance down to what one step of the bias covers, adding to `k` for every scaling. -/
def scaleBias (delta k : Nat) : Nat :=
  if 455 < delta then scaleBias (delta / 35) (k + base) else k + base * delta / (delta + 38)
termination_by delta
decreasing_by omega

/-- The bias after a number, when `count` characters are in place. The first number counts less. -/
def adapt (delta count : Nat) (first : Bool) : Nat :=
  let delta := if first then delta / 700 else delta / 2
  scaleBias (delta + delta / count) 0

def numberDigits (bias k q : Nat) : List Char :=
  let t := threshold k bias
  if q < t then [digitChar q]
  else digitChar (t + (q - t) % (base - t)) :: numberDigits bias (k + base) ((q - t) / (base - t))
termination_by q
decreasing_by
  have := threshold_pos k bias
  have := Nat.div_le_self (q - threshold k bias) (base - threshold k bias)
  omega

/-- The state between two characters that are put in place. -/
structure Encoding where
  written : List Char
  delta : Nat
  bias : Nat
  /-- How many characters are in place. -/
  placed : Nat

/-- Passes a character of the label while the characters with number `n` are put in place. -/
def pass (basic n : Nat) (s : Encoding) (c : Char) : Encoding :=
  if c.toNat < n then { s with delta := s.delta + 1 }
  else if c.toNat = n then
    { written := s.written ++ numberDigits s.bias base s.delta
      delta := 0
      bias := adapt s.delta (s.placed + 1) (s.placed == basic)
      placed := s.placed + 1 }
  else s

/-- Puts the characters with the given numbers in place; `n` is the first number not passed. -/
def place (label : List Char) (basic : Nat) : List Nat → Nat → Encoding → Encoding
  | [], _, s => s
  | m :: rest, n, s =>
      let s := { s with delta := s.delta + (m - n) * (s.placed + 1) }
      let s := label.foldl (pass basic m) s
      place label basic rest (m + 1) { s with delta := s.delta + 1 }

/-- The numbers of the characters beyond ASCII, increasing and each once. -/
def highNumbers (label : List Char) : List Nat :=
  let numbers := (label.map Char.toNat).filter fun n => 127 < n
  numbers.eraseDups.mergeSort fun a b => decide (a ≤ b)

/-- The ASCII form of a label. -/
def encode (label : List Char) : List Char :=
  let basic := label.filter fun c => c.toNat < 128
  let start : Encoding := { written := [], delta := 0, bias := 72, placed := basic.length }
  let numbers := (place label basic.length (highNumbers label) 128 start).written
  if basic.isEmpty then numbers else basic ++ '-' :: numbers

/-- A number of which the digits before have the value `n`, and the text after it. -/
def readNumber (bias : Nat) : List Char → Nat → Nat → Nat → Option (Nat × List Char)
  | [], _, _, _ => none
  | c :: rest, k, weight, n =>
      match digitValue? c with
      | none => none
      | some d =>
          let t := threshold k bias
          if d < t then some (n + d * weight, rest)
          else readNumber bias rest (k + base) (weight * (base - t)) (n + d * weight)

theorem length_lt_of_readNumber {bias k weight n : Nat} {text : List Char}
    {result : Nat × List Char} (h : readNumber bias text k weight n = some result) :
    result.2.length < text.length := by
  induction text generalizing k weight n with
  | nil => simp [readNumber] at h
  | cons c rest ih =>
      rw [readNumber] at h
      split at h
      · simp at h
      · simp only at h
        split at h
        · rw [← Option.some.inj h]
          simp
        · exact Nat.lt_succ_of_lt (ih h)

/-- Puts the characters that numbers stand for into a label. `next` is the place behind the last
one, and `n` its number. -/
def insertAll (label : List Char) (next n bias : Nat) (text : List Char) : Option (List Char) :=
  match text with
  | [] => some label
  | c :: rest =>
      match _h : readNumber bias (c :: rest) base 1 next with
      | none => none
      | some (i, after) =>
          let size := label.length + 1
          let n := n + i / size
          let place := i % size
          if 0x10FFFF < n ∨ (0xD800 ≤ n ∧ n < 0xE000) then none
          else
            insertAll (label.take place ++ Char.ofNat n :: label.drop place) (place + 1) n
              (adapt (i - next) size (next == 0)) after
termination_by text.length
decreasing_by exact length_lt_of_readNumber _h

/-- The text before the last hyphen, and the text after it; without one nothing comes before. -/
def splitLast (cs : List Char) : List Char × List Char :=
  let after := (cs.reverse.takeWhile (· != '-')).reverse
  let before := cs.take (cs.length - after.length - 1)
  if before.isEmpty then ([], cs) else (before, after)

/-- The label with an ASCII form. -/
def decode? (cs : List Char) : Option (List Char) :=
  let (basic, numbers) := splitLast cs
  insertAll basic 0 128 72 numbers

end DataQuality.Url.Punycode
