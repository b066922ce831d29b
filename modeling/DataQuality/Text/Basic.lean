/-!
# Texts

What readers and writers of every kind of text share: the characters that count as white space at
the ends of a text, hexadecimal numbers and the characters with these numbers, and bytes as text of
64 characters.
-/

namespace DataQuality.Text

/-! ## Blanks

The characters with the White_Space property. `trim` takes them off both ends and off nowhere
else. -/

/-- Code points with the White_Space property. -/
def isBlank (c : Char) : Bool :=
  let n := c.toNat
  (9 ≤ n && n ≤ 13) || n == 32 || n == 0x85 || n == 0xA0 || n == 0x1680 ||
    (0x2000 ≤ n && n ≤ 0x200A) || n == 0x2028 || n == 0x2029 || n == 0x202F ||
    n == 0x205F || n == 0x3000

/-- The characters that are left once blanks are dropped from the end. -/
def trimEnd (cs : List Char) : List Char :=
  (cs.reverse.dropWhile isBlank).reverse

/-- The characters that are left once blanks are dropped from both ends. -/
def trimChars (cs : List Char) : List Char :=
  trimEnd (cs.dropWhile isBlank)

def trim (s : String) : String :=
  String.ofList (trimChars s.toList)

def isBlankText (s : String) : Bool :=
  s.toList.all isBlank

/-! ## Hexadecimal numbers -/

/-- The number of a digit, in either case. -/
def hexValue? (c : Char) : Option Nat :=
  if '0' ≤ c ∧ c ≤ '9' then some (c.toNat - 48)
  else if 'a' ≤ c ∧ c ≤ 'f' then some (c.toNat - 87)
  else if 'A' ≤ c ∧ c ≤ 'F' then some (c.toNat - 55)
  else none

/-- The number that hexadecimal digits stand for after a number `n`. -/
def hexNumber? (n : Nat) : List Char → Option Nat
  | [] => some n
  | c :: rest =>
      match hexValue? c with
      | some d => hexNumber? (16 * n + d) rest
      | none => none

/-- The character whose number is written with exactly `count` digits. Halves of surrogate pairs
are no characters. -/
def hexChar? (count : Nat) (digits : List Char) : Option Char :=
  match hexNumber? 0 digits with
  | some n =>
      if digits.length = count ∧ n < 0x110000 ∧ ¬(0xD800 ≤ n ∧ n < 0xE000) then
        some (Char.ofNat n)
      else none
  | none => none

/-! ## Base64 -/

/-- The character of a digit below 64. -/
def base64Digit (n : Nat) : Char :=
  if n < 26 then Char.ofNat (65 + n)
  else if n < 52 then Char.ofNat (71 + n)
  else if n < 62 then Char.ofNat (n - 4)
  else if n = 62 then '+'
  else '/'

/-- Three bytes are four digits of six bits each. What is left over at the end is filled up with
equals signs. -/
def base64 : List UInt8 → List Char
  | [] => []
  | [a] => [base64Digit (a.toNat / 4), base64Digit (a.toNat % 4 * 16), '=', '=']
  | [a, b] =>
      [base64Digit (a.toNat / 4), base64Digit (a.toNat % 4 * 16 + b.toNat / 16),
        base64Digit (b.toNat % 16 * 4), '=']
  | a :: b :: c :: rest =>
      base64Digit (a.toNat / 4) :: base64Digit (a.toNat % 4 * 16 + b.toNat / 16) ::
        base64Digit (b.toNat % 16 * 4 + c.toNat / 64) :: base64Digit (c.toNat % 64) ::
        base64 rest

end DataQuality.Text
