import DataQuality.Text.Basic

/-!
# Percent encoding

Bytes that may not stand in a part of an address are written as a percent sign and two
hexadecimal digits. Which bytes those are depends on the part; every set contains the control
characters and everything beyond ASCII.
-/

namespace DataQuality.Url

/-- A hexadecimal digit in upper case. -/
def upperHex (n : Nat) : Char :=
  if n < 10 then Char.ofNat (48 + n) else Char.ofNat (55 + n)

def percentByte (b : UInt8) : List Char :=
  ['%', upperHex (b.toNat / 16), upperHex (b.toNat % 16)]

def utf8Bytes (c : Char) : List UInt8 :=
  (String.singleton c).toUTF8.toList

def percentEncode (admitted : Char → Bool) (cs : List Char) : List Char :=
  cs.flatMap fun c => if admitted c then [c] else (utf8Bytes c).flatMap percentByte

/-- The visible ASCII characters and the space. -/
def isPlain (c : Char) : Bool :=
  32 ≤ c.toNat && c.toNat < 127

/-- The characters of a list do not count as admitted. -/
def plainExcept (cs : List Char) (c : Char) : Bool :=
  isPlain c && !cs.contains c

/-- What may stand in a fragment. -/
def inFragment : Char → Bool :=
  plainExcept [' ', '\x22', '<', '>', '\x60']

/-- What may stand in a query. -/
def inQuery : Char → Bool :=
  plainExcept [' ', '\x22', '#', '<', '>', '\x27']

/-- What may stand in a path. -/
def inPath : Char → Bool :=
  plainExcept [' ', '\x22', '<', '>', '\x60', '#', '?', '\x7b', '\x7d']

/-- What may stand in one segment that is added to a path. -/
def inSegment : Char → Bool :=
  plainExcept [' ', '\x22', '<', '>', '\x60', '#', '?', '\x7b', '\x7d', '/', '%', '\\']

/-- What may stand in a user name or a password. -/
def inUserInfo : Char → Bool :=
  plainExcept
    [' ', '\x22', '<', '>', '\x60', '#', '?', '\x7b', '\x7d', '/', ':', ';', '=', '@', '[', '\\',
      ']', '^', '|']

/-- The bytes of a text in which percent signs with two digits stand for bytes. -/
def percentDecode : List Char → List UInt8
  | '%' :: a :: b :: rest =>
      match Text.hexValue? a, Text.hexValue? b with
      | some high, some low => UInt8.ofNat (16 * high + low) :: percentDecode rest
      | _, _ => 37 :: percentDecode (a :: b :: rest)
  | c :: rest => utf8Bytes c ++ percentDecode rest
  | [] => []

/-- The text of bytes, if they are the encoding of one. -/
def decodeUtf8? (bytes : List UInt8) : Option (List Char) :=
  (String.fromUTF8? ⟨bytes.toArray⟩).map String.toList

/-- The characters that stand for themselves in a form. -/
def inForm (c : Char) : Bool :=
  c.isAlphanum || c == '*' || c == '-' || c == '.' || c == '_'

/-- A text as a form writes it: a space becomes a plus sign. -/
def formEncode (cs : List Char) : List Char :=
  cs.flatMap fun c =>
    if c = ' ' then ['+'] else if inForm c then [c] else (utf8Bytes c).flatMap percentByte

/-- Names and values as a form writes them. -/
def formPairs : List (String × String) → List Char
  | [] => []
  | [(name, value)] => formEncode name.toList ++ '=' :: formEncode value.toList
  | (name, value) :: rest =>
      formEncode name.toList ++ '=' :: (formEncode value.toList ++ '&' :: formPairs rest)

end DataQuality.Url
