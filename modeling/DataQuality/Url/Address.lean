/-!
# Numeric hosts

Hosts written as numbers: four numbers of a byte each, with the older spellings in octal and
hexadecimal and with fewer parts, and eight numbers of two bytes each in brackets.
-/

namespace DataQuality.Url

/-- The number of a digit in some base up to sixteen. -/
def baseDigit? (base : Nat) (c : Char) : Option Nat :=
  let value? :=
    if '0' ≤ c ∧ c ≤ '9' then some (c.toNat - 48)
    else if 'a' ≤ c ∧ c ≤ 'f' then some (c.toNat - 87)
    else if 'A' ≤ c ∧ c ≤ 'F' then some (c.toNat - 55)
    else none
  value?.filter (· < base)

/-- The number of a sequence of digits. -/
def baseNumber? (base : Nat) (cs : List Char) : Option Nat :=
  (cs.mapM (baseDigit? base)).map fun digits => digits.foldl (fun n d => base * n + d) 0

/-- The parts of a text between separators. -/
def splitAt (separator : Char) : List Char → List (List Char)
  | [] => [[]]
  | c :: rest =>
      if c = separator then [] :: splitAt separator rest
      else
        match splitAt separator rest with
        | [] => [[c]]
        | first :: others => (c :: first) :: others

/-- A part of a numeric host: hexadecimal after `0x`, octal after `0`, else decimal. -/
def hostNumber? : List Char → Option Nat
  | [] => none
  | '0' :: 'x' :: rest => baseNumber? 16 rest
  | '0' :: 'X' :: rest => baseNumber? 16 rest
  | '0' :: c :: rest => baseNumber? 8 (c :: rest)
  | cs => baseNumber? 10 cs

/-- The parts of a host; an empty one at the end does not count. -/
def hostParts (cs : List Char) : List (List Char) :=
  let parts := splitAt '.' cs
  if parts.getLast? = some [] then parts.dropLast else parts

/-- Whether a host is numeric: its last part is a number or consists of decimal digits. -/
def endsInNumber (cs : List Char) : Bool :=
  match (hostParts cs).getLast? with
  | none => false
  | some part => (!part.isEmpty && part.all Char.isDigit) || (hostNumber? part).isSome

/-- Puts the leading parts of a numeric host, a byte each, before its last part. -/
def placeBytes (last : Nat) : Nat → List Nat → Nat
  | _, [] => last
  | place, n :: rest => n * Nat.pow 256 place + placeBytes last (place - 1) rest

/-- The number of a host of up to four parts, the last of which fills what the others leave. -/
def ipv4? (cs : List Char) : Option Nat := do
  let parts := hostParts cs
  if parts.length > 4 then none
  else
    let numbers ← parts.mapM hostNumber?
    let last ← numbers.getLast?
    let leading := numbers.dropLast
    if last < Nat.pow 256 (4 - leading.length) ∧ leading.all (· < 256) then
      some (placeBytes last 3 leading)
    else none

def decimal (n : Nat) : List Char := Nat.toDigits 10 n

/-- Four bytes with points between them. -/
def ipv4Text (n : Nat) : List Char :=
  decimal (n / Nat.pow 256 3 % 256) ++ '.' :: decimal (n / Nat.pow 256 2 % 256) ++ '.' ::
    decimal (n / 256 % 256) ++ '.' :: decimal (n % 256)

/-- Numbers of two bytes, and where a gap of zeros goes, as an index into them. -/
structure Pieces where
  numbers : List Nat
  gap : Option Nat

/-- One byte in decimal, without leading zeros. -/
def byte? (cs : List Char) : Option Nat :=
  match cs with
  | [] => none
  | '0' :: _ :: _ => none
  | _ =>
      if cs.length ≤ 3 ∧ cs.all Char.isDigit then (baseNumber? 10 cs).filter (· < 256) else none

/-- Four bytes in decimal as two numbers of two bytes. -/
def embeddedIpv4? (cs : List Char) : Option (List Nat) := do
  match ← (splitAt '.' cs).mapM byte? with
  | [a, b, c, d] => some [256 * a + b, 256 * c + d]
  | _ => none

/-- Reads numbers separated by colons. Two colons in a row leave a gap; four bytes in decimal may
stand at the end, in place of two numbers. -/
def readPieces : Nat → Pieces → List Char → Option Pieces
  | 0, _, _ => none
  | _ + 1, pieces, [] => some pieces
  | fuel + 1, pieces, c :: rest =>
      if 8 ≤ pieces.numbers.length then none
      else if c = ':' then
        if pieces.gap.isSome then none
        else
          readPieces fuel ⟨pieces.numbers ++ [0], some (pieces.numbers.length + 1)⟩ rest
      else
        let cs := c :: rest
        let digits := (cs.take 4).takeWhile fun c => (baseDigit? 16 c).isSome
        let after := cs.drop digits.length
        match after with
        | [] =>
            (baseNumber? 16 digits).map fun n => { pieces with numbers := pieces.numbers ++ [n] }
        | '.' :: _ =>
            if digits.isEmpty ∨ 6 < pieces.numbers.length then none
            else
              (embeddedIpv4? cs).map fun pair =>
                { pieces with numbers := pieces.numbers ++ pair }
        | ':' :: next :: more =>
            match baseNumber? 16 digits with
            | none => none
            | some n =>
                readPieces fuel { pieces with numbers := pieces.numbers ++ [n] } (next :: more)
        | _ => none

/-- The eight numbers of a host in brackets. -/
def ipv6? (cs : List Char) : Option (List Nat) := do
  let pieces ←
    match cs with
    | ':' :: ':' :: rest => readPieces (rest.length + 1) ⟨[0], some 1⟩ rest
    | ':' :: _ => none
    | [] => none
    | [_] => none
    | _ => readPieces (cs.length + 1) ⟨[], none⟩ cs
  match pieces.gap with
  | none => if pieces.numbers.length = 8 then some pieces.numbers else none
  | some index =>
      some (pieces.numbers.take index ++ List.replicate (8 - pieces.numbers.length) 0 ++
        pieces.numbers.drop index)

def leadingZeros (numbers : List Nat) : Nat :=
  (numbers.takeWhile (· == 0)).length

/-- Where the first longest run of zeros starts, and its length. -/
def longestZeros (numbers : List Nat) : Nat × Nat :=
  (List.range numbers.length).foldl
    (fun best start =>
      let length := leadingZeros (numbers.drop start)
      if best.2 < length then (start, length) else best)
    (0, 0)

/-- Numbers in hexadecimal with colons between them. -/
def colonJoin : List Nat → List Char
  | [] => []
  | [n] => Nat.toDigits 16 n
  | n :: rest => Nat.toDigits 16 n ++ ':' :: colonJoin rest

/-- Eight numbers in brackets; the first longest run of two or more zeros is left out. -/
def ipv6Text (numbers : List Nat) : List Char :=
  let (start, length) := longestZeros numbers
  let body :=
    if 2 ≤ length then
      colonJoin (numbers.take start) ++ ':' :: ':' :: colonJoin (numbers.drop (start + length))
    else colonJoin numbers
  '[' :: (body ++ [']'])

end DataQuality.Url
