import DataQuality.Decimal.Reader
import DataQuality.Document.Datum
import DataQuality.Yaml.Token

/-!
# What a scalar stands for

A plain scalar without a tag stands for nothing, a truth value, a number or a text, by its form. A
tag of the standard asks for one of these, one of the document's own names an alternative. Any
scalar can be read where a text is wanted.
-/

namespace DataQuality.Yaml

namespace Tag

def standard (name : String) : String := "tag:yaml.org,2002:" ++ name

/-- The name that a tag of the document's own gives. -/
def localName? (tag : String) : Option String :=
  match tag.toList with
  | ['!'] => some "!"
  | '!' :: rest => some (String.ofList rest)
  | _ => none

end Tag

namespace Resolution

/-- Whether a plain text stands for nothing although it is not empty. -/
def isNullWord (s : String) : Bool := ["null", "Null", "NULL", "~"].contains s

/-- The truth value that a text stands for. -/
def bool? (s : String) : Option Bool :=
  if ["true", "True", "TRUE"].contains s then some true
  else if ["false", "False", "FALSE"].contains s then some false
  else none

/-- The value of a digit in bases up to sixteen. -/
def digitValue? (base : Nat) (c : Char) : Option Nat :=
  let value :=
    if c.isDigit then c.toNat - 48
    else if 'a' ≤ c ∧ c ≤ 'f' then c.toNat - 87
    else if 'A' ≤ c ∧ c ≤ 'F' then c.toNat - 55
    else base
  if value < base then some value else none

/-- The number that digits in a base stand for after a number `n`. -/
def digits? (base n : Nat) : List Char → Option Nat
  | [] => some n
  | c :: rest =>
      match digitValue? base c with
      | some d => digits? base (base * n + d) rest
      | none => none

/-- A nonempty sequence of digits in a base. -/
def natural? (base : Nat) (cs : List Char) : Option Nat :=
  if cs.isEmpty then none else digits? base 0 cs

/-- The text after a sign. -/
def dropSign : List Char → List Char
  | '-' :: rest => rest
  | '+' :: rest => rest
  | cs => cs

/-- Whether a text is made of digits but begins with a zero that is not the whole number. -/
def isZeroPadded (cs : List Char) : Bool :=
  match dropSign cs with
  | '0' :: c :: rest => (c :: rest).all Char.isDigit
  | _ => false

/-- A number after its sign, in the base that its first characters tell. -/
def magnitude? : List Char → Option Nat
  | '0' :: 'x' :: rest => natural? 16 rest
  | '0' :: 'o' :: rest => natural? 8 rest
  | '0' :: 'b' :: rest => natural? 2 rest
  | cs => if isZeroPadded cs then none else natural? 10 cs

/-- The whole number that a text stands for, of any size; one that is not negative may have a
plus sign. -/
def int? : List Char → Option Int
  | '-' :: rest => (magnitude? rest).map fun n => -(n : Int)
  | '+' :: rest => (magnitude? rest).map Int.ofNat
  | cs => (magnitude? cs).map Int.ofNat

/-- The words for infinity and for what is not a number, which have no value. -/
def isSpecial (cs : List Char) : Bool :=
  let s := String.ofList cs
  [".inf", ".Inf", ".INF", "-.inf", "-.Inf", "-.INF", "+.inf", "+.Inf", "+.INF", ".nan", ".NaN",
    ".NAN"].contains s

/-- The value of a number with a point or an exponent. Without value is one that is too large. -/
def real? (cs : List Char) : Option Json :=
  if isSpecial cs then some .null
  else
    let negative := cs.head? == some '-'
    match Decimal.readMagnitude? (dropSign cs) with
    | some (digits, exponent) =>
        let x := Decimal.roundDecimal negative digits exponent
        if Decimal.isFinite x then some (.real x) else none
    | none => none

/-- What a whole number stands for: beyond sixty-four bits it has no value, and beyond a hundred
and twenty-eight it is not taken as whole. -/
def wholeValue? (cs : List Char) : Option (Option Json) :=
  match int? cs with
  | some n =>
      if Int64.minValue.toInt ≤ n ∧ n < UInt64.size then some (some (.int n))
      else if -Int.pow 2 127 ≤ n ∧ n < Int.pow 2 128 then some none
      else none
  | none => none

def plainValue (s : String) : Option Json :=
  let cs := s.toList
  if s.isEmpty || isNullWord s then some .null
  else
    match bool? s with
    | some b => some (.bool b)
    | none =>
        match wholeValue? cs with
        | some value => value
        | none =>
            match if isZeroPadded cs then none else real? cs with
            | some value => some value
            | none => some (.string s)

def taggedValue (tag s : String) : Option Json :=
  if tag = Tag.standard "bool" then (bool? s).map .bool
  else if tag = Tag.standard "int" then (wholeValue? s.toList).join
  else if tag = Tag.standard "float" then real? s.toList
  else if tag = Tag.standard "null" then if isNullWord s then some .null else none
  else if (Tag.localName? tag).isSome then none
  else some (.string s)

/-- The word of sixty-four bits that a text stands for. -/
def word? (s : String) : Option Int :=
  (int? s.toList).bind fun n => if s.startsWith "-" || UInt64.size ≤ n then none else some n

/-- What a scalar can be read as. -/
def scalar (tag : Option String) (style : ScalarStyle) (s : String) : Scalar :=
  let plain := style == .plain
  { text := some s
    value :=
      match tag with
      | some tag => taggedValue tag s
      | none => if plain then plainValue s else some (.string s)
    whole :=
      if plain || (style == .literal && tag == some (Tag.standard "int")) then word? s else none
    variant :=
      match tag.bind Tag.localName? with
      | some name => if plain && (s.isEmpty || isNullWord s) then some name else none
      | none => some s
    presence :=
      match tag with
      | some tag =>
          if !plain || tag != Tag.standard "null" then .given
          else if isNullWord s then .missing
          else .unclear
      | none => if plain && (s.isEmpty || isNullWord s) then .missing else .given
    blank := plain && s.isEmpty }

/-- The root of a document in which nothing is written. -/
def nothing : Scalar :=
  { Scalar.null with blank := true }

end Resolution

end DataQuality.Yaml
