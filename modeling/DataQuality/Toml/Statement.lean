import DataQuality.Text.Basic
import DataQuality.Toml.Number
import DataQuality.Toml.Value

/-!
# Statements

A document is a sequence of statements, each on a line of its own: a key with its value, or the
header of a table or of one more table in a list.
-/

namespace DataQuality.Toml

/-- A line of a document. -/
inductive Statement where
  | assign (path : List String) (key : String) (value : Value)
  | header (path : List String) (key : String)
  | listHeader (path : List String) (key : String)

/-- Whether a character is a space or a tab. -/
def isSpace (c : Char) : Bool := c == ' ' || c == '\t'

/-- Whether a character may stand in a comment, and in a string if it is not special there. -/
def isPlain (c : Char) : Bool := c == '\t' || (32 ≤ c.toNat && c.toNat != 127)

/-- The text after spaces. -/
def skipSpaces (cs : List Char) : List Char := cs.dropWhile isSpace

/-- The text after a line break. -/
def readBreak : List Char → Option (List Char)
  | '\n' :: rest => some rest
  | '\r' :: '\n' :: rest => some rest
  | _ => none

/-- The text after a comment, if there is one. -/
def skipComment (cs : List Char) : List Char :=
  match cs with
  | '#' :: rest => rest.dropWhile isPlain
  | cs => cs

/-- The text after the end of a line: spaces, a comment, and a break unless the text ends. -/
def endLine (cs : List Char) : Option (List Char) :=
  match skipComment (skipSpaces cs) with
  | [] => some []
  | cs => readBreak cs

namespace Statement

/-- The character that an escape of a single letter stands for. -/
def escaped? (c : Char) : Option Char :=
  if c = 'b' then some (Char.ofNat 8)
  else if c = 't' then some '\t'
  else if c = 'n' then some '\n'
  else if c = 'f' then some (Char.ofNat 12)
  else if c = 'r' then some '\r'
  else if c = '\x22' ∨ c = '\\' then some c
  else none

/-- The character that an escape stands for, after its backslash. -/
def readEscape : List Char → Option (Char × List Char)
  | 'u' :: rest => (Text.hexChar? 4 (rest.take 4)).map fun c => (c, rest.drop 4)
  | 'U' :: rest => (Text.hexChar? 8 (rest.take 8)).map fun c => (c, rest.drop 8)
  | c :: rest => (escaped? c).map fun d => (d, rest)
  | [] => none

/-- The text after spaces and line breaks. -/
def skipBlankLines : List Char → List Char
  | '\r' :: '\n' :: rest => skipBlankLines rest
  | c :: rest => if isSpace c ∨ c = '\n' then skipBlankLines rest else c :: rest
  | [] => []

/-- A string on one line after its opening quote; `fuel` bounds the number of characters. -/
def readString (quote : Char) (escapes : Bool) : Nat → List Char → Option (List Char × List Char)
  | 0, _ => none
  | fuel + 1, cs =>
      match cs with
      | [] => none
      | c :: rest =>
          if c = quote then some ([], rest)
          else if escapes ∧ c = '\\' then do
            let (d, rest) ← readEscape rest
            let (more, after) ← readString quote escapes fuel rest
            return (d :: more, after)
          else if isPlain c then do
            let (more, after) ← readString quote escapes fuel rest
            return (c :: more, after)
          else none

/-- A string on several lines after its opening quotes and the break that may follow them. Up to
two quotes may stand right before the three closing ones. A backslash at the end of a line passes
over the break and the spaces and breaks after it. -/
def readLines (quote : Char) (escapes : Bool) : Nat → List Char → Option (List Char × List Char)
  | 0, _ => none
  | fuel + 1, cs =>
      if cs.take 3 = [quote, quote, quote] then
        let more := ((cs.drop 3).take 2).takeWhile (· == quote)
        some (more, cs.drop (3 + more.length))
      else
        match cs with
        | [] => none
        | '\r' :: '\n' :: rest | '\n' :: rest => do
            let (more, after) ← readLines quote escapes fuel rest
            return ('\n' :: more, after)
        | c :: rest =>
            if escapes ∧ c = '\\' then
              match readBreak (skipSpaces rest) with
              | some rest => readLines quote escapes fuel (skipBlankLines rest)
              | none => do
                  let (d, rest) ← readEscape rest
                  let (more, after) ← readLines quote escapes fuel rest
                  return (d :: more, after)
            else if isPlain c then do
              let (more, after) ← readLines quote escapes fuel rest
              return (c :: more, after)
            else none

def readQuoted (quote : Char) (cs : List Char) : Option (String × List Char) :=
  let escapes := quote == '\x22'
  let reading :=
    if cs.take 3 = [quote, quote, quote] then
      let text := cs.drop 3
      readLines quote escapes (text.length + 1) ((readBreak text).getD text)
    else readString quote escapes cs.length (cs.drop 1)
  reading.map fun (text, after) => (String.ofList text, after)

/-- Whether a character may stand in a key without quotes. -/
def isKeyChar (c : Char) : Bool := c.isAlphanum || c == '_' || c == '-'

def readPart (cs : List Char) : Option (String × List Char) :=
  match cs with
  | [] => none
  | c :: rest =>
      if c = '\x22' ∨ c = '\x27' then
        (readString c (c == '\x22') cs.length rest).map fun (text, after) =>
          (String.ofList text, after)
      else
        let part := cs.takeWhile isKeyChar
        if part.isEmpty then none else some (String.ofList part, cs.dropWhile isKeyChar)

/-- The parts of a key, with dots between them. -/
def readParts : Nat → List Char → Option (List String × List Char)
  | 0, _ => none
  | fuel + 1, cs => do
      let (part, rest) ← readPart (skipSpaces cs)
      match skipSpaces rest with
      | '.' :: rest => do
          let (parts, after) ← readParts fuel rest
          return (part :: parts, after)
      | rest => return ([part], rest)

/-- How many levels deep lists, tables in braces and keys may not go. -/
def depthLimit : Nat := 80

/-- A key: the path to its table, its last part, and the text after it. -/
def readKey (cs : List Char) : Option (List String × String × List Char) := do
  let (parts, rest) ← readParts (cs.length + 1) cs
  if depthLimit ≤ parts.length then none
  let key ← parts.getLast?
  return (parts.dropLast, key, rest)

/-- The text after spaces, breaks and comments inside a list. Absent when a comment does not end
with a break. -/
def skipGap : Nat → List Char → Option (List Char)
  | 0, _ => none
  | fuel + 1, cs =>
      match skipSpaces cs with
      | '#' :: rest => (readBreak (skipComment ('#' :: rest))).bind (skipGap fuel)
      | '\n' :: rest => skipGap fuel rest
      | '\r' :: rest => (readBreak ('\r' :: rest)).bind (skipGap fuel)
      | rest => some rest

/-- A number, a date or a time. -/
def readNumeric (cs : List Char) : Option (Value × List Char) :=
  let unsigned := (Decimal.readSign cs).2
  if Moment.startsDate cs then
    (Moment.readFromDate cs).map fun (m, rest) => (.moment m, rest)
  else if Moment.startsTime cs then
    (Moment.readFromTime cs).map fun (m, rest) => (.moment m, rest)
  else if unsigned.head? = some 'i' ∨ unsigned.head? = some 'n' then
    (Number.readWord cs).map fun (x, rest) => (.real x, rest)
  else
    match Number.readWhole unsigned with
    | none => none
    | some (_, rest) =>
        if Number.hasPointOrExponent rest then
          (Number.readReal cs).map fun (x, rest) => (.real x, rest)
        else (Number.readInt cs).map fun (n, rest) => (.int n, rest)

def readWord (word : List Char) (value : Value) (cs : List Char) : Option (Value × List Char) :=
  if word.isPrefixOf cs then some (value, cs.drop word.length) else none

/-- Gives the keys of a table in braces their values. -/
def inlineTable (pairs : List (List String × String × Value)) : Option Members :=
  pairs.foldlM
    (fun members (path, key, value) => members.assign .inline .inline path key value)
    []

mutual

/-- A value inside `depth` lists and tables; `fuel` bounds the number of steps. -/
def readValue (fuel depth : Nat) (cs : List Char) : Option (Value × List Char) :=
  match fuel with
  | 0 => none
  | fuel + 1 =>
      match cs with
      | [] => none
      | c :: rest =>
          if c = '\x22' ∨ c = '\x27' then
            (readQuoted c cs).map fun (text, after) => (.text text, after)
          else if c = '[' then
            if depthLimit ≤ depth + 1 then none
            else
              (readItems fuel (depth + 1) rest).map fun (items, after) => (.list items, after)
          else if c = '\x7b' then
            if depthLimit ≤ depth + 1 then none
            else do
              let (pairs, after) ← readPairs fuel (depth + 1) true rest
              return (.table .inline (← inlineTable pairs), after)
          else if c = 't' then readWord ['t', 'r', 'u', 'e'] (.bool true) cs
          else if c = 'f' then readWord ['f', 'a', 'l', 's', 'e'] (.bool false) cs
          else readNumeric cs

/-- The items of a list after its bracket or a comma. -/
def readItems (fuel depth : Nat) (cs : List Char) : Option (List Value × List Char) :=
  match fuel with
  | 0 => none
  | fuel + 1 => do
      let cs ← skipGap (cs.length + 1) cs
      match cs with
      | ']' :: rest => return ([], rest)
      | cs => do
          let (item, rest) ← readValue fuel depth cs
          let rest ← skipGap (rest.length + 1) rest
          match rest with
          | ']' :: after => return ([item], after)
          | ',' :: rest => do
              let (items, after) ← readItems fuel depth rest
              return (item :: items, after)
          | _ => none

/-- The keys and values of a table after its brace or a comma. -/
def readPairs (fuel depth : Nat) (first : Bool) (cs : List Char) :
    Option (List (List String × String × Value) × List Char) :=
  match fuel with
  | 0 => none
  | fuel + 1 =>
      match first, skipSpaces cs with
      | true, '\x7d' :: rest => some ([], rest)
      | _, cs => do
          let (path, key, rest) ← readKey cs
          match rest with
          | '=' :: rest => do
              let (value, rest) ← readValue fuel depth (skipSpaces rest)
              match skipSpaces rest with
              | '\x7d' :: after => return ([(path, key, value)], after)
              | ',' :: rest => do
                  let (pairs, after) ← readPairs fuel depth false rest
                  return ((path, key, value) :: pairs, after)
              | _ => none
          | _ => none

end

/-- A line that begins with a header or a key. -/
def read (cs : List Char) : Option (Statement × List Char) :=
  match cs with
  | '[' :: '[' :: rest => do
      let (path, key, rest) ← readKey rest
      match rest with
      | ']' :: ']' :: rest => return (.listHeader path key, ← endLine rest)
      | _ => none
  | '[' :: rest => do
      let (path, key, rest) ← readKey rest
      match rest with
      | ']' :: rest => return (.header path key, ← endLine rest)
      | _ => none
  | cs => do
      let (path, key, rest) ← readKey cs
      match rest with
      | '=' :: rest => do
          let (value, rest) ← readValue (2 * rest.length + 2) 0 (skipSpaces rest)
          return (.assign path key value, ← endLine rest)
      | _ => none

def readAll : Nat → List Char → Option (List Statement)
  | 0, _ => none
  | fuel + 1, cs =>
      match skipSpaces cs with
      | [] => some []
      | cs =>
          if cs.head? = some '#' ∨ (readBreak cs).isSome then (endLine cs).bind (readAll fuel)
          else do
            let (statement, rest) ← read cs
            return statement :: (← readAll fuel rest)

end Statement

end DataQuality.Toml
