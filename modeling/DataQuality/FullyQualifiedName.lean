/-!
# Fully qualified names

The name of an entity preceded by the names of what it belongs to, joined by points. A part that
holds a point itself stands in quotes. Splitting drops every quote, so parts that hold quotes
are the only ones that do not survive being joined and split again.
-/

namespace DataQuality.FullyQualifiedName

/-- The quote around a part. -/
def quote : Char := '\x22'

def separator : Char := '.'

/-- The parts of a name. A separator between quotes belongs to its part. -/
def splitChars (quoted : Bool) : List Char → List (List Char)
  | [] => [[]]
  | c :: rest =>
      if c = quote then splitChars (!quoted) rest
      else if c = separator ∧ quoted = false then [] :: splitChars quoted rest
      else
        match splitChars quoted rest with
        | [] => [[c]]
        | first :: others => (c :: first) :: others

/-- The parts of a name as texts. -/
def split (name : String) : List String :=
  (splitChars false name.toList).map String.ofList

def writePart (part : List Char) : List Char :=
  if separator ∈ part then quote :: (part ++ [quote]) else part

/-- Parts with separators between them. -/
def joinChars : List (List Char) → List Char
  | [] => []
  | [part] => writePart part
  | part :: rest => writePart part ++ separator :: joinChars rest

def join (parts : List String) : String :=
  String.ofList (joinChars (parts.map String.toList))

/-- The service of a table: the first part of its name, if it is not empty. -/
def service? (name : String) : Option String :=
  match splitChars false name.toList with
  | (c :: first) :: _ => some (String.ofList (c :: first))
  | _ => none

end DataQuality.FullyQualifiedName
