import DataQuality.Text.Basic

/-!
# Entity links

An entity link points a test case at a table, or at one column of it:
`<#E::table::service.database.schema.table::columns::amount>`. There are two readers. `parse`
accepts exactly the texts of this form, blanks around them apart. `tableOf?` and `columnOf?` cut
any text at `::` and take what stands in the places of table and column.
-/

namespace DataQuality

/-- A link to a table or to a column of it. -/
structure EntityLink where
  entityType : String
  table : String
  column : Option String
  deriving DecidableEq, Repr

/-- Why a text is not a link. -/
inductive EntityLinkError where
  | malformed (link : String)
  /-- The link has the right form but narrows the table by something other than a column. -/
  | unsupportedField (link field : String)
  deriving DecidableEq, Repr

def EntityLinkError.message : EntityLinkError → String
  | .malformed link => s!"Malformed entity link: {link}"
  | .unsupportedField link field => s!"Unsupported entity link field '{field}' in {link}"

namespace EntityLink

def ofTable (table : String) : EntityLink := ⟨"table", table, none⟩

def ofColumn (table column : String) : EntityLink := ⟨"table", table, some column⟩

/-- The word before the name of a column. -/
def columnsField : List Char := ['c', 'o', 'l', 'u', 'm', 'n', 's']

/-- The characters of a link's text. -/
def write (link : EntityLink) : List Char :=
  ['<', '#', 'E', ':', ':'] ++ link.entityType.toList ++ ':' :: ':' :: link.table.toList ++
    (match link.column with
      | some column => ':' :: ':' :: columnsField ++ ':' :: ':' :: column.toList
      | none => []) ++
    ['>']

def render (link : EntityLink) : String :=
  String.ofList link.write

def isLetter (c : Char) : Bool :=
  ('A' ≤ c && c ≤ 'Z') || ('a' ≤ c && c ≤ 'z')

/-- The characters of table and column names. -/
def isNameChar (c : Char) : Bool :=
  c != ':' && c != '<' && c != '>'

/-- A nonempty run of characters of a class, and the characters after it. -/
def run? (p : Char → Bool) (cs : List Char) : Option (List Char × List Char) :=
  match cs.takeWhile p with
  | [] => none
  | first :: rest => some (first :: rest, cs.dropWhile p)

def afterColons? : List Char → Option (List Char)
  | ':' :: ':' :: rest => some rest
  | _ => none

/-- The parts of a text that has the form of a link: entity type, table and, if it is narrowed,
the field and the name in it. -/
structure Parts where
  entityType : List Char
  table : List Char
  narrowed : Option (List Char × List Char)
  deriving DecidableEq, Repr

/-- Takes a text of the form of a link apart. -/
def parts? : List Char → Option Parts
  | '<' :: '#' :: 'E' :: ':' :: ':' :: rest => do
      let (entityType, rest) ← run? isLetter rest
      let rest ← afterColons? rest
      let (table, rest) ← run? isNameChar rest
      if rest = ['>'] then return ⟨entityType, table, none⟩
      let rest ← afterColons? rest
      let (field, rest) ← run? isLetter rest
      let rest ← afterColons? rest
      let (column, rest) ← run? isNameChar rest
      if rest = ['>'] then return ⟨entityType, table, some (field, column)⟩
      none
  | _ => none

/-- Reads a link; blanks around it do not count. -/
def parse (s : String) : Except EntityLinkError EntityLink :=
  match parts? (Text.trimChars s.toList) with
  | none => .error (.malformed s)
  | some ⟨entityType, table, none⟩ =>
      .ok ⟨String.ofList entityType, String.ofList table, none⟩
  | some ⟨entityType, table, some (field, column)⟩ =>
      if field = columnsField then
        .ok ⟨String.ofList entityType, String.ofList table, some (String.ofList column)⟩
      else .error (.unsupportedField s (String.ofList field))

/-- The segments of a text between `::`, taken from the left. -/
def segments : List Char → List (List Char)
  | [] => [[]]
  | ':' :: ':' :: rest => [] :: segments rest
  | c :: rest =>
      match segments rest with
      | [] => [[c]]
      | first :: others => (c :: first) :: others

def withoutBracket (cs : List Char) : List Char :=
  cs.filter (· != '>')

/-- The table that any text of segments names, in its third segment. -/
def tableOf? (link : String) : Option String :=
  match (segments link.toList)[2]? with
  | none => none
  | some segment =>
      match withoutBracket segment with
      | [] => none
      | name => some (String.ofList name)

/-- The column that any text of segments names, in its fifth segment after the word `columns`. -/
def columnOf? (link : String) : Option String :=
  match (segments link.toList).drop 3 with
  | field :: column :: _ =>
      if field = columnsField then some (String.ofList (withoutBracket column)) else none
  | _ => none

end EntityLink

end DataQuality
