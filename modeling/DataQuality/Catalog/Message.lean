import DataQuality.Catalog.Exchange
import DataQuality.Json.Writer
import DataQuality.Text.Basic

/-!
# Messages

Requests and answers as bytes on a connection that serves one exchange. A request says how long
its document is and that nothing follows it. An answer is all that the server sent: a status, some
headers, and a body whose end the headers tell, or which goes on to the end. An answer that breaks
off before its body, or is none, is a connection that ended without one; a body that breaks off
counts as empty.
-/

namespace DataQuality

/-- A byte sequence on a connection. -/
abbrev Bytes := List UInt8

def lineEnd : String := "\r\n"

namespace HttpRequest

/-- The host, and the port where it is not that of the scheme. -/
def authority (request : HttpRequest) : String :=
  match request.url.port with
  | some port => s!"{String.ofList request.url.host}:{port}"
  | none => String.ofList request.url.host

/-- The lines before the document. -/
def head (request : HttpRequest) (bodySize : Option Nat) : List String :=
  [s!"{request.method.name} {request.target} HTTP/1.1", s!"host: {request.authority}",
      "accept: */*", "connection: close"] ++
    (request.authorization.map fun value => s!"authorization: {value}").toList ++
    match bodySize with
    | some size => ["content-type: application/json", s!"content-length: {size}"]
    | none => []

def message (request : HttpRequest) : String :=
  let body := request.body.map Json.render
  String.join ((request.head (body.map (·.utf8ByteSize))).map fun line => line ++ lineEnd) ++
    lineEnd ++ body.getD ""

end HttpRequest

namespace HttpAnswer

/-- The bytes before the first end of a line, and those after it. -/
def splitLine? : Bytes → Option (Bytes × Bytes)
  | 13 :: 10 :: rest => some ([], rest)
  | byte :: rest => (splitLine? rest).map fun (line, after) => (byte :: line, after)
  | [] => none

theorem length_lt_of_splitLine? {bytes line after : Bytes}
    (h : splitLine? bytes = some (line, after)) : after.length < bytes.length := by
  fun_induction splitLine? bytes generalizing line after with
  | case1 rest =>
      simp only [Option.some.injEq, Prod.mk.injEq] at h
      rw [← h.2, List.length_cons, List.length_cons]
      omega
  | case2 byte rest _ ih =>
      obtain ⟨⟨line', after'⟩, hsplit, heq⟩ := Option.map_eq_some_iff.1 h
      simp only [Prod.mk.injEq] at heq
      have := ih hsplit
      rw [← heq.2, List.length_cons]
      omega
  | case3 => simp at h

/-- Bytes as characters with the same numbers. -/
def latinText (bytes : Bytes) : String :=
  String.ofList (bytes.map fun byte => Char.ofNat byte.toNat)

/-- The lines up to the first empty one, and the bytes after it. -/
def splitHead? (bytes : Bytes) : Option (List String × Bytes) :=
  match h : splitLine? bytes with
  | none => none
  | some ([], rest) => some ([], rest)
  | some (line, rest) =>
      have := length_lt_of_splitLine? h
      (splitHead? rest).map fun (lines, body) => (latinText line :: lines, body)
termination_by bytes.length

def number? (text : String) : Option Nat :=
  if text.toList.all Char.isDigit then text.toNat? else none

/-- The status that the first line of an answer tells. -/
def status? (line : String) : Option Nat :=
  match line.splitOn " " with
  | version :: status :: _ =>
      if "HTTP/1.".toList.isPrefixOf version.toList ∧ status.length = 3 then number? status
      else none
  | _ => none

/-- The name and the value of a header, the name in lower case. -/
def header (line : String) : String × String :=
  let cs := line.toList
  let name := cs.takeWhile (· != ':')
  let blank (c : Char) : Bool := c == ' ' || c == '\t'
  let value := (((cs.drop (name.length + 1)).dropWhile blank).reverse.dropWhile blank).reverse
  (String.ofList (name.map Char.toLower), String.ofList value)

/-- The size that starts a chunk: hexadecimal digits, after which a semicolon may come. -/
def chunkSize? (line : Bytes) : Option Nat :=
  match (latinText line).toList.takeWhile fun c => c != ';' && c != ' ' with
  | [] => none
  | digits => Text.hexNumber? 0 digits

/-- The bytes of chunks, each of which tells its size; the last one is empty. -/
def joinChunks? (bytes : Bytes) : Option Bytes :=
  match h : splitLine? bytes with
  | none => none
  | some (line, rest) =>
      match chunkSize? line with
      | none => none
      | some 0 => some []
      | some size =>
          have := length_lt_of_splitLine? h
          if rest.length < size + 2 then none
          else (joinChunks? (rest.drop (size + 2))).map fun more => rest.take size ++ more
termination_by bytes.length
decreasing_by simp; omega

/-- The body behind the headers, empty if it is not all there; absent when the headers tell no
size where they should. -/
def bodyAfter? (headers : List (String × String)) (rest : Bytes) : Option Bytes :=
  match headers.lookup "transfer-encoding" with
  | some _ => some ((joinChunks? rest).getD [])
  | none =>
      match headers.lookup "content-length" with
      | none => some rest
      | some value =>
          (number? value).map fun size => if rest.length < size then [] else rest.take size

/-- The status and the body of an answer whose headers are all there. -/
def parts? (bytes : Bytes) : Option (Nat × Bytes) := do
  let (lines, rest) ← splitHead? bytes
  match lines with
  | [] => none
  | first :: others =>
      let status ← status? first
      let body ← bodyAfter? (others.map header) rest
      return (status, body)

/-- The answer in the bytes that a server sent. A body that is no text counts as empty. -/
def ofBytes (bytes : Bytes) : HttpAnswer :=
  match parts? bytes with
  | some (status, body) => .respond status ((String.fromUTF8? ⟨body.toArray⟩).getD "")
  | none => .drop

end HttpAnswer

end DataQuality
