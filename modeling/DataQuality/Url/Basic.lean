import DataQuality.Url.Address
import DataQuality.Url.Domain
import DataQuality.Url.Percent

/-!
# Addresses

The addresses of an interface that is reached over the network: scheme, user, host, port, path,
query and fragment. `parse?` reads one as browsers do, forgiving much: spaces and control characters
at the ends do not count, nor do tabs and line breaks anywhere, backslashes count as slashes, and
dots in the path are resolved. `join` and `extend` go down from an address to what lies below it.
-/

namespace DataQuality

open Url

/-- Why a text is not an address. -/
inductive UrlError where
  | emptyHost
  | invalidPort
  | invalidIpv4
  | invalidIpv6
  | invalidDomain
  deriving DecidableEq, Repr

def UrlError.message : UrlError → String
  | .emptyHost => "empty host"
  | .invalidPort => "invalid port number"
  | .invalidIpv4 => "invalid IPv4 address"
  | .invalidIpv6 => "invalid IPv6 address"
  | .invalidDomain => "invalid international domain name"

/-- An address. All parts are kept as they are written, with percent signs. -/
structure Url where
  secure : Bool
  user : List Char
  host : List Char
  port : Option Nat
  path : List (List Char)
  query : Option (List Char)
  fragment : Option (List Char)
  deriving DecidableEq, Repr

namespace Url

/-- Whether a character separates the segments of a path. -/
def isSlash (c : Char) : Bool := c == '/' || c == '\\'

/-- Whether a character ends the part before the path. -/
def endsAuthority (c : Char) : Bool := isSlash c || c == '?' || c == '#'

/-- The characters that count in an address. -/
def significant (cs : List Char) : List Char :=
  cs.filter fun c => c != '\t' && c != '\n' && c != '\r'

/-- User name and password as they are written: a colon only before a password that is not
empty. -/
def userText (cs : List Char) : List Char :=
  let name := cs.takeWhile (· != ':')
  let password := (cs.dropWhile (· != ':')).drop 1
  percentEncode inUserInfo name ++
    if password.isEmpty then [] else ':' :: percentEncode inUserInfo password

/-- The text before the last separator and the text after it, if there is one. -/
def splitLast? (separator : Char) (cs : List Char) : Option (List Char × List Char) :=
  let after := (cs.reverse.takeWhile (· != separator)).reverse
  if after.length = cs.length then none
  else some (cs.take (cs.length - after.length - 1), after)

/-- The characters of a host up to the colon before a port; a colon in brackets does not end
it. -/
def hostLength (bracketed : Bool) : List Char → Nat
  | [] => 0
  | c :: rest =>
      if c = ':' ∧ bracketed = false then 0
      else 1 + hostLength (c == '[' || (bracketed && c != ']')) rest

/-- The written form of a host. -/
def parseHost (cs : List Char) : Except UrlError (List Char) :=
  match cs with
  | [] => .error .emptyHost
  | '[' :: rest =>
      if rest.getLast? = some ']' then
        match ipv6? rest.dropLast with
        | some numbers => .ok (ipv6Text numbers)
        | none => .error .invalidIpv6
      else .error .invalidIpv6
  | _ =>
      match (decodeUtf8? (percentDecode cs)).bind domainToAscii? with
      | none => .error .invalidDomain
      | some domain =>
          if domain.isEmpty then .error .emptyHost
          else if endsInNumber domain then
            match ipv4? domain with
            | some n => .ok (ipv4Text n)
            | none => .error .invalidIpv4
          else .ok domain

/-- The port that a scheme has when none is written. -/
def defaultPort (secure : Bool) : Nat := if secure then 443 else 80

/-- What stands after a host: nothing, or a colon and the digits of a port. -/
def parsePort (secure : Bool) : List Char → Except UrlError (Option Nat)
  | [] => .ok none
  | _ :: digits =>
      if digits.all Char.isDigit then
        let port := digits.foldl (fun n c => 10 * n + (c.toNat - 48)) 0
        if 65535 < port then .error .invalidPort
        else .ok (if digits.isEmpty ∨ port = defaultPort secure then none else some port)
      else .error .invalidPort

/-- Whether a segment stands for the one it is in. -/
def isSingleDot (segment : List Char) : Bool :=
  let lower := segment.map Char.toLower
  lower == ['.'] || lower == ['%', '2', 'e']

/-- Whether a segment stands for the one above. -/
def isDoubleDot (segment : List Char) : Bool :=
  let lower := segment.map Char.toLower
  lower == ['.', '.'] || lower == ['.', '%', '2', 'e'] || lower == ['%', '2', 'e', '.'] ||
    lower == ['%', '2', 'e', '%', '2', 'e']

/-- Adds segments to a path, resolving dots. The last segment stays, empty, when it is made of
dots. -/
def addSegments (path : List (List Char)) : List (List Char) → List (List Char)
  | [] => path
  | segment :: rest =>
      let isLast := rest.isEmpty
      if isDoubleDot segment then
        addSegments (path.dropLast ++ if isLast then [[]] else []) rest
      else if isSingleDot segment then addSegments (path ++ if isLast then [[]] else []) rest
      else addSegments (path ++ [segment]) rest

/-- The segments of a path that may start with a slash. -/
def parsePath (cs : List Char) : List (List Char) :=
  let unified := cs.map fun c => if c = '\\' then '/' else c
  let body :=
    match unified with
    | '/' :: rest => rest
    | _ => unified
  addSegments [] ((splitAt '/' body).map (percentEncode inPath))

def after? (mark : Char) (cs : List Char) : Option (List Char) :=
  match cs.dropWhile (· != mark) with
  | [] => none
  | _ :: rest => some rest

/-- Reads what follows the scheme and its colon. -/
def parseRest (secure : Bool) (cs : List Char) : Except UrlError Url := do
  let cs := (significant cs).dropWhile isSlash
  let authority := cs.takeWhile fun c => !endsAuthority c
  let rest := cs.dropWhile fun c => !endsAuthority c
  let (user, hostAndPort) := (splitLast? '@' authority).getD ([], authority)
  let length := hostLength false hostAndPort
  let host ← parseHost (hostAndPort.take length)
  let port ← parsePort secure (hostAndPort.drop length)
  let beforeFragment := rest.takeWhile (· != '#')
  return {
    secure
    user := userText user
    host
    port
    path := parsePath (beforeFragment.takeWhile (· != '?'))
    query := (after? '?' beforeFragment).map (percentEncode inQuery)
    fragment := (after? '#' rest).map (percentEncode inFragment) }

/-- Reads an address with one of the two schemes, in lower case, from its first character to its
last. -/
def read? (cs : List Char) : Option (Except UrlError Url) :=
  match cs with
  | 'h' :: 't' :: 't' :: 'p' :: ':' :: rest => some (parseRest false rest)
  | 'h' :: 't' :: 't' :: 'p' :: 's' :: ':' :: rest => some (parseRest true rest)
  | _ => none

/-- Whether a character does not count at the ends of an address: a space or a control
character. -/
def isMargin (c : Char) : Bool := c.toNat ≤ 32

/-- A text without what does not count at its ends. -/
def trimMargins (cs : List Char) : List Char :=
  ((cs.dropWhile isMargin).reverse.dropWhile isMargin).reverse

/-- Reads an address. -/
def parse? (cs : List Char) : Option (Except UrlError Url) :=
  read? (trimMargins cs)

/-- The path as it is written, with a slash before every segment. -/
def pathText (path : List (List Char)) : List Char :=
  path.flatMap fun segment => '/' :: segment

/-- The scheme, user, host and port of an address. -/
def originText (url : Url) : List Char :=
  "http".toList ++ (if url.secure then ['s'] else []) ++ [':', '/', '/'] ++
    (if url.user.isEmpty then [] else url.user ++ ['@']) ++ url.host ++
    (match url.port with
      | some port => ':' :: decimal port
      | none => [])

/-- The name and password in an address, with a colon between them; none if it has neither. A
name that is no text counts as none, a password that is no text as an empty one. -/
def credentials? (url : Url) : Option (List Char) :=
  if url.user.isEmpty then none
  else
    let name := url.user.takeWhile (· != ':')
    let password := (url.user.dropWhile (· != ':')).drop 1
    (decodeUtf8? (percentDecode name)).map fun name =>
      name ++ ':' :: (decodeUtf8? (percentDecode password)).getD []

/-- The path and query of an address, as a request names them. -/
def target (url : Url) : List Char :=
  pathText url.path ++
    match url.query with
    | some query => '?' :: query
    | none => []

/-- The text of an address. -/
def render (url : Url) : String :=
  String.ofList
    (url.originText ++ url.target ++
      match url.fragment with
      | some fragment => '#' :: fragment
      | none => [])

/-- The address of a collection: its segments in place of the last segment of the path. -/
def join (url : Url) (segments : List String) : Url :=
  { url with
    path := url.path.dropLast ++ segments.map String.toList
    query := none
    fragment := none }

/-- Adds one segment to a path. A segment of one or two dots is left out, since it would stand
for another one; tabs and line breaks do not count. -/
def addSegment (path : List (List Char)) (segment : String) : List (List Char) :=
  let cs := segment.toList
  if cs = ['.'] ∨ cs = ['.', '.'] then path
  else addSegments path [percentEncode inSegment (significant cs)]

/-- The address of something below another one. -/
def extend (url : Url) (segments : List String) : Url :=
  { url with path := segments.foldl addSegment url.path }

/-- The address with a query made of names and values. -/
def withQuery (url : Url) (pairs : List (String × String)) : Url :=
  { url with query := some (formPairs pairs) }

end Url

end DataQuality
