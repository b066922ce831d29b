import DataQuality.Keyed

/-!
# Files

A directory tree, in which files are read, created and written by paths that start at its root or
at one directory of it. Paths are walked component by component, so that a missing directory, a
file in the place of a directory and a directory in the place of a file are told apart.
-/

namespace DataQuality

/-- Why a file could not be read or created. -/
inductive FileError where
  | notFound
  | isDirectory
  | notDirectory
  | nameTooLong
  /-- The path holds a character that no path may hold. -/
  | badPath
  | notText
  deriving DecidableEq, Repr

def FileError.message : FileError → String
  | .notFound => "No such file or directory (os error 2)"
  | .isDirectory => "Is a directory (os error 21)"
  | .notDirectory => "Not a directory (os error 20)"
  | .nameTooLong => "File name too long (os error 36)"
  | .badPath => "file name contained an unexpected NUL byte"
  | .notText => "stream did not contain valid UTF-8"

/-- What stands at a path. -/
inductive FileNode where
  | file (content : ByteArray)
  | directory

/-- A directory tree: its nodes under their paths, components joined by slashes. The root is not
among them. -/
structure Files where
  nodes : List (String × FileNode) := []
  /-- The place where paths start that do not start with a slash. -/
  home : List String := []

namespace Files

def components (path : String) : List String :=
  path.splitOn "/"

def nodeName (parts : List String) : String :=
  "/".intercalate parts

/-- What stands at a place given by its components. -/
def node? (files : Files) (parts : List String) : Option FileNode :=
  if parts = [] then some .directory else Keyed.find? (nodeName parts) files.nodes

/-- Puts a node at a place. -/
def put (files : Files) (parts : List String) (node : FileNode) : Files :=
  { files with nodes := Keyed.insert (nodeName parts) node files.nodes }

/-- Makes a directory at a place, and those on the way. -/
def makeDirectory (files : Files) (parts : List String) : Files :=
  (List.range parts.length).foldl
    (fun files n => files.put (parts.take (n + 1)) .directory) files

/-- A tree of nothing but the directory where paths start. -/
def startingAt (home : List String) : Files :=
  makeDirectory { home } home

/-- Walks from a place along components. The last component may be missing; everything before it
has to be a directory. -/
def walk (files : Files) (place : List String) : List String → Except FileError (List String)
  | [] => .ok place
  | part :: rest =>
      match files.node? place with
      | none => .error .notFound
      | some (.file _) => .error .notDirectory
      | some .directory =>
          if part.utf8ByteSize > 255 then .error .nameTooLong
          else if part = "" ∨ part = "." then walk files place rest
          else if part = ".." then walk files place.dropLast rest
          else walk files (place ++ [part]) rest

def resolve (files : Files) (path : String) : Except FileError (List String) :=
  if path.toList.any (fun c => c.toNat == 0) then .error .badPath
  else if path = "" then .error .notFound
  else if 4096 ≤ path.utf8ByteSize then .error .nameTooLong
  else
    walk files (if ['/'].isPrefixOf path.toList then [] else files.home) (components path)

/-- The places that a path passes if everything it names is there, without the root. -/
def passed (files : Files) (path : String) : List (List String) :=
  let start := if ['/'].isPrefixOf path.toList then [] else files.home
  go start (components path)
where
  /-- The places that components lead to, one after the other. -/
  go (place : List String) : List String → List (List String)
    | [] => []
    | part :: rest =>
        let next :=
          if part = "" ∨ part = "." then place
          else if part = ".." then place.dropLast
          else place ++ [part]
        (if next = [] then [] else [next]) ++ go next rest

def withoutSlashes (path : String) : String :=
  String.ofList (path.toList.reverse.dropWhile (· == '/')).reverse

def read (files : Files) (path : String) : Except FileError ByteArray :=
  match files.resolve path with
  | .error e => .error e
  | .ok place =>
      match files.node? place with
      | none => .error .notFound
      | some .directory => .error .isDirectory
      | some (.file content) => .ok content

def readText (files : Files) (path : String) : Except FileError String :=
  match files.read path with
  | .error e => .error e
  | .ok content =>
      match String.fromUTF8? content with
      | some text => .ok text
      | none => .error .notText

/-- Creates an empty file, or empties the one that is there, and gives its place. A path that
ends in a slash can only be that of a directory. -/
def create (files : Files) (path : String) : Except FileError (List String × Files) :=
  match files.resolve (if withoutSlashes path = "" then path else withoutSlashes path) with
  | .error e => .error e
  | .ok place =>
      if withoutSlashes path ≠ path then .error .isDirectory
      else
        match files.node? place with
        | some .directory => .error .isDirectory
        | _ => .ok (place, files.put place (.file ByteArray.empty))

/-- Adds bytes at the end of the file at a place. -/
def append (files : Files) (place : List String) (content : ByteArray) : Files :=
  match files.node? place with
  | some (.file before) => files.put place (.file (before ++ content))
  | _ => files

/-- Writes a file, making the directories on the way. -/
def write (files : Files) (path : String) (content : ByteArray) : Files :=
  let parts := files.home ++ (components path).filter fun part => part != "" && part != "."
  (files.makeDirectory parts.dropLast).put parts (.file content)

/-- The file name at the end of a path: its last component, if that names something. -/
def fileName? (path : String) : Option String :=
  match ((components path).filter fun part => part != "" && part != ".").getLast? with
  | some ".." => none
  | other => other

/-- The part of a file name after its last point. A point at the start does not count. -/
def extension? (path : String) : Option String :=
  match fileName? path with
  | none => none
  | some name =>
      let cs := name.toList
      let after := (cs.reverse.takeWhile (· != '.')).reverse
      if after.length + 1 < cs.length then some (String.ofList after) else none

end Files

end DataQuality
