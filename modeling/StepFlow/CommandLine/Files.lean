import StepFlow.Text.Trim
import StepFlow.Text.Utf8

/-! # Files that commands work on

Paths are relative to a working directory. A path is looked up part by part, so that nothing is found
below a file. As a command shows it, a path has no empty parts and no parts that stay in place.
-/

namespace StepFlow.CommandLine

open Text

/-- What stands at a path. -/
inductive Entry where
  | file (bytes : List UInt8)
  | directory
  deriving Repr, DecidableEq

/-- The files below a working directory, by the parts of their paths. -/
structure Files where
  files : List (List String × List UInt8) := []
  directories : List (List String) := []
  deriving Repr

/-- A path as commands keep it. -/
structure Path where
  absolute : Bool
  parts : List String
  deriving Repr, DecidableEq

/-- Why a file cannot be written. -/
inductive WriteCause where
  | noDirectory
  | notDirectory
  | isDirectory
  deriving Repr, DecidableEq

/-- The parts of a path as it is given. -/
def rawParts (path : String) : List String := (splitAt '/' path.toList).map String.ofList

namespace Path

/-- Reads a path. -/
def ofText (path : String) : Path :=
  ⟨path.toList.head? == some '/', (rawParts path).filter fun part => part ≠ "" && part ≠ "."⟩

/-- A path as it is shown. -/
def text (path : Path) : String :=
  let joined := "/".intercalate path.parts
  if path.absolute then "/" ++ joined else if path.parts.isEmpty then "." else joined

/-- The last part of a path without its last suffix. A point at the start or the end makes none. -/
def stem (path : Path) : String :=
  let name := (path.parts.getLast?.getD "").toList
  let suffix := name.reverse.takeWhile (· != '.')
  let length := name.length - suffix.length - 1
  if suffix.length < name.length ∧ 0 < length ∧ 0 < suffix.length then String.ofList (name.take length)
  else String.ofList name

end Path

namespace Files

/-- Whether the parts lead to a directory: the working directory, those above it, and those given. -/
def isDirectory (files : Files) (parts : List String) : Bool :=
  parts.all (· == "..") || parts == ["/"] || files.directories.contains parts

/-- The file that the parts lead to. -/
def file? (files : Files) (parts : List String) : Option (List UInt8) := files.files.lookup parts

/-- The parts after one more part; nothing is found below what is no directory. -/
def step? (files : Files) (place : List String) (part : String) : Option (List String) :=
  if !files.isDirectory place then none
  else if part = "" ∨ part = "." then some place
  else if part = ".." then
    some (match place.getLast? with
      | none | some ".." => place ++ [".."]
      | some "/" => place
      | some _ => place.dropLast)
  else some (place ++ [part])

/-- Where parts lead from a place, one after another. -/
def walk? (files : Files) : List String → List String → Option (List String)
  | place, [] => some place
  | place, part :: rest => (files.step? place part).bind fun next => files.walk? next rest

/-- The start of a path and its parts. -/
def startOf (path : String) : List String × List String :=
  match rawParts path with
  | "" :: rest => (["/"], rest)
  | parts => ([], parts)

/-- What stands at a path. -/
def entry? (files : Files) (path : String) : Option Entry :=
  if path.isEmpty then none
  else
    let (start, parts) := startOf path
    (files.walk? start parts).bind fun reached =>
      if files.isDirectory reached then some .directory else (files.file? reached).map .file

/-- Why a file cannot be written at a path, if it cannot. -/
def writeCause? (files : Files) (path : Path) : Option WriteCause :=
  match files.entry? path.text with
  | some .directory => some .isDirectory
  | some (.file _) => none
  | none =>
    let parent : Path := { path with parts := path.parts.dropLast }
    match files.entry? parent.text with
    | some .directory => none
    | some (.file _) => some .notDirectory
    | none => some .noDirectory

/-- The directories on the way to a file. -/
def directoriesOf (parts : List String) : List (List String) :=
  (List.range parts.length).map fun count => parts.take count

/-- Files by their paths. -/
def ofList (named : List (String × List UInt8)) : Files :=
  let placed := named.map fun (path, bytes) => ((Path.ofText path).parts, bytes)
  { files := placed, directories := placed.flatMap fun (parts, _) => directoriesOf parts }

end Files

/-- The text of a file: its bytes as UTF-8, with line feeds for all line breaks. -/
def readText (bytes : List UInt8) : Except Utf8Fault String :=
  (fun chars => String.ofList (unifyBreaks chars)) <$> decodeUtf8 bytes

end StepFlow.CommandLine
