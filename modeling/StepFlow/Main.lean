import StepFlow.CommandLine.Run

/-! # The program

Loads the files that the arguments could name, runs the command line on them, and prints and writes
what comes out.
-/

namespace StepFlow.CommandLine

/-- The paths that an argument could hold: the whole of it, what follows an equals sign, and what
follows a short option. -/
def candidatePaths (argument : String) : List String :=
  let chars := argument.toList
  let value := (chars.dropWhile (· != '=')).drop 1
  [argument, String.ofList value, String.ofList (chars.drop 2)].filter (!·.isEmpty)

/-- The parts by which a path is looked up. -/
def placeOf (path : Path) : List String := if path.absolute then "/" :: path.parts else path.parts

/-- What stands at a path on the disk. -/
def loadEntry (path : String) : IO (Option Entry) := do
  try
    let bytes ← IO.FS.readBinFile path
    return some (.file bytes.toList)
  catch
    | .inappropriateType .. | .illegalOperation .. => return some .directory
    | _ => return none

/-- Adds what stands at a path, and the directories on the way there. -/
def addPath (files : Files) (path : String) : IO Files := do
  let place := placeOf (.ofText path)
  match ← loadEntry path with
  | some (.file bytes) =>
    return { files with
      files := (place, bytes) :: files.files
      directories := Files.directoriesOf place ++ files.directories }
  | some .directory => return { files with directories := place :: files.directories }
  | none =>
    let parent := Path.text { Path.ofText path with parts := (Path.ofText path).parts.dropLast }
    match ← loadEntry parent with
    | some .directory => return { files with directories := placeOf (.ofText parent) :: files.directories }
    | _ => return files

/-- The wording of a crash. -/
def Crash.message : Crash → String
  | .undecodable fault => fault.message
  | .reading (.numeral fault) => fault.message
  | .reading _ => "a record breaks its rules"
  | .generation fault => fault.message
  | .unwritable cause path => cause.message path

end StepFlow.CommandLine

open StepFlow.CommandLine in
/-- Runs the command line. -/
def main (arguments : List String) : IO UInt32 := do
  let files ← (arguments.flatMap candidatePaths).foldlM addPath {}
  let outcome := run files arguments
  (← IO.getStderr).putStr (streamText outcome.err)
  (← IO.getStdout).putStr (streamText outcome.out)
  for (path, text) in outcome.written do
    IO.FS.writeFile path text
  if let some crash := outcome.crash then
    (← IO.getStderr).putStr (crash.message ++ "\n")
  return UInt32.ofNat outcome.exitCode
