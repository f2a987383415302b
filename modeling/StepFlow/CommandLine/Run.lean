import StepFlow.CommandLine.Arguments
import StepFlow.CommandLine.Log
import StepFlow.Json.Printer
import StepFlow.Session

/-! # The commands

`check` reads and checks files together, so that references between them resolve. `compile` turns a
file into XML, `normalize` prints a file in canonical layout, and `rules` prints the default rules. A
command is a function from the files and the arguments to what is printed and written.
-/

namespace StepFlow.CommandLine

open Text

/-- Why a command breaks off without a message of its own. -/
inductive Crash where
  | undecodable (fault : Utf8Fault)
  | reading (fault : ReadFault)
  | generation (fault : Netlist.GenerationFault)
  | unwritable (cause : WriteCause) (path : String)
  deriving Repr, DecidableEq

/-- What a command has printed, as lines, and written, by path. -/
structure Console where
  verbose : Bool := false
  out : List String := []
  err : List String := []
  written : List (String × String) := []
  deriving Repr, DecidableEq

/-- How a command stops early. -/
inductive Stop where
  | exit (code : Nat)
  | crash (crash : Crash)
  deriving Repr, DecidableEq

/-- The result of a command line. -/
structure Outcome where
  exitCode : Nat
  out : List String
  err : List String
  written : List (String × String)
  crash : Option Crash
  deriving Repr, DecidableEq

/-- A command at work. -/
abbrev Action := ExceptT Stop (StateM Console)

/-- The wording of a cause for which a file is not written. -/
def WriteCause.message (path : String) : WriteCause → String
  | .noDirectory => s!"[Errno 2] No such file or directory: {quoted path}"
  | .notDirectory => s!"[Errno 20] Not a directory: {quoted path}"
  | .isDirectory => s!"[Errno 21] Is a directory: {quoted path}"

namespace Action

/-- Prints a line. -/
def print (line : String) : Action Unit :=
  modify fun console => { console with out := console.out ++ [line] }

/-- Prints a line on the error stream. -/
def complain (line : String) : Action Unit :=
  modify fun console => { console with err := console.err ++ [line] }

/-- Prints lines on the error stream. -/
def complainAll (lines : List String) : Action Unit :=
  modify fun console => { console with err := console.err ++ lines }

/-- Writes records to the log. -/
def log (records : List LogRecord) : Action Unit := do
  let verbose := (← get).verbose
  complainAll (records.filterMap (LogRecord.line? verbose))

/-- Stops with a code. -/
def exit {α : Type} (code : Nat) : Action α := throw (.exit code)

/-- Breaks off. -/
def crash {α : Type} (cause : Crash) : Action α := throw (.crash cause)

/-- The text of a file that exists. -/
def readFile (files : Files) (path : Path) : Action String :=
  match files.entry? path.text with
  | some (.file bytes) =>
    match readText bytes with
    | .ok text => return text
    | .error fault => crash (.undecodable fault)
  | _ => crash (.unwritable .noDirectory path.text)

/-- Writes a file. -/
def writeFile (files : Files) (path : Path) (text : String) : Action Unit :=
  match files.writeCause? path with
  | some cause => crash (.unwritable cause path.text)
  | none => modify fun console => { console with written := console.written ++ [(path.text, text)] }

end Action

open Action

/-- The options of commands that read and check programs. -/
def ruleOptions : List OptionSpec :=
  [{ name := "--source", value := some (.choice (SourceKind.all.map SourceKind.word)) },
    { name := "--syntax-rules", value := some .inputFile },
    { name := "--validation-rules", value := some .inputFile },
    { name := "--strict-xrefs" }, { name := "--verbose", short := some 'v' }]

/-- Checks files. -/
def checkSpec : CommandSpec := { name := "check", operands := .many, options := ruleOptions }

/-- Compiles a file. -/
def compileSpec : CommandSpec :=
  { name := "compile", operands := .one
    options :=
      [{ name := "--output", short := some 'o', value := some .outputFile },
        { name := "--legacy-ids" }, { name := "--instance-db" }, { name := "--compact" },
        { name := "--allow-errors" }] ++ ruleOptions }

/-- Prints a file in canonical layout. -/
def normalizeSpec : CommandSpec :=
  { name := "normalize", operands := .one
    options :=
      [{ name := "--source", value := some (.choice (SourceKind.all.map SourceKind.word)) },
        { name := "--syntax-rules", value := some .inputFile }] }

/-- Prints default rules. -/
def rulesSpec : CommandSpec :=
  { name := "rules", operands := .none, options := [{ name := "--syntax" }, { name := "--validation" }] }

/-- The options before the name of a command. -/
def programSpec : CommandSpec := { name := "", operands := .none, options := [{ name := "--version" }] }

/-- All commands. -/
def commands : List CommandSpec := [checkSpec, compileSpec, normalizeSpec, rulesSpec]

/-- The name under which the program is called, with that of a command. -/
def CommandSpec.call (spec : CommandSpec) : String :=
  if spec.name.isEmpty then "cli" else s!"cli {spec.name}"

/-- What follows the name of a command in its usage. -/
def CommandSpec.usageTail (spec : CommandSpec) : String :=
  if spec.name.isEmpty then "[OPTIONS] COMMAND [ARGS]..."
  else if spec.operands = .none then "[OPTIONS]"
  else s!"[OPTIONS] {spec.operands.word}"

/-- Reports a usage fault and stops. -/
def refuse {α : Type} (spec : CommandSpec) (fault : UsageFault) : Action α := do
  if fault.showsUsage then
    complainAll [s!"Usage: {spec.call} {spec.usageTail}", s!"Try '{spec.call} --help' for help.", ""]
  complain s!"Error: {fault.message}"
  exit 2

/-- The origin of texts that the options name. -/
def sourceOption (arguments : Arguments) : SourceKind :=
  ((arguments.value? "--source").bind SourceKind.ofWord?).getD .directEntry

/-- Reads a file of rules; a faulty one stops the command. -/
def loadRules {α : Type} (files : Files) (path : String) (model : String) (read : Json → Checked α) :
    Action α := do
  let text ← readFile files (.ofText path)
  match Schema.ofText read text with
  | .valid rules => return rules
  | .faulty faults =>
    let noun := if faults.length = 1 then "error" else "errors"
    complain s!"Error: invalid rules file: {faults.length} validation {noun} for {model}"
    exit 1

/-- The dialect that the options name. -/
def dialectOption (files : Files) (arguments : Arguments) : Action Dialect :=
  match arguments.value? "--syntax-rules" with
  | none => return {}
  | some path => loadRules files path "SyntaxRules" Dialect.ofJson

/-- The rules for checking that the options name. -/
def rulesOption (files : Files) (arguments : Arguments) : Action CheckRules := do
  let rules ← match arguments.value? "--validation-rules" with
    | none => pure {}
    | some path => loadRules files path "ValidationRules" CheckRules.ofJson
  return if arguments.has "--strict-xrefs" then
      { rules with references := { rules.references with mode := .strict } }
    else rules

/-- What is known about a program from the path of its file. -/
def fileMetadata (path : Path) : Metadata := { fields := [("name", .str path.stem)] }

/-- Analyzes the text of a file, with its log. -/
def analyzeFile (setup : Setup) (source : SourceKind) (path : Path) (text : String) :
    Action Analysis := do
  let result := analyze setup source (fileMetadata path) text
  log (analysisRecords setup.dialect source text result)
  match result with
  | .ok analysis => return analysis
  | .error stopped => crash (.reading stopped.fault)

/-- The lines on the diagnostics of a file. -/
def diagnosticLines (label : String) (program : Program) : List String :=
  (program.errors.map fun diagnostic => s!"{label}: error: {diagnostic.render}") ++
    program.warnings.map fun diagnostic => s!"{label}: warning: {diagnostic.render}"

/-- The line on the counts of a file. -/
def statisticsLine (label : String) (program : Program) : String :=
  let name := if program.name.isEmpty then "?" else program.name
  let counts := program.statistics
  s!"{label}: {name}: {counts.totalSteps} steps, {counts.totalConditions} conditions, " ++
    s!"{counts.totalVariables} variables, {program.errors.length} errors, " ++
    s!"{program.warnings.length} warnings"

/-- The line on the counts of several files. -/
def totalLine (summary : Summary) : String :=
  s!"total: {summary.programs} programs, {summary.steps} steps, {summary.errors} errors, " ++
    s!"{summary.warnings} warnings"

/-- Checks one file against a registry and reports on it. -/
def reportFile (setup : Setup) (source : SourceKind) (file : Path × String) : Action Program := do
  let (path, text) := file
  let analysis ← analyzeFile setup source path text
  complainAll (diagnosticLines path.text analysis.program)
  print (statisticsLine path.text analysis.program)
  return analysis.program

/-- The `check` command. A file given twice is checked once. -/
def runCheck (files : Files) (arguments : Arguments) : Action Unit := do
  let source := sourceOption arguments
  let dialect ← dialectOption files arguments
  let rules ← rulesOption files arguments
  let paths := (arguments.operands.map Path.ofText).eraseDups
  let texts ← paths.mapM fun path => return (path, ← readFile files path)
  let first ← texts.mapM fun (path, text) => analyzeFile { dialect } source path text
  let registry := Registry.ofEntries (first.map fun analysis => .ofProgram analysis.program)
  let programs ← texts.mapM (reportFile { dialect, rules, registry } source)
  if 1 < programs.length then print (totalLine (summarize programs))
  if programs.any (!·.errors.isEmpty) then exit 1

/-- Reports why a file does not become XML, and stops. -/
def refuseFile {α : Type} (path : Path) (fault : Netlist.GenerationFault) : Action α :=
  match fault with
  | .port _ | .wiring _ => crash (.generation fault)
  | _ => do
    complain s!"{path.text}: {fault.message}"
    exit 1

/-- The `compile` command. -/
def runCompile (files : Files) (arguments : Arguments) : Action Unit := do
  let source := sourceOption arguments
  let dialect ← dialectOption files arguments
  let rules ← rulesOption files arguments
  let path := Path.ofText (arguments.operands.head?.getD "")
  let text ← readFile files path
  let analysis ← analyzeFile { dialect, rules } source path text
  if let .error fault := analysis.gate (arguments.has "--allow-errors") then refuseFile path fault
  let options : Netlist.GeneratorOptions :=
    { scheme := if arguments.has "--legacy-ids" then .bands else .monotonic
      includeInstance := arguments.has "--instance-db" }
  let result := Netlist.Document.ofProgram options analysis.program
  log (generationRecords analysis.program result)
  match result with
  | .error fault => refuseFile path fault
  | .ok document =>
    let xml := document.render (!arguments.has "--compact")
    complainAll (diagnosticLines path.text analysis.program)
    match arguments.value? "--output" with
    | none => print xml
    | some output =>
      let output := Path.ofText output
      writeFile files output xml
      complain s!"Wrote {output.text}"

/-- The `normalize` command. -/
def runNormalize (files : Files) (arguments : Arguments) : Action Unit := do
  let dialect ← dialectOption files arguments
  let text ← readFile files (.ofText (arguments.operands.head?.getD ""))
  print (normalize dialect (sourceOption arguments) text)

/-- Whether the last of the options for rules asks for those of checks. -/
def wantsCheckRules (arguments : Arguments) : Bool :=
  match arguments.given.getLast? with
  | some given => given.option.name == "--validation"
  | none => false

/-- The `rules` command. -/
def runRules (arguments : Arguments) : Action Unit :=
  let rules := if wantsCheckRules arguments then ({} : CheckRules).toJson else ({} : Dialect).toJson
  print (rules.indented "")

/-- Runs a command with arguments that are in order. -/
def runCommand (files : Files) (spec : CommandSpec) (arguments : Arguments) : Action Unit := do
  if arguments.has "--verbose" then modify fun console => { console with verbose := true }
  match spec.name with
  | "check" => runCheck files arguments
  | "compile" => runCompile files arguments
  | "normalize" => runNormalize files arguments
  | _ => runRules arguments

/-- Finds the command that a line names and runs it. Options before its name belong to the program. -/
def runLine (files : Files) : List String → Action Unit
  | [] => refuse programSpec .missingCommand
  | name :: rest =>
    if name = "--" then runNamed rest
    else if isDashed name then
      match dashArgument programSpec name.toList with
      | .error fault => refuse programSpec fault
      | .ok _ => exit 0
    else runNamed (name :: rest)
where
  /-- Runs the command named first. -/
  runNamed : List String → Action Unit
    | [] => refuse programSpec .missingCommand
    | name :: rest =>
      match commands.find? (·.name == name) with
      | none =>
        refuse programSpec (.noSuchCommand name (similarNames name (commands.map CommandSpec.name)))
      | some spec =>
        match readArguments spec rest with
        | .error fault => refuse spec fault
        | .ok arguments =>
          if arguments.has "--help" then exit 0
          else match argumentFault? files spec arguments with
            | some fault => refuse spec fault
            | none => runCommand files spec arguments

/-- Runs a command line. -/
def run (files : Files) (arguments : List String) : Outcome :=
  let (result, console) := (runLine files arguments).run.run {}
  let (exitCode, crash) := match result with
    | .ok () => (0, none)
    | .error (.exit code) => (code, none)
    | .error (.crash cause) => (1, some cause)
  { exitCode, out := console.out, err := console.err, written := console.written, crash }

/-- The text of a stream. -/
def streamText (lines : List String) : String := String.join (lines.map (· ++ "\n"))

end StepFlow.CommandLine
