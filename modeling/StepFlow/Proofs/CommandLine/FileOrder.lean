import StepFlow.Proofs.Checking.Registry
import StepFlow.Proofs.CommandLine.Actions
import StepFlow.Proofs.Success
import Mathlib.Data.List.Perm.Basic

/-! # The order of checked files

Files are checked together: the programs of all of them are registered before any is reported on, and of programs with
one name the last counts. So the order of the files matters only among programs of one name. In any other respect it
only orders the reports.
-/

namespace StepFlow.CommandLine

open StepFlow.CommandLine.Action

/-! ## Files -/

section Files

variable (files : Files) (setup : Setup) (source : SourceKind) (path : Path)

/-- The text of a file, if it is there and can be read. -/
def fileText? : Option String :=
  match files.entry? path.text with
  | some (.file bytes) => (readText bytes).toOption
  | _ => none

/-- The analysis of a file, if it can be read and parsed. -/
def fileAnalysis? : Option Analysis :=
  (fileText? files path).bind fun text => (analyze setup source (fileMetadata path) text).toOption

/-- The text of a file that can be read. -/
def fileText : String := (fileText? files path).getD ""

instance : Inhabited Analysis := ⟨⟨.directEntry, "", ⟨{}, []⟩, {}, ⟨[], [], []⟩⟩⟩

/-- The analysis of a file that can be read and parsed. -/
def fileAnalysis : Analysis := (fileAnalysis? files setup source path).getD default

/-- The log of the analysis of a file. -/
def fileLog (verbose : Bool) : List String :=
  (analysisRecords setup.dialect source (fileText files path)
    (analyze setup source (fileMetadata path) (fileText files path))).filterMap (LogRecord.line? verbose)

variable {files setup source path}

theorem readFile_eq_pure (parsed : (fileAnalysis? files setup source path).isSome) :
    readFile files path = pure (fileText files path) := by
  obtain ⟨analysis, found⟩ := Option.isSome_iff_exists.mp parsed
  obtain ⟨text, read, -⟩ := Option.bind_eq_some_iff.mp found
  rw [fileText, read, Option.getD_some]
  unfold fileText? at read
  split at read
  · rename_i bytes entry
    simp only [readFile, entry, eq_ok_of_toOption_eq_some read]
  · cases read

theorem analyze_eq_ok (parsed : (fileAnalysis? files setup source path).isSome) :
    analyze setup source (fileMetadata path) (fileText files path) = .ok (fileAnalysis files setup source path) := by
  obtain ⟨analysis, found⟩ := Option.isSome_iff_exists.mp parsed
  obtain ⟨text, read, analyzed⟩ := Option.bind_eq_some_iff.mp found
  rw [fileAnalysis, found, fileText, read, Option.getD_some, Option.getD_some]
  exact eq_ok_of_toOption_eq_some analyzed

theorem isSome_analyze (setup : Setup) (source : SourceKind) (metadata : Metadata) (text : String) :
    (analyze setup source metadata text).toOption.isSome =
      (readProgram setup.dialect (normalize setup.dialect source text) metadata).toOption.isSome := by
  simp only [analyze]
  cases readProgram setup.dialect (normalize setup.dialect source text) metadata with
  | error stopped => simp only [bind, Except.bind, Except.toOption, Option.isSome_none]
  | ok reading => simp only [bind, Except.bind, pure, Except.pure, Except.toOption, Option.isSome_some]

theorem level_of_mem_classifiedRecords {entry : ClassifiedLine} {record : LogRecord}
    (member : record ∈ classifiedRecords entry) : record.level = .debug := by
  unfold classifiedRecords at member
  cases declared : entry.declared with
  | none =>
    simp only [declared, List.nil_append, List.mem_singleton] at member
    rw [member]
  | some label =>
    simp only [declared, List.singleton_append, List.mem_cons, List.not_mem_nil, or_false] at member
    rcases member with rfl | rfl <;> rfl

theorem level_of_mem_analysisRecords {dialect : Dialect} {text : String} {result : Except StoppedReading Analysis}
    {record : LogRecord} (member : record ∈ analysisRecords dialect source text result) : record.level ≠ .warning := by
  have traced {trace : List ClassifiedLine} (listed : record ∈ trace.flatMap classifiedRecords) :
      record.level ≠ .warning := by
    obtain ⟨entry, -, isRecord⟩ := List.mem_flatMap.mp listed
    simp [level_of_mem_classifiedRecords isRecord]
  unfold analysisRecords at member
  rcases List.mem_cons.mp member with rfl | later
  · simp [layoutRecord]
  · split at later
    · exact traced later
    · rcases List.mem_append.mp later with classified | closing
      · exact traced classified
      · rcases List.mem_pair.mp closing with rfl | rfl <;> simp [readRecord, checkRecord]

/-- Without `--verbose` an analysis leaves nothing in the log. -/
theorem fileLog_quiet : fileLog files setup source path false = [] := by
  apply List.filterMap_eq_nil_iff.mpr
  intro record member
  simp [LogRecord.line?, level_of_mem_analysisRecords member]

/-- Whether a file parses depends on the dialect alone. -/
theorem isSome_fileAnalysis? {setup setup' : Setup} (same : setup.dialect = setup'.dialect) :
    (fileAnalysis? files setup source path).isSome = (fileAnalysis? files setup' source path).isSome := by
  unfold fileAnalysis?
  cases fileText? files path with
  | none => rw [Option.bind_none, Option.bind_none]
  | some text => rw [Option.bind_some, Option.bind_some, isSome_analyze, isSome_analyze, same]

theorem does_analyzeFile (verbose : Bool) (parsed : (fileAnalysis? files setup source path).isSome) :
    Does verbose (analyzeFile setup source path (fileText files path)) (.ok (fileAnalysis files setup source path)) []
      (fileLog files setup source path verbose) := by
  unfold analyzeFile
  rw [← List.append_nil (fileLog ..)]
  refine (Does.log _).bind ?_
  rw [analyze_eq_ok parsed]
  exact Does.pure _

theorem does_reportFile (verbose : Bool) (parsed : (fileAnalysis? files setup source path).isSome) :
    Does verbose (reportFile setup source (path, fileText files path))
      (.ok (fileAnalysis files setup source path).program)
      [statisticsLine path.text (fileAnalysis files setup source path).program]
      (fileLog files setup source path verbose ++
        diagnosticLines path.text (fileAnalysis files setup source path).program) := by
  have whole : Does verbose (reportFile setup source (path, fileText files path))
      (.ok (fileAnalysis files setup source path).program)
      ([] ++ ([] ++ ([statisticsLine path.text (fileAnalysis files setup source path).program] ++ [])))
      (fileLog files setup source path verbose ++
        (diagnosticLines path.text (fileAnalysis files setup source path).program ++ ([] ++ []))) :=
    (does_analyzeFile verbose parsed).bind ((Does.complainAll _).bind ((Does.print _).bind (Does.pure _)))
  simpa using whole

variable {paths : List Path}

theorem does_readFiles (verbose : Bool) (parsed : ∀ path ∈ paths, (fileAnalysis? files setup source path).isSome) :
    Does verbose (paths.mapM fun path => do return (path, ← readFile files path))
      (.ok (paths.map fun path => (path, fileText files path))) [] [] := by
  have each : ∀ path ∈ paths,
      Does verbose (do return (path, ← readFile files path)) (.ok (path, fileText files path)) [] [] := by
    intro path member
    rw [readFile_eq_pure (parsed path member), pure_bind]
    exact Does.pure _
  have all := Does.mapM each
  rwa [Does.flatMap_nothing] at all

theorem does_analyzeFiles (verbose : Bool) (parsed : ∀ path ∈ paths, (fileAnalysis? files setup source path).isSome) :
    Does verbose
      ((paths.map fun path => (path, fileText files path)).mapM fun file => analyzeFile setup source file.1 file.2)
      (.ok (paths.map (fileAnalysis files setup source))) []
      (paths.flatMap fun path => fileLog files setup source path verbose) := by
  have all := Does.mapM fun path member => does_analyzeFile verbose (parsed path member)
  rw [Does.flatMap_nothing] at all
  rw [List.mapM_map, Function.comp_def]
  exact all

theorem does_reportFiles (verbose : Bool) (parsed : ∀ path ∈ paths, (fileAnalysis? files setup source path).isSome) :
    Does verbose ((paths.map fun path => (path, fileText files path)).mapM (reportFile setup source))
      (.ok (paths.map fun path => (fileAnalysis files setup source path).program))
      (paths.map fun path => statisticsLine path.text (fileAnalysis files setup source path).program)
      (paths.flatMap fun path => fileLog files setup source path verbose ++
        diagnosticLines path.text (fileAnalysis files setup source path).program) := by
  have all := Does.mapM fun path member => does_reportFile verbose (parsed path member)
  rw [← List.map_eq_flatMap] at all
  rw [List.mapM_map, Function.comp_def]
  exact all

end Files

theorem eraseDups_of_nodup {paths : List Path} (distinct : paths.Nodup) : paths.eraseDups = paths := by
  induction paths with
  | nil => rfl
  | cons path rest ih =>
    obtain ⟨fresh, others⟩ := List.nodup_cons.mp distinct
    have kept : rest.filter (fun other => !other == path) = rest := by
      apply List.filter_eq_self.mpr
      intro other member
      have differs : other ≠ path := fun same => fresh (same ▸ member)
      simp [differs]
    rw [List.eraseDups_cons, kept, ih others]

/-! ## Runs -/

/-- What is reported on a file: the log of its two analyses, and its program as it was checked. -/
structure FileReport where
  firstLog : List String
  log : List String
  program : Program

/-- A run that reports on files one after another, and then on all of them together. -/
def Outcome.ofReports (report : Path → FileReport) (total : List String) (exitCode : Nat) (paths : List Path) :
    Outcome :=
  { exitCode
    out := (paths.map fun path => statisticsLine path.text (report path).program) ++ total
    err := (paths.flatMap fun path => (report path).firstLog) ++
      paths.flatMap fun path => (report path).log ++ diagnosticLines path.text (report path).program
    written := [], crash := none }

/-- The line on all files, if there are several. -/
def totalLines (programs : List Program) : List String :=
  if 1 < programs.length then [totalLine (summarize programs)] else []

/-- Whether some program has errors, as a result. -/
def verdict (programs : List Program) : Except Stop Unit :=
  if programs.any (!·.errors.isEmpty) then .error (.exit 1) else .ok ()

theorem does_verdict (verbose : Bool) (programs : List Program) :
    Does verbose (if programs.any (!·.errors.isEmpty) then exit 1 else pure ()) (verdict programs) [] [] := by
  unfold verdict
  split
  · exact Does.exit 1
  · exact Does.pure ()

/-- After the last file the total is printed, if there are several, and the code is known. -/
theorem does_closing (verbose : Bool) (programs : List Program) :
    Does verbose
      (if 1 < programs.length then do
        print (totalLine (summarize programs))
        if programs.any (!·.errors.isEmpty) then exit 1 else pure ()
      else if programs.any (!·.errors.isEmpty) then exit 1 else pure ())
      (verdict programs) (totalLines programs) [] := by
  by_cases several : 1 < programs.length
  · rw [if_pos several, totalLines, if_pos several, ← List.append_nil [totalLine _]]
    exact (Does.print _).bind (does_verdict verbose programs)
  · rw [if_neg several, totalLines, if_neg several]
    exact does_verdict verbose programs

section Check

variable (files : Files) (dialect : Dialect) (rules : CheckRules) (source : SourceKind) (paths : List Path)

/-- The registry of the programs of files. -/
def fileRegistry : Registry :=
  .ofEntries (paths.map fun path => .ofProgram (fileAnalysis files { dialect } source path).program)

/-- What each of the files is checked with. -/
def checkSetup : Setup := { dialect, rules, registry := fileRegistry files dialect source paths }

/-- The programs of files that are checked together. -/
def checkedProgram (path : Path) : Program :=
  (fileAnalysis files (checkSetup files dialect rules source paths) source path).program

/-- What is reported on a file that is checked with others. -/
def fileReport (verbose : Bool) (path : Path) : FileReport :=
  { firstLog := fileLog files { dialect } source path verbose
    log := fileLog files (checkSetup files dialect rules source paths) source path verbose
    program := checkedProgram files dialect rules source paths path }

variable {files dialect rules source paths} {arguments : Arguments}

theorem isSome_of_parsed (rules : CheckRules) (paths : List Path) {path : Path}
    (parsed : (fileAnalysis? files { dialect } source path).isSome) :
    (fileAnalysis? files (checkSetup files dialect rules source paths) source path).isSome := by
  have same : (checkSetup files dialect rules source paths).dialect = ({ dialect } : Setup).dialect := rfl
  rwa [isSome_fileAnalysis? same]

theorem does_runCheck (verbose : Bool) (spoken : dialectOption files arguments = pure dialect)
    (ruled : rulesOption files arguments = pure rules) (origin : sourceOption arguments = source)
    (listed : arguments.operands.map Path.ofText = paths) (distinct : paths.Nodup)
    (parsed : ∀ path ∈ paths, (fileAnalysis? files { dialect } source path).isSome) :
    Does verbose (runCheck files arguments) (verdict (paths.map (checkedProgram files dialect rules source paths)))
      ((paths.map fun path => statisticsLine path.text (checkedProgram files dialect rules source paths path)) ++
        totalLines (paths.map (checkedProgram files dialect rules source paths)))
      ((paths.flatMap fun path => fileLog files { dialect } source path verbose) ++
        paths.flatMap fun path => fileLog files (checkSetup files dialect rules source paths) source path verbose ++
          diagnosticLines path.text (checkedProgram files dialect rules source paths path)) := by
  have registered : Registry.ofEntries ((paths.map (fileAnalysis files { dialect } source)).map
      fun analysis => .ofProgram analysis.program) = fileRegistry files dialect source paths := by
    rw [fileRegistry, List.map_map]
    rfl
  have reported := does_reportFiles verbose fun path member => isSome_of_parsed rules paths (parsed path member)
  unfold runCheck
  simp only [spoken, ruled, pure_bind, origin, listed, eraseDups_of_nodup distinct]
  refine (does_readFiles verbose parsed).after ?_
  rw [← List.nil_append (List.map _ paths ++ _)]
  refine (does_analyzeFiles verbose parsed).bind ?_
  rw [registered, ← List.append_nil (List.flatMap _ paths)]
  exact reported.bind (does_closing verbose _)

end Check

variable {files : Files} {arguments : Arguments}

theorem runLine_check {line : List String} (read : readArguments checkSpec line = .ok arguments)
    (helpless : arguments.has "--help" = false) (sound : argumentFault? files checkSpec arguments = none) :
    runLine files ("check" :: line) = runCommand files checkSpec arguments := by
  have undashed : isDashed "check" = false := by decide
  have found : commands.find? (·.name == "check") = some checkSpec := by decide
  rw [runLine, if_neg (by decide), undashed]
  simp only [Bool.false_eq_true, ↓reduceIte, runLine.runNamed, found, read, helpless, sound]

theorem run_check {line : List String} (read : readArguments checkSpec line = .ok arguments)
    (helpless : arguments.has "--help" = false) (sound : argumentFault? files checkSpec arguments = none)
    {programs : List Program} {out err : List String}
    (does : Does (arguments.has "--verbose") (runCheck files arguments) (verdict programs) out err) :
    run files ("check" :: line) =
      { exitCode := if programs.any (!·.errors.isEmpty) then 1 else 0, out, err, written := [], crash := none } := by
  have ran : (runLine files ("check" :: line)).run.run {} =
      (verdict programs, { verbose := arguments.has "--verbose", out, err }) := by
    have done := does { verbose := arguments.has "--verbose" } rfl
    rw [List.nil_append, List.nil_append] at done
    rw [runLine_check read helpless sound, ← done]
    simp only [runCommand]
    cases arguments.has "--verbose" with
    | true => rfl
    | false => rfl
  simp only [run, ran, verdict]
  cases programs.any (!·.errors.isEmpty) <;> rfl

/-! ## Other orders -/

theorem argumentFault?_eq_none_iff :
    argumentFault? files checkSpec arguments = none ↔
      (∀ option ∈ arguments.options, optionFault? files arguments option = none) ∧ arguments.operands ≠ [] ∧
        ∀ operand ∈ arguments.operands, valueFault? files .inputFile operand = none := by
  have many : checkSpec.operands = .many := rfl
  rw [argumentFault?, ← List.findSome?_eq_none_iff]
  cases arguments.options.findSome? (optionFault? files arguments) with
  | some fault => simp
  | none =>
    rw [operandFault?, extraFault?, many]
    cases operands : arguments.operands with
    | nil => simp
    | cons operand rest =>
      rw [← List.findSome?_eq_none_iff]
      cases (operand :: rest).findSome? (valueFault? files .inputFile) <;> simp

/-- Which of its files are named first does not matter for the usage of a command. -/
theorem argumentFault?_of_perm {operands : List String} (permuted : operands.Perm arguments.operands)
    (sound : argumentFault? files checkSpec arguments = none) :
    argumentFault? files checkSpec { arguments with operands } = none := by
  obtain ⟨options, nonempty, present⟩ := argumentFault?_eq_none_iff.mp sound
  refine argumentFault?_eq_none_iff.mpr ⟨options, ?_, ?_⟩
  · rintro rfl
    exact nonempty permuted.symm.eq_nil
  · intro operand member
    exact present operand (permuted.mem_iff.mp member)

theorem totalLines_of_perm {programs programs' : List Program} (permuted : programs'.Perm programs) :
    totalLines programs' = totalLines programs := by
  have summed (count : Statistics → Int) : (programs'.map fun program => count program.statistics).foldl (· + ·) 0 =
      (programs.map fun program => count program.statistics).foldl (· + ·) 0 :=
    (permuted.map _).foldl_eq 0
  have counted (count : Program → Nat) : sumCounts (programs'.map count) = sumCounts (programs.map count) :=
    (permuted.map count).foldr_eq 0
  have line : totalLine (summarize programs') = totalLine (summarize programs) := by
    simp only [totalLine, summarize, permuted.length_eq, summed, counted]
  rw [totalLines, totalLines, permuted.length_eq, line]

/-- Whether the program of a file has the name. -/
def namesProgram (files : Files) (dialect : Dialect) (source : SourceKind) (name operand : String) : Bool :=
  (fileAnalysis? files { dialect } source (.ofText operand)).any fun analysis => analysis.program.name == name

theorem find?_fileRegistry {dialect : Dialect} {source : SourceKind} {operands : List String}
    (parsed : ∀ operand ∈ operands, (fileAnalysis? files { dialect } source (.ofText operand)).isSome) (name : String) :
    (fileRegistry files dialect source (operands.map Path.ofText)).find? name =
      ((operands.filter (namesProgram files dialect source name)).map fun operand =>
        RegistryEntry.ofProgram (fileAnalysis files { dialect } source (.ofText operand)).program).getLast? := by
  rw [fileRegistry, Registry.find?_ofEntries, List.map_map, List.filter_map]
  congr 2
  apply List.filter_congr
  intro operand member
  obtain ⟨analysis, found⟩ := Option.isSome_iff_exists.mp (parsed operand member)
  simp [namesProgram, fileAnalysis, found, RegistryEntry.ofProgram]

section Orders

variable {dialect : Dialect} {rules : CheckRules} {source : SourceKind}

/-- Only the answers of the registry matter for the reports. -/
theorem fileReport_congr {paths paths' : List Path}
    (same : ∀ name, (fileRegistry files dialect source paths).find? name =
      (fileRegistry files dialect source paths').find? name) :
    fileReport files dialect rules source paths = fileReport files dialect rules source paths' := by
  have analyzed (path : Path) (text : String) :
      analyze (checkSetup files dialect rules source paths) source (fileMetadata path) text =
        analyze (checkSetup files dialect rules source paths') source (fileMetadata path) text :=
    analyze_congr same dialect rules source (fileMetadata path) text
  funext verbose path
  simp only [fileReport, checkedProgram, fileAnalysis, fileAnalysis?, fileLog, analyzed]
  rfl

/-- A run of `check` on files that can all be parsed. -/
theorem run_check_eq {line : List String} (read : readArguments checkSpec line = .ok arguments)
    (helpless : arguments.has "--help" = false) (sound : argumentFault? files checkSpec arguments = none)
    (spoken : dialectOption files arguments = pure dialect) (ruled : rulesOption files arguments = pure rules)
    (origin : sourceOption arguments = source) {verbose : Bool} (kind : arguments.has "--verbose" = verbose)
    {paths : List Path} (listed : arguments.operands.map Path.ofText = paths) (distinct : paths.Nodup)
    (parsed : ∀ path ∈ paths, (fileAnalysis? files { dialect } source path).isSome) :
    run files ("check" :: line) =
      .ofReports (fileReport files dialect rules source paths verbose)
        (totalLines (paths.map (checkedProgram files dialect rules source paths)))
        (if (paths.map (checkedProgram files dialect rules source paths)).any (!·.errors.isEmpty) then 1 else 0)
        paths := by
  rw [run_check read helpless sound (does_runCheck _ spoken ruled origin listed distinct parsed), kind]
  rfl

end Orders

/-- Files that can all be parsed are checked in two orders, which agree on files whose programs have the same name. The
two runs report the same lines on each file, each run in its own order, print the same total and end with the same
code. Without `--verbose` the lines on a file are those on its diagnostics and on its counts. -/
theorem check_ignores_file_order {files : Files} {line line' : List String} {arguments : Arguments}
    {operands : List String} {dialect : Dialect} {rules : CheckRules}
    (read : readArguments checkSpec line = .ok arguments)
    (read' : readArguments checkSpec line' = .ok { arguments with operands })
    (helpless : arguments.has "--help" = false) (sound : argumentFault? files checkSpec arguments = none)
    (spoken : dialectOption files arguments = pure dialect) (ruled : rulesOption files arguments = pure rules)
    (distinct : (arguments.operands.map Path.ofText).Nodup)
    (parsed : ∀ operand ∈ arguments.operands,
      (fileAnalysis? files { dialect } (sourceOption arguments) (.ofText operand)).isSome)
    (permuted : operands.Perm arguments.operands)
    (ordered : ∀ name, operands.filter (namesProgram files dialect (sourceOption arguments) name) =
      arguments.operands.filter (namesProgram files dialect (sourceOption arguments) name)) :
    ∃ report total exitCode,
      run files ("check" :: line) = .ofReports report total exitCode (arguments.operands.map Path.ofText) ∧
      run files ("check" :: line') = .ofReports report total exitCode (operands.map Path.ofText) ∧
      (∀ operand ∈ arguments.operands, ∃ registry analysis,
        fileAnalysis? files { dialect, rules, registry } (sourceOption arguments) (.ofText operand) = some analysis ∧
          (report (.ofText operand)).program = analysis.program) ∧
      (arguments.has "--verbose" = false → ∀ path, (report path).firstLog = [] ∧ (report path).log = []) := by
  have parsed' : ∀ operand ∈ operands,
      (fileAnalysis? files { dialect } (sourceOption arguments) (.ofText operand)).isSome := fun operand member =>
    parsed operand (permuted.mem_iff.mp member)
  have same (name : String) :
      (fileRegistry files dialect (sourceOption arguments) (operands.map Path.ofText)).find? name =
        (fileRegistry files dialect (sourceOption arguments) (arguments.operands.map Path.ofText)).find? name := by
    rw [find?_fileRegistry parsed', find?_fileRegistry parsed, ordered]
  have reports : fileReport files dialect rules (sourceOption arguments) (operands.map Path.ofText) =
      fileReport files dialect rules (sourceOption arguments) (arguments.operands.map Path.ofText) :=
    fileReport_congr same
  have programs : checkedProgram files dialect rules (sourceOption arguments) (operands.map Path.ofText) =
      checkedProgram files dialect rules (sourceOption arguments) (arguments.operands.map Path.ofText) := by
    funext path
    exact congrArg FileReport.program (congrFun (congrFun reports false) path)
  have paths := permuted.map Path.ofText
  have first := run_check_eq read helpless sound spoken ruled rfl rfl rfl distinct (List.forall_mem_map.mpr parsed)
  have origin : sourceOption { arguments with operands } = sourceOption arguments := rfl
  have kind : Arguments.has { arguments with operands } "--verbose" = arguments.has "--verbose" := rfl
  have second := run_check_eq read' helpless (argumentFault?_of_perm permuted sound) spoken ruled origin kind rfl
    (paths.nodup_iff.mpr distinct) (List.forall_mem_map.mpr parsed')
  refine ⟨_, _, _, first, ?_, ?_, ?_⟩
  · rw [second, reports, programs, totalLines_of_perm (paths.map _), (paths.map _).any_eq]
  · intro operand member
    obtain ⟨analysis, found⟩ := Option.isSome_iff_exists.mp
      (isSome_of_parsed rules (arguments.operands.map Path.ofText) (parsed operand member))
    refine ⟨_, analysis, found, ?_⟩
    simp only [fileReport, checkedProgram, fileAnalysis, found, Option.getD_some]
  · intro quiet path
    simp only [fileReport, quiet, fileLog_quiet, and_self]

/-- Three files. The programs of the first and of the last have one name, and the second refers to a step that only the
last has. -/
def namesakeFiles : Files :=
  .ofList [("a.txt", "Alpha FB1\nSTAP 1: a".toList.map Char.toUInt8),
    ("b.txt", "Beta FB2\nSTAP 1: b\n- c (Alpha STAP 2)".toList.map Char.toUInt8),
    ("c.txt", "Alpha FB3\nSTAP 2: c".toList.map Char.toUInt8)]

def namesakeArguments : Arguments :=
  { given := [⟨{ name := "--strict-xrefs" }, ""⟩], operands := ["a.txt", "b.txt", "c.txt"] }

theorem names_namesakeFiles :
    namesakeArguments.operands.map (fun operand =>
      (fileAnalysis? namesakeFiles {} (sourceOption namesakeArguments) (.ofText operand)).map
        fun analysis => analysis.program.name) = [some "Alpha", some "Beta", some "Alpha"] := by
  decide +kernel

theorem parsed_namesakeFiles : ∀ operand ∈ namesakeArguments.operands,
    (fileAnalysis? namesakeFiles {} (sourceOption namesakeArguments) (.ofText operand)).isSome := by
  intro operand member
  have listed := List.mem_map_of_mem (f := fun operand =>
    (fileAnalysis? namesakeFiles {} (sourceOption namesakeArguments) (.ofText operand)).map
      fun analysis => analysis.program.name) member
  rw [names_namesakeFiles] at listed
  cases found : fileAnalysis? namesakeFiles {} (sourceOption namesakeArguments) (.ofText operand) with
  | none => simp [found] at listed
  | some analysis => rfl

theorem ordered_namesakeFiles (name : String) :
    ["b.txt", "a.txt", "c.txt"].filter (namesProgram namesakeFiles {} (sourceOption namesakeArguments) name) =
      namesakeArguments.operands.filter (namesProgram namesakeFiles {} (sourceOption namesakeArguments) name) := by
  have names := names_namesakeFiles
  simp only [namesakeArguments, List.map_cons, List.map_nil, List.cons.injEq, Option.map_eq_some_iff] at names
  obtain ⟨⟨a, foundA, namedA⟩, ⟨b, foundB, namedB⟩, ⟨c, foundC, namedC⟩, -⟩ := names
  by_cases alpha : "Alpha" = name
  · have other : "Beta" ≠ name := by
      rw [← alpha]
      decide
    simp [namesakeArguments, namesProgram, foundA, foundB, foundC, namedA, namedB, namedC, alpha, other]
  · simp [namesakeArguments, List.filter_cons, namesProgram, foundA, foundB, foundC, namedA, namedB, namedC, alpha]

theorem check_ignores_file_order_namesakeFiles :
    ∃ report total exitCode,
      run namesakeFiles ["check", "--strict-xrefs", "a.txt", "b.txt", "c.txt"] =
        .ofReports report total exitCode (["a.txt", "b.txt", "c.txt"].map Path.ofText) ∧
      run namesakeFiles ["check", "b.txt", "a.txt", "--strict-xrefs", "c.txt"] =
        .ofReports report total exitCode (["b.txt", "a.txt", "c.txt"].map Path.ofText) := by
  have read : readArguments checkSpec ["--strict-xrefs", "a.txt", "b.txt", "c.txt"] = .ok namesakeArguments :=
    eq_ok_of_toOption_eq_some (by decide +kernel)
  have read' : readArguments checkSpec ["b.txt", "a.txt", "--strict-xrefs", "c.txt"] =
      .ok { namesakeArguments with operands := ["b.txt", "a.txt", "c.txt"] } :=
    eq_ok_of_toOption_eq_some (by decide +kernel)
  have strict : rulesOption namesakeFiles namesakeArguments = pure { references := { mode := .strict } } := rfl
  obtain ⟨report, total, exitCode, one, other, -⟩ := check_ignores_file_order read read' (by decide +kernel)
    (by decide +kernel) rfl strict (by decide +kernel) parsed_namesakeFiles (by decide +kernel) ordered_namesakeFiles
  exact ⟨report, total, exitCode, one, other⟩

end StepFlow.CommandLine
