import StepFlow.CommandLine.Files
import StepFlow.Text.Similarity

/-! # Reading command lines

Options may stand anywhere among the arguments of a command. Options with a value take it from the same
argument or from the next one; short options may be joined. Values are checked when all arguments are
read: options in the order in which they were given first, then the files.
-/

namespace StepFlow.CommandLine

open Text

/-- What the value of an option is. -/
inductive ValueKind where
  /-- A file that exists. -/
  | inputFile
  /-- A file that may not exist yet. -/
  | outputFile
  | choice (words : List String)
  deriving Repr, DecidableEq

/-- An option. Without a kind of value it is a flag. -/
structure OptionSpec where
  name : String
  short : Option Char := none
  value : Option ValueKind := none
  deriving Repr, DecidableEq

/-- How many files a command takes. -/
inductive Operands where
  | none
  | one
  | many
  deriving Repr, DecidableEq

/-- A command: its name, options and files. -/
structure CommandSpec where
  name : String
  operands : Operands
  options : List OptionSpec
  deriving Repr, DecidableEq

/-- What is wrong with a value. -/
inductive ValueFault where
  | missingFile (path : String)
  | directory (path : String)
  | notChoice (value : String) (words : List String)
  deriving Repr, DecidableEq

/-- What is wrong with a command line. -/
inductive UsageFault where
  | noSuchCommand (name : String) (similar : List String)
  | missingCommand
  | noSuchOption (name : String) (similar : List String)
  | valueRequired (option : String)
  | valueForFlag (option : String)
  | missingOperand (operands : String)
  | invalidValue (parameter : String) (fault : ValueFault)
  | extraArguments (arguments : List String)
  deriving Repr, DecidableEq

/-- An option that was given, with its value; that of a flag is empty. -/
structure Given where
  option : OptionSpec
  value : String := ""
  deriving Repr, DecidableEq

/-- The options and files of a command line, in order. -/
structure Arguments where
  given : List Given := []
  operands : List String := []
  deriving Repr, DecidableEq

/-- The option that prints help, which every command has. -/
def helpOption : OptionSpec := { name := "--help" }

/-- The wording of a value fault. -/
def ValueFault.message : ValueFault → String
  | .missingFile path => s!"File {quoted path} does not exist."
  | .directory path => s!"File {quoted path} is a directory."
  | .notChoice value words =>
    let allowed := ", ".intercalate (words.map quoted)
    s!"{quoted value} is not one of {allowed}."

/-- A hint at similar names. -/
def similarHint : List String → String
  | [] => ""
  | [name] => s!" Did you mean {quoted name}?"
  | names =>
    let listed := ", ".intercalate (names.map quoted)
    s!" (Did you mean one of: {listed}?)"

namespace UsageFault

/-- The wording of a usage fault. -/
def message : UsageFault → String
  | .noSuchCommand name similar => s!"No such command {quoted name}." ++ similarHint similar
  | .missingCommand => "Missing command."
  | .noSuchOption name similar => s!"No such option {quoted name}." ++ similarHint similar
  | .valueRequired option => s!"Option {quoted option} requires an argument."
  | .valueForFlag option => s!"Option {quoted option} does not take a value."
  | .missingOperand operands => s!"Missing argument '{operands}'."
  | .invalidValue parameter fault => s!"Invalid value for {parameter}: {fault.message}"
  | .extraArguments arguments =>
    let noun := if arguments.length = 1 then "argument" else "arguments"
    let listed := " ".intercalate arguments
    s!"Got unexpected extra {noun} ({listed})"

/-- Whether the usage of the command is shown with the fault. -/
def showsUsage : UsageFault → Bool
  | .valueRequired _ | .valueForFlag _ => false
  | _ => true

end UsageFault

/-- The word for the files of a command. -/
def Operands.word : Operands → String
  | .none => ""
  | .one => "FILE"
  | .many => "FILES..."

namespace OptionSpec

/-- An option as faults name it. -/
def hint (option : OptionSpec) : String :=
  match option.short with
  | none => quoted option.name
  | some c => s!"{quoted option.name} / '-{c}'"

end OptionSpec

namespace CommandSpec

/-- All options of a command. -/
def allOptions (spec : CommandSpec) : List OptionSpec := spec.options ++ [helpOption]

/-- The option of a long name. -/
def long? (spec : CommandSpec) (name : String) : Option OptionSpec :=
  spec.allOptions.find? (·.name == name)

/-- The option of a short name. -/
def short? (spec : CommandSpec) (c : Char) : Option OptionSpec :=
  spec.allOptions.find? (·.short == some c)

end CommandSpec

/-- The names closest to a word, in the order of texts. -/
def similarNames (word : String) (names : List String) : List String :=
  (closest names word).mergeSort fun a b => decide (a ≤ b)

/-- What an argument that starts with a dash gives: options, and perhaps one that takes the next
argument, under the name by which it was given. -/
structure DashArgument where
  given : List Given
  waiting : Option (OptionSpec × String) := none

/-- Reads joined short options. -/
def shortOptions (spec : CommandSpec) : List Char → Except UsageFault DashArgument
  | [] => .ok ⟨[], none⟩
  | c :: rest =>
    let name := String.ofList ['-', c]
    match spec.short? c with
    | none => .error (.noSuchOption name [])
    | some option =>
      if option.value.isSome then
        if rest.isEmpty then .ok ⟨[], some (option, name)⟩
        else .ok ⟨[⟨option, String.ofList rest⟩], none⟩
      else
        (fun more => { more with given := ⟨option, ""⟩ :: more.given }) <$> shortOptions spec rest

/-- The name of a long option and the value behind an equals sign. -/
def splitValue (argument : List Char) : String × Option String :=
  let name := argument.takeWhile (· != '=')
  let value := if name.length < argument.length then
      some (String.ofList (argument.drop (name.length + 1)))
    else none
  (String.ofList name, value)

/-- Reads an argument that starts with a dash. -/
def dashArgument (spec : CommandSpec) (argument : List Char) : Except UsageFault DashArgument :=
  let (name, value) := splitValue argument
  match spec.long? name with
  | some option =>
    match option.value, value with
    | some _, some value => .ok ⟨[⟨option, value⟩], none⟩
    | some _, none => .ok ⟨[], some (option, name)⟩
    | none, some _ => .error (.valueForFlag name)
    | none, none => .ok ⟨[⟨option, ""⟩], none⟩
  | none =>
    match argument with
    | '-' :: '-' :: _ =>
      .error (.noSuchOption name (similarNames name (spec.allOptions.map OptionSpec.name)))
    | _ => shortOptions spec (argument.drop 1)

/-- Whether an argument gives options. -/
def isDashed (argument : String) : Bool :=
  argument.toList.head? == some '-' && decide (1 < argument.length)

/-- Reads the arguments of a command. After two dashes there are no options. -/
def readArguments (spec : CommandSpec) : List String → Except UsageFault Arguments
  | [] => .ok {}
  | argument :: rest =>
    if argument = "--" then .ok { operands := rest }
    else if isDashed argument then
      match dashArgument spec argument.toList with
      | .error fault => .error fault
      | .ok ⟨given, none⟩ =>
        (fun more => { more with given := given ++ more.given }) <$> readArguments spec rest
      | .ok ⟨given, some (option, name)⟩ =>
        match rest with
        | [] => .error (.valueRequired name)
        | value :: rest =>
          (fun more => { more with given := given ++ ⟨option, value⟩ :: more.given }) <$>
            readArguments spec rest
    else (fun more => { more with operands := argument :: more.operands }) <$> readArguments spec rest

namespace Arguments

/-- The last value given to an option. -/
def value? (arguments : Arguments) (name : String) : Option String :=
  (arguments.given.reverse.find? fun given => given.option.name == name).map Given.value

/-- Whether an option was given. -/
def has (arguments : Arguments) (name : String) : Bool := (arguments.value? name).isSome

/-- The options that were given, each once, in the order in which they were given first. -/
def options (arguments : Arguments) : List OptionSpec := (arguments.given.map Given.option).eraseDups

end Arguments

/-- What is wrong with the value of an option or with a file. -/
def valueFault? (files : Files) (kind : ValueKind) (value : String) : Option ValueFault :=
  match kind with
  | .choice words => if words.contains value then none else some (.notChoice value words)
  | .inputFile =>
    match files.entry? value with
    | none => some (.missingFile value)
    | some .directory => some (.directory value)
    | some (.file _) => none
  | .outputFile =>
    match files.entry? value with
    | some .directory => some (.directory value)
    | _ => none

/-- What is wrong with an option's value. -/
def optionFault? (files : Files) (arguments : Arguments) (option : OptionSpec) : Option UsageFault :=
  match option.value, arguments.value? option.name with
  | some kind, some value => (valueFault? files kind value).map (.invalidValue option.hint)
  | _, _ => none

/-- What is wrong with the files of a command. -/
def operandFault? (files : Files) (spec : CommandSpec) (arguments : Arguments) : Option UsageFault :=
  let word := spec.operands.word
  let wanted := match spec.operands with
    | .none => []
    | .one => arguments.operands.take 1
    | .many => arguments.operands
  match spec.operands, wanted with
  | .none, _ => none
  | _, [] => some (.missingOperand word)
  | _, _ => (wanted.findSome? (valueFault? files .inputFile)).map (.invalidValue s!"'{word}'")

/-- What is wrong with the number of files. -/
def extraFault? (spec : CommandSpec) (arguments : Arguments) : Option UsageFault :=
  let extra := match spec.operands with
    | .none => arguments.operands
    | .one => arguments.operands.drop 1
    | .many => []
  if extra.isEmpty then none else some (.extraArguments extra)

/-- What is wrong with arguments that could be read. -/
def argumentFault? (files : Files) (spec : CommandSpec) (arguments : Arguments) : Option UsageFault :=
  match arguments.options.findSome? (optionFault? files arguments) with
  | some fault => some fault
  | none =>
    match operandFault? files spec arguments with
    | some fault => some fault
    | none => extraFault? spec arguments

end StepFlow.CommandLine
