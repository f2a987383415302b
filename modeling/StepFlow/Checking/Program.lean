import StepFlow.CheckRules
import StepFlow.Checking.Finding
import StepFlow.Checking.Registry

/-! # Checking programs

The checks run in a fixed order: step numbers and gaps between them, transitions, limits of steps,
variables, timers, references. Each gives its findings in the order of the program. Checking puts every
variable into a group and adds the diagnostics to those that the program has already.
-/

namespace StepFlow

namespace Check

/-- Rest steps after the first and numbers used twice, given what was seen before. -/
def stepNumbers (seen : List Nat) (restSeen : Bool) : List Step → List Finding
  | [] => []
  | step :: rest =>
    match step.kind with
    | .rest =>
      (if restSeen then [⟨.secondRest step.label, step.line⟩] else []) ++ stepNumbers seen true rest
    | .sequential 0 => ⟨.restBit step.label, step.line⟩ :: stepNumbers seen restSeen rest
    | .sequential number =>
      (if seen.contains number then [⟨.repeatedNumber number, step.line⟩] else []) ++
        stepNumbers (number :: seen) restSeen rest

/-- The numbers of numbered steps that own a bit, in ascending order. -/
def usedNumbers (program : Program) : List Int :=
  ascending ((program.sequentialSteps.filter fun step => step.number != 0).map
    fun step => (step.number : Int))

/-- The numbered steps that have a number. -/
def stepsNumbered (program : Program) (number : Int) : List Step :=
  program.sequentialSteps.filter fun step => (step.number : Int) == number

/-- The gap before a number, unless it is bridged: some step of that number has transitions. -/
def gapBefore (program : Program) (previous current : Int) : List Finding :=
  let steps := stepsNumbered program current
  if current = previous + 1 || steps.any (fun step => !step.transitions.isEmpty) then []
  else [⟨.gap (previous + 1) (current - 1), steps.head?.bind Step.line⟩]

/-- The gaps between ascending numbers. -/
def gaps (program : Program) : List Int → List Finding
  | previous :: current :: rest =>
    gapBefore program previous current ++ gaps program (current :: rest)
  | _ => []

/-- Transitions from steps that do not exist. -/
def transitions (program : Program) : List Finding :=
  program.steps.flatMap fun step =>
    (step.transitions.filter fun transition => !program.stepNumbers.contains transition.origin).map
      fun transition => ⟨.unknownOrigin step.label transition.origin, transition.line⟩

/-- One finding if something holds. -/
def findIf (holds : Bool) (cause : FindingCause) (line : Option Int) : List Finding :=
  if holds then [⟨cause, line⟩] else []

/-- One finding if a count is above a limit. -/
def findAbove (count : Nat) (limit : Option Int) (cause : Int → FindingCause) (line : Option Int) :
    List Finding :=
  match limit with
  | none => []
  | some most => findIf (decide (most < count)) (cause most) line

/-- The limits of a step. -/
def limitsOf (rules : StepRules) (step : Step) : StepLimits :=
  if step.isRest then rules.rest else rules.sequential

/-- What a step has too much or too little of. -/
def stepLimits (rules : StepRules) (step : Step) : List Finding :=
  let limits := limitsOf rules step
  let label := step.label
  findIf (Text.trim step.description.toList).isEmpty (.noDescription label) step.line ++
    findIf (!step.entry.isEmpty && !limits.allowsEntry) (.entryForbidden label) step.line ++
    findIf (!step.exit.isEmpty && !limits.allowsExit) (.exitForbidden label) step.line ++
    findAbove step.conditionCount limits.maxConditions
      (.stepConditions label step.conditionCount) step.line ++
    findAbove step.transitions.length limits.maxTransitions
      (.stepTransitions label step.transitions.length) step.line

/-- The line of a variable by which it is classified. -/
def classifiedLine (var : Variable) : String :=
  if var.source.isEmpty then s!"{var.name} =" else var.source

/-- The variable in the group of its line. -/
def classify (rules : CheckRules) (var : Variable) : Variable :=
  { var with group := rules.classify (classifiedLine var) }

/-- What a classified variable has too much or too little of. -/
def variableLimits (rules : CheckRules) (var : Variable) : List Finding :=
  match rules.groups.lookup var.group with
  | none => []
  | some group =>
    findIf (group.needsConditions && var.conditions.isEmpty)
        (.conditionsRequired var.name group.name) var.line ++
      findAbove var.conditions.length group.maxConditions
        (.variableConditions var.name var.conditions.length) var.line

/-- A time that is not allowed. -/
def timer (rules : TimerRules) (condition : Condition) : List Finding :=
  match condition.timer with
  | none => []
  | some timer =>
    findIf (!rules.allowsUnit timer.unit || decide (rules.maxValue < timer.value))
      (.timerOutOfRange timer rules.maxValue rules.units) condition.line

/-- Why a reference cannot be resolved. -/
def resolve (registry : Registry) (stepsMustExist : Bool) (reference : CrossReference) :
    Option ReferenceProblem :=
  match registry.find? reference.program with
  | none => some (.unknownProgram reference.program)
  | some entry =>
    let missing := reference.steps.filter fun number => !entry.steps.contains number
    if stepsMustExist && !missing.isEmpty then some (.missingSteps missing reference.program) else none

/-- References that cannot be resolved, with the given weight. -/
def unresolved (registry : Registry) (stepsMustExist : Bool) (severity : Severity)
    (program : Program) : List Finding :=
  program.crossReferences.filterMap fun reference =>
    (resolve registry stepsMustExist reference).map
      fun problem => ⟨.unresolved severity problem, reference.line⟩

/-- References that cannot be resolved, unless they are not checked. -/
def references (rules : ReferenceRules) (registry : Registry) (program : Program) : List Finding :=
  match rules.mode with
  | .lenient => []
  | .warn => unresolved registry rules.stepsMustExist .warning program
  | .strict => unresolved registry rules.stepsMustExist .error program

/-- Everything that is found in a program whose variables are classified. -/
def findings (rules : CheckRules) (registry : Registry) (program : Program) : List Finding :=
  stepNumbers [] false program.steps ++ gaps program (usedNumbers program) ++ transitions program ++
    program.steps.flatMap (stepLimits rules.steps) ++
    program.variables.flatMap (variableLimits rules) ++
    (program.stepConditions.flatMap fun (_, condition) => timer rules.timer condition) ++
    references rules.references registry program

end Check

/-- What a check found, and which variables it put into which group. -/
structure Report where
  errors : List Diagnostic
  warnings : List Diagnostic
  groups : List (String × List String)
  deriving Repr, DecidableEq

/-- The names of classified variables by group: the groups of the rules in order, others after them. -/
def variableGroups (rules : CheckRules) (declared : List Variable) : List (String × List String) :=
  declared.foldl (fun groups var => Program.addToGroup var.group var.name groups)
    (rules.groups.map fun (key, _) => (key, []))

/-- Checks a program: the program with classified variables and more diagnostics, and the report. -/
def Program.check (rules : CheckRules) (registry : Registry) (program : Program) : Program × Report :=
  let classified := { program with «variables» := program.variables.map (Check.classify rules) }
  let diagnostics := (Check.findings rules registry classified).map Finding.diagnostic
  let errors := diagnostics.filter (·.severity == .error)
  let warnings := diagnostics.filter (·.severity == .warning)
  ({ classified with errors := program.errors ++ errors, warnings := program.warnings ++ warnings },
    ⟨errors, warnings, variableGroups rules classified.variables⟩)

end StepFlow
