import StepFlow.Diagnostic
import StepFlow.Program.Condition

/-! # Findings

What a check finds is data: which rule is broken, and by what. The code, the weight and the wording of
the diagnostic follow from it.
-/

namespace StepFlow

/-- Why a reference to another program cannot be resolved. -/
inductive ReferenceProblem where
  | unknownProgram (name : String)
  | missingSteps (steps : List Int) (name : String)
  deriving Repr, DecidableEq

/-- A rule that is broken. -/
inductive FindingCause where
  /-- There is a rest step before. -/
  | secondRest (label : String)
  /-- A numbered step has the bit of the rest step. -/
  | restBit (label : String)
  /-- A numbered step before has the same number. -/
  | repeatedNumber (number : Int)
  /-- No step has a number from `first` to `last`, but a step has the one after. -/
  | gap (first last : Int)
  /-- A step continues from a step that does not exist. -/
  | unknownOrigin (label : String) (origin : Int)
  | noDescription (label : String)
  | entryForbidden (label : String)
  | exitForbidden (label : String)
  | stepConditions (label : String) (count : Nat) (most : Int)
  | stepTransitions (label : String) (count : Nat) (most : Int)
  /-- A variable of a group that requires conditions has none. -/
  | conditionsRequired (name group : String)
  | variableConditions (name : String) (count : Nat) (most : Int)
  | timerOutOfRange (timer : TimerSpec) (most : Int) (units : List String)
  | unresolved (severity : Severity) (problem : ReferenceProblem)
  deriving Repr, DecidableEq

/-- A broken rule, with the line where it was found. -/
structure Finding where
  cause : FindingCause
  line : Option Int
  deriving Repr, DecidableEq

/-- The wording of a reference problem. -/
def ReferenceProblem.message : ReferenceProblem → String
  | .unknownProgram name => s!"referenced program '{name}' not found"
  | .missingSteps steps name =>
    let numbers := ", ".intercalate (steps.map toString)
    s!"steps [{numbers}] not found in program '{name}'"

namespace FindingCause

/-- The kind of problem. -/
def code : FindingCause → DiagnosticCode
  | .secondRest _ => .duplicateRest
  | .restBit _ | .repeatedNumber _ => .duplicateStep
  | .gap .. => .missingSequentialStep
  | .unknownOrigin .. => .invalidTransition
  | .noDescription _ => .emptyStepDescription
  | .entryForbidden _ => .invalidEntryConditions
  | .exitForbidden _ | .stepConditions .. | .variableConditions .. => .tooManyConditions
  | .stepTransitions .. => .tooManyTransitions
  | .conditionsRequired .. => .missingConditions
  | .timerOutOfRange .. => .timerOutOfRange
  | .unresolved .. => .unresolvedCrossReference

/-- How much the problem weighs. -/
def severity : FindingCause → Severity
  | .secondRest _ | .restBit _ | .repeatedNumber _ | .unknownOrigin .. | .entryForbidden _ => .error
  | .unresolved severity _ => severity
  | _ => .warning

/-- The wording of the problem. -/
def message : FindingCause → String
  | .secondRest label => s!"second rest step '{label}'"
  | .restBit label => s!"'{label}' uses step bit 0, which belongs to the rest step"
  | .repeatedNumber number => s!"duplicate step number {number}"
  | .gap first last => s!"steps {first}..{last} missing before step {last + 1}"
  | .unknownOrigin label origin => s!"'{label}' continues from unknown step {origin}"
  | .noDescription label => s!"'{label}' has no description"
  | .entryForbidden label => s!"'{label}' must not have entry conditions"
  | .exitForbidden label => s!"'{label}' must not have exit conditions"
  | .stepConditions label count most => s!"'{label}' has {count} conditions, maximum is {most}"
  | .stepTransitions label count most => s!"'{label}' has {count} VON transitions, maximum is {most}"
  | .conditionsRequired name group => s!"variable '{name}' of group {group} requires conditions"
  | .variableConditions name count most =>
    s!"variable '{name}' has {count} conditions, maximum is {most}"
  | .timerOutOfRange timer most units =>
    let allowed := ", ".intercalate units
    s!"timer {timer.value}{timer.unit} outside allowed range (max {most}, units {allowed})"
  | .unresolved _ problem => problem.message

end FindingCause

/-- The diagnostic of a finding. -/
def Finding.diagnostic (finding : Finding) : Diagnostic :=
  { code := finding.cause.code, severity := finding.cause.severity, message := finding.cause.message
    line := finding.line }

end StepFlow
