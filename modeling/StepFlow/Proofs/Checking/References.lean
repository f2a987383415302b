import StepFlow.Proofs.Checking.Registry
import StepFlow.Proofs.Checking.Structure

/-! # References to other programs

Programs and entries are registered together, one after another. A reference leads to the last of them that has its
name; it is unresolved if there is none, or if steps must exist and that one lacks a step that is referred to. A check
reports the unresolved references in order. How it treats references decides whether these reports are errors, warnings
or left out, and nothing else.
-/

namespace StepFlow

/-- What references can lead to: a program, or an entry that was given for one. -/
inductive Registered where
  | read (program : Program)
  | given (entry : RegistryEntry)

namespace Registered

/-- The name that references use. -/
def name : Registered → String
  | .read program => program.name
  | .given entry => entry.name

/-- The numbers of the steps. -/
def stepNumbers : Registered → List Int
  | .read program => program.steps.map fun step => (step.number : Int)
  | .given entry => entry.steps

/-- What the registry keeps. -/
def toEntry : Registered → RegistryEntry
  | .read program => .ofProgram program
  | .given entry => entry

@[simp] theorem name_toEntry (item : Registered) : item.toEntry.name = item.name := by
  cases item <;> rfl

@[simp] theorem mem_steps_toEntry (item : Registered) (number : Int) :
    number ∈ item.toEntry.steps ↔ number ∈ item.stepNumbers := by
  cases item with
  | read program => simp [toEntry, stepNumbers, RegistryEntry.ofProgram, Program.stepNumbers]
  | given entry => rfl

/-- The last of some items that has a name. -/
def last? (items : List Registered) (name : String) : Option Registered :=
  items.findRev? fun item => item.name == name

theorem last?_eq_none {items : List Registered} {name : String} :
    last? items name = none ↔ ∀ item ∈ items, item.name ≠ name := by
  simp [last?, List.findRev?_eq_find?_reverse]

end Registered

/-- The registry of items that are registered one after another. -/
def Registry.ofRegistered (items : List Registered) : Registry := .ofEntries (items.map Registered.toEntry)

theorem Registry.find?_ofRegistered (items : List Registered) (name : String) :
    (ofRegistered items).find? name = (Registered.last? items name).map Registered.toEntry := by
  rw [ofRegistered, find?_ofEntries, List.getLast?_filter, ← List.map_reverse, List.find?_map, Registered.last?,
    List.findRev?_eq_find?_reverse]
  simp only [Function.comp_def, Registered.name_toEntry]

namespace CrossReference

/-- A reference that leads nowhere: no item has its name, or steps must exist and the last item of its name lacks one
of those that it refers to. -/
def Unresolved (items : List Registered) (stepsMustExist : Bool) (reference : CrossReference) : Prop :=
  (∀ item ∈ items, item.name ≠ reference.program) ∨
    stepsMustExist = true ∧ ∃ item ∈ Registered.last? items reference.program,
      ∃ number ∈ reference.steps, number ∉ item.stepNumbers

instance (items : List Registered) (stepsMustExist : Bool) (reference : CrossReference) :
    Decidable (reference.Unresolved items stepsMustExist) :=
  haveI : Decidable (∃ item ∈ Registered.last? items reference.program,
      ∃ number ∈ reference.steps, number ∉ item.stepNumbers) := inferInstanceAs (Decidable (∃ item ∈ _, _))
  inferInstanceAs (Decidable (_ ∨ _))

/-- What is wrong with an unresolved reference. -/
def problem (items : List Registered) (reference : CrossReference) : ReferenceProblem :=
  match Registered.last? items reference.program with
  | none => .unknownProgram reference.program
  | some item =>
    .missingSteps (reference.steps.filter fun number => number ∉ item.stepNumbers) reference.program

/-- The report on an unresolved reference. -/
def report (items : List Registered) (severity : Severity) (reference : CrossReference) : Diagnostic :=
  { code := .unresolvedCrossReference, severity, message := (reference.problem items).message, line := reference.line }

theorem unresolved_of_last?_eq_some {items : List Registered} {stepsMustExist : Bool} {reference : CrossReference}
    {item : Registered} (found : Registered.last? items reference.program = some item) :
    reference.Unresolved items stepsMustExist ↔
      stepsMustExist = true ∧ ∃ number ∈ reference.steps, number ∉ item.stepNumbers := by
  have named : ¬∀ item ∈ items, item.name ≠ reference.program := by
    rw [← Registered.last?_eq_none, found]
    exact Option.some_ne_none item
  simp [Unresolved, named, found]

end CrossReference

/-- The references of a program that lead nowhere, in order. -/
def Program.unresolvedReferences (items : List Registered) (stepsMustExist : Bool) (program : Program) :
    List CrossReference :=
  program.crossReferences.filter (·.Unresolved items stepsMustExist)

namespace Check

/-- A reference is looked up in the registry just as it is among the registered items. -/
theorem resolve_ofRegistered (items : List Registered) (stepsMustExist : Bool) (reference : CrossReference) :
    resolve (.ofRegistered items) stepsMustExist reference =
      if reference.Unresolved items stepsMustExist then some (reference.problem items) else none := by
  rw [resolve, Registry.find?_ofRegistered, CrossReference.problem]
  cases found : Registered.last? items reference.program with
  | none =>
    have unresolved : reference.Unresolved items stepsMustExist := .inl (Registered.last?_eq_none.mp found)
    rw [if_pos unresolved]
    rfl
  | some item =>
    have known (number : Int) : (!item.toEntry.steps.contains number) = decide (number ∉ item.stepNumbers) := by
      simp [← Registered.mem_steps_toEntry]
    simp only [Option.map_some, known, CrossReference.unresolved_of_last?_eq_some found]
    congr 1
    simp [List.filter_eq_nil_iff]

theorem unresolved_ofRegistered (items : List Registered) (stepsMustExist : Bool) (severity : Severity)
    (program : Program) :
    (unresolved (.ofRegistered items) stepsMustExist severity program).map Finding.diagnostic =
      (program.unresolvedReferences items stepsMustExist).map (·.report items severity) := by
  rw [unresolved, List.map_filterMap, Program.unresolvedReferences]
  induction program.crossReferences with
  | nil => rfl
  | cons reference rest ih =>
    rw [List.filterMap_cons, List.filter_cons, ih, resolve_ofRegistered]
    by_cases lost : reference.Unresolved items stepsMustExist
    · simp only [lost, ↓reduceIte, decide_true, List.map_cons]
      rfl
    · simp [lost]

end Check

/-- The rules, with another way to treat references. -/
def CheckRules.inMode (rules : CheckRules) (mode : ReferenceMode) : CheckRules :=
  { rules with references := { rules.references with mode } }

namespace Check

/-- How references are treated has no part in any other check. -/
theorem findings_inMode (rules : CheckRules) (mode : ReferenceMode) (registry : Registry) (program : Program) :
    findings (rules.inMode mode) registry program =
      findings (rules.inMode .lenient) registry program ++
        references (rules.inMode mode).references registry program := by
  have nothing : references (rules.inMode .lenient).references registry program = [] := rfl
  rw [findings, findings, nothing, List.append_nil]
  rfl

theorem references_inMode_strict (rules : CheckRules) (items : List Registered) (program : Program) :
    (references (rules.inMode .strict).references (.ofRegistered items) program).map Finding.diagnostic =
      (program.unresolvedReferences items rules.references.stepsMustExist).map (·.report items .error) :=
  unresolved_ofRegistered items rules.references.stepsMustExist .error program

theorem references_inMode_warn (rules : CheckRules) (items : List Registered) (program : Program) :
    (references (rules.inMode .warn).references (.ofRegistered items) program).map Finding.diagnostic =
      (program.unresolvedReferences items rules.references.stepsMustExist).map (·.report items .warning) :=
  unresolved_ofRegistered items rules.references.stepsMustExist .warning program

end Check

/-- The diagnostics about references. -/
def aboutReferences (diagnostics : List Diagnostic) : List Diagnostic :=
  diagnostics.filter fun diagnostic => diagnostic.code = .unresolvedCrossReference

/-- The diagnostics about anything else. -/
def aboutOthers (diagnostics : List Diagnostic) : List Diagnostic :=
  diagnostics.filter fun diagnostic => diagnostic.code ≠ .unresolvedCrossReference

section Reports

variable (items : List Registered) (severity : Severity) (references : List CrossReference) (others : List Diagnostic)

theorem filter_severity_reports (weight : Severity) :
    (references.map (·.report items severity)).filter (·.severity == weight) =
      if severity = weight then references.map (·.report items severity) else [] := by
  split
  · rename_i same
    exact List.filter_eq_self.mpr (by simp [CrossReference.report, same])
  · rename_i differs
    exact List.filter_eq_nil_iff.mpr (by simp [CrossReference.report, differs])

theorem aboutReferences_append_reports :
    aboutReferences (others ++ references.map (·.report items severity)) =
      aboutReferences others ++ references.map (·.report items severity) := by
  rw [aboutReferences, aboutReferences, List.filter_append]
  congr 1
  simp [List.filter_eq_self, CrossReference.report]

theorem aboutOthers_append_reports :
    aboutOthers (others ++ references.map (·.report items severity)) = aboutOthers others := by
  rw [aboutOthers, aboutOthers, List.filter_append]
  simp [List.filter_eq_nil_iff, CrossReference.report]

end Reports

namespace Program

variable (rules : CheckRules) (items : List Registered) (program : Program)

/-- The result of a check that treats references in the given way. -/
def checkIn (mode : ReferenceMode) : Program × Report := program.check (rules.inMode mode) (.ofRegistered items)

/-- What is reported on references is added to what is reported without them. -/
theorem reports_checkIn (mode : ReferenceMode) :
    (program.checkIn rules items mode).2.errors = (program.checkIn rules items .lenient).2.errors ++
        ((Check.references (rules.inMode mode).references (.ofRegistered items) program).map Finding.diagnostic).filter
          (·.severity == .error) ∧
      (program.checkIn rules items mode).2.warnings = (program.checkIn rules items .lenient).2.warnings ++
        ((Check.references (rules.inMode mode).references (.ofRegistered items) program).map Finding.diagnostic).filter
          (·.severity == .warning) := by
  rw [checkIn, check]
  dsimp only
  rw [Check.findings_inMode, List.map_append, List.filter_append, List.filter_append]
  exact ⟨rfl, rfl⟩

/-- Without a look at references, nothing is reported on them. -/
theorem aboutReferences_checkIn_lenient :
    aboutReferences (program.checkIn rules items .lenient).2.errors = [] ∧
      aboutReferences (program.checkIn rules items .lenient).2.warnings = [] := by
  have nothing := Check.ofCode_findings_parts .unresolvedCrossReference (rules.inMode .lenient) (.ofRegistered items)
    { program with «variables» := program.variables.map (Check.classify (rules.inMode .lenient)) }
  simp only [List.mem_cons, reduceCtorEq, List.not_mem_nil, or_self, ↓reduceIte, List.nil_append] at nothing
  have others := List.filter_eq_nil_iff.mp nothing
  constructor
  all_goals
    refine List.filter_eq_nil_iff.mpr fun diagnostic member same => ?_
    obtain ⟨finding, found, rfl⟩ := List.mem_map.mp (List.mem_filter.mp member).1
    exact others finding found (beq_iff_eq.mpr (of_decide_eq_true same))

end Program

end StepFlow
