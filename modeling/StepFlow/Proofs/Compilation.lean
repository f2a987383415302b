import StepFlow.Compilation
import StepFlow.Proofs.Netlist.StepBits

/-! # Compiled texts

What is known about a program once its text was compiled: the text could be read, the checks found no errors
unless they are allowed, and the XML is that of the program's netlist.
-/

namespace StepFlow

open Netlist

theorem compile_eq_ok {setup : Setup} {source : SourceKind} {metadata : Metadata} {text : String}
    {allowErrors : Bool} {options : GeneratorOptions} {pretty : Bool} {analysis : Analysis} {xml : String}
    (compiled : compile setup source metadata text allowErrors options pretty = .ok (analysis, xml)) :
    analyze setup source metadata text = .ok analysis ∧ analysis.gate allowErrors = .ok () ∧
      ∃ document, Document.ofProgram options analysis.program = .ok document ∧ xml = document.render pretty := by
  obtain ⟨_, gated, compiled⟩ := bind_eq_ok compiled
  obtain ⟨_, generated, ⟨⟩⟩ := bind_eq_ok compiled
  obtain ⟨_, analyzed, gated⟩ := bind_eq_ok gated
  obtain ⟨_, passed, ⟨⟩⟩ := bind_eq_ok gated
  obtain ⟨document, built, ⟨⟩⟩ := bind_eq_ok (mapError_eq_ok generated)
  exact ⟨mapError_eq_ok analyzed, mapError_eq_ok passed, document, built, rfl⟩

theorem Analysis.errors_eq_nil_of_gate {analysis : Analysis} (passed : analysis.gate false = .ok ()) :
    analysis.program.errors = [] := by
  cases errors : analysis.program.errors with
  | nil => rfl
  | cons first rest => simp [gate, errors] at passed

theorem nodup_number_of_analyze {setup : Setup} {source : SourceKind} {metadata : Metadata} {text : String}
    {analysis : Analysis} (analyzed : analyze setup source metadata text = .ok analysis)
    (clean : analysis.program.errors = []) : (analysis.program.steps.map Step.number).Nodup := by
  obtain ⟨reading, _, ⟨⟩⟩ := bind_eq_ok analyzed
  exact @Program.nodup_number_of_check setup.rules setup.registry reading.program clean

/-- When a text is compiled and no errors are allowed, every step bit of its program is written by one network. -/
theorem compile_writes_steps_once {setup : Setup} {source : SourceKind} {metadata : Metadata} {text : String}
    {options : GeneratorOptions} {pretty : Bool} {analysis : Analysis} {xml : String}
    (compiled : compile setup source metadata text false options pretty = .ok (analysis, xml)) :
    ∃ document, Document.ofProgram options analysis.program = .ok document ∧ xml = document.render pretty ∧
      document.WritesStepsOnce analysis.program := by
  obtain ⟨analyzed, passed, document, built, written⟩ := compile_eq_ok compiled
  have distinct := nodup_number_of_analyze analyzed (Analysis.errors_eq_nil_of_gate passed)
  exact ⟨document, built, written, Document.writesStepsOnce distinct built⟩

/-- A rest step and two numbered steps compile, and each has its own writer. -/
theorem compile_writes_steps_once_two_steps :
    ∃ analysis xml, ∃ document : Document,
      compile {} .directEntry {} "REST: idle\nSTAP 1: fill\n- level\nSTAP 2: drain" false {} true =
        .ok (analysis, xml) ∧
      analysis.program.stepNumbers = [0, 1, 2] ∧ xml = document.render true ∧
      document.WritesStepsOnce analysis.program := by
  have evaluated :
      (compile {} .directEntry {} "REST: idle\nSTAP 1: fill\n- level\nSTAP 2: drain" false {} true).toOption.map
        (fun result => result.1.program.stepNumbers) = some [0, 1, 2] := by
    decide +kernel
  obtain ⟨⟨analysis, xml⟩, done, numbers⟩ := Option.map_eq_some_iff.mp evaluated
  have compiled := eq_ok_of_toOption_eq_some done
  obtain ⟨document, _, written, once⟩ := compile_writes_steps_once compiled
  exact ⟨analysis, xml, document, compiled, numbers, written, once⟩

end StepFlow
