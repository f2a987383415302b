import StepFlow.Analysis
import Mathlib.Data.List.Induction

/-! # What a check takes from the registry

The registry answers a name with the entry that was registered last under it. A check asks nothing else of the
registry, so registries that give the same answers give the same analyses.
-/

namespace StepFlow

namespace Registry

theorem find?_register (entry : RegistryEntry) (registry : Registry) (name : String) :
    (registry.register entry).find? name = if entry.name = name then some entry else registry.find? name := by
  induction registry with
  | nil => simp [register, find?]
  | cons other rest ih =>
    rw [register]
    split
    · rename_i same
      by_cases wanted : entry.name = name <;> simp [find?, wanted, same]
    · rename_i differs
      by_cases found : other.name = name
      · have unwanted : entry.name ≠ name := fun wanted => differs (found.trans wanted.symm)
        simp [find?, found, unwanted]
      · simpa [find?, found] using ih

/-- A name has the last entry that was registered under it. -/
theorem find?_ofEntries (entries : List RegistryEntry) (name : String) :
    (ofEntries entries).find? name = (entries.filter fun entry => entry.name == name).getLast? := by
  induction entries using List.reverseRecOn with
  | nil => rfl
  | append_singleton entries entry ih =>
    have step : ofEntries (entries ++ [entry]) = (ofEntries entries).register entry := by
      rw [ofEntries, List.foldl_append]
      rfl
    rw [step, find?_register, ih, List.filter_append]
    by_cases wanted : entry.name = name <;> simp [wanted]

end Registry

variable {registry registry' : Registry}

theorem Check.references_congr (same : ∀ name, registry.find? name = registry'.find? name) (rules : ReferenceRules)
    (program : Program) : references rules registry program = references rules registry' program := by
  unfold references unresolved resolve
  simp only [same]

theorem Program.check_congr (same : ∀ name, registry.find? name = registry'.find? name) (rules : CheckRules)
    (program : Program) : program.check rules registry = program.check rules registry' := by
  simp only [Program.check, Check.findings, Check.references_congr same]

/-- Registries that give the same answers give the same analyses. -/
theorem analyze_congr (same : ∀ name, registry.find? name = registry'.find? name) (dialect : Dialect)
    (rules : CheckRules) (source : SourceKind) (metadata : Metadata) (text : String) :
    analyze { dialect, rules, registry } source metadata text =
      analyze { dialect, rules, registry := registry' } source metadata text := by
  simp only [analyze, Program.check_congr same]

end StepFlow
