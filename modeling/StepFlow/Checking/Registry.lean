import StepFlow.Program.Basic

/-! # The registry of programs

References to other programs are resolved against a registry. It knows each program by name, with the
numbers of its steps. Where a name is registered again, the later entry counts, at the place of the
first one.
-/

namespace StepFlow

open Schema

/-- What is known about a program that others refer to. -/
structure RegistryEntry where
  name : String
  steps : List Int := []
  deriving Repr, DecidableEq

/-- Programs by name, each name once. -/
abbrev Registry := List RegistryEntry

namespace RegistryEntry

/-- Reads an entry. -/
def ofJson : Json → Checked RegistryEntry := record fun fields =>
  RegistryEntry.mk
    <$> required "name" text fields
    <*> optional "step_numbers" (fun json => ascending <$> listOr .notSet integer json) [] fields

/-- The entry of a program. -/
def ofProgram (program : Program) : RegistryEntry := ⟨program.name, program.stepNumbers⟩

end RegistryEntry

namespace Registry

/-- Registers an entry: in the place of one of the same name, else at the end. -/
def register (entry : RegistryEntry) : Registry → Registry
  | [] => [entry]
  | other :: rest =>
    if other.name = entry.name then entry :: rest else other :: register entry rest

/-- The registry of entries that are registered one after another. -/
def ofEntries (entries : List RegistryEntry) : Registry :=
  entries.foldl (fun registry entry => registry.register entry) []

/-- The entry of a name. -/
def find? (registry : Registry) (name : String) : Option RegistryEntry :=
  List.find? (fun entry => entry.name == name) registry

end Registry

end StepFlow
