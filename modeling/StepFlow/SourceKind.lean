import StepFlow.Text.Quoted

/-! # Where a program text comes from

Text typed in by hand is taken nearly as it is. Text taken over from a word processor has list
bullets and page breaks that are no part of the program.
-/

namespace StepFlow

/-- Where a program text comes from. -/
inductive SourceKind where
  | documentImport
  | directEntry
  deriving Repr, DecidableEq

namespace SourceKind

/-- The word for a kind of source. -/
def word : SourceKind → String
  | .documentImport => "document-import"
  | .directEntry => "direct-entry"

/-- All kinds of sources. -/
def all : List SourceKind := [.documentImport, .directEntry]

/-- The kind of source that a word names. -/
def ofWord? (word : String) : Option SourceKind := all.find? (·.word == word)

end SourceKind

end StepFlow
