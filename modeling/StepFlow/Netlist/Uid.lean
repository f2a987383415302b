import StepFlow.Json.Schema

/-! # Identifiers of a netlist

Every element of a netlist that the import tool addresses has an identifier. They are handed out when
elements are made and never taken back. Under the monotonic scheme one counter runs through the whole
document. Under the scheme of bands the contents of each network come from a band of their own, and the
items of texts are numbered last.
-/

namespace StepFlow.Netlist

/-- How identifiers are handed out. -/
inductive IdScheme where
  | monotonic
  | bands
  deriving Repr, DecidableEq

/-- A source of consecutive identifiers, perhaps with an end that they should not reach. -/
structure Allocator where
  start : Int := 0
  limit : Option Int := none
  next : Int := start
  deriving Repr, DecidableEq

/-- Where the identifiers of a network come from. -/
inductive UidSource where
  /-- The counter of the document. -/
  | document
  /-- A band of its own. -/
  | own (allocator : Allocator)
  deriving Repr, DecidableEq

/-- A scheme and the counter of the document. -/
structure UidPlan where
  scheme : IdScheme := .monotonic
  document : Allocator := {}
  deriving Repr, DecidableEq

/-- The start of the rest network's band. -/
def restBandStart : Int := 500

/-- The start of the first step network's band. -/
def stepBandStart : Int := 1000

/-- The size of a step network's band. -/
def stepBandSize : Int := 100

namespace IdScheme

/-- The word for a scheme. -/
def word : IdScheme → String
  | .monotonic => "monotonic"
  | .bands => "legacy-bands"

/-- The scheme that a word names. -/
def ofWord? (word : String) : Option IdScheme := [monotonic, bands].find? (·.word == word)

end IdScheme

namespace Allocator

/-- The source after one identifier. -/
def advance (allocator : Allocator) : Allocator := { allocator with next := allocator.next + 1 }

/-- A number of identifiers, and the source after them. -/
def takeMany (allocator : Allocator) : Nat → List Int × Allocator
  | 0 => ([], allocator)
  | count + 1 =>
    let (uids, after) := allocator.advance.takeMany count
    (allocator.next :: uids, after)

/-- How many identifiers were handed out. -/
def issued (allocator : Allocator) : Int := allocator.next - allocator.start

/-- Whether more were handed out than fit below the limit. -/
def overflowed (allocator : Allocator) : Bool :=
  match allocator.limit with
  | none => false
  | some limit => decide (limit < allocator.next)

/-- A source as it is shown. -/
def display (allocator : Allocator) : String :=
  let limit := match allocator.limit with
    | none => "None"
    | some limit => toString limit
  s!"UidAllocator(start={allocator.start}, next={allocator.next}, limit={limit})"

end Allocator

namespace UidPlan

/-- Whether the items of texts are numbered after everything else. -/
def defersItems (plan : UidPlan) : Bool := plan.scheme == .bands

/-- The source of the rest network. -/
def restNetwork (plan : UidPlan) : UidSource :=
  match plan.scheme with
  | .monotonic => .document
  | .bands => .own { start := restBandStart, limit := some stepBandStart }

/-- The source of the network of a numbered step, counted from zero. -/
def stepNetwork (plan : UidPlan) (index : Int) : UidSource :=
  match plan.scheme with
  | .monotonic => .document
  | .bands =>
    let start := stepBandStart + index * stepBandSize
    .own { start, limit := some (start + stepBandSize) }

end UidPlan

end StepFlow.Netlist
