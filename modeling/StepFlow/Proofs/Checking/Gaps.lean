import Mathlib.Data.List.Sort
import StepFlow.Proofs.Checking.Structure
import StepFlow.Proofs.Text.Numeral

/-! # Gaps in the numbering

The numbers of the numbered steps are put in ascending order, and each one is compared with the next. Where numbers are
missing in between, and no step with the later number has a transition, a warning names them as a range. Here the
ranges are read back from the messages. They are compared with the numbers that a program misses, which are described
without any order: nothing has the number, something has a lower one, and something has a higher one.
-/

namespace StepFlow

open Text

/-! ## Neighbours in ascending lists -/

/-- Each number of a list with the next one. -/
def neighbours (numbers : List Int) : List (Int × Int) := numbers.zip numbers.tail

section Neighbours

variable {numbers : List Int} {pair : Int × Int}

theorem neighbours_cons_cons (m n : Int) (rest : List Int) :
    neighbours (m :: n :: rest) = (m, n) :: neighbours (n :: rest) := rfl

theorem mem_of_mem_neighbours (member : pair ∈ neighbours numbers) : pair.1 ∈ numbers ∧ pair.2 ∈ numbers :=
  ⟨(List.of_mem_zip member).1, List.mem_of_mem_tail (List.of_mem_zip member).2⟩

/-- No number lies between two neighbours. -/
theorem neighbours_apart (sorted : numbers.Pairwise (· < ·)) (member : pair ∈ neighbours numbers) :
    pair.1 < pair.2 ∧ ∀ k ∈ numbers, k ≤ pair.1 ∨ pair.2 ≤ k := by
  induction numbers with
  | nil => exact absurd member List.not_mem_nil
  | cons m rest ih =>
    cases rest with
    | nil => exact absurd member List.not_mem_nil
    | cons n rest =>
      obtain ⟨least, later⟩ := List.pairwise_cons.mp sorted
      have next : m < n := least n List.mem_cons_self
      rcases List.mem_cons.mp member with rfl | member
      · refine ⟨next, List.forall_mem_cons.mpr ⟨.inl le_rfl, fun k present => .inr ?_⟩⟩
        rcases List.mem_cons.mp present with rfl | present
        · exact le_rfl
        · exact le_of_lt ((List.pairwise_cons.mp later).1 k present)
      · obtain ⟨less, apart⟩ := ih later member
        refine ⟨less, List.forall_mem_cons.mpr ⟨.inl ?_, apart⟩⟩
        exact le_of_lt (least _ (mem_of_mem_neighbours member).1)

theorem pairwise_neighbours (sorted : numbers.Pairwise (· < ·)) :
    (neighbours numbers).Pairwise fun first second => first.2 ≤ second.1 := by
  induction numbers with
  | nil => exact .nil
  | cons m rest ih =>
    cases rest with
    | nil => exact .nil
    | cons n rest =>
      obtain ⟨least, later⟩ := List.pairwise_cons.mp sorted
      rw [neighbours_cons_cons]
      refine List.pairwise_cons.mpr ⟨fun pair member => ?_, ih later⟩
      rcases List.mem_cons.mp (mem_of_mem_neighbours member).1 with same | present
      · exact same.ge
      · exact le_of_lt ((List.pairwise_cons.mp later).1 _ present)

/-- A number that is missing between others lies between two neighbours. -/
theorem exists_neighbours_around (sorted : numbers.Pairwise (· < ·)) {n below above : Int} (missing : n ∉ numbers)
    (present : below ∈ numbers) (less : below < n) (present' : above ∈ numbers) (greater : n < above) :
    ∃ pair ∈ neighbours numbers, pair.1 < n ∧ n < pair.2 := by
  induction numbers generalizing below with
  | nil => exact absurd present List.not_mem_nil
  | cons m rest ih =>
    obtain ⟨least, later⟩ := List.pairwise_cons.mp sorted
    obtain ⟨other, missing⟩ := not_or.mp (mt List.mem_cons.mpr missing)
    have smallest : m < n := by
      rcases List.mem_cons.mp present with rfl | present
      · exact less
      · exact (least below present).trans less
    have present' : above ∈ rest := by
      rcases List.mem_cons.mp present' with rfl | present'
      · omega
      · exact present'
    cases rest with
    | nil => exact absurd present' List.not_mem_nil
    | cons k rest =>
      rw [neighbours_cons_cons]
      by_cases here : n < k
      · exact ⟨(m, k), List.mem_cons_self, smallest, here⟩
      · have differs : n ≠ k := fun same => missing (same ▸ List.mem_cons_self)
        obtain ⟨pair, member, around⟩ := ih later missing List.mem_cons_self (by omega) present'
        exact ⟨pair, List.mem_cons_of_mem _ member, around⟩

end Neighbours

/-! ## What the check finds -/

namespace Check

variable {program : Program}

/-- Some step of the number has transitions, which bridge a gap before it. -/
def Bridged (program : Program) (number : Int) : Prop :=
  ∃ step ∈ stepsNumbered program number, step.transitions ≠ []

instance (program : Program) (number : Int) : Decidable (Bridged program number) :=
  inferInstanceAs (Decidable (∃ step ∈ stepsNumbered program number, _))

/-- The finding on the numbers between two others. -/
def missingBetween (program : Program) (pair : Int × Int) : Finding :=
  ⟨.gap (pair.1 + 1) (pair.2 - 1), (stepsNumbered program pair.2).head?.bind Step.line⟩

/-- The neighbours with a gap between them that nothing bridges. -/
def openGaps (program : Program) (numbers : List Int) : List (Int × Int) :=
  (neighbours numbers).filter fun pair => pair.2 ≠ pair.1 + 1 ∧ ¬Bridged program pair.2

theorem gapBefore_eq (program : Program) (previous current : Int) :
    gapBefore program previous current =
      if current ≠ previous + 1 ∧ ¬Bridged program current then [missingBetween program (previous, current)]
      else [] := by
  have bridged : (stepsNumbered program current).any (fun step => !step.transitions.isEmpty) =
      decide (Bridged program current) := by
    rw [Bool.eq_iff_iff, decide_eq_true_eq]
    simp [Bridged]
  simp only [gapBefore, bridged, Bool.or_eq_true, decide_eq_true_eq]
  by_cases next : current = previous + 1 <;> by_cases crossed : Bridged program current <;>
    simp [next, crossed, missingBetween]

theorem gaps_eq (program : Program) (numbers : List Int) :
    gaps program numbers = (openGaps program numbers).map (missingBetween program) := by
  fun_induction gaps program numbers with
  | case1 previous current rest ih =>
    rw [openGaps, neighbours_cons_cons, List.filter_cons, gapBefore_eq, ih]
    simp only [decide_eq_true_eq]
    split <;> rfl
  | case2 numbers short =>
    cases numbers with
    | nil => rfl
    | cons previous rest =>
      cases rest with
      | nil => rfl
      | cons current rest => exact absurd rfl (short previous current rest)

theorem pairwise_usedNumbers (program : Program) : (usedNumbers program).Pairwise (· < ·) := pairwise_ascending _

theorem mem_usedNumbers {n : Int} :
    n ∈ usedNumbers program ↔ ∃ step ∈ program.sequentialSteps, 0 < step.number ∧ (step.number : Int) = n := by
  simp [usedNumbers, Nat.pos_iff_ne_zero, and_assoc]

theorem mem_stepsNumbered {number : Int} {step : Step} :
    step ∈ stepsNumbered program number ↔ step ∈ program.sequentialSteps ∧ (step.number : Int) = number := by
  simp [stepsNumbered]

/-- Rest steps have number zero, so the first step with any other number is a numbered one. -/
theorem head?_stepsNumbered {number : Int} (positive : 0 < number) :
    (stepsNumbered program number).head? = program.steps.find? fun step => (step.number : Int) == number := by
  rw [← List.head?_filter, stepsNumbered, Program.sequentialSteps, List.filter_filter]
  congr 1
  refine List.filter_congr fun step _ => ?_
  cases resting : step.isRest with
  | false => simp
  | true =>
    have zero := Step.number_eq_zero_of_isRest resting
    have differs : (0 : Int) ≠ number := by omega
    simp [zero, differs]

end Check

/-- A number for which a warning is due: no numbered step has it, positive numbers stand below and above it, and no
step with the least number above it has a transition. -/
structure Program.Misses (program : Program) (n : Int) : Prop where
  unused : ∀ step ∈ program.sequentialSteps, (step.number : Int) ≠ n
  below : ∃ step ∈ program.sequentialSteps, 0 < step.number ∧ (step.number : Int) < n
  above : ∃ step ∈ program.sequentialSteps, 0 < step.number ∧ n < (step.number : Int)
  unbridged : ∀ step ∈ program.sequentialSteps, n < (step.number : Int) →
    (∀ other ∈ program.sequentialSteps, n < (other.number : Int) → step.number ≤ other.number) →
    step.transitions = []

namespace Check

variable {program : Program}

/-- The open gaps hold the numbers that the program misses. -/
theorem exists_openGap_iff {n : Int} :
    (∃ pair ∈ openGaps program (usedNumbers program), pair.1 < n ∧ n < pair.2) ↔ program.Misses n := by
  have sorted := pairwise_usedNumbers program
  constructor
  · rintro ⟨pair, member, less, greater⟩
    obtain ⟨adjacent, isOpen⟩ := List.mem_filter.mp member
    obtain ⟨-, unbridged⟩ := of_decide_eq_true isOpen
    obtain ⟨-, apart⟩ := neighbours_apart sorted adjacent
    obtain ⟨below, above⟩ := mem_of_mem_neighbours adjacent
    obtain ⟨first, isFirst, firstPositive, firstNumber⟩ := mem_usedNumbers.mp below
    obtain ⟨second, isSecond, secondPositive, secondNumber⟩ := mem_usedNumbers.mp above
    -- A step whose number is at least the missing one has a number in use, so it lies above the gap.
    have far : ∀ step ∈ program.sequentialSteps, n ≤ (step.number : Int) → pair.2 ≤ step.number := by
      intro step present least
      have used : (step.number : Int) ∈ usedNumbers program := mem_usedNumbers.mpr ⟨step, present, by omega, rfl⟩
      have := apart _ used
      omega
    refine ⟨fun step present same => ?_, ⟨first, isFirst, firstPositive, by omega⟩,
      ⟨second, isSecond, secondPositive, by omega⟩, fun step present above least => ?_⟩
    · have := far step present same.ge
      omega
    · have upper := far step present (by omega)
      have lower := least second isSecond (by omega)
      have numbered : step ∈ stepsNumbered program pair.2 := mem_stepsNumbered.mpr ⟨present, by omega⟩
      exact not_not.mp fun bridge => unbridged ⟨step, numbered, bridge⟩
  · intro misses
    obtain ⟨first, isFirst, firstPositive, less⟩ := misses.below
    obtain ⟨second, isSecond, secondPositive, greater⟩ := misses.above
    have unused : n ∉ usedNumbers program := by
      intro used
      obtain ⟨step, present, -, same⟩ := mem_usedNumbers.mp used
      exact misses.unused step present same
    obtain ⟨pair, adjacent, above, below⟩ := exists_neighbours_around sorted unused
      (mem_usedNumbers.mpr ⟨first, isFirst, firstPositive, rfl⟩) less
      (mem_usedNumbers.mpr ⟨second, isSecond, secondPositive, rfl⟩) greater
    obtain ⟨-, apart⟩ := neighbours_apart sorted adjacent
    refine ⟨pair, List.mem_filter.mpr ⟨adjacent, decide_eq_true ⟨by omega, ?_⟩⟩, above, below⟩
    rintro ⟨step, numbered, bridge⟩
    obtain ⟨present, same⟩ := mem_stepsNumbered.mp numbered
    refine bridge (misses.unbridged step present (by omega) fun other isOther larger => ?_)
    have := apart other.number (mem_usedNumbers.mpr ⟨other, isOther, by omega, rfl⟩)
    omega

theorem of_mem_openGaps {pair : Int × Int} (member : pair ∈ openGaps program (usedNumbers program)) :
    0 < pair.1 ∧ pair.1 + 1 < pair.2 ∧ pair.2 ∈ usedNumbers program := by
  obtain ⟨adjacent, isOpen⟩ := List.mem_filter.mp member
  obtain ⟨wide, -⟩ := of_decide_eq_true isOpen
  obtain ⟨less, -⟩ := neighbours_apart (pairwise_usedNumbers program) adjacent
  obtain ⟨below, above⟩ := mem_of_mem_neighbours adjacent
  obtain ⟨step, -, positive, number⟩ := mem_usedNumbers.mp below
  exact ⟨by omega, by omega, above⟩

end Check

/-! ## The range in a message -/

/-- Two numerals with two dots between them, at the start of a text. -/
def readRange? (text : List Char) : Option (Int × Int) :=
  (stripStart? ['.', '.'] (text.dropWhile isDecimal)).bind fun rest =>
    let first := text.takeWhile isDecimal
    let last := rest.takeWhile isDecimal
    if first.isEmpty || last.isEmpty then none else some (numeralValue 0 first, numeralValue 0 last)

/-- The range of numbers that the message of a warning about a gap names. -/
def Diagnostic.missingRange? (diagnostic : Diagnostic) : Option (Int × Int) :=
  (stripStart? "steps ".toList diagnostic.message.toList).bind readRange?

theorem toList_toString_natCast (number : Nat) : (toString (number : Int)).toList = Nat.toDigits 10 number :=
  Nat.toList_repr

/-- The range in the message is that of the finding. -/
theorem missingRange?_diagnostic (first last : Nat) (line : Option Int) :
    (Finding.mk (.gap first last) line).diagnostic.missingRange? = some ((first : Int), (last : Int)) := by
  have message : (FindingCause.gap first last).message = "steps " ++ toString (first : Int) ++ ".." ++
      toString (last : Int) ++ " missing before step " ++ toString ((last : Int) + 1) := rfl
  have chars : (FindingCause.gap first last).message.toList = "steps ".toList ++
      (Nat.toDigits 10 first ++ '.' :: '.' :: (Nat.toDigits 10 last ++
        ' ' :: ("missing before step ".toList ++ (toString ((last : Int) + 1)).toList))) := by
    rw [message]
    simp only [String.toList_append, toList_toString_natCast, List.append_assoc]
    rfl
  have given (number : Nat) : (Nat.toDigits 10 number).isEmpty = false := by simp [Nat.toDigits_ne_nil]
  rw [Diagnostic.missingRange?, Finding.diagnostic, chars, stripStart?_eq_some_iff.mpr rfl, Option.bind_some,
    readRange?, dropWhile_toDigits first (by decide), takeWhile_toDigits first (by decide)]
  simp only [stripStart?, ↓reduceIte, Option.bind_some, takeWhile_toDigits last (show isDecimal ' ' = false by decide),
    given, Bool.or_false, Bool.false_eq_true, numeralValue_toDigits]

namespace Check

variable {program : Program}

theorem missingRange?_missingBetween {pair : Int × Int} (member : pair ∈ openGaps program (usedNumbers program)) :
    (missingBetween program pair).diagnostic.missingRange? = some (pair.1 + 1, pair.2 - 1) := by
  obtain ⟨positive, wide, -⟩ := of_mem_openGaps member
  obtain ⟨first, isFirst⟩ := Int.eq_ofNat_of_zero_le (a := pair.1 + 1) (by omega)
  obtain ⟨last, isLast⟩ := Int.eq_ofNat_of_zero_le (a := pair.2 - 1) (by omega)
  rw [missingBetween, isFirst, isLast]
  exact missingRange?_diagnostic first last _

/-- The order of the steps does not matter for the gaps. -/
theorem openGaps_perm {steps : List Step} (same : steps.Perm program.steps) :
    openGaps { program with steps } (usedNumbers { program with steps }) =
      openGaps program (usedNumbers program) := by
  have sequential (step : Step) :
      step ∈ { program with steps : Program }.sequentialSteps ↔ step ∈ program.sequentialSteps := by
    simp [Program.sequentialSteps, same.mem_iff]
  have numbers : usedNumbers { program with steps } = usedNumbers program :=
    (pairwise_usedNumbers _).eq_of_mem_iff (pairwise_usedNumbers _) fun n => by
      simp only [mem_usedNumbers, sequential]
  have bridges (number : Int) : Bridged { program with steps } number ↔ Bridged program number := by
    simp only [Bridged, mem_stepsNumbered, sequential]
  rw [numbers, openGaps, openGaps]
  refine List.filter_congr fun pair _ => ?_
  rw [decide_eq_decide, bridges]

end Check

namespace Program

variable (rules : CheckRules) (registry : Registry) (program : Program)

/-- The warnings about gaps that a check adds. -/
def gapWarnings : List Diagnostic :=
  (program.check rules registry).2.warnings.filter fun diagnostic => diagnostic.code == .missingSequentialStep

theorem gapWarnings_eq :
    program.gapWarnings rules registry =
      (Check.openGaps program (Check.usedNumbers program)).map
        fun pair => (Check.missingBetween program pair).diagnostic := by
  have light (finding : Finding) (same : finding.cause.code = .missingSequentialStep) :
      finding.cause.severity = .warning := by
    cases cause : finding.cause <;> simp_all [FindingCause.code, FindingCause.severity]
  rw [gapWarnings, ofCode_warnings rules registry program light, Check.ofCode_findings_parts]
  simp only [List.mem_cons, reduceCtorEq, List.not_mem_nil, or_self, ↓reduceIte, List.nil_append, List.append_nil]
  rw [Check.gaps_eq, List.map_map]
  rfl

theorem ranges_gapWarnings :
    (program.gapWarnings rules registry).map Diagnostic.missingRange? =
      (Check.openGaps program (Check.usedNumbers program)).map fun pair => some (pair.1 + 1, pair.2 - 1) := by
  rw [gapWarnings_eq, List.map_map]
  exact List.map_congr_left fun pair member => Check.missingRange?_missingBetween member

/-- Steps out of order, two of them with one number: a transition bridges the gap before the fourth step, and nothing
the one before the seventh. -/
def scatteredProgram : Program :=
  { steps :=
      [{ keyword := "STAP", description := "g", line := some 1, kind := .sequential 7 },
        { keyword := "RUST", description := "r", line := some 2, kind := .rest },
        { keyword := "STAP", description := "d", line := some 3, kind := .sequential 4 },
        { keyword := "STAP", description := "b", line := some 4, kind := .sequential 2 },
        { keyword := "STAP", description := "d", line := some 6, kind := .sequential 4
          transitions := [{ origin := 2 }] },
        { keyword := "STAP", description := "g", line := some 7, kind := .sequential 7 }] }

end Program

end StepFlow
