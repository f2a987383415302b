import StepFlow.Proofs.Reading.Declarations

/-! # Runs of the reader

The reader goes through the lines of a text one after another. A blank line and a line that some class accepts are all
that can come next, so a fact that both of them keep holds after the last line. Lines carry their numbers into the
program as marks; one mark precedes another if its line comes first.
-/

namespace StepFlow

open Text

/-- The marks of two lines, the first of which comes first. -/
def Precedes (first second : Option Int) : Prop := ∃ before ∈ first, ∃ after ∈ second, before < after

instance (first second : Option Int) : Decidable (Precedes first second) :=
  inferInstanceAs (Decidable (∃ before ∈ first, _))

namespace Precedes

variable {first second third : Option Int}

theorem some_iff {before after : Nat} :
    Precedes (some (before : Int)) (some (after : Int)) ↔ before < after := by
  simp [Precedes]

theorem trans (earlier : Precedes first second) (later : Precedes second third) : Precedes first third := by
  obtain ⟨m, isFirst, n, isSecond, smaller⟩ := earlier
  obtain ⟨n', same, k, isThird, greater⟩ := later
  obtain rfl := Option.mem_unique isSecond same
  exact ⟨m, isFirst, k, isThird, Int.lt_trans smaller greater⟩

theorem irrefl (mark : Option Int) : ¬Precedes mark mark := by
  rintro ⟨m, here, n, there, smaller⟩
  obtain rfl := Option.mem_unique here there
  exact Int.lt_irrefl m smaller

theorem asymm (earlier : Precedes first second) : ¬Precedes second first :=
  fun later => irrefl first (earlier.trans later)

/-- What precedes a line precedes the next line. -/
theorem succ {number : Nat} (earlier : Precedes first (some (number : Int))) :
    Precedes first (some ((number + 1 : Nat) : Int)) :=
  earlier.trans (some_iff.mpr (Nat.lt_succ_self number))

end Precedes

/-- The line of the given number, in a text whose first line has number one, is blank. -/
def BlankAt (text : List (List Char)) (number : Nat) : Prop :=
  ∃ index chars, number = index + 1 ∧ text[index]? = some chars ∧ trim chars = []

theorem ofChars?_eq_none_iff {number : Nat} {chars : List Char} :
    Line.ofChars? number chars = none ↔ trim chars = [] := by
  simp only [Line.ofChars?]
  split <;> simp_all

theorem not_blankAt_of_mem {text : List (List Char)} {line : Line} (present : line ∈ solidLines 1 text) :
    ¬BlankAt text line.number := by
  obtain ⟨index, chars, listed, solid⟩ := mem_solidLines.mp present
  rintro ⟨other, blank, same, there, empty⟩
  have here := number_of_ofChars? solid
  obtain rfl : other = index := by omega
  rw [listed, Option.some.injEq] at there
  rw [ofChars?_eq_none_iff.mpr (there ▸ empty)] at solid
  cases solid

/-- Only a line of the class for it names the instance. -/
theorem Accepted.instanceName_eq {dialect : Dialect} {line : Line} {state next : ReadState} {lineClass : LineClass}
    (accepted : Accepted dialect line state lineClass next) :
    next.instanceName = state.instanceName ∨
      ∃ found, (LineRule.instancePattern dialect).matchStart? line.content = some found ∧
        next.instanceName = String.ofList (trim (found.kept 1)) := by
  cases accepted with
  | instanceName matched => exact .inr ⟨_, matched, rfl⟩
  | transition =>
    obtain ⟨_, _, _, closed⟩ := state.closeVariable_eq
    rw [closed]
    exact .inl rfl
  | condition =>
    refine .inl ?_
    obtain ⟨_, _, filed⟩ := file_eq dialect _ _
    rw [filed, ReadState.reportAll_eq]
  | _ => exact .inl rfl

/-- The first class whose rule does not leave a line alone accepts the line. -/
structure Takes (dialect : Dialect) (line : Line) (state : ReadState) (lineClass : LineClass) (reached : ReadState) :
    Prop where
  first : ∃ before after, LineClass.standard = before ++ lineClass :: after ∧
    ∀ other ∈ before, other.rule dialect line state = .ok none
  accepted : Accepted dialect line state lineClass reached

/-- What holds at the start and is kept by blank lines and by lines that a class takes holds after a text. -/
theorem readLines_keeps_taken {dialect : Dialect} {text : List (List Char)} {holds : Nat → ReadState → Prop}
    (start : holds 1 {})
    (blank : ∀ {number state}, BlankAt text number → holds number state → holds (number + 1) state.blankLine)
    (solid : ∀ {line state lineClass reached}, line ∈ solidLines 1 text →
      Takes dialect line state lineClass reached → holds line.number state →
        holds (line.number + 1) (reached.classify line lineClass))
    {state : ReadState} (read : readLines dialect LineClass.standard 1 {} text = .ok state) :
    holds (text.length + 1) state := by
  have goesOn (before rest : List (List Char)) (whole : before ++ rest = text) (between : ReadState)
      (here : holds (before.length + 1) between)
      (read : readLines dialect LineClass.standard (before.length + 1) between rest = .ok state) :
      holds (text.length + 1) state := by
    induction rest generalizing before between with
    | nil =>
      cases read
      rwa [← whole, List.append_nil]
    | cons chars rest ih =>
      have listed : text[before.length]? = some chars := by simp [← whole]
      have later := ih (before ++ [chars]) (by rw [← whole, List.append_assoc]; rfl)
      rw [List.length_append, List.length_singleton] at later
      simp only [readLines] at read
      cases content : Line.ofChars? (before.length + 1) chars with
      | none =>
        simp only [content] at read
        exact later _ (blank ⟨_, chars, rfl, listed, ofChars?_eq_none_iff.mp content⟩ here) read
      | some line =>
        have present : line ∈ solidLines 1 text :=
          mem_solidLines.mpr ⟨before.length, chars, listed, by rwa [Nat.add_comm]⟩
        have number := number_of_ofChars? content
        simp only [content] at read
        split at read
        · cases read
        · rename_i next ran
          rcases readLine_eq_ok ran with ⟨left, _⟩ | ⟨before, lineClass, after, reached, split, left, accepted, rfl⟩
          · have taken := left .unrecognized (by decide)
            cases taken
          · have kept := solid present ⟨⟨before, after, split, left⟩, accepted⟩ (number ▸ here)
            rw [number] at kept
            exact later _ kept read
  exact goesOn [] text rfl {} start read

/-- What holds at the start and is kept by blank lines and by lines that some class accepts holds after a text. -/
theorem readLines_keeps {dialect : Dialect} {text : List (List Char)} {holds : Nat → ReadState → Prop}
    (start : holds 1 {})
    (blank : ∀ {number state}, BlankAt text number → holds number state → holds (number + 1) state.blankLine)
    (solid : ∀ {line state lineClass reached}, line ∈ solidLines 1 text →
      Accepted dialect line state lineClass reached → holds line.number state →
        holds (line.number + 1) (reached.classify line lineClass))
    {state : ReadState} (read : readLines dialect LineClass.standard 1 {} text = .ok state) :
    holds (text.length + 1) state :=
  readLines_keeps_taken start blank (fun present taken => solid present taken.accepted) read

end StepFlow
