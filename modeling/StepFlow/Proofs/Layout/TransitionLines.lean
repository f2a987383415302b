import Mathlib.Data.List.DropRight
import StepFlow.Proofs.Layout.Embedded
import StepFlow.Proofs.Pattern.Search

/-! # Lines that open like a transition

A line that opens like a transition mentions a step after the word of transitions. If nothing follows the number, the
line is a transition and stays whole. Otherwise it is treated like any other line: a colon or a point after the number
makes the mention itself the first head of the line, so that the word of transitions is left alone and the step is
declared anew. Without such a sign the mention stays where it is, and the line is cut after it unless the first head of
each kind is guarded.
-/

namespace StepFlow.Layout

open Text Pattern

/-! ## First heads -/

section Heads

variable {dialect : Dialect} {kind : HeadKind} {text before : List Char}

/-- The first head of a kind after other text: all others stand further on. -/
structure FirstHead (dialect : Dialect) (kind : HeadKind) (text before : List Char) : Prop where
  given : before ≠ []
  has : HasHead dialect kind text before
  first : ∀ other, other ≠ [] → HasHead dialect kind text other → before <+: other

/-- A head that is not cut off: it is within a reference, or it is that of a rest step after a colon in parentheses. -/
def Guarded (kind : HeadKind) (before : List Char) : Prop :=
  isReferenceContext before = true ∨ kind = .rest ∧ HasColonInParens before

theorem FirstHead.unique {other : List Char} (isFirst : FirstHead dialect kind text before)
    (isOther : FirstHead dialect kind text other) : before = other :=
  (isFirst.first other isOther.given isOther.has).eq_of_length_le
    (isOther.first before isFirst.given isFirst.has).length_le

theorem firstHead_of_embeddedPattern (readable : dialect.Readable) (single : '\n' ∉ text) {found : Match}
    (matched : (embeddedPattern dialect kind).matchStart? text = some found) :
    FirstHead dialect kind text (found.kept 1) := by
  obtain ⟨⟨form, after, embeds, -⟩, first⟩ := of_embeddedPattern readable single matched
  refine ⟨?_, ⟨form, after, embeds⟩, first⟩
  rw [embeddedPattern_eq] at matched
  obtain ⟨led, middle, -, given, kept, ended, -⟩ := of_matchStart?_shortest single matched
  have same := kept?_of_mem_ends _ (one_not_mem_indices dialect kind) ended
  rwa [Match.kept, Match.kept?, same, kept, Option.getD_some]

/-- The pattern of a kind of heads finds the first one. -/
theorem FirstHead.exists_match (readable : dialect.Readable) (single : '\n' ∉ text)
    (isFirst : FirstHead dialect kind text before) :
    ∃ found, (embeddedPattern dialect kind).matchStart? text = some found ∧ found.kept 1 = before := by
  cases matched : (embeddedPattern dialect kind).matchStart? text with
  | none => exact absurd isFirst.has (not_hasHead_of_embeddedPattern single matched isFirst.given)
  | some found => exact ⟨found, rfl, (firstHead_of_embeddedPattern readable single matched).unique isFirst⟩

theorem HasColonInParens.occursIn (has : HasColonInParens text) : colonInParens.occursIn text = true := by
  obtain ⟨left, inner, inner', right, rfl, free, free'⟩ := has
  have inside {part : List Char} (free : ')' ∉ part) : (span (.noneOf ")") .anyNumber true).Passes part := by
    refine .span (fun c member => ?_) (Nat.zero_le _) true
    have differs : c ≠ ')' := fun same => free (same ▸ member)
    simp [CharTest.noneOf, CharTest.holds, differs]
  have marked (c : Char) : (mark c).Passes [c] := .one (by simp)
  have goes := (marked '(').goesThrough ((inside free).goesThrough ((marked ':').goesThrough ((inside free').goesThrough
    ((marked ')').goesThrough (goesThrough_nil right)))))
  exact (goes.goesFrom left.reverse).occursIn

/-- No declaration is found exactly if the first head of each kind is guarded. -/
theorem embedded?_eq_none_iff (readable : dialect.Readable) (single : '\n' ∉ text) :
    embedded? dialect text = none ↔ ∀ kind before, FirstHead dialect kind text before → Guarded kind before := by
  constructor
  · intro uncut kind before isFirst
    obtain ⟨found, matched, rfl⟩ := isFirst.exists_match readable single
    exact of_embedded?_eq_none uncut matched
  · intro guarded
    have noRest : embeddedRest? dialect text = none := by
      rw [embeddedRest?]
      split
      · rename_i found matched
        have isFirst : FirstHead dialect .rest text (found.kept 1) :=
          firstHead_of_embeddedPattern readable single matched
        rw [if_pos]
        rcases guarded .rest _ isFirst with refers | ⟨-, colon⟩
        · rw [refers, Bool.true_or]
        · rw [colon.occursIn, Bool.or_true]
      · rfl
    rw [embedded?]
    split
    · rename_i found matched
      have isFirst : FirstHead dialect .numbered text (found.kept 1) :=
        firstHead_of_embeddedPattern readable single matched
      rcases guarded .numbered _ isFirst with refers | ⟨other, -⟩
      · rw [if_pos refers, noRest]
      · cases other
    · exact noRest

end Heads

/-! ## Places in a line -/

section Places

variable {part rest before gap after : List Char}

/-- A part without blanks ends before a gap. -/
theorem skip_solid (same : part ++ rest = before ++ (gap ++ after)) (solid : ∀ c ∈ part, isBlank c = false)
    (spaced : gap ≠ [] ∧ ∀ c ∈ gap, isBlank c = true) :
    ∃ more, before = part ++ more ∧ rest = more ++ (gap ++ after) := by
  rcases List.append_eq_append_iff.mp same with ⟨more, split, split'⟩ | ⟨inside, split, split'⟩
  · exact ⟨more, split, split'⟩
  · cases inside with
    | nil => exact ⟨[], by simp [split], split'.symm⟩
    | cons c inside =>
      obtain ⟨d, more, rfl⟩ := List.exists_cons_of_ne_nil spaced.1
      obtain ⟨rfl, -⟩ := List.cons.inj split'
      exact absurd (spaced.2 d (.head _)) (by simp [solid d (by simp [split])])

/-- A part of blanks ends before a gap, or it ends together with the gap. -/
theorem skip_blanks (same : part ++ rest = before ++ (gap ++ after)) (blank : ∀ c ∈ part, isBlank c = true)
    (spaced : gap ≠ [] ∧ ∀ c ∈ gap, isBlank c = true) (solid : startsBlank rest = false)
    (solid' : startsBlank after = false) :
    (∃ more, before = part ++ more ∧ rest = more ++ (gap ++ after)) ∨ part = before ++ gap ∧ rest = after := by
  rcases List.append_eq_append_iff.mp same with ⟨more, split, split'⟩ | ⟨inside, split, split'⟩
  · exact .inl ⟨more, split, split'⟩
  · -- Neither side of what is left has blanks after the other one.
    have starts {blanks more : List Char} (all : ∀ c ∈ blanks, isBlank c = true)
        (stops : startsBlank (blanks ++ more) = false) : blanks = [] := by
      cases blanks with
      | nil => rfl
      | cons c blanks => exact absurd (all c (.head _)) (Bool.eq_false_iff.mp stops)
    rcases List.append_eq_append_iff.mp split' with ⟨more, split₁, split₂⟩ | ⟨more, split₁, split₂⟩
    · obtain rfl := starts (fun c member => blank c (by simp [split, split₁, member])) (split₂ ▸ solid')
      exact .inr ⟨by simp [split, split₁], split₂.symm⟩
    · obtain rfl := starts (fun c member => spaced.2 c (by simp [split₁, member])) (split₂ ▸ solid)
      exact .inr ⟨by simp [split, split₁], split₂⟩

end Places

/-! ## Mentions of steps -/

/-- The word of transitions, perhaps after a plus sign. -/
def IsOpening (dialect : Dialect) (opening : List Char) : Prop :=
  IsKeyword [dialect.conditions.transition] opening ∨
    ∃ gap word, opening = '+' :: (gap ++ word) ∧ (∀ c ∈ gap, isBlank c = true) ∧
      IsKeyword [dialect.conditions.transition] word

/-- The start of a line that opens like a transition: the word of transitions, and the word and the number of the step
that is mentioned. -/
structure StepMention (dialect : Dialect) where
  opening : List Char
  gap : List Char
  word : List Char
  gap' : List Char
  digits : List Char
  isOpening : IsOpening dialect opening
  spaced : gap ≠ [] ∧ ∀ c ∈ gap, isBlank c = true
  keyword : IsKeyword dialect.stepWords.step word
  spaced' : gap' ≠ [] ∧ ∀ c ∈ gap', isBlank c = true
  given : digits ≠ []
  decimal : ∀ c ∈ digits, isDecimal c = true

namespace StepMention

variable {dialect : Dialect}

/-- The text of a mention. -/
def text (mention : StepMention dialect) : List Char :=
  mention.opening ++ (mention.gap ++ (mention.word ++ (mention.gap' ++ mention.digits)))

/-- A line starts with a mention, whose number ends there. -/
def Opens (mention : StepMention dialect) (line rest : List Char) : Prop :=
  line = mention.text ++ rest ∧ rest.head?.any isDecimal = false

end StepMention

/-- A colon or a point stands at the start of a text, perhaps after blanks. -/
def StartsWithSign (text : List Char) : Prop :=
  (text.dropWhile isBlank).head? = some ':' ∨ (text.dropWhile isBlank).head? = some '.'

/-- A sign that is left at the start of a part of a text is there in the whole text. -/
theorem StartsWithSign.of_prefix {text part : List Char} (signed : StartsWithSign part) (starts : part <+: text) :
    StartsWithSign text := by
  obtain ⟨more, rfl⟩ := starts
  have kept {sign : Char} (found : (part.dropWhile isBlank).head? = some sign) :
      ((part ++ more).dropWhile isBlank).head? = some sign := by
    obtain ⟨rest, dropped⟩ := List.head?_eq_some_iff.mp found
    rw [List.dropWhile_append, dropped]
    rfl
  exact signed.imp kept kept

section Mentions

variable {dialect : Dialect} {kind : HeadKind} {before gap form : List Char}

/-- A head starts with a word of declarations. -/
theorem DeclarationHead.exists_keyword {head : List Char} (isHead : DeclarationHead dialect kind head form) :
    ∃ word rest, head = word ++ rest ∧ IsKeyword dialect.declarationWords word := by
  cases isHead with
  | numbered keyword =>
    obtain ⟨known, member, spells⟩ := keyword
    exact ⟨_, _, rfl, known, List.mem_append_right _ member, spells⟩
  | rest keyword =>
    obtain ⟨known, member, spells⟩ := keyword
    exact ⟨_, _, rfl, known, List.mem_append_left _ member, spells⟩

theorem solid_of_isKeyword {words : List String} (known : StepFlow.Readable words) {word : List Char}
    (keyword : IsKeyword words word) : ∀ c ∈ word, isBlank c = false :=
  fun c member => (inert_of_isKeyword known keyword c member).not_blank

variable (readable : dialect.Readable)
include readable

/-- The word of transitions is no word of declarations. -/
theorem not_opening_and_declaring {opening word rest rest' : List Char}
    (opens : IsKeyword [dialect.conditions.transition] opening) (declares : IsKeyword dialect.declarationWords word) :
    opening ++ rest ≠ word ++ rest' := by
  intro same
  obtain ⟨known, isOpening, isWord⟩ := readable.opening.prefixFree.exists_common
    (List.cons_subset.mpr ⟨.head _, List.nil_subset _⟩) (List.subset_cons_self _ _) opens declares same
  exact readable.not_declaring (List.mem_singleton.mp isOpening ▸ isWord)

/-- What opens a line like a transition stands before all heads. -/
theorem IsOpening.skip {opening rest declaring after : List Char} (isOpening : IsOpening dialect opening)
    (declares : IsKeyword dialect.declarationWords declaring)
    (same : opening ++ rest = before ++ (gap ++ (declaring ++ after)))
    (spaced : gap ≠ [] ∧ ∀ c ∈ gap, isBlank c = true) :
    ∃ more, before = opening ++ more ∧ rest = more ++ (gap ++ (declaring ++ after)) := by
  rcases isOpening with opens | ⟨gap', word, rfl, blank, opens⟩
  · exact skip_solid same (solid_of_isKeyword readable.transition opens) spaced
  · have afterPlus : ['+'] ++ (gap' ++ (word ++ rest)) = before ++ (gap ++ (declaring ++ after)) := by
      rw [← same]
      simp
    obtain ⟨more, rfl, afterGap⟩ := skip_solid afterPlus (List.forall_mem_singleton.mpr (by decide)) spaced
    have solid := (isContent_keyword readable readable.transition opens rest).solid
    have solid' := (isContent_keyword readable readable.declaring declares after).solid
    rcases skip_blanks afterGap blank spaced solid solid' with ⟨more, rfl, afterWord⟩ | ⟨-, together⟩
    · obtain ⟨more, rfl, left⟩ := skip_solid afterWord (solid_of_isKeyword readable.transition opens) spaced
      exact ⟨more, by simp, left⟩
    · exact absurd together (not_opening_and_declaring readable opens declares)

/-- A line that opens like a transition starts with no word of declarations. -/
theorem IsOpening.not_declarationStart {opening : List Char} (isOpening : IsOpening dialect opening)
    (rest : List Char) : (declarationStart dialect).startsIn (opening ++ rest) = false := by
  by_contra started
  rw [Bool.not_eq_false] at started
  obtain ⟨word, after, same, declares, -⟩ := of_startsIn_declarationStart readable started
  rcases isOpening with opens | ⟨gap, opening, rfl, -, -⟩
  · exact not_opening_and_declaring readable opens declares same
  · obtain ⟨c, more, letter, rfl, spells⟩ := declares.exists_cons readable.declaring
    obtain ⟨rfl, -⟩ := List.cons.inj same
    exact spells.not_sign (by decide)

/-- A line that opens like a transition is neither blank nor a comment. -/
theorem IsOpening.isContent {opening : List Char} (isOpening : IsOpening dialect opening) (rest : List Char) :
    IsContent dialect (opening ++ rest) := by
  rcases isOpening with opens | ⟨gap, opening, rfl, -, -⟩
  · exact isContent_keyword readable readable.transition opens rest
  · exact isContent_cons readable (by decide) (by decide) _

/-- The word of transitions has no sign in it but perhaps a plus sign. -/
theorem IsOpening.not_mem {opening : List Char} (isOpening : IsOpening dialect opening) {sign : Char}
    (isSign : sign ∈ layoutSigns) (differs : sign ≠ '+') : sign ∉ opening := by
  have notLetter {word : List Char} (opens : IsKeyword [dialect.conditions.transition] word) : sign ∉ word := by
    intro member
    obtain ⟨letter, spells⟩ := opens.letter_of_mem readable.transition member
    exact spells.not_sign isSign
  rcases isOpening with opens | ⟨gap, word, rfl, blank, opens⟩
  · exact notLetter opens
  · intro member
    rcases List.mem_cons.mp member with same | inside
    · exact differs same
    · rcases List.mem_append.mp inside with inGap | inWord
      · exact not_mem_layoutSigns_of_isBlank (blank sign inGap) isSign
      · exact notLetter opens inWord

/-- The word of transitions ends in a letter. -/
theorem IsOpening.exists_concat {opening : List Char} (isOpening : IsOpening dialect opening) :
    ∃ front last letter, opening = front ++ [last] ∧ SpellsLetter letter last := by
  have ends {word : List Char} (opens : IsKeyword [dialect.conditions.transition] word) :
      ∃ front last letter, word = front ++ [last] ∧ SpellsLetter letter last := by
    obtain ⟨front, last, rfl⟩ := (List.eq_nil_or_concat word).resolve_left (opens.ne_nil readable.transition)
    rw [List.concat_eq_append] at opens ⊢
    obtain ⟨letter, spells⟩ := opens.letter_of_mem readable.transition (List.mem_append_right _ (.head _) : last ∈ _)
    exact ⟨front, last, letter, rfl, spells⟩
  rcases isOpening with opens | ⟨gap, word, rfl, -, opens⟩
  · exact ends opens
  · obtain ⟨front, last, letter, rfl, spells⟩ := ends opens
    exact ⟨'+' :: (gap ++ front), last, letter, by simp, spells⟩

theorem IsOpening.trim_eq {opening : List Char} (isOpening : IsOpening dialect opening) : trim opening = opening := by
  have content := isOpening.isContent readable []
  rw [List.append_nil] at content
  obtain ⟨gap, whole, blank⟩ := exists_trim_append content.solid
  rcases List.eq_nil_or_concat gap with rfl | ⟨front, last, rfl⟩
  · rw [List.append_nil] at whole
    exact whole.symm
  · obtain ⟨letters, final, letter, isFinal, spells⟩ := isOpening.exists_concat readable
    have ends := congrArg List.getLast? whole
    have same : final = last := by simpa [isFinal] using ends
    exact absurd (blank last (by simp)) (by simp [← same, spells.not_blank])

/-- The word of transitions opens no reference. -/
theorem IsOpening.isReferenceContext_eq_false {opening : List Char} (isOpening : IsOpening dialect opening) :
    isReferenceContext opening = false := by
  obtain ⟨letters, final, letter, isFinal, spells⟩ := isOpening.exists_concat readable
  have closed : opening.count '(' = 0 := List.count_eq_zero.mpr (isOpening.not_mem readable (by decide) (by decide))
  have noPlus : opening.getLast? ≠ some '+' := by
    rw [isFinal, List.getLast?_concat]
    exact fun same => spells.ne_sign (by decide) (Option.some.inj same)
  have noDash : opening ≠ ['-'] := by
    intro same
    exact isOpening.not_mem readable (show '-' ∈ layoutSigns by decide) (by decide) (by simp [same])
  have given : opening ≠ [] := by simp [isFinal]
  rw [isReferenceContext, isOpening.trim_eq readable, closed]
  simp [noPlus, noDash, given]

/-- A head where the step is mentioned is the mention, with a sign after it. -/
theorem DeclarationHead.of_mention {head word gap' digits rest after : List Char}
    (isHead : DeclarationHead dialect kind head form) (keyword : IsKeyword dialect.stepWords.step word)
    (blank : ∀ c ∈ gap', isBlank c = true) (given : digits ≠ []) (decimal : ∀ c ∈ digits, isDecimal c = true)
    (stops : rest.head?.any isDecimal = false)
    (same : word ++ (gap' ++ (digits ++ rest)) = head ++ after) :
    kind = .numbered ∧ form = upperChars word ++ [' '] ++ digits ++ [':', ' '] ∧ StartsWithSign rest := by
  cases isHead with
  | @numbered word' gap₁ number gap₂ sign keyword' blank₁ given' decimal' blank₂ isSign =>
    simp only [List.append_assoc] at same
    have read : keyword? dialect.stepWords.step (word ++ (gap' ++ (digits ++ rest))) =
        some (word, gap' ++ (digits ++ rest)) := (keyword?_eq_some_iff readable.step.prefixFree).mpr ⟨keyword, rfl⟩
    rw [same, (keyword?_eq_some_iff readable.step.prefixFree).mpr ⟨keyword', rfl⟩] at read
    obtain ⟨rfl, left⟩ := Prod.mk.inj (Option.some.inj read)
    have starts {digits rest : List Char} (given : digits ≠ []) (decimal : ∀ c ∈ digits, isDecimal c = true) :
        (digits ++ rest).head?.any isBlank = false := by
      obtain ⟨c, more, rfl⟩ := List.exists_cons_of_ne_nil given
      exact isBlank_of_isDecimal (decimal c (.head _))
    have numbers := congrArg (List.dropWhile isBlank) left
    rw [dropWhile_append_of_stop blank₁ (starts given' decimal'), dropWhile_append_of_stop blank (starts given decimal)]
      at numbers
    have noDigit : isDecimal sign = false ∧ isBlank sign = false := by rcases isSign with rfl | rfl <;> decide
    have stops' : (gap₂ ++ ([sign] ++ after)).head?.any isDecimal = false := by
      cases gap₂ with
      | nil => exact noDigit.1
      | cons c gap₂ => exact isDecimal_of_isBlank (blank₂ c (.head _))
    have number := congrArg (List.takeWhile isDecimal) numbers
    rw [takeWhile_append_of_stop decimal' stops', takeWhile_append_of_stop decimal stops] at number
    have signed := congrArg (List.dropWhile isDecimal) numbers
    rw [dropWhile_append_of_stop decimal' stops', dropWhile_append_of_stop decimal stops] at signed
    refine ⟨rfl, by rw [number], ?_⟩
    rw [StartsWithSign, ← signed]
    rw [dropWhile_append_of_stop blank₂ (show ([sign] ++ after).head?.any isBlank = false from noDigit.2)]
    rcases isSign with rfl | rfl
    · exact .inl rfl
    · exact .inr rfl
  | @rest word' gap₁ keyword' =>
    simp only [List.append_assoc] at same
    obtain ⟨known, isStep, isRest⟩ := readable.declaring.prefixFree.exists_common (List.subset_append_right _ _)
      (List.subset_append_left _ _) keyword keyword' same
    exact absurd isRest (readable.not_rest known isStep)

end Mentions

namespace StepMention

variable {dialect : Dialect} {mention : StepMention dialect} {kind : HeadKind} {line rest before : List Char}

theorem Opens.exists_opening (opens : mention.Opens line rest) : ∃ more, line = mention.opening ++ more :=
  ⟨_, by rw [opens.1, text, List.append_assoc]⟩

/-- The number of a mention ends where it ends in the line, however much of the line is left. -/
theorem Opens.of_prefix (opens : mention.Opens line rest) {kept : List Char} (starts : kept <+: rest) :
    mention.Opens (mention.text ++ kept) kept := by
  obtain ⟨more, rfl⟩ := starts
  refine ⟨rfl, ?_⟩
  cases kept with
  | nil => rfl
  | cons c kept => exact opens.2

variable (readable : dialect.Readable)
include readable

/-- A head in a line that opens like a transition is the mention with a sign after it, or it stands after the
mention. -/
theorem Opens.of_embeds (opens : mention.Opens line rest) {form after : List Char}
    (embeds : Embeds dialect kind line before form after) :
    (∃ more, before = mention.opening ++ more ∧ kind = .numbered ∧
        form = upperChars mention.word ++ [' '] ++ mention.digits ++ [':', ' '] ∧ StartsWithSign rest) ∨
      ∃ more, before = mention.text ++ more ∧ more <+: rest := by
  obtain ⟨rfl, stops⟩ := opens
  obtain ⟨gap, head, gap', same, spaced, isHead, -⟩ := embeds
  obtain ⟨declaring, sign, headed, declares⟩ := isHead.exists_keyword
  simp only [text, List.append_assoc, headed] at same
  have solid : startsBlank (declaring ++ (sign ++ (gap' ++ after))) = false :=
    (isContent_keyword readable readable.declaring declares _).solid
  have keyword := mention.keyword
  have afterWord := (isContent_keyword readable readable.step keyword (mention.gap' ++ (mention.digits ++ rest))).solid
  obtain ⟨more, rfl, atGap⟩ := mention.isOpening.skip readable declares same spaced
  rcases skip_blanks atGap mention.spaced.2 spaced afterWord solid with ⟨more, rfl, atWord⟩ | ⟨-, here⟩
  · obtain ⟨c, digits, isNumber⟩ := List.exists_cons_of_ne_nil mention.given
    have digit : isDecimal c = true := mention.decimal c (isNumber ▸ .head _)
    have afterGap : startsBlank (mention.digits ++ rest) = false := by
      rw [isNumber]
      exact isBlank_of_isDecimal digit
    obtain ⟨more, rfl, atGap'⟩ := skip_solid atWord (solid_of_isKeyword readable.step keyword) spaced
    rcases skip_blanks atGap' mention.spaced'.2 spaced afterGap solid with ⟨more, rfl, atDigits⟩ | ⟨-, here⟩
    · obtain ⟨more, rfl, atRest⟩ :=
        skip_solid atDigits (fun c member => isBlank_of_isDecimal (mention.decimal c member)) spaced
      exact .inr ⟨more, by simp [text], ⟨_, atRest.symm⟩⟩
    · -- A head starts with a letter.
      obtain ⟨d, letters, letter, rfl, spells⟩ := declares.exists_cons readable.declaring
      rw [isNumber] at here
      obtain ⟨rfl, -⟩ := List.cons.inj here
      exact absurd digit (by simp [spells.not_decimal])
  · have here : mention.word ++ (mention.gap' ++ (mention.digits ++ rest)) = head ++ (gap' ++ after) := by
      rw [here, headed, List.append_assoc]
    obtain ⟨isNumbered, isForm, signed⟩ :=
      isHead.of_mention readable keyword mention.spaced'.2 mention.given mention.decimal stops here
    exact .inl ⟨more, rfl, isNumbered, isForm, signed⟩

/-- A mention with a sign after it is the first numbered head of its line. -/
theorem Opens.firstHead (opens : mention.Opens line rest) (signed : StartsWithSign rest) :
    FirstHead dialect .numbered line mention.opening := by
  have given : mention.opening ≠ [] := by
    have content := mention.isOpening.isContent readable []
    rw [List.append_nil] at content
    exact content.nonempty
  refine ⟨given, ?_, fun other _ has => ?_⟩
  · obtain ⟨sign, after, isSign, dropped⟩ :
        ∃ sign after, (sign = ':' ∨ sign = '.') ∧ rest.dropWhile isBlank = sign :: after := by
      rcases signed with colon | point
      · obtain ⟨after, dropped⟩ := List.head?_eq_some_iff.mp colon
        exact ⟨':', after, .inl rfl, dropped⟩
      · obtain ⟨after, dropped⟩ := List.head?_eq_some_iff.mp point
        exact ⟨'.', after, .inr rfl, dropped⟩
    have isHead := DeclarationHead.numbered mention.keyword mention.spaced'.2 mention.given mention.decimal
      (fun c member => List.mem_takeWhile_imp member : ∀ c ∈ rest.takeWhile isBlank, isBlank c = true) isSign
    refine ⟨_, after, mention.gap, _, [], ?_, mention.spaced, isHead, List.forall_mem_nil _⟩
    have whole : rest = rest.takeWhile isBlank ++ sign :: after := by
      rw [← dropped, List.takeWhile_append_dropWhile]
    rw [opens.1, text]
    nth_rewrite 1 [whole]
    simp
  · obtain ⟨form, after, embeds⟩ := has
    rcases opens.of_embeds readable embeds with ⟨more, rfl, -⟩ | ⟨more, rfl, -⟩
    · exact List.prefix_append _ _
    · rw [text, List.append_assoc]
      exact List.prefix_append _ _

/-- Trimming a line cuts nothing off the mention at its start. -/
theorem exists_trim_text_append (mention : StepMention dialect) (more : List Char) :
    ∃ kept, trim (mention.text ++ more) = mention.text ++ kept ∧ kept <+: more := by
  have solid : startsBlank (mention.text ++ more) = false := by
    rw [text, List.append_assoc]
    exact (mention.isOpening.isContent readable _).solid
  obtain ⟨gap, whole, blank⟩ := exists_trim_append solid
  rcases List.append_eq_append_iff.mp whole with ⟨kept, split, split'⟩ | ⟨trimmed, split, split'⟩
  · exact ⟨kept, split, ⟨gap, split'.symm⟩⟩
  · -- Nothing of the mention is trimmed, since it ends in a digit.
    rcases List.eq_nil_or_concat trimmed with rfl | ⟨front, last, rfl⟩
    · exact ⟨[], by simpa using split.symm, List.nil_prefix⟩
    · obtain ⟨digits, digit, isNumber⟩ := (List.eq_nil_or_concat mention.digits).resolve_left mention.given
      have ends := congrArg List.getLast? split
      have same : last = digit := by simpa [text, isNumber] using ends.symm
      have decimal := mention.decimal digit (by simp [isNumber])
      exact absurd (blank last (by simp [split'])) (by simp [same, isBlank_of_isDecimal decimal])

/-- A mention without a sign after it stays in the first piece of its line. -/
theorem Opens.of_cut (opens : mention.Opens line rest) (unsigned : ¬StartsWithSign rest) {first : List Char}
    {declarations : List (List Char)} (cut : Cut dialect line first declarations) :
    ∃ kept, kept <+: rest ∧ mention.Opens first kept := by
  induction cut generalizing rest with
  | whole line => exact ⟨rest, List.prefix_refl rest, opens⟩
  | declaration embeds free left ih =>
    rcases opens.of_embeds readable embeds with ⟨-, -, -, -, signed⟩ | ⟨more, rfl, starts⟩
    · exact absurd signed unsigned
    · obtain ⟨kept, trimmed, isKept⟩ := exists_trim_text_append readable mention more
      obtain ⟨final, isFinal, opensFirst⟩ := ih (trimmed.symm ▸ opens.of_prefix (isKept.trans starts))
        (fun signed => unsigned (signed.of_prefix (isKept.trans starts)))
      exact ⟨final, isFinal.trans (isKept.trans starts), opensFirst⟩

end StepMention

/-! ## Cutting -/

section Cutting

variable {dialect : Dialect} (readable : dialect.Readable)
include readable

/-- A line without signs of heads is not cut. -/
theorem splitBody_of_no_sign {text : List Char} (single : '\n' ∉ text) (noColon : ':' ∉ text) (noPoint : '.' ∉ text)
    (fuel : Nat) : splitBody dialect fuel text = [text] := by
  cases fuel with
  | zero => rfl
  | succ fuel =>
    have uncut : embedded? dialect text = none := by
      refine (embedded?_eq_none_iff readable single).mpr fun kind before isFirst => ?_
      rcases isFirst.has.exists_sign with colon | point
      · exact absurd colon noColon
      · exact absurd point noPoint
    rw [splitBody, uncut]
    exact ite_self _

/-- A line that starts with no word of declarations stays whole exactly if the first head of each kind is guarded. -/
theorem splitBody_eq_singleton_iff {text : List Char} (single : '\n' ∉ text)
    (undeclared : (declarationStart dialect).startsIn text = false) (given : text ≠ []) :
    splitBody dialect text.length text = [text] ↔
      ∀ kind before, FirstHead dialect kind text before → Guarded kind before := by
  obtain ⟨c, rest, rfl⟩ := List.exists_cons_of_ne_nil given
  rw [List.length_cons, splitBody, undeclared, Bool.false_or, ← embedded?_eq_none_iff readable single]
  split
  · rename_i isTransition
    refine iff_of_true rfl ((embedded?_eq_none_iff readable single).mpr fun kind before isFirst => ?_)
    exact absurd isFirst.has (not_hasHead_of_transition readable isTransition)
  · cases embedded? dialect (c :: rest) with
    | none => simp
    | some parts =>
      obtain ⟨before, declaration⟩ := parts
      have some := List.length_pos_of_ne_nil (splitBody_ne_nil dialect rest.length before)
      refine iff_of_false (fun whole => ?_) (by simp)
      have count := congrArg List.length whole
      rw [List.length_append, List.length_singleton, List.length_singleton] at count
      omega

/-- A mention with a sign after it is cut off and declares its step. -/
theorem StepMention.Opens.splitBody_eq {mention : StepMention dialect} {line rest : List Char}
    (opens : mention.Opens line rest) (single : '\n' ∉ line) (signed : StartsWithSign rest) :
    ∃ after, splitBody dialect line.length line =
      [mention.opening, upperChars mention.word ++ [' '] ++ mention.digits ++ [':', ' '] ++ after] := by
  have isFirst := opens.firstHead readable signed
  obtain ⟨found, matched, kept⟩ := isFirst.exists_match readable single
  obtain ⟨⟨form, after, embeds, same⟩, -⟩ := of_embeddedPattern readable single matched
  have isForm : form = upperChars mention.word ++ [' '] ++ mention.digits ++ [':', ' '] := by
    rw [kept] at embeds
    rcases opens.of_embeds readable embeds with ⟨-, -, -, isForm, -⟩ | ⟨more, longer, -⟩
    · exact isForm
    · have length := congrArg List.length longer
      have spaced := List.length_pos_iff.mpr mention.spaced.1
      simp only [StepMention.text, List.length_append] at length
      omega
  have isOpening := mention.isOpening
  have matched : (embeddedStep dialect).matchStart? line = some found := matched
  have cut : embedded? dialect line = some (mention.opening, form ++ after) := by
    rw [embedded?, matched]
    dsimp only
    rw [kept, isOpening.isReferenceContext_eq_false readable, if_neg Bool.false_ne_true, isOpening.trim_eq readable,
      ← same, restated]
  have undeclared : (declarationStart dialect).startsIn line = false := by
    obtain ⟨more, whole⟩ := opens.exists_opening
    rw [whole]
    exact isOpening.not_declarationStart readable more
  have noTransition : (transition dialect).startsIn line = false := by
    by_contra isTransition
    exact not_hasHead_of_transition readable (Bool.not_eq_false _ ▸ isTransition) isFirst.has
  have noFeed : '\n' ∉ mention.opening := by
    intro lineFeed
    exact single (by simp [opens.1, StepMention.text, lineFeed])
  have alone := splitBody_of_no_sign readable noFeed (isOpening.not_mem readable (by decide) (by decide))
    (isOpening.not_mem readable (by decide) (by decide))
  obtain ⟨c, more, rfl⟩ := List.exists_cons_of_ne_nil (show line ≠ [] by
    rintro rfl
    exact absurd isFirst.has.exists_sign (by simp))
  refine ⟨after, ?_⟩
  rw [List.length_cons, splitBody, undeclared, noTransition, Bool.or_false, if_neg Bool.false_ne_true, cut, ← isForm]
  dsimp only
  rw [alone]
  rfl

omit readable in
theorem Cut.eq_of_nil {text first : List Char} (cut : Cut dialect text first []) : first = text := by
  generalize same : ([] : List (List Char)) = declarations at cut
  cases cut with
  | whole => rfl
  | declaration => simp at same

/-- The canonical form of a numbered declaration keeps its head. -/
theorem exists_lineForm_numbered {word digits : List Char} (keyword : IsKeyword dialect.stepWords.step word)
    (upper : upperChars word = word) (given : digits ≠ []) (decimal : ∀ c ∈ digits, isDecimal c = true)
    (after : List Char) :
    ∃ tail, lineForm dialect (word ++ ' ' :: digits ++ ':' :: ' ' :: after) = word ++ ' ' :: digits ++ ':' :: tail := by
  have content := isContent_keyword readable readable.step keyword (' ' :: digits ++ ':' :: ' ' :: after)
  have declares : IsKeyword dialect.declarationWords word := by
    obtain ⟨known, member, spells⟩ := keyword
    exact ⟨known, List.mem_append_right _ member, spells⟩
  have noTransition := transitionForm?_keyword readable declares (' ' :: digits ++ ':' :: ' ' :: after)
  have noRest := readRestHead?_eq_none readable keyword (' ' :: digits ++ ':' :: ' ' :: after)
  rw [← List.append_assoc] at content noTransition noRest
  have form := lineForm_append readable (.inl rfl) content.solid content.nonempty
  have isHead := (isHead_word given fun c member => isInert_of_isDecimal (decimal c member)).cons
    (keyword.ne_nil readable.step) (inert_of_isKeyword readable.step keyword)
  obtain ⟨tail, -, spaced, -⟩ := spacedBody_head isHead (startsBlank_dropWhile (' ' :: after))
  refine ⟨tail, ?_⟩
  rw [List.nil_append, content.no_comment, noTransition, declared?, declarationForm?_eq readable, noRest,
    readNumberedHead?_colon readable keyword given decimal (.inr rfl)] at form
  rw [form, ← spaced]
  simp [upper]

end Cutting

/-! ## Lines of a normalized text -/

theorem lineFeed_not_mem_squeeze_trim {text line : List Char} (isLine : line ∈ lines text) :
    '\n' ∉ squeeze (trim line) := by
  intro member
  rcases mem_squeezeFrom member with space | inside
  · exact absurd space (by decide)
  · exact (mem_of_mem_splitAt isLine ((trim_isInfix line).subset inside)).2 rfl

/-- Lines that neither start nor end with an empty one stay between the lines around them. -/
theorem trimLines_append {middle : List (List Char)} (tight : Tight middle) (given : middle ≠ [])
    (front back : List (List Char)) :
    trimLines (front ++ (middle ++ back)) =
      front.dropWhile List.isEmpty ++ (middle ++ back.rdropWhile List.isEmpty) := by
  -- Seen from either side, the first line of the middle is not dropped.
  have stops {lines others : List (List Char)} (given : lines ≠ []) (first : lines.head? ≠ some [])
      (before : List (List Char)) :
      (before ++ (lines ++ others)).dropWhile List.isEmpty = before.dropWhile List.isEmpty ++ (lines ++ others) := by
    obtain ⟨line, rest, rfl⟩ := List.exists_cons_of_ne_nil given
    have kept : line.isEmpty = false := by
      cases line with
      | nil => exact absurd rfl first
      | cons c line => rfl
    rw [List.dropWhile_append, List.cons_append, List.dropWhile_cons, kept, if_neg Bool.false_ne_true]
    split
    · rename_i none
      rw [List.isEmpty_iff.mp none, List.nil_append]
    · rfl
  have backwards : middle.reverse.head? ≠ some [] := by
    rw [List.head?_reverse]
    exact tight.last
  rw [trimLines, stops given tight.first, List.reverse_append, List.reverse_append, List.append_assoc,
    stops (by simpa using given) backwards, List.rdropWhile]
  simp

/-- The canonical lines that the lines of a text become. -/
def relaidLines (dialect : Dialect) (source : SourceKind) (lines : List (List Char)) : List (List Char) :=
  (lines.map cleanLine).flatMap (relaid dialect source)

/-- The mark of an indented line, or nothing. -/
def indentOf (line : List Char) : List Char := if startsBlank line then indentMark else []

theorem isIndent_indentOf (line : List Char) : IsIndent (indentOf line) := by
  rw [indentOf]
  split
  · exact .inr rfl
  · exact .inl rfl

theorem cleanLine_eq {line : List Char} (given : squeeze (trim line) ≠ []) :
    cleanLine line = indentOf line ++ squeeze (trim line) := by
  rw [cleanLine, if_neg]
  · rfl
  · rw [← isEmpty_squeeze]
    simpa using given

/-- The lines that one line of a text becomes stand together in the normalized text. -/
theorem lines_normalize {dialect : Dialect} (readable : dialect.Readable) {source : SourceKind} {text : String}
    {above below : List (List Char)} {line : List Char}
    (isLine : lines (plainText source text.toList) = above ++ line :: below) (given : squeeze (trim line) ≠ []) :
    lines (normalize dialect source text).toList =
      (relaidLines dialect source above).dropWhile List.isEmpty ++ (relaid dialect source (cleanLine line) ++
        (relaidLines dialect source below).rdropWhile List.isEmpty) := by
  have laid := laid_canonicalLines readable source text.toList
  have canonical : canonicalLines dialect source text.toList =
      relaidLines dialect source above ++
        (relaid dialect source (cleanLine line) ++ relaidLines dialect source below) := by
    rw [canonicalLines_eq, isLine, List.map_append, List.map_cons, List.flatMap_append, List.flatMap_cons]
    rfl
  have isPiece : IsPiece dialect (cleanLine line) := by
    refine (isPiece_cleanLine line).resolve_left fun empty => given ?_
    rw [cleanLine_eq given] at empty
    exact (List.append_eq_nil_iff.mp empty).2
  obtain ⟨some, areCanonical⟩ := isCanonical_of_mem_relaid readable isPiece source
  have solid : [] ∉ relaid dialect source (cleanLine line) := fun member => (areCanonical [] member).piece.ne_nil rfl
  have tight : Tight (relaid dialect source (cleanLine line)) :=
    ⟨fun first => solid (List.mem_of_head? first), fun last => solid (List.mem_of_getLast? last)⟩
  have trimmed := trimLines_append tight some (relaidLines dialect source above) (relaidLines dialect source below)
  rw [normalize, String.toList_ofList, trimLineFeeds_unlines laid.areLines, canonical, trimmed]
  apply lines_unlines
  · rw [← trimmed, ← canonical]
    exact laid.areLines.of_subset (trimLines_subset _)
  · simp [some]

/-- A line that opens like a transition becomes its first piece and the declarations that are cut off. Nothing is cut
off exactly if the first head of each kind is guarded. With a colon or a point after it, the step that is mentioned is
declared anew, and only the word of transitions is left; otherwise the mention stays in the first piece. -/
theorem lines_normalize_of_opens {text : String} {above below : List (List Char)} {line rest : List Char}
    (isLine : lines (plainText .directEntry text.toList) = above ++ line :: below) {mention : StepMention {}}
    (opens : mention.Opens (squeeze (trim line)) rest) :
    ∃ first declarations,
      lines (normalize {} .directEntry text).toList =
        (relaidLines {} .directEntry above).dropWhile List.isEmpty ++
          (lineForm {} (indentOf line ++ first) :: declarations.map (lineForm {}) ++
            (relaidLines {} .directEntry below).rdropWhile List.isEmpty) ∧
      (declarations = [] ↔ ∀ kind before, FirstHead {} kind (squeeze (trim line)) before → Guarded kind before) ∧
      (StartsWithSign rest → first = mention.opening ∧ ∃ tail, declarations.map (lineForm {}) =
        [upperChars mention.word ++ ' ' :: mention.digits ++ ':' :: tail]) ∧
      (¬StartsWithSign rest → ∃ kept, kept <+: rest ∧ mention.Opens first kept) := by
  have readable := Dialect.readable_default
  obtain ⟨more, whole⟩ := opens.exists_opening
  have content : IsContent {} (squeeze (trim line)) := whole ▸ mention.isOpening.isContent readable _
  have undeclared : (declarationStart {}).startsIn (squeeze (trim line)) = false :=
    whole ▸ mention.isOpening.not_declarationStart readable _
  have member : line ∈ lines (plainText .directEntry text.toList) := by simp [isLine]
  have single := lineFeed_not_mem_squeeze_trim member
  obtain ⟨first, declarations, split, pieces⟩ := exists_splitLine (isIndent_indentOf line) content
  obtain ⟨first', declarations', split', cut, -⟩ :=
    cut_splitBody readable _ (Nat.le_refl _) single content.solid undeclared
  obtain ⟨rfl, rfl⟩ := List.cons.inj (split.symm.trans split')
  refine ⟨first, declarations, ?_, ?_, fun signed => ?_, fun unsigned => opens.of_cut readable unsigned cut⟩
  · rw [lines_normalize readable isLine content.nonempty, relaid, unmarked, cleanLine_eq content.nonempty, pieces,
      List.map_cons]
  · rw [← splitBody_eq_singleton_iff readable single undeclared content.nonempty, split]
    constructor
    · rintro rfl
      rw [cut.eq_of_nil]
    · exact fun whole => (List.cons.inj whole).2
  · obtain ⟨after, isCut⟩ := opens.splitBody_eq readable single signed
    obtain ⟨rfl, rfl⟩ := List.cons.inj (split.symm.trans isCut)
    have keyword := mention.keyword
    obtain ⟨tail, form⟩ := exists_lineForm_numbered readable (keyword.upperChars readable.step)
      (keyword.upperChars_upperChars readable.step) mention.given mention.decimal after
    refine ⟨rfl, tail, ?_⟩
    rw [List.map_singleton, ← form]
    simp

/-- A mention of the third step. -/
def mentionOfThree : StepMention {} where
  opening := "VON".toList
  gap := [' ']
  word := "STAP".toList
  gap' := [' ']
  digits := "3".toList
  isOpening := .inl ((keyword?_eq_some_iff Dialect.readable_default.transition.prefixFree).mp
    (by decide +kernel : keyword? _ "VON".toList = some ("VON".toList, []))).1
  spaced := ⟨List.cons_ne_nil _ _, List.forall_mem_singleton.mpr rfl⟩
  keyword := ((keyword?_eq_some_iff Dialect.readable_default.step.prefixFree).mp
    (by decide +kernel : keyword? _ "STAP".toList = some ("STAP".toList, []))).1
  spaced' := ⟨List.cons_ne_nil _ _, List.forall_mem_singleton.mpr rfl⟩
  given := List.cons_ne_nil _ _
  decimal := List.forall_mem_singleton.mpr rfl

/-- A mention without a sign, before a rest declaration and a numbered one. -/
def unsignedLine : List Char := "\tVON  STAP 3 a (b) RUST: c STAP 4. d".toList

theorem lines_normalize_of_opens_unsignedLine :
    ∃ first declarations,
      lines (normalize {} .directEntry (String.ofList ("e".toList ++ '\n' :: unsignedLine))).toList =
        (relaidLines {} .directEntry ["e".toList]).dropWhile List.isEmpty ++
          (lineForm {} (indentOf unsignedLine ++ first) :: declarations.map (lineForm {}) ++
            (relaidLines {} .directEntry []).rdropWhile List.isEmpty) ∧
      (declarations = [] ↔
        ∀ kind before, FirstHead {} kind (squeeze (trim unsignedLine)) before → Guarded kind before) ∧
      ∃ kept, kept <+: " a (b) RUST: c STAP 4. d".toList ∧ mentionOfThree.Opens first kept := by
  have opens : mentionOfThree.Opens (squeeze (trim unsignedLine)) " a (b) RUST: c STAP 4. d".toList :=
    ⟨by decide +kernel, by decide +kernel⟩
  obtain ⟨first, declarations, whole, uncut, -, unsigned⟩ :=
    @lines_normalize_of_opens (String.ofList ("e".toList ++ '\n' :: unsignedLine)) ["e".toList] [] unsignedLine _
      (by decide +kernel) mentionOfThree opens
  exact ⟨first, declarations, whole, uncut, unsigned (by rw [StartsWithSign]; decide +kernel)⟩

/-- A line that opens like a transition and is cut: a colon after the number makes a declaration of the mention. -/
theorem normalize_cuts_signedMention :
    mentionOfThree.Opens (squeeze (trim "VON STAP 3: x".toList)) ": x".toList ∧
      normalize {} .directEntry "VON STAP 3: x" = "VON\nSTAP 3: x" :=
  ⟨⟨by decide +kernel, by decide +kernel⟩, by decide +kernel⟩

end StepFlow.Layout
