import StepFlow.Proofs.Layout.Labels
import StepFlow.Proofs.Reading.LinePatterns

/-! # Declarations after other text

A line may have declarations after other text. Each of them is found by its head, which stands after blanks: the word of
a step with a number and a sign, or a word of the rest step with a colon. The pattern of a kind of heads finds the first
head of its kind, since it takes as little text before it as it can. From the end of the line on, declarations are cut
off until nothing is left to cut. So in what is left at the start, a head outside a reference stands only after an
earlier head of its kind within a reference, or, if it is that of a rest step, after a colon in parentheses.
-/

namespace StepFlow

open Text

namespace Pattern

/-! ## As little text as possible -/

/-- Any part of a line can lead to a pattern. -/
theorem passes_leading {text : List Char} (single : '\n' ∉ text) (given : text ≠ []) (index : Nat) :
    (group index leading).Passes text :=
  Passes.group (.span (any_holds_of_mem single) (List.length_pos_iff.mpr given) false) index

theorem andThen?_some_ne_none {pattern : Pattern} {after : List Char} (goes : pattern.GoesThrough after)
    (before : List Char) (captures : List Capture) : pattern.andThen? some ⟨before, after, captures⟩ ≠ none := by
  obtain ⟨stop, isStop⟩ := goes before captures
  intro failed
  cases List.findSome?_eq_none_iff.mp failed stop isStop

/-- A pattern goes on after the shortest leading text after which it can. -/
theorem of_matchStart?_shortest {parts : List Pattern} {text : List Char} {found : Match} (single : '\n' ∉ text)
    (matched : (concat (start :: group 1 leading :: parts)).matchStart? text = some found) :
    ∃ before middle, text = before ++ middle.after ∧ before ≠ [] ∧ middle.kept? 1 = some before ∧
      found.stop ∈ (concat parts).ends middle ∧
      ∀ shorter left, text = shorter ++ left → shorter ≠ [] → (concat parts).GoesThrough left →
        before.length ≤ shorter.length := by
  rw [matchStart?_start] at matched
  obtain ⟨stop, reached, rfl⟩ := Option.map_eq_some_iff.mp matched
  rw [andThen?_concat_cons] at reached
  obtain ⟨earlier, middle, later, places, ended, failed⟩ := List.findSome?_eq_some_iff.mp reached
  have isMiddle : middle ∈ (group 1 leading).ends ⟨[], text, []⟩ := places ▸ List.mem_append_right _ (.head _)
  obtain ⟨before, after, reads, kept⟩ := of_mem_ends_group isMiddle
  have after : text = before ++ middle.after := after
  obtain ⟨last, isLast, same⟩ := List.exists_of_findSome?_eq_some ended
  obtain rfl := Option.some.inj same
  refine ⟨before, middle, after, List.ne_nil_of_length_pos reads.span.2, kept, isLast, ?_⟩
  intro shorter left split given goes
  -- The place after the shorter text is one of those that were tried, and not before the one that was taken.
  obtain ⟨captures, member⟩ :=
    passes_leading (fun lineFeed => single (split ▸ List.mem_append_left _ lineFeed)) given 1 [] left []
  have ordered : ((group 1 leading).ends ⟨[], text, []⟩).Pairwise fun first second =>
      second.after.length < first.after.length :=
    List.pairwise_map.mpr ((pairwise_spanPlaces _ _ _ _ _).sublist (List.drop_sublist _ _))
  have notLonger : left.length ≤ middle.after.length := by
    rw [← split, places] at member
    rw [places] at ordered
    rcases List.mem_append.mp member with tried | rest
    · exact absurd (failed _ tried) (andThen?_some_ne_none goes _ _)
    · rcases List.mem_cons.mp rest with here | further
      · exact Nat.le_of_eq (congrArg (fun place => place.after.length) here)
      · exact Nat.le_of_lt ((List.pairwise_cons.mp (List.pairwise_append.mp ordered).2.1).1 _ further)
  have lengths := congrArg List.length (after.symm.trans split)
  rw [List.length_append, List.length_append] at lengths
  omega

/-- Where a pattern after a leading text does not match, it can go on after no leading text. -/
theorem not_goesThrough_of_matchStart? {parts : List Pattern} {text : List Char} (single : '\n' ∉ text)
    (unmatched : (concat (start :: group 1 leading :: parts)).matchStart? text = none) {before rest : List Char}
    (split : text = before ++ rest) (given : before ≠ []) : ¬(concat parts).GoesThrough rest := by
  intro goes
  have passes := passes_leading (fun lineFeed => single (split ▸ List.mem_append_left _ lineFeed)) given 1
  rw [matchStart?_start, Option.map_eq_none_iff, split] at unmatched
  exact andThen?_some_ne_none (passes.goesThrough goes) [] [] unmatched

end Pattern

namespace Layout

open Pattern

/-! ## Heads -/

/-- The kinds of declarations that are looked for after other text. -/
inductive HeadKind where
  | numbered
  | rest
  deriving Repr, DecidableEq

/-- The head of a declaration as it is written, and its canonical form. -/
inductive DeclarationHead (dialect : Dialect) : HeadKind → List Char → List Char → Prop where
  | numbered {word gap number gap' : List Char} {sign : Char} (keyword : IsKeyword dialect.stepWords.step word)
      (blank : ∀ c ∈ gap, isBlank c = true) (given : number ≠ []) (decimal : ∀ c ∈ number, isDecimal c = true)
      (blank' : ∀ c ∈ gap', isBlank c = true) (isSign : sign = ':' ∨ sign = '.') :
    DeclarationHead dialect .numbered (word ++ (gap ++ (number ++ (gap' ++ [sign]))))
      (upperChars word ++ [' '] ++ number ++ [':', ' '])
  | rest {word gap : List Char} (keyword : IsKeyword dialect.stepWords.rest word)
      (blank : ∀ c ∈ gap, isBlank c = true) :
    DeclarationHead dialect .rest (word ++ (gap ++ [':'])) (upperChars word ++ [':', ' '])

/-- A declaration of the given kind after other text: that text, the form of the head, and what the declaration says.
Blanks stand before the head, and there may be some after it. -/
def Embeds (dialect : Dialect) (kind : HeadKind) (text before form after : List Char) : Prop :=
  ∃ gap head gap', text = before ++ (gap ++ (head ++ (gap' ++ after))) ∧
    (gap ≠ [] ∧ ∀ c ∈ gap, isBlank c = true) ∧ DeclarationHead dialect kind head form ∧ ∀ c ∈ gap', isBlank c = true

/-- A head of the given kind stands in a text, after blanks and the given text. -/
def HasHead (dialect : Dialect) (kind : HeadKind) (text before : List Char) : Prop :=
  ∃ form after, Embeds dialect kind text before form after

/-- The parts of the pattern of embedded declarations after the text before them. -/
def headParts (dialect : Dialect) : HeadKind → List Pattern
  | .numbered =>
    [.someBlanks, .group 2 (.keyword dialect.stepWords.step), .blanks, .group 3 .numeral, .blanks, .oneOf ":.", .blanks,
      .group 4 .remainder, .finish]
  | .rest =>
    [.someBlanks, .group 2 (.keyword dialect.stepWords.rest), .blanks, .mark ':', .blanks, .group 3 .remainder, .finish]

/-- The pattern of embedded declarations of a kind. -/
def embeddedPattern (dialect : Dialect) : HeadKind → Pattern
  | .numbered => embeddedStep dialect
  | .rest => embeddedRest dialect

/-- What becomes of an embedded declaration. -/
def restated (found : Match) : HeadKind → List Char
  | .numbered => upperChars (found.kept 2) ++ [' '] ++ found.kept 3 ++ [':', ' '] ++ found.kept 4
  | .rest => upperChars (found.kept 2) ++ [':', ' '] ++ found.kept 3

variable {dialect : Dialect} {kind : HeadKind} {text before : List Char}

theorem embeddedPattern_eq (dialect : Dialect) (kind : HeadKind) :
    embeddedPattern dialect kind = concat (start :: group 1 leading :: headParts dialect kind) := by
  cases kind <;> rfl

/-- The rest of the line can follow a head, with blanks before it. -/
theorem goesThrough_remainder {gap after : List Char} (blank : ∀ c ∈ gap, isBlank c = true) (single : '\n' ∉ after)
    (index : Nat) : (concat [blanks, group index remainder, finish]).GoesThrough (gap ++ after) := by
  have remains : remainder.Passes after := .span (any_holds_of_mem single) (Nat.zero_le _) true
  have ended : (concat [finish]).GoesThrough [] := fun before captures => ⟨_, List.mem_singleton.mpr rfl⟩
  have goes := (remains.group index).goesThrough ended
  rw [List.append_nil] at goes
  exact (Passes.blanks blank).goesThrough goes

/-- The pattern goes through from a head on. -/
theorem HasHead.goesThrough (has : HasHead dialect kind text before) (single : '\n' ∉ text) :
    ∃ rest, text = before ++ rest ∧ (concat (headParts dialect kind)).GoesThrough rest := by
  obtain ⟨form, after, gap, head, gap', rfl, ⟨given, blank⟩, isHead, blank'⟩ := has
  refine ⟨_, rfl, ?_⟩
  have inLine : '\n' ∉ after := fun lineFeed => single (by simp [lineFeed])
  have spaced : someBlanks.Passes gap := .span (by simpa using blank) (List.length_pos_iff.mpr given) true
  cases isHead with
  | @numbered word gap₁ number gap₂ sign keyword blank₁ digits decimal blank₂ isSign =>
    have marked : (oneOf ":.").Passes [sign] := .one (by rcases isSign with rfl | rfl <;> decide)
    have goes := spaced.goesThrough (((Passes.keyword keyword).group 2).goesThrough ((Passes.blanks blank₁).goesThrough
      (((Passes.numeral digits decimal).group 3).goesThrough ((Passes.blanks blank₂).goesThrough
        (marked.goesThrough (goesThrough_remainder blank' inLine 4))))))
    simpa only [headParts, List.append_assoc] using goes
  | @rest word gap₁ keyword blank₁ =>
    have marked : (mark ':').Passes [':'] := .one rfl
    have goes := spaced.goesThrough (((Passes.keyword keyword).group 2).goesThrough ((Passes.blanks blank₁).goesThrough
      (marked.goesThrough (goesThrough_remainder blank' inLine 3))))
    simpa only [headParts, List.append_assoc] using goes

/-- The rest of the line is kept without the blanks before it. -/
theorem of_mem_ends_remainder {index : Nat} {place stop : Place} (single : '\n' ∉ place.after)
    (member : stop ∈ (concat [blanks, group index remainder, finish]).ends place) :
    ∃ gap after, place.after = gap ++ after ∧ (∀ c ∈ gap, isBlank c = true) ∧ stop.kept? index = some after := by
  obtain ⟨gap, _, spaced, isGap, member⟩ := exists_reads_of_mem_concat member
  obtain ⟨after, last, remains, -, kept, member⟩ := exists_kept_of_mem_concat List.not_mem_nil member
  have whole : place.after = gap ++ (after ++ last.after) := by rw [← remains, ← spaced]
  have ended : last.after = [] := (after_of_mem_ends_finish member).resolve_right fun lineFeed =>
    single (by simp [whole, lineFeed])
  rw [ended, List.append_nil] at whole
  exact ⟨gap, after, whole, isGap.isBlank, kept⟩

/-- What the pattern has read is a head and the rest of the line. -/
theorem of_mem_ends_headParts (readable : dialect.Readable) {place stop : Place} (single : '\n' ∉ place.after)
    (member : stop ∈ (concat (headParts dialect kind)).ends place) (opened before : List Char) :
    ∃ gap head gap' form after, place.after = gap ++ (head ++ (gap' ++ after)) ∧
      (gap ≠ [] ∧ ∀ c ∈ gap, isBlank c = true) ∧ DeclarationHead dialect kind head form ∧
      (∀ c ∈ gap', isBlank c = true) ∧ restated ⟨before, opened, stop⟩ kind = form ++ after := by
  cases kind with
  | numbered =>
    obtain ⟨gap, _, spaced, isGap, member⟩ := exists_reads_of_mem_concat member
    obtain ⟨word, _, worded, isWord, kept₂, member⟩ := exists_kept_of_mem_concat (by decide) member
    obtain ⟨gap₁, _, spaced₁, isGap₁, member⟩ := exists_reads_of_mem_concat member
    obtain ⟨number, _, numbered, isNumber, kept₃, member⟩ := exists_kept_of_mem_concat (by decide) member
    obtain ⟨gap₂, _, spaced₂, isGap₂, member⟩ := exists_reads_of_mem_concat member
    obtain ⟨marked, last, signed, isMarked, member⟩ := exists_reads_of_mem_concat member
    obtain ⟨sign, rfl, isSign⟩ := isMarked.one
    have whole : place.after = gap ++ (word ++ (gap₁ ++ (number ++ (gap₂ ++ ([sign] ++ last.after))))) := by
      rw [← signed, ← spaced₂, ← numbered, ← spaced₁, ← worded, ← spaced]
    obtain ⟨gap', after, remains, blank', kept₄⟩ :=
      of_mem_ends_remainder (fun lineFeed => single (by simp [whole, lineFeed])) member
    obtain ⟨digits, decimal⟩ := isNumber.numeral
    have isSign : sign = ':' ∨ sign = '.' := by simpa using isSign
    have isHead := DeclarationHead.numbered (isWord.keyword readable.step.nonempty) isGap₁.isBlank digits
      decimal isGap₂.isBlank isSign
    have isGap := And.intro (List.ne_nil_of_length_pos isGap.span.2) isGap.isBlank
    refine ⟨gap, _, gap', _, after, ?_, isGap, isHead, blank', ?_⟩
    · rw [whole, remains]
      simp only [List.append_assoc]
    · simp only [restated, kept_mk, kept₂, kept₃, kept₄, Option.getD_some]
  | rest =>
    obtain ⟨gap, _, spaced, isGap, member⟩ := exists_reads_of_mem_concat member
    obtain ⟨word, _, worded, isWord, kept₂, member⟩ := exists_kept_of_mem_concat (by decide) member
    obtain ⟨gap₁, _, spaced₁, isGap₁, member⟩ := exists_reads_of_mem_concat member
    obtain ⟨marked, last, signed, isMarked, member⟩ := exists_reads_of_mem_concat member
    obtain ⟨sign, rfl, isSign⟩ := isMarked.one
    obtain rfl : ':' = sign := by simpa using isSign
    have whole : place.after = gap ++ (word ++ (gap₁ ++ ([':'] ++ last.after))) := by
      rw [← signed, ← spaced₁, ← worded, ← spaced]
    obtain ⟨gap', after, remains, blank', kept₃⟩ :=
      of_mem_ends_remainder (fun lineFeed => single (by simp [whole, lineFeed])) member
    have isHead := DeclarationHead.rest (isWord.keyword readable.rest.nonempty) isGap₁.isBlank
    have isGap := And.intro (List.ne_nil_of_length_pos isGap.span.2) isGap.isBlank
    refine ⟨gap, _, gap', _, after, ?_, isGap, isHead, blank', ?_⟩
    · rw [whole, remains]
      simp only [List.append_assoc]
    · simp only [restated, kept_mk, kept₂, kept₃, Option.getD_some]

theorem one_not_mem_indices (dialect : Dialect) (kind : HeadKind) :
    1 ∉ (concat (headParts dialect kind)).indices := by
  rw [indices_eq, groups_concat]
  cases kind <;>
    simp [headParts, groups, groups_keyword, blanks, someBlanks, numeral, remainder, oneOf, mark, finish]

/-- A match is the first head of its kind, and gives the declaration its form. -/
theorem of_embeddedPattern (readable : dialect.Readable) (single : '\n' ∉ text) {found : Match}
    (matched : (embeddedPattern dialect kind).matchStart? text = some found) :
    (∃ form after, Embeds dialect kind text (found.kept 1) form after ∧ restated found kind = form ++ after) ∧
      ∀ before, before ≠ [] → HasHead dialect kind text before → found.kept 1 <+: before := by
  rw [embeddedPattern_eq] at matched
  obtain ⟨first, middle, split, given, kept, ended, shortest⟩ := of_matchStart?_shortest single matched
  have isFirst : found.kept 1 = first := by
    have same := kept?_of_mem_ends _ (one_not_mem_indices dialect kind) ended
    rw [Match.kept, Match.kept?, same, kept, Option.getD_some]
  obtain ⟨gap, head, gap', form, after, rest, isGap, isHead, blank', restatement⟩ :=
    of_mem_ends_headParts readable (fun lineFeed => single (split ▸ List.mem_append_right _ lineFeed)) ended
      found.opened found.before
  rw [isFirst]
  refine ⟨⟨form, after, ⟨gap, head, gap', by rw [← rest]; exact split, isGap, isHead, blank'⟩, restatement⟩, ?_⟩
  intro before given has
  obtain ⟨left, whole, goes⟩ := has.goesThrough single
  exact List.prefix_of_prefix_length_le ⟨_, split.symm⟩ ⟨_, whole.symm⟩ (shortest before left whole given goes)

/-- Where nothing matches, no head of the kind stands after other text. -/
theorem not_hasHead_of_embeddedPattern (single : '\n' ∉ text)
    (unmatched : (embeddedPattern dialect kind).matchStart? text = none) (given : before ≠ []) :
    ¬HasHead dialect kind text before := by
  intro has
  rw [embeddedPattern_eq] at unmatched
  obtain ⟨rest, split, goes⟩ := has.goesThrough single
  exact not_goesThrough_of_matchStart? single unmatched split given goes

/-! ## What is not cut -/

/-- A colon stands within parentheses. -/
def HasColonInParens (text : List Char) : Prop :=
  ∃ left inner inner' right, text = left ++ '(' :: (inner ++ ':' :: (inner' ++ ')' :: right)) ∧
    ')' ∉ inner ∧ ')' ∉ inner'

theorem HasColonInParens.of_begins {front : List Char} (has : HasColonInParens front) (starts : front <+: text) :
    HasColonInParens text := by
  obtain ⟨left, inner, inner', right, rfl, free, free'⟩ := has
  obtain ⟨more, rfl⟩ := starts
  exact ⟨left, inner, inner', right ++ more, by simp, free, free'⟩

theorem hasColonInParens_of_occursIn (occurs : colonInParens.occursIn text = true) : HasColonInParens text := by
  have free {part : List Char} (reads : (span (.noneOf ")") .anyNumber true).Reads part) : ')' ∉ part := by
    intro member
    have holds := reads.span.1 _ member
    exact absurd holds (by decide)
  have marked {c : Char} {part : List Char} (reads : (mark c).Reads part) : part = [c] := by
    obtain ⟨d, rfl, same⟩ := reads.one
    rw [CharTest.char_exact_holds, beq_iff_eq] at same
    rw [same]
  obtain ⟨found, searched⟩ := Option.isSome_iff_exists.mp occurs
  obtain ⟨left, right, matched, rfl⟩ := exists_matchAt?_of_search? searched
  obtain ⟨reads, rest, split⟩ := reads_text matched
  obtain ⟨opening, _, whole, isOpening, reads⟩ := reads.seq
  obtain ⟨inner, _, rfl, isInner, reads⟩ := reads.seq
  obtain ⟨colon, _, rfl, isColon, reads⟩ := reads.seq
  obtain ⟨inner', closing, rfl, isInner', isClosing⟩ := reads.seq
  rw [marked isOpening, marked isColon, marked isClosing] at whole
  refine ⟨left.reverse, inner, inner', rest, ?_, free isInner, free isInner'⟩
  rw [← split, whole]
  simp

/-- A declaration is found unless the first head of each kind is in a reference; that of a rest step is not found after
a colon in parentheses either. -/
theorem of_embedded?_eq_none (uncut : embedded? dialect text = none) {found : Match}
    (matched : (embeddedPattern dialect kind).matchStart? text = some found) :
    isReferenceContext (found.kept 1) = true ∨ kind = .rest ∧ HasColonInParens (found.kept 1) := by
  rw [embedded?] at uncut
  cases kind with
  | numbered =>
    have matched : (embeddedStep dialect).matchStart? text = some found := matched
    rw [matched] at uncut
    dsimp only at uncut
    split at uncut
    · exact .inl ‹_›
    · cases uncut
  | rest =>
    have uncut : embeddedRest? dialect text = none := by
      split at uncut
      · split at uncut
        · exact uncut
        · cases uncut
      · exact uncut
    have matched : (embeddedRest dialect).matchStart? text = some found := matched
    rw [embeddedRest?, matched] at uncut
    dsimp only at uncut
    split at uncut
    · rename_i guarded
      rcases Bool.or_eq_true_iff.mp guarded with refers | colon
      · exact .inl refers
      · exact .inr ⟨rfl, hasColonInParens_of_occursIn colon⟩
    · cases uncut

/-- The heads that are left in a text: one that belongs to no reference stands after an earlier head of its kind that
belongs to one, or it is that of a rest step after a colon in parentheses. -/
def OnlyGuarded (dialect : Dialect) (text : List Char) : Prop :=
  ∀ kind before, HasHead dialect kind text before → isReferenceContext before = false →
    (∃ earlier, earlier <+: before ∧ HasHead dialect kind text earlier ∧ isReferenceContext earlier = true) ∨
      kind = .rest ∧ HasColonInParens before

/-- Where no declaration is found, all heads are guarded. -/
theorem onlyGuarded_of_embedded? (readable : dialect.Readable) (single : '\n' ∉ text)
    (uncut : embedded? dialect text = none) : OnlyGuarded dialect text := by
  intro kind before has free
  have given : before ≠ [] := by
    rintro rfl
    cases free
  cases matched : (embeddedPattern dialect kind).matchStart? text with
  | none => exact absurd has (not_hasHead_of_embeddedPattern single matched given)
  | some found =>
    obtain ⟨⟨form, after, embeds, -⟩, first⟩ := of_embeddedPattern readable single matched
    have earlier := first before given has
    rcases of_embedded?_eq_none uncut matched with refers | ⟨isRest, colon⟩
    · exact .inl ⟨found.kept 1, earlier, ⟨form, after, embeds⟩, refers⟩
    · exact .inr ⟨isRest, colon.of_begins earlier⟩

/-- A head ends in a colon or a point. -/
theorem HasHead.exists_sign (has : HasHead dialect kind text before) : ':' ∈ text ∨ '.' ∈ text := by
  obtain ⟨form, after, gap, head, gap', rfl, -, isHead, -⟩ := has
  cases isHead with
  | numbered _ _ _ _ _ isSign => rcases isSign with rfl | rfl <;> simp
  | rest => simp

theorem mem_dropWhile_of_mem {test : Char → Bool} {c : Char} (fails : test c = false) (member : c ∈ text) :
    c ∈ text.dropWhile test := by
  rw [← List.takeWhile_append_dropWhile (p := test) (l := text), List.mem_append] at member
  rcases member with taken | left
  · exact absurd (List.mem_takeWhile_imp taken) (by simp [fails])
  · exact left

/-- A transition has letters, blanks and digits only, but for its plus sign. -/
theorem not_mem_of_readTransition? (readable : dialect.Readable) {reading : List Char × List Char}
    (read : readTransition? dialect text = some reading) {sign : Char} (isSign : sign ∈ layoutSigns)
    (solid : isBlank sign = false) (noDigit : isDecimal sign = false) : sign ∉ text := by
  obtain ⟨⟨opening, rest⟩, opened, found⟩ := Option.bind_eq_some_iff.mp read
  obtain ⟨spells, rfl⟩ := stripWord?_eq_some_iff.mp opened
  dsimp only at found
  split at found
  · obtain ⟨⟨word, rest'⟩, keyword, found⟩ := Option.bind_eq_some_iff.mp found
    obtain ⟨isKeyword, split⟩ := (keyword?_eq_some_iff readable.step.prefixFree).mp keyword
    dsimp only at found
    split at found
    · rename_i ended
      intro member
      rcases List.mem_append.mp member with first | later
      · obtain ⟨letter, isLetter⟩ := spells.letter_of_mem (readable.transition.isLetter (.head _)) first
        exact isLetter.not_sign isSign
      · have later := mem_dropWhile_of_mem solid later
        rw [split] at later
        rcases List.mem_append.mp later with second | last
        · obtain ⟨letter, isLetter⟩ := isKeyword.letter_of_mem readable.step second
          exact isLetter.not_sign isSign
        · have last := mem_dropWhile_of_mem solid (mem_dropWhile_of_mem noDigit (mem_dropWhile_of_mem solid last))
          rw [List.isEmpty_iff.mp ended.2.2] at last
          cases last
    · cases found
  · cases found

/-- A transition has no heads. -/
theorem not_hasHead_of_transition (readable : dialect.Readable) (started : (transition dialect).startsIn text = true) :
    ¬HasHead dialect kind text before := by
  intro has
  obtain ⟨found, matched⟩ := Option.isSome_iff_exists.mp started
  have read := matchStart?_transition readable text
  rw [matched, Option.map_some, eq_comm, Option.map_eq_some_iff] at read
  obtain ⟨reading, read, -⟩ := read
  have inside {sign : Char} (differs : sign ≠ '+') (solid : isBlank sign = false) (member : sign ∈ text) :
      sign ∈ (readPlus text).2 := by
    unfold readPlus
    split
    · rcases List.mem_cons.mp member with same | later
      · exact absurd same differs
      · exact mem_dropWhile_of_mem solid later
    · exact member
  rcases has.exists_sign with colon | point
  · exact not_mem_of_readTransition? readable read (by decide) (by decide) (by decide)
      (inside (by decide) (by decide) colon)
  · exact not_mem_of_readTransition? readable read (by decide) (by decide) (by decide)
      (inside (by decide) (by decide) point)

theorem of_startsIn_declarationStart (readable : dialect.Readable)
    (started : (declarationStart dialect).startsIn text = true) :
    ∃ word rest, text = word ++ rest ∧ IsKeyword dialect.declarationWords word ∧
      rest.head?.any isWordChar = false := by
  rw [startsIn, declarationStart, matchStart?_start, andThen?_concat_cons,
    andThen?_keyword _ readable.declaring.nonempty readable.declaring.prefixFree, Option.isSome_map] at started
  obtain ⟨stop, reached⟩ := Option.isSome_iff_exists.mp started
  obtain ⟨⟨word, rest⟩, found, reached⟩ := Option.bind_eq_some_iff.mp reached
  obtain ⟨keyword, split⟩ := (keyword?_eq_some_iff readable.declaring.prefixFree).mp found
  refine ⟨word, rest, split, keyword, ?_⟩
  obtain ⟨front, last, rfl⟩ := (List.eq_nil_or_concat word).resolve_left (keyword.ne_nil readable.declaring)
  rw [List.concat_eq_append] at keyword reached
  obtain ⟨letter, spells⟩ := keyword.letter_of_mem readable.declaring (List.mem_append_right _ (.head _) : last ∈ _)
  by_contra wordy
  rw [Bool.not_eq_false] at wordy
  simp [wordEdge, Edge.holds, CharKind.holds, spells.isWordChar, wordy] at reached

/-- A text before a blank that starts with the word of a declaration lets the whole text start with it. -/
theorem startsIn_declarationStart_append (readable : dialect.Readable) {front rest : List Char}
    (started : (declarationStart dialect).startsIn front = true) (spaced : startsBlank rest = true) :
    (declarationStart dialect).startsIn (front ++ rest) = true := by
  obtain ⟨word, more, rfl, keyword, stops⟩ := of_startsIn_declarationStart readable started
  rw [List.append_assoc]
  refine startsIn_declarationStart readable keyword ?_
  cases more with
  | cons c more => exact stops
  | nil =>
    cases rest with
    | nil => cases spaced
    | cons c rest => exact isWordChar_of_isBlank spaced

theorem startsBlank_of_begins {front : List Char} (starts : front <+: text) (solid : startsBlank text = false) :
    startsBlank front = false := by
  obtain ⟨rest, rfl⟩ := starts
  cases front with
  | nil => rfl
  | cons c front => exact solid

/-- Only blanks are trimmed. -/
theorem exists_trim_append {front : List Char} (solid : startsBlank front = false) :
    ∃ gap, front = trim front ++ gap ∧ ∀ c ∈ gap, isBlank c = true := by
  have kept : trimStart front = front := by
    cases front with
    | nil => rfl
    | cons c rest => rw [trimStart, List.dropWhile_cons, show isBlank c = false from solid, if_neg Bool.false_ne_true]
  refine ⟨(front.reverse.takeWhile isBlank).reverse, ?_, fun c member => ?_⟩
  · rw [trim, kept, trimEnd, ← List.reverse_append, List.takeWhile_append_dropWhile, List.reverse_reverse]
  · exact List.mem_takeWhile_imp (List.mem_reverse.mp member)

/-! ## Cutting -/

/-- A text is cut into what is left at its start and the declarations after it, each in its canonical form. -/
inductive Cut (dialect : Dialect) : List Char → List Char → List (List Char) → Prop where
  | whole (text : List Char) : Cut dialect text text []
  | declaration {kind : HeadKind} {text before form after first : List Char} {declarations : List (List Char)}
      (embeds : Embeds dialect kind text before form after) (free : isReferenceContext before = false)
      (rest : Cut dialect (trim before) first declarations) :
    Cut dialect text first (declarations ++ [form ++ after])

/-- A text starts with the head of a declaration. -/
def StartsWithHead (dialect : Dialect) (text : List Char) : Prop :=
  ∃ kind head form after, DeclarationHead dialect kind head form ∧ text = head ++ after

/-- The canonical form of a head is a head. -/
theorem DeclarationHead.startsWithHead (readable : dialect.Readable) {head form : List Char}
    (isHead : DeclarationHead dialect kind head form) (after : List Char) : StartsWithHead dialect (form ++ after) := by
  have blank : ∀ c ∈ [' '], isBlank c = true := List.forall_mem_singleton.mpr rfl
  cases isHead with
  | @numbered word gap number gap' sign keyword _ given decimal _ _ =>
    have upper := keyword.upperChars readable.step
    refine ⟨.numbered, _, _, ' ' :: after,
      .numbered upper blank given decimal (List.forall_mem_nil _) (.inl rfl), ?_⟩
    simp
  | @rest word gap keyword _ =>
    have upper := keyword.upperChars readable.rest
    refine ⟨.rest, _, _, ' ' :: after, .rest upper (List.forall_mem_nil _), ?_⟩
    simp

theorem Cut.startsWithHead (readable : dialect.Readable) {first : List Char} {declarations : List (List Char)}
    (cut : Cut dialect text first declarations) : ∀ declaration ∈ declarations, StartsWithHead dialect declaration := by
  induction cut with
  | whole => exact List.forall_mem_nil _
  | declaration embeds free rest ih =>
    obtain ⟨gap, head, gap', -, -, isHead, -⟩ := embeds
    exact List.forall_mem_append.mpr ⟨ih, List.forall_mem_singleton.mpr (isHead.startsWithHead readable _)⟩

/-- What stands before an embedded declaration is shorter than the text, and starts with the word of a declaration only
if the text does. -/
theorem Embeds.trim_before (readable : dialect.Readable) {form after : List Char}
    (embeds : Embeds dialect kind text before form after) (solid : startsBlank text = false)
    (undeclared : (declarationStart dialect).startsIn text = false) :
    trim before <+: text ∧ (trim before).length < text.length ∧
      (declarationStart dialect).startsIn (trim before) = false := by
  obtain ⟨gap, head, gap', rfl, ⟨given, blank⟩, -, -⟩ := embeds
  obtain ⟨spaces, kept, blanks⟩ := exists_trim_append (startsBlank_of_begins (List.prefix_append _ _) solid)
  obtain ⟨c, rest, some⟩ := List.exists_cons_of_ne_nil given
  have whole : before ++ (gap ++ (head ++ (gap' ++ after))) =
      trim before ++ (spaces ++ (gap ++ (head ++ (gap' ++ after)))) := by
    rw [← List.append_assoc (trim before), ← kept]
  rw [whole] at undeclared ⊢
  refine ⟨List.prefix_append _ _, ?_, ?_⟩
  · rw [List.length_append, List.length_append, List.length_append, some, List.length_cons]
    omega
  · by_contra started
    have spaced : startsBlank (spaces ++ (gap ++ (head ++ (gap' ++ after)))) = true := by
      cases spaces with
      | nil => rw [some]; exact blank c (some ▸ .head _)
      | cons d spaces => exact blanks d (.head _)
    rw [startsIn_declarationStart_append readable (Bool.not_eq_false _ ▸ started) spaced] at undeclared
    cases undeclared

/-- Enough fuel cuts a text until all heads left in it are guarded. -/
theorem cut_splitBody (readable : dialect.Readable) (fuel : Nat) (enough : text.length ≤ fuel) (single : '\n' ∉ text)
    (solid : startsBlank text = false) (undeclared : (declarationStart dialect).startsIn text = false) :
    ∃ first declarations, splitBody dialect fuel text = first :: declarations ∧
      Cut dialect text first declarations ∧ OnlyGuarded dialect first := by
  induction fuel generalizing text with
  | zero =>
    obtain rfl := List.eq_nil_of_length_eq_zero (Nat.le_zero.mp enough)
    refine ⟨[], [], rfl, .whole [], fun kind before has => ?_⟩
    exact absurd has.exists_sign (by simp)
  | succ fuel ih =>
    rw [splitBody, undeclared, Bool.false_or]
    split
    · exact ⟨text, [], rfl, .whole text, fun kind before has => absurd has (not_hasHead_of_transition readable ‹_›)⟩
    · split
      · rename_i before declaration found
        obtain ⟨reading, free, rfl, isDeclaration⟩ := of_embedded? found
        obtain ⟨kind, matched, rfl⟩ : ∃ kind, (embeddedPattern dialect kind).matchStart? text = some reading ∧
            declaration = restated reading kind := by
          rcases isDeclaration with isStep | isRest
          · exact ⟨.numbered, isStep⟩
          · exact ⟨.rest, isRest⟩
        obtain ⟨⟨form, after, embeds, same⟩, -⟩ := of_embeddedPattern readable single matched
        obtain ⟨starts, shorter, undeclared⟩ := embeds.trim_before readable solid undeclared
        obtain ⟨first, declarations, split, cut, guarded⟩ :=
          ih (by omega) (fun lineFeed => single (starts.subset lineFeed)) (startsBlank_of_begins starts solid)
            undeclared
        refine ⟨first, declarations ++ [form ++ after], ?_, .declaration embeds free cut, guarded⟩
        rw [split, same]
        rfl
      · exact ⟨text, [], rfl, .whole text, onlyGuarded_of_embedded? readable single ‹_›⟩

/-- A line with two declarations after other text. -/
def twoDeclarations : List Char := "a RUST: b (c: d) STAP 2. e".toList

/-- A line with a rest declaration after a colon in parentheses. -/
def colonBeforeRest : List Char := "a (b: c) RUST: d".toList

end Layout

end StepFlow
