import StepFlow.Proofs.Normalization

/-! # Text without declarations

In a text without the keywords of steps, normalization moves blanks only. Two facts about its passes come together here.
Each of them keeps the characters that are no blanks, in their order, apart from the typographic ones that the first
pass replaces. And none of them joins letters that were apart, so that no pass finds a keyword where the text had none:
no line is split, and none is written anew as a declaration or as a transition.
-/

namespace StepFlow

open Text Pattern

namespace Layout

/-! ## Solid characters -/

/-- The characters of a text that are no blanks. -/
def solids (text : List Char) : List Char := text.filter (!isBlank ·)

@[simp] theorem solids_append (front back : List Char) : solids (front ++ back) = solids front ++ solids back :=
  List.filter_append ..

theorem solids_eq_nil {text : List Char} (blank : ∀ c ∈ text, isBlank c) : solids text = [] :=
  List.filter_eq_nil_iff.mpr fun c member => by simp [blank c member]

@[simp] theorem solids_blanks (gap : Gap) : solids gap.blanks = [] := solids_eq_nil (List.all_eq_true.mp gap.blank)

theorem solids_cons {c : Char} (solid : isBlank c = false) (text : List Char) : solids (c :: text) = c :: solids text :=
  List.filter_cons_of_pos (by simp [solid])

theorem solids_cons_of_blank {c : Char} (blank : isBlank c) (text : List Char) : solids (c :: text) = solids text :=
  List.filter_cons_of_neg (by simp [blank])

/-- Texts that differ in spacing have the same solid characters. -/
theorem Respaced.solids_eq {x y : List Char} (respaced : Respaced x y) : solids x = solids y := by
  induction respaced with
  | blanks left right => rw [solids_blanks, solids_blanks]
  | solid isSolid _ ih => rw [solids_cons isSolid, solids_cons isSolid, ih]
  | space left right _ _ isSolid _ ih =>
    simp only [solids_append, solids_blanks, solids_cons isSolid, ih]
  | sign left right left' right' isSign _ ih =>
    simp only [solids_append, solids_blanks, solids_cons (isBlank_of_mem_movableSigns isSign), ih]

/-- Dropping blanks at both ends keeps the solid characters. -/
theorem solids_reverse_dropWhile {test : Char → Bool} (blank : ∀ c, test c → isBlank c) (text : List Char) :
    solids ((text.dropWhile test).reverse.dropWhile test).reverse = solids text := by
  have dropped (text : List Char) : solids (text.dropWhile test) = solids text := by
    have taken : solids (text.takeWhile test) = [] :=
      solids_eq_nil fun c member => blank c (List.mem_takeWhile_imp member)
    rw [← List.nil_append (solids (text.dropWhile test)), ← taken, ← solids_append, List.takeWhile_append_dropWhile]
  have reversed (text : List Char) : solids text.reverse = (solids text).reverse := List.filter_reverse ..
  rw [reversed, dropped, reversed, List.reverse_reverse, dropped]

theorem solids_trim (text : List Char) : solids (trim text) = solids text :=
  solids_reverse_dropWhile (fun _ blank => blank) text

theorem solids_trimLineFeeds (text : List Char) : solids (trimLineFeeds text) = solids text := by
  refine solids_reverse_dropWhile (fun c lineFeed => ?_) text
  rw [beq_iff_eq.mp lineFeed]
  decide

theorem solids_unlines (lines : List (List Char)) : solids (unlines lines) = lines.flatMap solids := by
  induction lines with
  | nil => rfl
  | cons line rest ih =>
    cases rest with
    | nil => rw [unlines_singleton, List.flatMap_singleton]
    | cons next rest =>
      rw [unlines_cons_cons, solids_append, List.flatMap_cons, ← ih]
      rfl

theorem flatMap_solids_lines (text : List Char) : (lines text).flatMap solids = solids text := by
  rw [← solids_unlines, unlines_lines]

/-- No plain form of a blank is solid. -/
theorem solids_plainChar {c : Char} (blank : isBlank c) : solids (plainChar c) = [] := by
  refine forall_blank (P := fun c => solids (plainChar c) = []) ?_ blank
  decide +kernel

theorem solids_flatMap_plainChar (text : List Char) :
    solids (text.flatMap plainChar) = solids ((solids text).flatMap plainChar) := by
  induction text with
  | nil => rfl
  | cons c text ih =>
    cases blank : isBlank c with
    | true =>
      rw [solids_cons_of_blank blank, List.flatMap_cons, solids_append, solids_plainChar blank, List.nil_append, ih]
    | false => rw [solids_cons blank, List.flatMap_cons, List.flatMap_cons, solids_append, solids_append, ih]

/-! ## Passes that move blanks -/

/-- Both texts may have more blanks in front. -/
theorem Respaced.gap {x y : List Char} (left right : Gap) (leftGap : left.isEmpty = false)
    (rightGap : right.isEmpty = false) (respaced : Respaced x y) :
    Respaced (left.blanks ++ x) (right.blanks ++ y) := by
  have both (front back : Gap) : (front.blanks ++ back.blanks).all isBlank := by
    rw [List.all_append, front.blank, back.blank]
    rfl
  have nonempty {front : Gap} (back : Gap) (given : front.isEmpty = false) :
      Gap.isEmpty ⟨front.blanks ++ back.blanks, both front back⟩ = false := by
    simp only [Gap.isEmpty, List.isEmpty_eq_false_iff] at given ⊢
    exact List.append_ne_nil_of_left_ne_nil given _
  cases respaced with
  | blanks first second => exact .blanks ⟨_, both left first⟩ ⟨_, both right second⟩
  | solid isSolid rest => exact .space left right leftGap rightGap isSolid rest
  | space first second _ _ isSolid rest =>
    rw [← List.append_assoc, ← List.append_assoc]
    exact .space ⟨_, both left first⟩ ⟨_, both right second⟩ (nonempty first leftGap) (nonempty second rightGap)
      isSolid rest
  | sign first second first' second' isSign rest =>
    rw [← List.append_assoc, ← List.append_assoc]
    exact .sign ⟨_, both left first⟩ ⟨_, both right second⟩ first' second' isSign rest

theorem respaced_unifyBreaks (text : List Char) : Respaced text (unifyBreaks text) := by
  fun_induction unifyBreaks text with
  | case1 => exact .blanks .none .none
  | case2 rest ih => exact .gap ⟨['\r', '\n'], by decide⟩ ⟨['\n'], by decide⟩ rfl rfl ih
  | case3 rest _ ih => exact .gap ⟨['\r'], by decide⟩ ⟨['\n'], by decide⟩ rfl rfl ih
  | case4 c rest _ _ ih =>
    cases blank : isBlank c with
    | true => exact .gap ⟨[c], by simp [blank]⟩ ⟨[c], by simp [blank]⟩ rfl rfl ih
    | false => exact .solid blank ih

theorem respaced_squeeze (text : List Char) : Respaced text (squeeze text) := by
  obtain ⟨gap, cells, rfl⟩ := exists_cells text
  rw [squeeze_render]
  induction cells generalizing gap with
  | nil => simpa using Respaced.blanks gap gap.squeezed
  | cons cell cells ih =>
    have later : Respaced (render (cell :: cells)) (render ((cell :: cells).map Cell.squeezed)) :=
      .solid cell.solid (ih cell.gap)
    cases empty : gap.isEmpty with
    | true =>
      rw [Gap.eq_none_of_isEmpty empty]
      exact later
    | false => exact .gap gap gap.squeezed empty (by rw [Gap.isEmpty_squeezed, empty]) later

theorem solids_cleanLine (line : List Char) : solids (cleanLine line) = solids line := by
  have indent : solids (if startsBlank line then indentMark else []) = [] := by split <;> rfl
  rw [cleanLine]
  split
  · rename_i empty
    rw [← solids_trim line, List.isEmpty_iff.mp empty]
  · rw [solids_append, indent, List.nil_append, ← (respaced_squeeze (trim line)).solids_eq, solids_trim]

/-! ## Texts without keywords -/

/-- None of the words stands in a text, in whatever letter case. -/
def Lacks (words : List String) (text : List Char) : Prop := ∀ word, IsKeyword words word → ¬word <:+: text

theorem lacks_of_occursIn {words : List String} {text : List Char}
    (absent : (Pattern.keyword words).occursIn text = false) : Lacks words text := by
  intro word keyword inside
  rw [(Passes.keyword keyword).occursIn inside] at absent
  exact Bool.false_ne_true absent.symm

theorem Lacks.of_infix {words : List String} {text part : List Char} (lacks : Lacks words text)
    (inside : part <:+: text) : Lacks words part :=
  fun word keyword within => lacks word keyword (within.trans inside)

/-- A word does not begin among characters that it does not have. -/
theorem infix_of_infix_append {word front rest : List Char} (nonempty : word ≠ []) (apart : ∀ c ∈ front, c ∉ word)
    (inside : word <:+: front ++ rest) : word <:+: rest := by
  induction front with
  | nil => exact inside
  | cons c front ih =>
    obtain ⟨here, later⟩ := List.forall_mem_cons.mp apart
    rcases List.infix_cons_iff.mp inside with starts | within
    · obtain ⟨d, more, rfl⟩ := List.exists_cons_of_ne_nil nonempty
      obtain ⟨rfl, -⟩ := List.cons_prefix_cons.mp starts
      exact absurd (.head _) here
    · exact ih later within

theorem notMem_of_mem_blanks {word : List Char} (solid : ∀ c ∈ word, isBlank c = false) (gap : Gap) :
    ∀ c ∈ gap.blanks, c ∉ word := by
  intro c isGap isWord
  have blank := List.all_eq_true.mp gap.blank c isGap
  rw [solid c isWord] at blank
  exact Bool.false_ne_true blank

/-- Spacing joins no characters to a word. -/
theorem Respaced.infix_of_infix {x y word : List Char} (respaced : Respaced x y) (nonempty : word ≠ [])
    (solid : ∀ c ∈ word, isBlank c = false) (noSign : ∀ c ∈ word, c ∉ movableSigns) (inside : word <:+: y) :
    word <:+: x := by
  have apart := notMem_of_mem_blanks solid
  -- Where the word begins with the first solid character, it stands at the start of the other text too.
  have first {c : Char} {x y : List Char} (isSolid : isBlank c = false) (rest : Respaced x y)
      (later : word <:+: y → word <:+: x) (inside : word <:+: c :: y) : word <:+: c :: x := by
    rcases List.infix_cons_iff.mp inside with ⟨after, starts⟩ | within
    · have back : Respaced (word ++ after) (c :: x) := starts ▸ (Respaced.solid isSolid rest).symm
      obtain ⟨after', starts', -⟩ := back.append solid noSign
      exact starts' ▸ (List.prefix_append word after').isInfix
    · exact List.infix_cons_iff.mpr (.inr (later within))
  induction respaced with
  | blanks left right =>
    have none : word <:+: [] := infix_of_infix_append nonempty (apart right) (by simpa using inside)
    exact absurd (List.infix_nil.mp none) nonempty
  | solid isSolid rest ih => exact first isSolid rest ih inside
  | space left right _ _ isSolid rest ih =>
    have inside := infix_of_infix_append nonempty (apart right) inside
    exact (first isSolid rest ih inside).trans (List.suffix_append _ _).isInfix
  | @sign c x y left right left' right' isSign rest ih =>
    have signed : ∀ d ∈ [c], d ∉ word := fun d same isWord => noSign d isWord (List.mem_singleton.mp same ▸ isSign)
    have inside := infix_of_infix_append nonempty (apart right) inside
    have inside : word <:+: right'.blanks ++ y := infix_of_infix_append nonempty signed inside
    refine (ih (infix_of_infix_append nonempty (apart right') inside)).trans ?_
    rw [← List.cons_append, ← List.append_assoc]
    exact (List.suffix_append _ _).isInfix

/-- Replacing characters outside a word by characters outside it brings up no such word. -/
theorem infix_of_infix_flatMap {change : Char → List Char} {P : Char → Prop}
    (changed : ∀ c, change c = [c] ∨ change c ≠ [] ∧ ∀ d ∈ change c, ¬P d) {word text : List Char}
    (nonempty : word ≠ []) (letters : ∀ c ∈ word, P c) (inside : word <:+: text.flatMap change) :
    word <:+: text := by
  have starts {word text : List Char} (letters : ∀ c ∈ word, P c) (start : word <+: text.flatMap change) :
      word <+: text := by
    induction text generalizing word with
    | nil => exact start
    | cons c text ih =>
      cases word with
      | nil => exact List.nil_prefix
      | cons d word =>
        obtain ⟨isLetter, later⟩ := List.forall_mem_cons.mp letters
        rw [List.flatMap_cons] at start
        rcases changed c with same | ⟨some, other⟩
        · rw [same, List.singleton_append, List.cons_prefix_cons] at start
          exact List.cons_prefix_cons.mpr ⟨start.1, ih later start.2⟩
        · obtain ⟨e, more, split⟩ := List.exists_cons_of_ne_nil some
          rw [split, List.cons_append, List.cons_prefix_cons] at start
          exact absurd (start.1 ▸ isLetter) (other e (split ▸ .head _))
  induction text with
  | nil => exact inside
  | cons c text ih =>
    rcases changed c with same | ⟨-, other⟩
    · rw [List.flatMap_cons, same, List.singleton_append, List.infix_cons_iff] at inside
      rcases inside with start | within
      · refine (starts letters ?_).isInfix
        rwa [List.flatMap_cons, same]
      · exact (ih within).trans (List.suffix_cons c text).isInfix
    · have apart : ∀ d ∈ change c, d ∉ word := fun d isChange isWord => other d isChange (letters d isWord)
      have within := infix_of_infix_append nonempty apart inside
      exact (ih within).trans (List.suffix_cons c text).isInfix

section Readable

variable {words : List String} (readable : StepFlow.Readable words) {text : List Char} (lacks : Lacks words text)
include readable lacks

theorem Lacks.respaced {other : List Char} (respaced : Respaced text other) : Lacks words other := by
  intro word keyword inside
  refine lacks word keyword (respaced.infix_of_infix (keyword.ne_nil readable) (fun c member => ?_)
    (fun c member => ?_) inside)
  · obtain ⟨letter, spells⟩ := keyword.letter_of_mem readable member
    exact spells.not_blank
  · obtain ⟨letter, spells⟩ := keyword.letter_of_mem readable member
    exact not_movable_of_spellsLetter spells

theorem Lacks.flatMap_plainChar : Lacks words (text.flatMap plainChar) := by
  intro word keyword inside
  refine lacks word keyword (infix_of_infix_flatMap (P := (isWordChar ·)) (fun c => ?_) (keyword.ne_nil readable)
    (fun c member => ?_) inside)
  · unfold plainChar
    split
    case h_10 =>
      split
      · exact .inr ⟨List.cons_ne_nil _ _, List.forall_iff_forall_mem.mp (by decide)⟩
      · exact .inl rfl
    all_goals exact .inr ⟨List.cons_ne_nil _ _, List.forall_iff_forall_mem.mp (by decide)⟩
  · obtain ⟨letter, spells⟩ := keyword.letter_of_mem readable member
    exact spells.isWordChar

theorem Lacks.cleanLine : Lacks words (cleanLine text) := by
  rw [Layout.cleanLine]
  split
  · exact lacks.of_infix List.nil_infix
  · intro word keyword inside
    have blank : ∀ c ∈ (if startsBlank text then indentMark else []), c ∉ word := by
      intro c isIndent isWord
      obtain ⟨letter, spells⟩ := keyword.letter_of_mem readable isWord
      split at isIndent
      · have space : c = ' ' := by simpa [indentMark] using isIndent
        exact absurd spells.not_blank (by rw [space]; decide)
      · exact absurd isIndent List.not_mem_nil
    have squeezed := (lacks.of_infix (trim_isInfix text)).respaced readable (respaced_squeeze (trim text))
    exact squeezed word keyword (infix_of_infix_append (keyword.ne_nil readable) blank inside)

end Readable

/-! ## Lines without keywords -/

/-- A pattern with a keyword in it does not match. -/
theorem Lacks.matchStart?_eq_none {words known : List String} {text : List Char} (lacks : Lacks known text)
    (nonempty : words ≠ []) (subset : words ⊆ known) {index : Nat} {parts : List Pattern}
    (present : .group index (.keyword words) ∈ parts) : (concat parts).matchStart? text = none := by
  rw [matchStart?, matchAt?, Option.map_eq_none_iff, List.head?_eq_none_iff, List.eq_nil_iff_forall_not_mem]
  intro reached member
  obtain ⟨taken, reads, inside⟩ := exists_reads_infix present member
  obtain ⟨word, isWord, spells⟩ := Reads.keyword nonempty reads.group
  exact lacks taken ⟨word, subset isWord, spells⟩ inside

section Dialect

variable {dialect : Dialect} (readable : dialect.Readable)
include readable

section Body

variable {body : List Char} (lacks : Lacks dialect.declarationWords body)
include lacks

theorem Lacks.declarationForm?_eq_none : declarationForm? dialect body = none := by
  have rests := List.subset_append_left dialect.stepWords.rest dialect.stepWords.step
  have steps := List.subset_append_right dialect.stepWords.rest dialect.stepWords.step
  have rest : (restHead dialect).matchStart? body = none :=
    lacks.matchStart?_eq_none readable.rest.nonempty rests (.tail _ (.head _))
  have numbered : (numberedHead dialect).matchStart? body = none :=
    lacks.matchStart?_eq_none readable.step.nonempty steps (.tail _ (.head _))
  have unnumbered : (unnumberedHead dialect).matchStart? body = none :=
    lacks.matchStart?_eq_none readable.step.nonempty steps (.tail _ (.head _))
  simp only [declarationForm?, rest, numbered, unnumbered, Option.map_none]

theorem Lacks.transitionForm?_eq_none : transitionForm? dialect body = none := by
  have unmatched : (transition dialect).matchStart? body = none :=
    lacks.matchStart?_eq_none readable.step.nonempty (List.subset_append_right _ _)
      (.tail _ (.tail _ (.tail _ (.tail _ (.head _)))))
  rw [transitionForm?, unmatched, Option.map_none]

theorem Lacks.embedded?_eq_none : embedded? dialect body = none := by
  have step : (embeddedStep dialect).matchStart? body = none :=
    lacks.matchStart?_eq_none readable.step.nonempty (List.subset_append_right _ _)
      (.tail _ (.tail _ (.tail _ (.head _))))
  have rest : (embeddedRest dialect).matchStart? body = none :=
    lacks.matchStart?_eq_none readable.rest.nonempty (List.subset_append_left _ _)
      (.tail _ (.tail _ (.tail _ (.head _))))
  simp only [embedded?, embeddedRest?, step, rest]

theorem Lacks.splitBody_eq (fuel : Nat) : splitBody dialect fuel body = [body] := by
  cases fuel with
  | zero => rfl
  | succ fuel => rw [splitBody, lacks.embedded?_eq_none readable, ite_self]

end Body

/-- A line without keyword stays one line and keeps its solid characters. -/
theorem Lacks.solids_relaid {line : List Char} (lacks : Lacks dialect.declarationWords line)
    (isPiece : IsPiece dialect line) : (relaid dialect .directEntry line).flatMap solids = solids line := by
  have unseen {indent : List Char} (isIndent : IsIndent indent) : solids indent = [] := by
    rcases isIndent with rfl | rfl <;> rfl
  rw [relaid, unmarked]
  cases isPiece with
  | comment isIndent solid nonempty comment _ =>
    rw [splitLine_comment isIndent solid comment, List.map_singleton, List.flatMap_singleton,
      lineForm_append readable isIndent solid nonempty, if_pos comment]
  | @content indent body isIndent content =>
    have lacks := lacks.of_infix (List.suffix_append indent body).isInfix
    obtain ⟨first, rest, split, whole⟩ := exists_splitLine isIndent content
    rw [lacks.splitBody_eq readable, List.cons.injEq] at split
    rw [whole, ← split.1, ← split.2, List.map_singleton, List.flatMap_singleton,
      lineForm_append readable isIndent content.solid content.nonempty, content.no_comment,
      lacks.transitionForm?_eq_none readable, declared?, lacks.declarationForm?_eq_none readable, ite_self]
    simp only [Bool.false_eq_true, if_false, Option.map_none, Option.or_none, Option.getD_none, solids_append,
      unseen isIndent, unseen (isIndent.unless _), List.nil_append]
    exact (respaced_spacedBody content.solid).solids_eq.symm

end Dialect

end Layout

open Layout

/-- In a text without the keywords of steps, normalization moves blanks only: the solid characters that come out are
those of the text with its typographic characters replaced, in the same order. -/
theorem solids_normalize (text : String)
    (unnamed : (Pattern.keyword ({} : Dialect).declarationWords).occursIn text.toList = false) :
    solids (normalize {} .directEntry text).toList = solids (text.toList.flatMap plainChar) := by
  have readable := Dialect.readable_default
  have respaced := respaced_unifyBreaks text.toList
  have lacks : Lacks ({} : Dialect).declarationWords (plainText .directEntry text.toList) :=
    ((lacks_of_occursIn unnamed).respaced readable.declaring respaced).flatMap_plainChar readable.declaring
  have relaid_line : ∀ line ∈ lines (plainText .directEntry text.toList),
      (relaid {} .directEntry (cleanLine line)).flatMap solids = solids line := by
    intro line isLine
    have clean := (lacks.of_infix (infix_of_mem_lines isLine)).cleanLine readable.declaring
    rw [← solids_cleanLine line]
    rcases isPiece_cleanLine line with empty | isPiece
    · rw [empty, relaid_nil]
      rfl
    · exact clean.solids_relaid readable isPiece
  calc
    solids (normalize {} .directEntry text).toList
      = (canonicalLines {} .directEntry text.toList).flatMap solids := by
        rw [normalize, String.toList_ofList, solids_trimLineFeeds, solids_unlines]
    _ = (lines (plainText .directEntry text.toList)).flatMap fun line =>
          (relaid {} .directEntry (cleanLine line)).flatMap solids := by
        rw [canonicalLines_eq, List.flatMap_assoc, List.flatMap_map]
    _ = (lines (plainText .directEntry text.toList)).flatMap solids := List.flatMap_congr relaid_line
    _ = solids ((unifyBreaks text.toList).flatMap plainChar) := flatMap_solids_lines _
    _ = solids (text.toList.flatMap plainChar) := by
        rw [solids_flatMap_plainChar, ← respaced.solids_eq, ← solids_flatMap_plainChar]

/-- Line breaks of both kinds, a tab, typographic quotes and dashes, and signs that are spaced. -/
theorem solids_normalize_signs :
    (Pattern.keyword ({} : Dialect).declarationWords).occursIn "„a“:=b…\r\n\t+x  :12:30\r–VON y==z=1".toList = false ∧
      solids (normalize {} .directEntry "„a“:=b…\r\n\t+x  :12:30\r–VON y==z=1").toList =
        "\"a\":=b...+x:12:30-VONy==z=1".toList := by
  have unnamed : (Pattern.keyword ({} : Dialect).declarationWords).occursIn
      "„a“:=b…\r\n\t+x  :12:30\r–VON y==z=1".toList = false := by decide +kernel
  exact ⟨unnamed, (solids_normalize _ unnamed).trans (by decide +kernel)⟩

end StepFlow
