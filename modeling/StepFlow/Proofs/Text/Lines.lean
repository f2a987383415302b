import StepFlow.Text.Trim

/-! # Lines of a text

Cutting a text into lines and joining lines are inverse to each other, as long as no line has a line feed. Line feeds
at the ends of a text come from empty lines at the ends.
-/

namespace StepFlow.Text

/-! ## Runs of characters -/

section Runs

variable {test : Char → Bool} {taken rest : List Char}

theorem takeWhile_append_of_stop (all : ∀ c ∈ taken, test c = true) (stops : rest.head?.any test = false) :
    (taken ++ rest).takeWhile test = taken := by
  rw [List.takeWhile_append_of_pos all]
  cases rest with
  | nil => rw [List.takeWhile_nil, List.append_nil]
  | cons c rest =>
    have outside : ¬test c = true := Bool.eq_false_iff.mp stops
    rw [List.takeWhile_cons_of_neg outside, List.append_nil]

theorem dropWhile_append_of_stop (all : ∀ c ∈ taken, test c = true) (stops : rest.head?.any test = false) :
    (taken ++ rest).dropWhile test = rest := by
  rw [List.dropWhile_append_of_pos all]
  cases rest with
  | nil => rfl
  | cons c rest => exact List.dropWhile_cons_of_neg (Bool.eq_false_iff.mp stops)

end Runs

/-! ## Lines -/

theorem splitAt_eq_splitOn (sep : Char) (text : List Char) : splitAt sep text = text.splitOn sep := by
  rw [List.splitOn_eq_splitOnP]
  induction text with
  | nil => rw [List.splitOnP_nil, splitAt]
  | cons c text ih =>
    rw [List.splitOnP_cons_eq_if_modifyHead, splitAt, ih]
    by_cases same : c = sep
    · rw [if_pos same, if_pos (beq_iff_eq.mpr same)]
    · rw [if_neg same, if_neg (by simpa using same)]
      cases rest : text.splitOnP (· == sep) with
      | nil => exact absurd rest (List.splitOnP_ne_nil _ _)
      | cons piece pieces => rfl

theorem joinWith_eq_intercalate (sep : List Char) (pieces : List (List Char)) :
    joinWith sep pieces = sep.intercalate pieces := by
  induction pieces with
  | nil => rfl
  | cons piece pieces ih =>
    cases pieces with
    | nil => rw [joinWith, List.intercalate_singleton]
    | cons next rest => rw [joinWith, List.intercalate_cons_cons, ih]

/-- Lines without line feeds. -/
def AreLines (pieces : List (List Char)) : Prop := ∀ piece ∈ pieces, '\n' ∉ piece

theorem lines_unlines {pieces : List (List Char)} (areLines : AreLines pieces) (nonempty : pieces ≠ []) :
    lines (unlines pieces) = pieces := by
  rw [lines, unlines, splitAt_eq_splitOn, joinWith_eq_intercalate, List.splitOn_intercalate '\n' areLines nonempty]

theorem unlines_lines (text : List Char) : unlines (lines text) = text := by
  rw [lines, unlines, splitAt_eq_splitOn, joinWith_eq_intercalate, List.intercalate_splitOn]

theorem exists_splitAt_eq_cons (sep : Char) (text : List Char) :
    ∃ piece pieces, splitAt sep text = piece :: pieces := by
  rw [splitAt_eq_splitOn, List.splitOn_eq_splitOnP]
  exact List.exists_cons_of_ne_nil (List.splitOnP_ne_nil _ _)

/-- A text without separators belongs to the first piece of what follows it. -/
theorem splitAt_append {sep : Char} {text rest piece : List Char} {pieces : List (List Char)} (whole : sep ∉ text)
    (cut : splitAt sep rest = piece :: pieces) : splitAt sep (text ++ rest) = (text ++ piece) :: pieces := by
  induction text with
  | nil => exact cut
  | cons c text ih =>
    obtain ⟨differs, later⟩ := not_or.mp (mt List.mem_cons.mpr whole)
    rw [List.cons_append, splitAt, if_neg (Ne.symm differs), ih later]
    rfl

/-- A separator ends a piece. -/
theorem splitAt_append_sep (sep : Char) (text rest : List Char) :
    splitAt sep (text ++ sep :: rest) = splitAt sep text ++ splitAt sep rest := by
  induction text with
  | nil => simp [splitAt]
  | cons c text ih =>
    obtain ⟨piece, pieces, cut⟩ := exists_splitAt_eq_cons sep text
    rw [cut] at ih
    rw [List.cons_append, splitAt, splitAt, ih, cut]
    split <;> rfl

/-- The pieces of a text are parts of it, and the first one starts it. -/
theorem infix_of_splitAt {sep : Char} {text piece : List Char} {pieces : List (List Char)}
    (cut : splitAt sep text = piece :: pieces) : piece <+: text ∧ ∀ other ∈ pieces, other <:+: text := by
  induction text generalizing piece pieces with
  | nil =>
    cases cut
    exact ⟨List.prefix_rfl, nofun⟩
  | cons c text ih =>
    rw [splitAt] at cut
    obtain ⟨first, rest, cut'⟩ := exists_splitAt_eq_cons sep text
    obtain ⟨starts, inside⟩ := ih cut'
    have later : ∀ other ∈ rest, other <:+: c :: text := fun other member =>
      (inside other member).trans (List.suffix_cons c text).isInfix
    rw [cut'] at cut
    split at cut
    · cases cut
      refine ⟨List.nil_prefix, List.forall_mem_cons.mpr ⟨?_, later⟩⟩
      exact starts.isInfix.trans (List.suffix_cons c text).isInfix
    · cases cut
      exact ⟨List.cons_prefix_cons.mpr ⟨rfl, starts⟩, later⟩

theorem infix_of_mem_lines {text line : List Char} (member : line ∈ lines text) : line <:+: text := by
  obtain ⟨first, rest, cut⟩ := exists_splitAt_eq_cons '\n' text
  obtain ⟨starts, inside⟩ := infix_of_splitAt cut
  rw [lines, cut] at member
  rcases List.mem_cons.mp member with rfl | later
  · exact starts.isInfix
  · exact inside line later

/-- The characters of a line are characters of the text, and no line feeds. -/
theorem mem_of_mem_splitAt {sep : Char} {text piece : List Char} {c : Char} (isPiece : piece ∈ splitAt sep text)
    (member : c ∈ piece) : c ∈ text ∧ c ≠ sep := by
  induction text generalizing piece with
  | nil =>
    rw [splitAt, List.mem_singleton] at isPiece
    exact absurd (isPiece ▸ member) List.not_mem_nil
  | cons d text ih =>
    rw [splitAt] at isPiece
    split at isPiece
    · rcases List.mem_cons.mp isPiece with rfl | later
      · exact absurd member List.not_mem_nil
      · exact (ih later member).imp_left (.tail _)
    · rename_i differs
      split at isPiece
      · rw [List.mem_singleton.mp isPiece, List.mem_singleton] at member
        exact ⟨member ▸ .head _, member ▸ differs⟩
      · rename_i first rest split
        rcases List.mem_cons.mp isPiece with rfl | later
        · rcases List.mem_cons.mp member with rfl | inFirst
          · exact ⟨.head _, differs⟩
          · exact (ih (split ▸ .head _) inFirst).imp_left (.tail _)
        · exact (ih (split ▸ .tail _ later) member).imp_left (.tail _)

@[simp] theorem unlines_singleton (line : List Char) : unlines [line] = line := rfl

theorem unlines_cons_cons (line next : List Char) (rest : List (List Char)) :
    unlines (line :: next :: rest) = line ++ '\n' :: unlines (next :: rest) := by
  rw [unlines, joinWith, List.append_assoc]
  rfl

theorem mem_unlines {lines : List (List Char)} {c : Char} (member : c ∈ unlines lines) :
    c = '\n' ∨ ∃ line ∈ lines, c ∈ line := by
  induction lines with
  | nil => exact absurd member List.not_mem_nil
  | cons line rest ih =>
    cases rest with
    | nil => exact .inr ⟨line, .head _, member⟩
    | cons next rest =>
      rw [unlines_cons_cons, List.mem_append, List.mem_cons] at member
      rcases member with inLine | lineFeed | later
      · exact .inr ⟨line, .head _, inLine⟩
      · exact .inl lineFeed
      · exact (ih later).imp_right fun ⟨found, isLine, inLine⟩ => ⟨found, .tail _ isLine, inLine⟩

theorem unlines_inj {lines others : List (List Char)} (areLines : AreLines lines) (areOthers : AreLines others)
    (nonempty : lines ≠ []) (nonempty' : others ≠ []) : unlines lines = unlines others ↔ lines = others := by
  refine ⟨fun same => ?_, fun same => same ▸ rfl⟩
  rw [← lines_unlines areLines nonempty, same, lines_unlines areOthers nonempty']

theorem unlines_concat (lines : List (List Char)) (nonempty : lines ≠ []) (last : List Char) :
    unlines (lines ++ [last]) = unlines lines ++ '\n' :: last := by
  induction lines with
  | nil => exact absurd rfl nonempty
  | cons line rest ih =>
    cases rest with
    | nil => rw [List.singleton_append, unlines_cons_cons, unlines_singleton, unlines_singleton]
    | cons next rest =>
      rw [List.cons_append, List.cons_append, unlines_cons_cons, ← List.cons_append,
        ih (List.cons_ne_nil _ _), unlines_cons_cons, List.append_assoc, List.cons_append]

/-- Lines read backwards, from the last one to the first one. -/
theorem reverse_unlines (lines : List (List Char)) :
    (unlines lines).reverse = unlines (lines.map List.reverse).reverse := by
  induction lines with
  | nil => rfl
  | cons line rest ih =>
    cases rest with
    | nil => rfl
    | cons next rest =>
      have whole : ((line :: next :: rest).map List.reverse).reverse =
          ((next :: rest).map List.reverse).reverse ++ [line.reverse] := by
        rw [List.map_cons, List.reverse_cons]
      rw [whole, unlines_concat _ (by simp), unlines_cons_cons, List.reverse_append, List.reverse_cons, ih,
        List.append_assoc, List.singleton_append]

/-- Line feeds at the start of a text come from empty lines there. -/
theorem dropWhile_unlines {lines : List (List Char)} (areLines : AreLines lines) :
    (unlines lines).dropWhile (· == '\n') = unlines (lines.dropWhile List.isEmpty) := by
  induction lines with
  | nil => rfl
  | cons line rest ih =>
    obtain ⟨isLine, areRest⟩ := List.forall_mem_cons.mp areLines
    have starts : ∀ {c : Char} {more : List Char}, line = c :: more → (c == '\n') = false := by
      rintro c more rfl
      rw [beq_eq_false_iff_ne]
      rintro rfl
      exact isLine (.head _)
    cases rest with
    | nil =>
      cases line with
      | nil => rfl
      | cons c more => rw [unlines_singleton, List.dropWhile_cons, starts rfl]; rfl
    | cons next rest =>
      rw [unlines_cons_cons]
      cases line with
      | nil =>
        rw [List.nil_append, List.dropWhile_cons, if_pos (by decide), ih areRest]
        rfl
      | cons c more =>
        rw [List.cons_append, List.dropWhile_cons, starts rfl, List.dropWhile_cons]
        exact (unlines_cons_cons (c :: more) next rest).symm

/-- Lines without the empty ones at both ends. -/
def trimLines (lines : List (List Char)) : List (List Char) :=
  ((lines.dropWhile List.isEmpty).reverse.dropWhile List.isEmpty).reverse

theorem AreLines.of_subset {lines others : List (List Char)} (areLines : AreLines lines) (subset : others ⊆ lines) :
    AreLines others := fun line member => areLines line (subset member)

/-- Dropping at both ends leaves a part of a list. -/
theorem reverse_dropWhile_isInfix {α : Type} (test : α → Bool) (items : List α) :
    ((items.dropWhile test).reverse.dropWhile test).reverse <:+: items := by
  have start := List.dropWhile_suffix test (l := (items.dropWhile test).reverse)
  rw [← List.reverse_prefix, List.reverse_reverse] at start
  exact start.isInfix.trans (List.dropWhile_suffix test).isInfix

theorem reverse_dropWhile_subset {α : Type} (test : α → Bool) (items : List α) :
    ((items.dropWhile test).reverse.dropWhile test).reverse ⊆ items := (reverse_dropWhile_isInfix test items).subset

theorem trim_isInfix (text : List Char) : trim text <:+: text := reverse_dropWhile_isInfix isBlank text

/-- Dropping at both ends leaves no item to be dropped there. -/
theorem ends_reverse_dropWhile {α : Type} (test : α → Bool) (items : List α) :
    (∀ item ∈ ((items.dropWhile test).reverse.dropWhile test).reverse.head?, test item = false) ∧
      ∀ item ∈ ((items.dropWhile test).reverse.dropWhile test).reverse.getLast?, test item = false := by
  have first (items : List α) : ∀ item ∈ (items.dropWhile test).head?, test item = false := by
    intro item isFirst
    have kept := List.head?_dropWhile_not test items
    rwa [Option.mem_def.mp isFirst] at kept
  constructor
  · intro item isFirst
    have start := List.dropWhile_suffix test (l := (items.dropWhile test).reverse)
    rw [← List.reverse_prefix, List.reverse_reverse] at start
    obtain ⟨tail, whole⟩ := start
    exact first items item (by rw [← whole, List.head?_append, Option.mem_def.mp isFirst]; rfl)
  · rw [List.getLast?_reverse]
    exact first _

theorem trimLines_subset (lines : List (List Char)) : trimLines lines ⊆ lines := reverse_dropWhile_subset _ lines

/-- Line feeds at the ends of a text come from empty lines there. -/
theorem trimLineFeeds_unlines {lines : List (List Char)} (areLines : AreLines lines) :
    trimLineFeeds (unlines lines) = unlines (trimLines lines) := by
  have inner := areLines.of_subset (List.dropWhile_sublist List.isEmpty).subset
  have backwards : AreLines ((lines.dropWhile List.isEmpty).map List.reverse).reverse := by
    intro line member
    obtain ⟨original, isLine, rfl⟩ := List.mem_map.mp (List.mem_reverse.mp member)
    exact fun lineFeed => inner original isLine (List.mem_reverse.mp lineFeed)
  have mirrored : List.isEmpty ∘ List.reverse = (List.isEmpty : List Char → Bool) := by
    funext line
    simp
  have dropped : ∀ kept : List (List Char), (kept.map List.reverse).reverse.dropWhile List.isEmpty =
      (kept.reverse.dropWhile List.isEmpty).map List.reverse := by
    intro kept
    rw [← List.map_reverse, List.dropWhile_map, mirrored]
  rw [trimLineFeeds, dropWhile_unlines areLines, reverse_unlines, dropWhile_unlines backwards, reverse_unlines,
    trimLines, dropped, List.map_map, show List.reverse ∘ List.reverse = (id : List Char → List Char) from
      funext List.reverse_reverse, List.map_id]

/-- Lines that neither start nor end with an empty one. -/
structure Tight (lines : List (List Char)) : Prop where
  first : lines.head? ≠ some []
  last : lines.getLast? ≠ some []

theorem tight_trimLines (lines : List (List Char)) : Tight (trimLines lines) := by
  obtain ⟨first, last⟩ := ends_reverse_dropWhile List.isEmpty lines
  exact ⟨fun empty => Bool.false_ne_true (first [] empty).symm, fun empty => Bool.false_ne_true (last [] empty).symm⟩

/-- Lines of which each becomes lines that are not empty, if it is not empty itself, stay tight. -/
theorem Tight.flatMap {lines : List (List Char)} (tight : Tight lines) {change : List Char → List (List Char)}
    (changed : ∀ line ∈ lines, line ≠ [] → change line ≠ [] ∧ [] ∉ change line) : Tight (lines.flatMap change) := by
  -- The first result comes from the first line, and the last result from the last one.
  have picked : ∀ {order : List (List Char)} {pick : List (List Char) → Option (List Char)},
      (∀ results, results ≠ [] → ∃ result ∈ results, pick results = some result) → order ⊆ lines →
      order.head? ≠ some [] → order.findSome? (fun line => pick (change line)) ≠ some [] := by
    intro order pick picks subset first
    cases order with
    | nil => exact (by simp)
    | cons line rest =>
      have nonempty : line ≠ [] := fun empty => first (by rw [empty, List.head?_cons])
      obtain ⟨some, solid⟩ := changed line (subset (.head _)) nonempty
      obtain ⟨result, isResult, found⟩ := picks (change line) some
      rw [List.findSome?_cons, found]
      exact fun same => solid (Option.some.inj same ▸ isResult)
  constructor
  · rw [List.head?_flatMap]
    refine picked (fun results nonempty => ?_) (List.Subset.refl lines) tight.first
    exact ⟨results.head nonempty, List.head_mem nonempty, List.head?_eq_some_head nonempty⟩
  · rw [List.getLast?_flatMap]
    refine picked (fun results nonempty => ?_) (fun line member => List.mem_reverse.mp member) ?_
    · exact ⟨results.getLast nonempty, List.getLast_mem nonempty, List.getLast?_eq_some_getLast nonempty⟩
    · rw [List.head?_reverse]
      exact tight.last

theorem Tight.trimLines_eq {lines : List (List Char)} (tight : Tight lines) : trimLines lines = lines := by
  have whole : ∀ {lines : List (List Char)}, lines.head? ≠ some [] → lines.dropWhile List.isEmpty = lines := by
    intro lines first
    cases lines with
    | nil => rfl
    | cons line rest =>
      rw [List.dropWhile_cons, if_neg]
      rintro empty
      exact first (by rw [List.isEmpty_iff.mp empty]; rfl)
  rw [trimLines, whole tight.first, whole (by rw [List.head?_reverse]; exact tight.last), List.reverse_reverse]

end StepFlow.Text
