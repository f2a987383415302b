import StepFlow.Proofs.Layout.Plain

/-! # Normalization a second time

Normalization brings every line to its canonical form, and the form is its own form. Still, a second normalization may
change a text: a gap that the spacing of the first one has opened can set off a declaration that was joined to the text
before it, or the number of a list item. `normalize_normalize_iff` says that nothing else can happen: a text stays as
it is exactly if each of its lines is settled.
-/

namespace StepFlow

open Text Pattern

namespace Layout

/-- Whether a line starts like an item of a word processor's list. -/
def startsItem (line : List Char) : Bool :=
  bullet.startsIn (splitIndent line).2 || itemNumber.startsIn (splitIndent line).2

/-- Whether a line is to be split: it is no comment, declaration or transition, and a declaration is embedded in it. -/
def hasEmbedded (dialect : Dialect) (line : List Char) : Bool :=
  let body := (splitIndent line).2
  !(body.isEmpty || dialect.isComment body || (declarationStart dialect).startsIn body ||
    (transition dialect).startsIn body) && (embedded? dialect body).isSome

/-- A line that is neither a list item of a document nor to be split. -/
def Settled (dialect : Dialect) (source : SourceKind) (line : List Char) : Prop :=
  (source = .documentImport → startsItem line = false) ∧ hasEmbedded dialect line = false

instance (dialect : Dialect) (source : SourceKind) (line : List Char) : Decidable (Settled dialect source line) :=
  inferInstanceAs (Decidable (_ ∧ _))

/-- A line without the marker of a list item, if markers are read. -/
def unmarked (source : SourceKind) (line : List Char) : List Char :=
  match source with
  | .documentImport => unmarkItem line
  | .directEntry => line

/-- The canonical lines that a clean line becomes. -/
def relaid (dialect : Dialect) (source : SourceKind) (line : List Char) : List (List Char) :=
  (splitLine dialect (unmarked source line)).map (lineForm dialect)

theorem canonicalLines_eq (dialect : Dialect) (source : SourceKind) (text : List Char) :
    canonicalLines dialect source text =
      ((lines (plainText source text)).map cleanLine).flatMap (relaid dialect source) := by
  cases source with
  | directEntry => exact List.map_flatMap
  | documentImport =>
    rw [canonicalLines, List.map_flatMap, List.flatMap_map]
    rfl

theorem relaid_nil (dialect : Dialect) (source : SourceKind) : relaid dialect source [] = [[]] := by
  cases source <;> rfl

theorem settled_nil (dialect : Dialect) (source : SourceKind) : Settled dialect source [] :=
  ⟨fun _ => by decide, rfl⟩

/-- A piece is split exactly if a declaration is embedded in it. -/
theorem splitLine_cases {dialect : Dialect} {line : List Char} (isPiece : IsPiece dialect line) :
    hasEmbedded dialect line = false ∧ splitLine dialect line = [line] ∨
      hasEmbedded dialect line = true ∧ 2 ≤ (splitLine dialect line).length := by
  cases isPiece with
  | comment isIndent solid _ comment _ =>
    refine .inl ⟨?_, splitLine_comment isIndent solid comment⟩
    rw [hasEmbedded, splitIndent_append isIndent solid]
    simp [comment]
  | @content indent body isIndent content =>
    obtain ⟨first, rest, split, line⟩ := exists_splitLine isIndent content
    rw [hasEmbedded, splitIndent_append isIndent content.solid, line]
    simp only [content.no_comment, List.isEmpty_eq_false_iff.mpr content.nonempty, Bool.false_or]
    obtain ⟨c, more, rfl⟩ := List.exists_cons_of_ne_nil content.nonempty
    rw [List.length_cons, splitBody] at split
    cases whole : (declarationStart dialect).startsIn (c :: more) || (transition dialect).startsIn (c :: more) with
    | true =>
      rw [whole, if_pos rfl, List.cons.injEq] at split
      exact .inl ⟨rfl, by rw [← split.1, ← split.2]⟩
    | false =>
      rw [whole, if_neg Bool.false_ne_true] at split
      cases found : embedded? dialect (c :: more) with
      | none =>
        rw [found, List.cons.injEq] at split
        exact .inl ⟨rfl, by rw [← split.1, ← split.2]⟩
      | some parts =>
        obtain ⟨before, declaration⟩ := parts
        have count := congrArg List.length split
        have some := List.length_pos_of_ne_nil (splitBody_ne_nil dialect more.length before)
        simp only [found, List.length_append, List.length_cons, List.length_nil] at count
        exact .inr ⟨rfl, by simp only [List.length_cons]; omega⟩

/-- A line that starts neither with a bullet nor with a digit is no list item. -/
theorem startsItem_cons {c : Char} (solid : isBlank c = false) (noBullet : "•·▪▫".toList.contains c = false)
    (noDigit : isDecimal c = false) (rest : List Char) : startsItem (c :: rest) = false := by
  have starts : startsBlank (c :: rest) = false := solid
  have body : (splitIndent (c :: rest)).2 = c :: rest := congrArg Prod.snd (splitIndent_append (.inl rfl) starts)
  have unmarked : bullet.startsIn (c :: rest) = false := by
    rw [startsIn, bullet, matchStart?_start, andThen?_concat_cons, oneOf, andThen?_one_cons, CharTest.oneOf_holds,
      noBullet]
    rfl
  have unnumbered : itemNumber.startsIn (c :: rest) = false := by
    rw [startsIn, itemNumber, matchStart?_start, andThen?_concat_cons, numeral,
      andThen?_someSpan_of_not _ _ _ (by rw [CharTest.decimal_holds, noDigit])]
    rfl
  rw [startsItem, body, unmarked, unnumbered]
  rfl

/-- A line changes exactly if it starts like a list item, and then it starts with a dash. -/
theorem unmarkItem_cases (line : List Char) :
    startsItem line = false ∧ unmarkItem line = line ∨
      startsItem line = true ∧ ∃ rest, unmarkItem line = '-' :: ' ' :: rest := by
  unfold startsItem unmarkItem startsIn
  generalize splitIndent line = parts
  obtain ⟨indent, body⟩ := parts
  simp only
  cases bullet.matchStart? body with
  | some found => exact .inr ⟨rfl, found.rest, rfl⟩
  | none =>
    cases itemNumber.matchStart? body with
    | some found => exact .inr ⟨rfl, found.rest, rfl⟩
    | none => exact .inl ⟨rfl, rfl⟩

section Readable

variable {dialect : Dialect} (readable : dialect.Readable)
include readable

/-- The canonical form of a line with a dash starts with a dash. -/
theorem exists_lineForm_dash (rest : List Char) : ∃ more, lineForm dialect ('-' :: rest) = '-' :: more := by
  have sign : '-' ∈ layoutSigns := by decide
  have solid : startsBlank ('-' :: rest) = false := (by decide : isBlank '-' = false)
  have noComment : dialect.isComment ('-' :: rest) = false := isComment_eq_false readable (by decide) rest
  have noTransition : transitionForm? dialect ('-' :: rest) = none := by
    rw [transitionForm?_eq readable, readPlus_of_ne (by decide),
      readTransition?_eq_none readable (fun letter spells => spells.not_sign sign)]
    rfl
  have undeclared : declared? dialect [] ('-' :: rest) = none := by
    rw [declared?, declarationForm?_of_isMark readable (by decide), ite_self]
  have line := lineForm_append readable (.inl rfl) solid (List.cons_ne_nil '-' rest)
  simp only [List.nil_append, noComment, noTransition, undeclared, ite_self, Bool.false_eq_true, if_false,
    Option.map_none, Option.or_none, Option.getD_none] at line
  rw [line]
  exact List.head?_eq_some_iff.mp (head?_spacedBody solid)

theorem isPiece_unmarked {line : List Char} (isPiece : IsPiece dialect line) (source : SourceKind) :
    IsPiece dialect (unmarked source line) := by
  cases source with
  | documentImport => exact isPiece_unmarkItem readable isPiece
  | directEntry => exact isPiece

/-- A piece becomes at least one line, and every line it becomes is canonical. -/
theorem isCanonical_of_mem_relaid {line : List Char} (isPiece : IsPiece dialect line) (source : SourceKind) :
    relaid dialect source line ≠ [] ∧ ∀ result ∈ relaid dialect source line, IsCanonical dialect result := by
  have isUnmarked := isPiece_unmarked readable isPiece source
  constructor
  · rw [relaid, ne_eq, List.map_eq_nil_iff]
    rcases splitLine_cases isUnmarked with ⟨-, whole⟩ | ⟨-, split⟩
    · simp [whole]
    · intro empty
      simp [empty] at split
  · intro result member
    obtain ⟨piece, isPiece, rfl⟩ := List.mem_map.mp member
    exact isCanonical_lineForm readable (isPiece_of_mem_splitLine readable isUnmarked piece isPiece)

/-- A canonical line stays as it is exactly if it is settled. -/
theorem relaid_eq_singleton_iff {line : List Char} (canonical : IsCanonical dialect line) (source : SourceKind) :
    relaid dialect source line = [line] ↔ Settled dialect source line := by
  -- A line that is not unmarked stays as it is exactly if no declaration is embedded in it.
  have whole : (splitLine dialect line).map (lineForm dialect) = [line] ↔ hasEmbedded dialect line = false := by
    rcases splitLine_cases canonical.piece with ⟨free, whole⟩ | ⟨embedded, split⟩
    · simp [free, whole, canonical.form]
    · refine iff_of_false (fun same => ?_) (by simp [embedded])
      have count := congrArg List.length same
      rw [List.length_map, List.length_singleton] at count
      omega
  cases source with
  | directEntry => simpa [relaid, unmarked, Settled] using whole
  | documentImport =>
    rw [relaid, unmarked, Settled]
    rcases unmarkItem_cases line with ⟨noItem, same⟩ | ⟨item, rest, changed⟩
    · simpa [noItem, same] using whole
    · -- An item becomes a line with a dash, which is no item.
      refine iff_of_false (fun same => ?_) (by simp [item])
      have isUnmarked := isPiece_unmarkItem readable canonical.piece
      rcases splitLine_cases isUnmarked with ⟨-, unsplit⟩ | ⟨-, split⟩
      · rw [unsplit, changed, List.map_singleton, List.singleton_inj] at same
        obtain ⟨more, dash⟩ := exists_lineForm_dash readable (' ' :: rest)
        rw [← same, dash, startsItem_cons (by decide) (by decide) (by decide)] at item
        exact Bool.false_ne_true item
      · have count := congrArg List.length same
        rw [List.length_map, List.length_singleton] at count
        omega

theorem isCanonical_of_mem_canonicalLines {source : SourceKind} {text line : List Char}
    (isLine : line ∈ canonicalLines dialect source text) : line = [] ∨ IsCanonical dialect line := by
  rw [canonicalLines_eq] at isLine
  obtain ⟨clean, isClean, isResult⟩ := List.mem_flatMap.mp isLine
  obtain ⟨original, -, rfl⟩ := List.mem_map.mp isClean
  rcases isPiece_cleanLine original with empty | isPiece
  · rw [empty, relaid_nil, List.mem_singleton] at isResult
    exact .inl isResult
  · exact .inr ((isCanonical_of_mem_relaid readable isPiece source).2 line isResult)

end Readable

/-- The lines of a normalized text. -/
structure Laid (dialect : Dialect) (source : SourceKind) (lines : List (List Char)) : Prop where
  plain : ∀ line ∈ lines, AllPlain source line
  canonical : ∀ line ∈ lines, line = [] ∨ IsCanonical dialect line

theorem Laid.areLines {dialect : Dialect} {source : SourceKind} {lines : List (List Char)}
    (laid : Laid dialect source lines) : AreLines lines := by
  intro line isLine lineFeed
  exact laid.plain line isLine '\n' lineFeed (by cases source <;> decide)

theorem laid_canonicalLines {dialect : Dialect} (readable : dialect.Readable) (source : SourceKind) (text : List Char) :
    Laid dialect source (canonicalLines dialect source text) where
  plain _ isLine := allPlain_canonicalLines isLine
  canonical _ isLine := isCanonical_of_mem_canonicalLines readable isLine

theorem Laid.of_subset {dialect : Dialect} {source : SourceKind} {lines others : List (List Char)}
    (laid : Laid dialect source lines) (subset : others ⊆ lines) : Laid dialect source others where
  plain line isLine := laid.plain line (subset isLine)
  canonical line isLine := laid.canonical line (subset isLine)

/-- The first passes change nothing in a normalized text. -/
theorem Laid.canonicalLines_unlines {dialect : Dialect} {source : SourceKind} {lines : List (List Char)}
    (laid : Laid dialect source lines) (nonempty : lines ≠ []) :
    canonicalLines dialect source (unlines lines) = lines.flatMap (relaid dialect source) := by
  have plain : plainText source (unlines lines) = unlines lines := by
    refine plainText_eq_self fun c member => ?_
    rcases mem_unlines member with lineFeed | ⟨line, isLine, inLine⟩
    · exact .inl lineFeed
    · exact .inr (laid.plain line isLine c inLine)
  have clean : lines.map cleanLine = lines := by
    refine (List.map_congr_left fun line isLine => ?_).trans (List.map_id lines)
    rcases laid.canonical line isLine with rfl | canonical
    · rfl
    · exact canonical.clean
  rw [canonicalLines_eq, plain, lines_unlines laid.areLines nonempty, clean]

/-- Lines that each become at least one line stay the same exactly if each of them does. -/
theorem flatMap_eq_self_iff {lines : List (List Char)} {change : List Char → List (List Char)}
    (changed : ∀ line ∈ lines, change line ≠ []) :
    lines.flatMap change = lines ↔ ∀ line ∈ lines, change line = [line] := by
  have longer : ∀ {lines : List (List Char)}, (∀ line ∈ lines, change line ≠ []) →
      lines.length ≤ (lines.flatMap change).length := by
    intro lines changed
    induction lines with
    | nil => exact Nat.le_refl 0
    | cons line rest ih =>
      obtain ⟨here, later⟩ := List.forall_mem_cons.mp changed
      have one := List.length_pos_of_ne_nil here
      have more := ih later
      rw [List.flatMap_cons, List.length_append, List.length_cons]
      omega
  induction lines with
  | nil => simp
  | cons line rest ih =>
    obtain ⟨here, later⟩ := List.forall_mem_cons.mp changed
    rw [List.flatMap_cons, List.forall_mem_cons]
    constructor
    · intro same
      -- The line becomes just one line, as the others become at least as many as there are.
      have count := congrArg List.length same
      have more := longer later
      have some := List.length_pos_of_ne_nil here
      rw [List.length_append, List.length_cons] at count
      obtain ⟨result, single⟩ := List.length_eq_one_iff.mp (show (change line).length = 1 by omega)
      rw [single, List.singleton_append, List.cons.injEq] at same
      exact ⟨single.trans (by rw [same.1]), (ih later).mp same.2⟩
    · rintro ⟨single, others⟩
      rw [single, (ih later).mpr others, List.singleton_append]

section Second

variable {dialect : Dialect} (readable : dialect.Readable) {source : SourceKind} {lines : List (List Char)}
include readable

theorem relaid_ne_nil {line : List Char} (canonical : line = [] ∨ IsCanonical dialect line) :
    relaid dialect source line ≠ [] := by
  rcases canonical with rfl | canonical
  · rw [relaid_nil]
    exact List.cons_ne_nil _ _
  · exact (isCanonical_of_mem_relaid readable canonical.piece source).1

/-- A normalized text stays as it is exactly if all its lines are settled. -/
theorem Laid.relaid_iff (laid : Laid dialect source lines) (tight : Tight lines) (nonempty : lines ≠ []) :
    trimLineFeeds (unlines (canonicalLines dialect source (unlines lines))) = unlines lines ↔
      ∀ line ∈ lines, Settled dialect source line := by
  have results := laid_canonicalLines readable source (unlines lines)
  rw [laid.canonicalLines_unlines nonempty] at results ⊢
  have changed : ∀ line ∈ lines, relaid dialect source line ≠ [] := fun line isLine =>
    relaid_ne_nil readable (laid.canonical line isLine)
  have tight' : Tight (lines.flatMap (relaid dialect source)) := by
    refine tight.flatMap fun line isLine solid => ⟨changed line isLine, fun empty => ?_⟩
    have canonical := (laid.canonical line isLine).resolve_left solid
    exact ((isCanonical_of_mem_relaid readable canonical.piece source).2 [] empty).piece.ne_nil rfl
  have nonempty' : lines.flatMap (relaid dialect source) ≠ [] := by
    obtain ⟨line, rest, rfl⟩ := List.exists_cons_of_ne_nil nonempty
    exact List.append_ne_nil_of_left_ne_nil (changed line (.head _)) _
  rw [trimLineFeeds_unlines results.areLines, tight'.trimLines_eq,
    unlines_inj results.areLines laid.areLines nonempty' nonempty, flatMap_eq_self_iff changed]
  refine forall₂_congr fun line isLine => ?_
  rcases laid.canonical line isLine with rfl | canonical
  · exact iff_of_true (relaid_nil dialect source) (settled_nil dialect source)
  · exact relaid_eq_singleton_iff readable canonical source

end Second

end Layout

open Layout

/-- A second normalization leaves a normalized text as it is exactly if each of its lines is settled: no declaration is
embedded in it, and in a document no line starts like a list item. -/
theorem normalize_normalize_iff (source : SourceKind) (text : String) :
    normalize {} source (normalize {} source text) = normalize {} source text ↔
      ∀ line ∈ lines (normalize {} source text).toList, Settled {} source line := by
  have readable := Dialect.readable_default
  have laid := laid_canonicalLines readable source text.toList
  have kept := laid.of_subset (trimLines_subset _)
  have normalized : (normalize {} source text).toList = unlines (trimLines (canonicalLines {} source text.toList)) := by
    rw [normalize, String.toList_ofList, trimLineFeeds_unlines laid.areLines]
  rw [← String.toList_inj, normalized]
  nth_rewrite 1 [normalize]
  rw [String.toList_ofList, normalized]
  by_cases empty : trimLines (canonicalLines {} source text.toList) = []
  · rw [empty]
    refine iff_of_true (by cases source <;> decide +kernel) ?_
    exact List.forall_mem_singleton.mpr (settled_nil {} source)
  · rw [kept.relaid_iff readable (tight_trimLines _) empty, lines_unlines kept.areLines empty]

/-- The space that the first normalization puts after a colon sets off the declaration behind it, so that the second one
splits the line. -/
theorem normalize_joined_declaration :
    normalize {} .directEntry (normalize {} .directEntry "foo:STAP 3: x") ≠
      normalize {} .directEntry "foo:STAP 3: x" := by
  decide +kernel

-- In a document, the space around an equals sign can also complete the number of a list item.
example : normalize {} .documentImport (normalize {} .documentImport "1.=foo") = "- = foo" := by
  decide +kernel

end StepFlow
