import StepFlow.Pattern.CharTest

/-! # Patterns and their matches

A pattern describes parts of a text. Starting at a place, it may end at several places; `ends` lists
them in order of preference, and the first one is the match. The order is the whole meaning: earlier
alternatives come first, a greedy repetition prefers to go on, a lazy one prefers to stop.

Patterns are data. Recursion follows the pattern; a repetition takes as many rounds as there are
characters left, and no round starts where the round before it started.
-/

namespace StepFlow

open Text

/-- How often a part may be repeated. -/
structure Bounds where
  least : Nat
  most : Option Nat
  deriving Repr, DecidableEq

namespace Bounds

/-- Any number of times. -/
def anyNumber : Bounds := ⟨0, none⟩

/-- Once or more. -/
def onceOrMore : Bounds := ⟨1, none⟩

/-- Once or not at all. -/
def optional : Bounds := ⟨0, some 1⟩

end Bounds

/-- Places of a text that a pattern can ask for. -/
inductive Edge where
  /-- The start of the text. -/
  | textStart
  /-- The start of the text or of a line. -/
  | lineStart
  /-- The end of the text. -/
  | textEnd
  /-- The end of the text, or before a line feed that ends it. -/
  | lastLineEnd
  /-- The end of the text or of a line. -/
  | lineEnd
  /-- Between a word character and anything else, or nowhere such. -/
  | wordEdge (ascii : Bool) (wanted : Bool)
  deriving Repr, DecidableEq

/-- A description of parts of a text. -/
inductive Pattern where
  /-- The empty text. -/
  | empty
  /-- One character. -/
  | one (test : CharTest)
  /-- One part, then another. -/
  | seq (first second : Pattern)
  /-- One part, or else another. -/
  | either (first second : Pattern)
  /-- A run of characters that pass one test. -/
  | span (test : CharTest) (bounds : Bounds) (greedy : Bool)
  /-- A part repeated. -/
  | loop (body : Pattern) (bounds : Bounds) (greedy : Bool)
  /-- A part whose text is kept under a number. -/
  | group (index : Nat) (body : Pattern)
  /-- The text kept under a number, once more. -/
  | recall (index : Nat) (folding : Folding)
  /-- A place, without any text. -/
  | edge (wanted : Edge)
  /-- What follows matches, or does not. -/
  | ahead (wanted : Bool) (body : Pattern)
  /-- The given number of characters before matches, or does not. -/
  | behind (wanted : Bool) (width : Nat) (body : Pattern)
  /-- A part of which only the preferred match counts. -/
  | commit (body : Pattern)
  /-- One part if a text is kept under a number, else another. -/
  | ifKept (index : Nat) (yes no : Pattern)
  deriving Repr, DecidableEq

/-- A text kept under a number: what followed at its start and at its end. -/
structure Capture where
  index : Nat
  opened : List Char
  closed : List Char
  deriving Repr, DecidableEq

/-- The characters of a kept text. -/
def Capture.text (capture : Capture) : List Char :=
  capture.opened.take (capture.opened.length - capture.closed.length)

/-- A place in a text: what stands before it, nearest first, what follows, and the texts kept on the
way there, latest first. -/
structure Place where
  before : List Char
  after : List Char
  captures : List Capture
  deriving Repr, DecidableEq

namespace Place

/-- The start of a text. -/
def start (text : List Char) : Place := ⟨[], text, []⟩

/-- The text kept under a number. -/
def kept? (place : Place) (index : Nat) : Option (List Char) :=
  (place.captures.find? (·.index == index)).map Capture.text

/-- The place after one character that passes a test. -/
def step? (test : CharTest) (place : Place) : Option Place :=
  match place.after with
  | [] => none
  | c :: rest =>
    if test.holds c then some { place with before := c :: place.before, after := rest } else none

/-- The place a number of characters before this one. -/
def back? : Nat → Place → Option Place
  | 0, place => some place
  | count + 1, place =>
    match place.before with
    | [] => none
    | c :: rest => back? count { place with before := rest, after := c :: place.after }

/-- The place after the given characters. -/
def skip? (folding : Folding) : List Char → Place → Option Place
  | [], place => some place
  | c :: wanted, place =>
    match place.after with
    | [] => none
    | d :: rest =>
      if folding.lower c == folding.lower d then
        skip? folding wanted { place with before := d :: place.before, after := rest }
      else none

end Place

/-- Whether a place is at an edge. -/
def Edge.holds (edge : Edge) (place : Place) : Bool :=
  match edge with
  | .textStart => place.before.isEmpty
  | .lineStart => place.before.isEmpty || place.before.head? == some '\n'
  | .textEnd => place.after.isEmpty
  | .lastLineEnd => place.after.isEmpty || place.after == ['\n']
  | .lineEnd => place.after.isEmpty || place.after.head? == some '\n'
  | .wordEdge ascii wanted =>
    let isWord := fun c => CharKind.holds .word ascii c
    !(place.before.isEmpty && place.after.isEmpty) &&
      ((place.before.head?.any isWord != place.after.head?.any isWord) == wanted)

/-- The places after none, one, two and more characters that pass a test, up to `most`. -/
def spanPlaces (test : CharTest) (most : Option Nat) (before : List Char) (captures : List Capture) :
    List Char → List Place
  | [] => [⟨before, [], captures⟩]
  | c :: rest =>
    ⟨before, c :: rest, captures⟩ ::
      if most ≠ some 0 ∧ test.holds c then
        spanPlaces test (most.map (· - 1)) (c :: before) captures rest
      else []

/-- The places after exactly the given number of rounds. -/
def roundPlaces (round : Place → List Place) : Nat → Place → List Place
  | 0, place => [place]
  | count + 1, place => (round place).flatMap (roundPlaces round count)

/-- The places after further rounds, of which the last one started with `last` characters left. -/
def morePlaces (round : Place → List Place) (greedy : Bool) :
    Nat → Option Nat → Option Nat → Place → List Place
  | 0, _, _, place => [place]
  | fuel + 1, most, last, place =>
    if most = some 0 ∨ last = some place.after.length then [place]
    else
      let more := (round place).flatMap
        (morePlaces round greedy fuel (most.map (· - 1)) (some place.after.length))
      if greedy then more ++ [place] else place :: more

/-- The places where a pattern may end that starts at a place, preferred ones first. -/
def Pattern.ends : Pattern → Place → List Place
  | .empty, place => [place]
  | .one test, place => (place.step? test).toList
  | .seq first second, place => (first.ends place).flatMap second.ends
  | .either first second, place => first.ends place ++ second.ends place
  | .span test bounds greedy, place =>
    let places :=
      (spanPlaces test bounds.most place.before place.captures place.after).drop bounds.least
    if greedy then places.reverse else places
  | .loop body bounds greedy, place =>
    (roundPlaces body.ends bounds.least place).flatMap fun reached =>
      morePlaces body.ends greedy (reached.after.length + 2)
        (bounds.most.map (· - bounds.least)) none reached
  | .group index body, place =>
    (body.ends place).map fun reached =>
      { reached with captures := ⟨index, place.after, reached.after⟩ :: reached.captures }
  | .recall index folding, place =>
    match place.kept? index with
    | none => []
    | some text => (place.skip? folding text).toList
  | .edge wanted, place => if wanted.holds place then [place] else []
  | .ahead wanted body, place =>
    match body.ends place with
    | [] => if wanted then [] else [place]
    | reached :: _ => if wanted then [{ place with captures := reached.captures }] else []
  | .behind wanted width body, place =>
    match (place.back? width).map body.ends with
    | none | some [] => if wanted then [] else [place]
    | some (reached :: _) => if wanted then [{ place with captures := reached.captures }] else []
  | .commit body, place => (body.ends place).take 1
  | .ifKept index yes no, place =>
    if (place.kept? index).isSome then yes.ends place else no.ends place

/-- A part of a text that a pattern matches. -/
structure Match where
  /-- What stands before the part, nearest character first. -/
  before : List Char
  /-- The part and what follows it. -/
  opened : List Char
  /-- Where the part ends, with the texts kept on the way. -/
  stop : Place
  deriving Repr, DecidableEq

namespace Match

/-- The matched part. -/
def text (found : Match) : List Char :=
  found.opened.take (found.opened.length - found.stop.after.length)

/-- What follows the matched part. -/
def rest (found : Match) : List Char := found.stop.after

/-- The text kept under a number. -/
def kept? (found : Match) (index : Nat) : Option (List Char) := found.stop.kept? index

/-- The text kept under a number, or the empty text. -/
def kept (found : Match) (index : Nat) : List Char := (found.kept? index).getD []

end Match

namespace Pattern

/-- The preferred match that starts at a place. -/
def matchAt? (pattern : Pattern) (before after : List Char) : Option Match :=
  (pattern.ends ⟨before, after, []⟩).head?.map (⟨before, after, ·⟩)

/-- The preferred match at the start of a text. -/
def matchStart? (pattern : Pattern) (text : List Char) : Option Match := pattern.matchAt? [] text

/-- Whether a pattern matches at the start of a text. -/
def startsIn (pattern : Pattern) (text : List Char) : Bool := (pattern.matchStart? text).isSome

/-- The first match at or after a place. -/
def searchFrom? (pattern : Pattern) (before : List Char) : List Char → Option Match
  | [] => pattern.matchAt? before []
  | c :: rest =>
    match pattern.matchAt? before (c :: rest) with
    | some found => some found
    | none => pattern.searchFrom? (c :: before) rest

/-- The first match in a text. -/
def search? (pattern : Pattern) (text : List Char) : Option Match := pattern.searchFrom? [] text

/-- Whether a pattern matches somewhere in a text. -/
def occursIn (pattern : Pattern) (text : List Char) : Bool := (pattern.search? text).isSome

/-- Replaces matches that are not empty, from left to right; `skip` characters are already matched. -/
def replaceFrom (pattern : Pattern) (change : Match → List Char) :
    Nat → List Char → List Char → List Char
  | _, _, [] => []
  | skip + 1, before, c :: rest => replaceFrom pattern change skip (c :: before) rest
  | 0, before, c :: rest =>
    match pattern.matchAt? before (c :: rest) with
    | none => c :: replaceFrom pattern change 0 (c :: before) rest
    | some found =>
      match found.text.length with
      | 0 => c :: replaceFrom pattern change 0 (c :: before) rest
      | length + 1 => change found ++ replaceFrom pattern change length (c :: before) rest

/-- The text with every match replaced. -/
def replace (pattern : Pattern) (change : Match → List Char) (text : List Char) : List Char :=
  pattern.replaceFrom change 0 [] text

/-- The texts of all matches that are not empty, from left to right. -/
def findAllFrom (pattern : Pattern) : Nat → List Char → List Char → List (List Char)
  | _, _, [] => []
  | skip + 1, before, c :: rest => findAllFrom pattern skip (c :: before) rest
  | 0, before, c :: rest =>
    match (pattern.matchAt? before (c :: rest)).map Match.text with
    | none | some [] => findAllFrom pattern 0 (c :: before) rest
    | some (d :: part) => (d :: part) :: findAllFrom pattern part.length (c :: before) rest

/-- The texts of all matches that are not empty, from left to right. -/
def findAll (pattern : Pattern) (text : List Char) : List (List Char) := pattern.findAllFrom 0 [] text

/-- A body repeated; a single character becomes a span. -/
def times (body : Pattern) (bounds : Bounds) (greedy : Bool) : Pattern :=
  match body with
  | .one test => .span test bounds greedy
  | other => .loop other bounds greedy

/-- Parts one after another. -/
def concat : List Pattern → Pattern
  | [] => .empty
  | [part] => part
  | part :: next :: rest => .seq part (concat (next :: rest))

/-- Alternatives in order. -/
def anyOf : List Pattern → Pattern
  | [] => .empty
  | [part] => part
  | part :: next :: rest => .either part (anyOf (next :: rest))

/-- A given text. -/
def literal (folding : Folding) (text : String) : Pattern :=
  concat (text.toList.map fun c => .one (.char c folding))

end Pattern

end StepFlow
