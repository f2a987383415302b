import StepFlow.Pattern.Basic
import StepFlow.Pattern.Fault
import StepFlow.Text.Numeral

/-! # Reading patterns from text

The usual written form of patterns: literals, sets in brackets, `|`, repetition marks, groups in
parentheses, look-around, references to groups, and flags at the start or on a group. The reader
sees one token ahead, a token being a character or a backslash with the character after it; a
backslash at the very end is a fault as soon as it is the next token.
-/

namespace StepFlow

namespace PatternReader

/-- A character, a backslash with the character after it, or a backslash at the end. -/
inductive Token where
  | plain (c : Char)
  | escaped (c : Char)
  | dangling
  deriving Repr, DecidableEq

/-- The tokens of a text. -/
def tokens : List Char → List Token
  | [] => []
  | ['\\'] => [.dangling]
  | '\\' :: c :: rest => .escaped c :: tokens rest
  | c :: rest => .plain c :: tokens rest

/-- The characters of a token. -/
def Token.chars : Token → List Char
  | .plain c => [c]
  | .escaped c => ['\\', c]
  | .dangling => ['\\']

/-- The switches that change how text is read and matched. -/
structure Flags where
  ignoreCase : Bool := false
  multiline : Bool := false
  dotAll : Bool := false
  verbose : Bool := false
  ascii : Bool := false
  deriving Repr, DecidableEq

/-- How characters are compared under flags. -/
def Flags.folding (flags : Flags) : Folding :=
  if flags.ignoreCase then (if flags.ascii then .ascii else .full) else .exact

/-- The least and the greatest length of a match. -/
structure Width where
  least : Nat
  most : Option Nat
  deriving Repr, DecidableEq

/-- What remains to be read and what was found so far. -/
structure Input where
  rest : List Token
  position : Nat
  /-- How many groups are open or closed. -/
  groups : Nat := 0
  /-- The widths of closed groups. -/
  widths : List (Nat × Width) := []
  /-- Names of groups. -/
  names : List (String × Nat) := []
  /-- Inside a look-behind, how many groups there were before it. -/
  behindGroups : Option Nat := none
  /-- Numbers that a condition asks for, with their positions. -/
  asked : List (Nat × Nat) := []
  /-- Whether some look-behind has no fixed width. -/
  uneven : Bool := false
  deriving Repr

/-- Reading takes the input apart, or fails at a position. -/
abbrev Read := StateT Input (Except PatternFault)

/-- Fails `back` characters before the next token. -/
def failAt {α : Type} (cause : PatternCause) (back : Nat) : Read α := fun input =>
  .error ⟨cause, some (input.position - back)⟩

/-- The next token, if there is one. -/
def peek : Read (Option Token) := return (← get).rest.head?

/-- Fails if the next token is a backslash at the end. -/
def checkNext : Read Unit := do
  if (← peek) = some .dangling then failAt .danglingEscape 0

/-- Takes the next token. -/
def next : Read (Option Token) := do
  let input ← get
  match input.rest with
  | [] => return none
  | token :: rest =>
    set { input with rest, position := input.position + token.chars.length }
    checkNext
    return some token

/-- Takes the next token if it is the given character. -/
def accept (c : Char) : Read Bool := do
  if (← peek) = some (.plain c) then
    let _ ← next
    return true
  else return false

/-- Takes at most `count` characters that pass a test. -/
def takeChars (test : Char → Bool) : Nat → Read (List Char)
  | 0 => return []
  | count + 1 => do
    match ← peek with
    | some (.plain c) =>
      if test c then
        let _ ← next
        return c :: (← takeChars test count)
      else return []
    | _ => return []

/-- Takes characters up to a terminator, which is taken too; `fuel` bounds the number of tokens. -/
def takeUntil (terminator : Char) (what : String) : Nat → List Char → Read (List Char)
  | 0, name => return name
  | fuel + 1, name => do
    match ← next with
    | none =>
      if name.isEmpty then failAt (.missingName what) 0
      else failAt (.unterminatedName terminator) name.length
    | some token =>
      if token = .plain terminator then
        if name.isEmpty then failAt (.missingName what) 1 else return name
      else takeUntil terminator what fuel (name ++ token.chars)

/-- Takes characters up to a terminator. -/
def readUntil (terminator : Char) (what : String) : Read (List Char) := do
  takeUntil terminator what ((← get).rest.length + 1) []

/-- The value of a hexadecimal digit. -/
def hexValue? (c : Char) : Option Nat :=
  if '0' ≤ c ∧ c ≤ '9' then some (c.toNat - 48)
  else if 'a' ≤ c ∧ c ≤ 'f' then some (c.toNat - 87)
  else if 'A' ≤ c ∧ c ≤ 'F' then some (c.toNat - 55)
  else none

/-- The number that digits spell in a base. -/
def digitsValue (base : Nat) (digits : List Char) : Nat :=
  digits.foldl (fun value c => value * base + (hexValue? c).getD 0) 0

/-- Digits below eight. -/
def isOctal (c : Char) : Bool := '0' ≤ c && c ≤ '7'

/-- What an escape stands for. -/
inductive Escape where
  | code (code : Nat)
  | kind (kind : CharKind) (others : Bool)
  | edge (edge : Edge)
  | recall (index : Nat)
  deriving Repr, DecidableEq

/-- The classes that an escape can name. -/
def kindEscape? : Char → Option (CharKind × Bool)
  | 'd' => some (.decimal, false)
  | 'D' => some (.decimal, true)
  | 's' => some (.blank, false)
  | 'S' => some (.blank, true)
  | 'w' => some (.word, false)
  | 'W' => some (.word, true)
  | _ => none

/-- The control characters that an escape can name. -/
def controlEscape? : Char → Option Nat
  | 'a' => some 7
  | 'b' => some 8
  | 'f' => some 12
  | 'n' => some 10
  | 'r' => some 13
  | 't' => some 9
  | 'v' => some 11
  | '\\' => some 92
  | _ => none

/-- The places that an escape can name. -/
def edgeEscape? (ascii : Bool) : Char → Option Edge
  | 'A' => some .textStart
  | 'Z' => some .textEnd
  | 'b' => some (.wordEdge ascii true)
  | 'B' => some (.wordEdge ascii false)
  | _ => none

/-- An escape of `count` hexadecimal digits after the given letter. -/
def readHexEscape (c : Char) (count : Nat) : Read Escape := do
  let digits ← takeChars (fun d => (hexValue? d).isSome) count
  let escape := String.ofList ('\\' :: c :: digits)
  if digits.length < count then failAt (.incompleteEscape escape) escape.length
  let code := digitsValue 16 digits
  if code > 0x10FFFF then failAt (.badEscape escape) escape.length
  return .code code

/-- An escape by name; no names are known. -/
def readNameEscape : Read Escape := do
  if !(← accept (Char.ofNat 0x7b)) then failAt .missingBrace 0
  let name ← readUntil (Char.ofNat 0x7d) "character name"
  failAt (.undefinedName (String.ofList name)) (name.length + 4)

/-- The escape that starts with a backslash and the given character, within a set. -/
def readSetEscape (c : Char) : Read Escape := do
  if let some code := controlEscape? c then return .code code
  if let some (kind, others) := kindEscape? c then return .kind kind others
  if c = 'x' then readHexEscape c 2
  else if c = 'u' then readHexEscape c 4
  else if c = 'U' then readHexEscape c 8
  else if c = 'N' then readNameEscape
  else if isOctal c then
    let digits ← takeChars isOctal 2
    let code := digitsValue 8 (c :: digits)
    if code > 255 then
      failAt (.octalTooLarge (String.ofList ('\\' :: c :: digits))) (2 + digits.length)
    return .code code
  else if c.isAlphanum then failAt (.badEscape (String.ofList ['\\', c])) 2
  else return .code c.toNat

/-- A reference to a closed group, `back` characters long. -/
def readReference (index back : Nat) : Read Escape := do
  let input ← get
  if index = 0 ∨ index > input.groups then failAt (.invalidReference index) (back - 1)
  if (input.widths.lookup index).isNone then failAt .openReference back
  if let some limit := input.behindGroups then
    if index > limit then failAt .referenceInLookBehind 0
  return .recall index

/-- The escape that starts with a backslash and the given character, outside of sets. -/
def readEscape (ascii : Bool) (c : Char) : Read Escape := do
  if let some edge := edgeEscape? ascii c then return .edge edge
  if let some (kind, others) := kindEscape? c then return .kind kind others
  if let some code := controlEscape? c then return .code code
  if c = 'x' then readHexEscape c 2
  else if c = 'u' then readHexEscape c 4
  else if c = 'U' then readHexEscape c 8
  else if c = 'N' then readNameEscape
  else if c = '0' then
    return .code (digitsValue 8 (← takeChars isOctal 2))
  else if c.isDigit then
    match ← takeChars Char.isDigit 1 with
    | [] => readReference (digitsValue 10 [c]) 2
    | second =>
      if isOctal c && second.all isOctal then
        match ← takeChars isOctal 1 with
        | [] => readReference (digitsValue 10 (c :: second)) 3
        | third =>
          let digits := c :: second ++ third
          let code := digitsValue 8 digits
          if code > 255 then failAt (.octalTooLarge (String.ofList ('\\' :: digits))) 4
          return .code code
      else readReference (digitsValue 10 (c :: second)) 3
  else if c.isAlpha then failAt (.badEscape (String.ofList ['\\', c])) 2
  else return .code c.toNat

/-- One character with a given code point. -/
def codePattern (flags : Flags) (code : Nat) : Pattern :=
  if code.isValidChar then .one (.char (Char.ofNat code) flags.folding)
  else .one (.set [.range code code] flags.folding false)

/-- The part of a set that an escape or a character stands for. -/
def setItem (flags : Flags) : Escape → SetItem
  | .code code => .range code code
  | .kind kind others => .ofKind kind flags.ascii others
  | .edge _ | .recall _ => .range 1 0

/-- The parts of a set up to its closing bracket; `start` is the position of the opening one. -/
def readSetItems (flags : Flags) (start : Nat) : Nat → List SetItem → Read (List SetItem)
  | 0, items => return items
  | fuel + 1, items => do
    let unterminated : Read (List SetItem) := do
      failAt .unterminatedSet ((← get).position - start)
    let member (token : Token) : Read Escape :=
      match token with
      | .plain c => return .code c.toNat
      | .escaped c => readSetEscape c
      | .dangling => return .code 92
    match ← next with
    | none => unterminated
    | some token =>
      if token = .plain ']' && !items.isEmpty then return items
      let first ← member token
      if ← accept '-' then
        match ← next with
        | none => unterminated
        | some (.plain ']') => return items ++ [setItem flags first, .char '-']
        | some token' =>
          let last ← member token'
          let bad : Read (List SetItem) :=
            failAt (.badRange (String.ofList token.chars) (String.ofList token'.chars))
              (token.chars.length + 1 + token'.chars.length)
          match first, last with
          | .code lo, .code hi =>
            if hi < lo then bad
            else readSetItems flags start fuel (items ++ [.range lo hi])
          | _, _ => bad
      else readSetItems flags start fuel (items ++ [setItem flags first])

/-- A set whose opening bracket has been taken. -/
def readSet (flags : Flags) : Read Pattern := do
  let start := (← get).position - 1
  let others ← accept '^'
  let items ← readSetItems flags start ((← get).rest.length + 1) []
  return .one (.set items flags.folding others)

/-- The greatest repetition count, exclusive. -/
def maxRepeat : Nat := 4294967295

/-- The bounds that a repetition mark gives, or `none` if a brace is meant literally. -/
def readBounds (mark : Char) : Read (Option Bounds) := do
  if mark = '?' then return some ⟨0, some 1⟩
  if mark = '*' then return some ⟨0, none⟩
  if mark = '+' then return some ⟨1, none⟩
  let saved ← get
  if (← peek) = some (.plain (Char.ofNat 0x7d)) then return none
  let low ← takeChars Char.isDigit saved.rest.length
  let ranged ← accept ','
  let high ← if ranged then takeChars Char.isDigit saved.rest.length else pure low
  if !(← accept (Char.ofNat 0x7d)) then
    set saved
    return none
  let least := digitsValue 10 low
  let most := if high.isEmpty then none else some (digitsValue 10 high)
  if least ≥ maxRepeat || most.any (· ≥ maxRepeat) then
    throw ⟨.repeatTooLarge, none⟩
  if most.any (· < least) then
    failAt .repeatBoundsReversed ((← get).position - saved.position)
  return some ⟨least, most⟩

/-- Whether a part of a sequence can be repeated. -/
inductive ItemKind where
  | edge
  | repeated
  | other
  deriving Repr, DecidableEq

/-- Letters that set flags. -/
def isFlag (c : Char) : Bool := "iLmsxatu".toList.contains c

/-- Flags that choose the alphabet. -/
def isTypeFlag (c : Char) : Bool := "auL".toList.contains c

/-- Takes flag letters after the first one, up to a character of `stops`. -/
def readFlagLetters (stops : List Char) (missing : PatternCause) (on : Bool) :
    Nat → List Char → Char → Read (List Char × Char)
  | 0, letters, c => return (letters, c)
  | fuel + 1, letters, c => do
    if on then
      if c = 'L' then failAt .localeFlag 0
      if isTypeFlag c && letters.any (fun d => isTypeFlag d && d != c) then
        failAt .mixedTypeFlags 0
    else if isTypeFlag c then failAt .typeFlagOff 0
    match ← next with
    | none => failAt missing 0
    | some token =>
      match token with
      | .plain d =>
        if stops.contains d then return (letters ++ [c], d)
        else if isFlag d then readFlagLetters stops missing on fuel (letters ++ [c]) d
        else if Text.isLetter d then failAt .unknownFlag 1
        else failAt missing 1
      | other => failAt missing other.chars.length

/-- Flags with letters set to a value. -/
def Flags.put (flags : Flags) (value : Bool) (letters : List Char) : Flags :=
  letters.foldl (fun flags c => match c with
    | 'i' => { flags with ignoreCase := value }
    | 'm' => { flags with multiline := value }
    | 's' => { flags with dotAll := value }
    | 'x' => { flags with verbose := value }
    | 'a' => { flags with ascii := value }
    | 'u' => { flags with ascii := !value }
    | _ => flags) flags

/-- Flags whose first letter or minus has been taken: for the whole pattern, or for one group. -/
def readFlags (flags : Flags) (first : Char) : Read (Flags × Bool) := do
  let fuel := (← get).rest.length + 1
  let (on, stop) ←
    if first = '-' then pure ([], '-')
    else readFlagLetters [')', '-', ':'] .missingFlagsEnd true fuel [] first
  if stop = ')' then return (flags.put true on, true)
  if on.contains 't' then failAt .globalFlagOn 1
  let off ←
    if stop = '-' then
      match ← next with
      | none => failAt .missingFlag 0
      | some (.plain c) =>
        if isFlag c then do
          let (off, _) ← readFlagLetters [':'] .missingColon false fuel [] c
          pure off
        else if Text.isLetter c then failAt .unknownFlag 1
        else failAt .missingFlag 1
      | some other => failAt .missingFlag other.chars.length
    else pure []
  if off.contains 't' then failAt .globalFlagOff 1
  if off.any on.contains then failAt .flagOnAndOff 1
  return ((flags.put true on).put false off, false)

/-- Takes a comment up to its closing parenthesis; `start` is where it opened. -/
def skipComment (start : Nat) : Nat → Read Unit
  | 0 => return
  | fuel + 1 => do
    match ← peek with
    | none => failAt .unterminatedComment ((← get).position - start)
    | some token =>
      let _ ← next
      if token = .plain ')' then return else skipComment start fuel

/-- Takes the rest of a line. -/
def skipLine : Nat → Read Unit
  | 0 => return
  | fuel + 1 => do
    match ← next with
    | none | some (.plain '\n') => return
    | some _ => skipLine fuel

/-- Blanks that do not count under the verbose flag. -/
def isVerboseBlank (c : Char) : Bool := " \t\n\r\x0b\x0c".toList.contains c

/-- Whether a name may stand for a group. -/
def isGroupName : List Char → Bool
  | [] => false
  | c :: rest => (c == '_' || Text.isLetter c) && rest.all Text.isWordChar

/-- The lengths that a pattern can match, given the widths of the closed groups. -/
def width (widths : List (Nat × Width)) : Pattern → Width
  | .empty | .edge _ | .ahead _ _ | .behind _ _ _ => ⟨0, some 0⟩
  | .one _ => ⟨1, some 1⟩
  | .seq first second =>
    let a := width widths first
    let b := width widths second
    ⟨a.least + b.least, a.most.bind fun x => b.most.map (x + ·)⟩
  | .either first second | .ifKept _ first second =>
    let a := width widths first
    let b := width widths second
    ⟨min a.least b.least, a.most.bind fun x => b.most.map (max x)⟩
  | .span _ bounds _ => ⟨bounds.least, bounds.most⟩
  | .loop body bounds _ =>
    let a := width widths body
    ⟨a.least * bounds.least,
      if a.most = some 0 then some 0 else a.most.bind fun x => bounds.most.map (x * ·)⟩
  | .group _ body | .commit body => width widths body
  | .recall index _ => (widths.lookup index).getD ⟨0, some 0⟩

/-- Opens a group, with a name or without. -/
def openGroup (name : Option (List Char)) : Read Nat := do
  let input ← get
  let index := input.groups + 1
  match name with
  | none => set { input with groups := index }
  | some chars =>
    let name := String.ofList chars
    if let some earlier := input.names.lookup name then
      failAt (.redefinedGroup name index earlier) (chars.length + 1)
    set { input with groups := index, names := input.names ++ [(name, index)] }
  return index

/-- Takes the closing parenthesis of a group that opened at `start`. -/
def closeParen (start : Nat) : Read Unit := do
  if !(← accept ')') then failAt .unterminatedGroup ((← get).position - start)

/-- The number of the group that a condition asks for. -/
def readCondition : Read Nat := do
  let name ← readUntil ')' "group name"
  let text := String.ofList name
  let back := name.length + 1
  let index ←
    if isGroupName name then
      match (← get).names.lookup text with
      | none => failAt (.unknownGroupName text) back
      | some index => pure index
    else
      match Text.readNumber? name with
      | none => failAt (.badGroupName text) back
      | some 0 => failAt .badGroupNumber back
      | some index =>
        if index ≥ maxRepeat / 2 then failAt (.invalidReference index) back
        modify fun input =>
          if (input.asked.lookup index).isSome then input
          else { input with asked := input.asked ++ [(index, input.position - back)] }
        pure index
  if let some limit := (← get).behindGroups then
    if ((← get).widths.lookup index).isNone then failAt .openReference 0
    if index > limit then failAt .referenceInLookBehind 0
  return index

/-- The parts of a sequence as one pattern; the list has the last part first. -/
def sequenceOf (items : List (Pattern × ItemKind)) : Pattern :=
  .concat (items.reverse.map (·.1))

mutual

/-- Alternatives up to a closing parenthesis or the end. -/
def readAlternatives : Nat → Flags → Read Pattern
  | 0, _ => return .empty
  | fuel + 1, flags => do
    let first := sequenceOf (← readSequence fuel flags [])
    if ← accept '|' then return .either first (← readAlternatives fuel flags)
    else return first

/-- Further parts of a sequence, up to a bar, a closing parenthesis or the end. -/
def readSequence : Nat → Flags → List (Pattern × ItemKind) → Read (List (Pattern × ItemKind))
  | 0, _, items => return items
  | fuel + 1, flags, items => do
    match ← peek with
    | none | some (.plain '|') | some (.plain ')') => return items
    | some token =>
      let _ ← next
      match token with
      | .dangling => return items
      | .escaped c =>
        match ← readEscape flags.ascii c with
        | .code code => readSequence fuel flags ((codePattern flags code, .other) :: items)
        | .kind kind others =>
          let test := CharTest.set [.ofKind kind flags.ascii others] flags.folding false
          readSequence fuel flags ((.one test, .other) :: items)
        | .edge edge => readSequence fuel flags ((.edge edge, .edge) :: items)
        | .recall index =>
          readSequence fuel flags ((.recall index flags.folding, .other) :: items)
      | .plain c =>
        if flags.verbose && isVerboseBlank c then readSequence fuel flags items
        else if flags.verbose && c = '#' then do
          skipLine ((← get).rest.length + 1)
          readSequence fuel flags items
        else if c = '[' then do
          readSequence fuel flags ((← readSet flags, .other) :: items)
        else if c = '?' || c = '*' || c = '+' || c = Char.ofNat 0x7b then do
          let here := (← get).position
          match ← readBounds c with
          | none => readSequence fuel flags ((codePattern flags c.toNat, .other) :: items)
          | some bounds =>
            let back := (← get).position - here + 1
            match items with
            | [] => failAt .nothingToRepeat back
            | (_, .edge) :: _ => failAt .nothingToRepeat back
            | (_, .repeated) :: _ => failAt .multipleRepeat back
            | (body, .other) :: before =>
              let lazy ← accept '?'
              let committed ← if lazy then pure false else accept '+'
              let repeated := Pattern.times body bounds (!lazy)
              let item := if committed then .commit repeated else repeated
              readSequence fuel flags ((item, .repeated) :: before)
        else if c = '.' then
          readSequence fuel flags ((.one (.any flags.dotAll), .other) :: items)
        else if c = '^' then
          let edge := if flags.multiline then Edge.lineStart else .textStart
          readSequence fuel flags ((.edge edge, .edge) :: items)
        else if c = '$' then
          let edge := if flags.multiline then Edge.lineEnd else .lastLineEnd
          readSequence fuel flags ((.edge edge, .edge) :: items)
        else if c = '(' then do
          match ← readGroup fuel flags ((← get).position - 1) with
          | none => readSequence fuel flags items
          | some body => readSequence fuel flags ((body, .other) :: items)
        else readSequence fuel flags ((codePattern flags c.toNat, .other) :: items)

/-- What stands in parentheses that opened at `start`; a comment stands for nothing. -/
def readGroup : Nat → Flags → Nat → Read (Option Pattern)
  | 0, _, _ => return none
  | fuel + 1, flags, start => do
    let captured (name : Option (List Char)) : Read (Option Pattern) := do
      let index ← openGroup name
      let body ← readAlternatives fuel flags
      closeParen start
      modify fun input => { input with widths := (index, width input.widths body) :: input.widths }
      return some (.group index body)
    let look (wanted : Bool) : Read (Option Pattern) := do
      let body ← readAlternatives fuel flags
      closeParen start
      return some (.ahead wanted body)
    if !(← accept '?') then captured none
    else match ← next with
      | none => failAt .unexpectedEnd 0
      | some (.plain 'P') =>
        if ← accept '<' then
          let name ← readUntil '>' "group name"
          if !isGroupName name then
            failAt (.badGroupName (String.ofList name)) (name.length + 1)
          captured (some name)
        else if ← accept '=' then
          let name ← readUntil ')' "group name"
          let text := String.ofList name
          if !isGroupName name then failAt (.badGroupName text) (name.length + 1)
          match (← get).names.lookup text with
          | none => failAt (.unknownGroupName text) (name.length + 1)
          | some index =>
            if ((← get).widths.lookup index).isNone then failAt .openReference (name.length + 1)
            if let some limit := (← get).behindGroups then
              if index > limit then failAt .referenceInLookBehind 0
            return some (.recall index flags.folding)
        else match ← next with
          | none => failAt .unexpectedEnd 0
          | some token =>
            failAt (.unknownExtension (String.ofList ('?' :: 'P' :: token.chars)))
              (token.chars.length + 2)
      | some (.plain ':') =>
        let body ← readAlternatives fuel flags
        closeParen start
        return some body
      | some (.plain '#') =>
        skipComment start ((← get).rest.length + 1)
        return none
      | some (.plain '=') => look true
      | some (.plain '!') => look false
      | some (.plain '<') =>
        match ← next with
        | none => failAt .unexpectedEnd 0
        | some token =>
          if token ≠ .plain '=' ∧ token ≠ .plain '!' then
            failAt (.unknownExtension (String.ofList ('?' :: '<' :: token.chars)))
              (token.chars.length + 2)
          let outer := (← get).behindGroups
          modify fun input => { input with behindGroups := some (outer.getD input.groups) }
          let body ← readAlternatives fuel flags
          modify fun input => { input with behindGroups := outer }
          closeParen start
          let size := width (← get).widths body
          if size.most ≠ some size.least then modify fun input => { input with uneven := true }
          return some (.behind (token = .plain '=') size.least body)
      | some (.plain '(') =>
        let index ← readCondition
        let yes := sequenceOf (← readSequence fuel flags [])
        let no ←
          if ← accept '|' then do
            let no := sequenceOf (← readSequence fuel flags [])
            if (← peek) = some (.plain '|') then failAt .tooManyBranches 0
            pure no
          else pure .empty
        closeParen start
        return some (.ifKept index yes no)
      | some (.plain '>') =>
        let body ← readAlternatives fuel flags
        closeParen start
        return some (.commit body)
      | some token =>
        match token with
        | .plain c =>
          if isFlag c || c = '-' then
            let (inner, whole) ← readFlags flags c
            if whole then failAt .lateFlags ((← get).position - start)
            let body ← readAlternatives fuel inner
            closeParen start
            return some body
          else failAt (.unknownExtension (String.ofList ['?', c])) 2
        | other =>
          failAt (.unknownExtension (String.ofList ('?' :: other.chars))) (other.chars.length + 1)

end

/-- Flags for the whole pattern, which stand before everything but comments. -/
def readLeadingFlags : Nat → Flags → Read Flags
  | 0, flags => return flags
  | fuel + 1, flags => do
    let saved ← get
    match saved.rest with
    | .plain '(' :: .plain '?' :: .plain '#' :: _ =>
      let _ ← next
      let _ ← next
      let _ ← next
      skipComment saved.position (saved.rest.length + 1)
      readLeadingFlags fuel flags
    | .plain '(' :: .plain '?' :: .plain c :: _ =>
      if isFlag c then
        let _ ← next
        let _ ← next
        let _ ← next
        let (inner, whole) ← readFlags flags c
        if whole then readLeadingFlags fuel inner
        else
          set saved
          return flags
      else return flags
    | .plain c :: _ =>
      if flags.verbose && isVerboseBlank c then
        let _ ← next
        readLeadingFlags fuel flags
      else if flags.verbose && c = '#' then
        let _ ← next
        skipLine (saved.rest.length + 1)
        readLeadingFlags fuel flags
      else return flags
    | _ => return flags

/-- A whole pattern. -/
def readPattern : Read Pattern := do
  checkNext
  let fuel := 4 * (← get).rest.length + 4
  let flags ← readLeadingFlags fuel {}
  let pattern ← readAlternatives fuel flags
  if (← peek).isSome then failAt .unbalancedParenthesis 0
  let input ← get
  if let some (index, position) := input.asked.find? (·.1 > input.groups) then
    throw ⟨.invalidReference index, some position⟩
  if input.uneven then throw ⟨.unevenLookBehind, none⟩
  return pattern

end PatternReader

/-- The pattern that a text spells. -/
def Pattern.read (text : String) : Except PatternFault Pattern :=
  (PatternReader.readPattern ⟨PatternReader.tokens text.toList, 0, 0, [], [], none, [], false⟩).map
    (·.1)

/-- Whether the pattern that a text spells occurs in another text. -/
def Pattern.textOccursIn (pattern text : String) : Bool :=
  match Pattern.read pattern with
  | .ok pattern => pattern.occursIn text.toList
  | .error _ => false

end StepFlow
