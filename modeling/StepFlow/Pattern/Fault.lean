import StepFlow.Text.Quoted

/-! # Faults in the text of a pattern

A text that is no pattern has one cause, and nearly always a position: the number of characters
before the part at fault.
-/

namespace StepFlow

/-- Why a text is no pattern. -/
inductive PatternCause where
  | danglingEscape
  | unterminatedGroup
  | unterminatedSet
  | unterminatedComment
  | unbalancedParenthesis
  | nothingToRepeat
  | multipleRepeat
  | repeatBoundsReversed
  | repeatTooLarge
  | badRange (first last : String)
  | badEscape (escape : String)
  | incompleteEscape (escape : String)
  | octalTooLarge (escape : String)
  | missingBrace
  | undefinedName (name : String)
  | invalidReference (index : Nat)
  | openReference
  | referenceInLookBehind
  | unexpectedEnd
  | unknownExtension (text : String)
  | missingName (what : String)
  | unterminatedName (terminator : Char)
  | badGroupName (name : String)
  | unknownGroupName (name : String)
  | redefinedGroup (name : String) (index earlier : Nat)
  | badGroupNumber
  | tooManyBranches
  | lateFlags
  | missingFlagsEnd
  | missingFlag
  | missingColon
  | unknownFlag
  | localeFlag
  | mixedTypeFlags
  | typeFlagOff
  | globalFlagOn
  | globalFlagOff
  | flagOnAndOff
  | unevenLookBehind
  deriving Repr, DecidableEq

/-- A cause and where it stands in the text. -/
structure PatternFault where
  cause : PatternCause
  position : Option Nat
  deriving Repr, DecidableEq

/-- The wording of a cause. -/
def PatternCause.message : PatternCause → String
  | .danglingEscape => "bad escape (end of pattern)"
  | .unterminatedGroup => "missing ), unterminated subpattern"
  | .unterminatedSet => "unterminated character set"
  | .unterminatedComment => "missing ), unterminated comment"
  | .unbalancedParenthesis => "unbalanced parenthesis"
  | .nothingToRepeat => "nothing to repeat"
  | .multipleRepeat => "multiple repeat"
  | .repeatBoundsReversed => "min repeat greater than max repeat"
  | .repeatTooLarge => "the repetition number is too large"
  | .badRange first last => s!"bad character range {first}-{last}"
  | .badEscape escape => s!"bad escape {escape}"
  | .incompleteEscape escape => s!"incomplete escape {escape}"
  | .octalTooLarge escape => s!"octal escape value {escape} outside of range 0-0o377"
  | .missingBrace => "missing \x7b"
  | .undefinedName name => s!"undefined character name {Text.quoted name}"
  | .invalidReference index => s!"invalid group reference {index}"
  | .openReference => "cannot refer to an open group"
  | .referenceInLookBehind => "cannot refer to group defined in the same lookbehind subpattern"
  | .unexpectedEnd => "unexpected end of pattern"
  | .unknownExtension text => s!"unknown extension {text}"
  | .missingName what => s!"missing {what}"
  | .unterminatedName terminator => s!"missing {terminator}, unterminated name"
  | .badGroupName name => s!"bad character in group name {Text.quoted name}"
  | .unknownGroupName name => s!"unknown group name {Text.quoted name}"
  | .redefinedGroup name index earlier =>
    s!"redefinition of group name {Text.quoted name} as group {index}; was group {earlier}"
  | .badGroupNumber => "bad group number"
  | .tooManyBranches => "conditional backref with more than two branches"
  | .lateFlags => "global flags not at the start of the expression"
  | .missingFlagsEnd => "missing -, : or )"
  | .missingFlag => "missing flag"
  | .missingColon => "missing :"
  | .unknownFlag => "unknown flag"
  | .localeFlag => "bad inline flags: cannot use 'L' flag with a str pattern"
  | .mixedTypeFlags => "bad inline flags: flags 'a', 'u' and 'L' are incompatible"
  | .typeFlagOff => "bad inline flags: cannot turn off flags 'a', 'u' and 'L'"
  | .globalFlagOn => "bad inline flags: cannot turn on global flag"
  | .globalFlagOff => "bad inline flags: cannot turn off global flag"
  | .flagOnAndOff => "bad inline flags: flag turned on and off"
  | .unevenLookBehind => "look-behind requires fixed-width pattern"

/-- The wording of a fault in the given text. Line and column are added if the text has several
lines. -/
def PatternFault.message (fault : PatternFault) (text : String) : String :=
  match fault.position with
  | none => fault.cause.message
  | some position =>
    let before := text.toList.take position
    let place := s!"{fault.cause.message} at position {position}"
    if text.toList.contains '\n' then
      let line := before.count '\n' + 1
      let column := (before.reverse.takeWhile (· != '\n')).length + 1
      s!"{place} (line {line}, column {column})"
    else place

end StepFlow
