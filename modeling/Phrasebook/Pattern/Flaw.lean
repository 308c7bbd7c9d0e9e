import Phrasebook.Text.Quoted

/-!
# Flaws of written patterns

A text that is no pattern has a flaw at some position. The message names the flaw and the position,
and in a pattern of several lines also the line and the column.
-/

namespace Phrasebook

inductive PatternFlaw where
  | escapeAtEnd
  | badEscape (escape : Text)
  | incompleteEscape (escape : Text)
  | octalTooLarge (escape : Text)
  | unknownCharacterName (name : Text)
  | missing (what : Text)
  | unterminated (what : Text)
  | unexpectedEnd
  | openSet
  | badRange (first last : Text)
  | repeatsReversed
  | nothingToRepeat
  | repeatedRepeat
  | repeatTooLarge
  | openGroup
  | unbalanced
  | openComment
  | unknownExtension (extension : Text)
  | badGroupName (name : Text)
  | unknownGroupName (name : Text)
  | groupRedefined (name : Text) (number previous : Nat)
  | noSuchGroup (number : Nat)
  | groupStillOpen
  | groupInSameLookBehind
  | groupZero
  | thirdBranch
  | unknownFlag
  | missingFlagEnd (expected : Text)
  | flagRefused (reason : Text)
  | flagsNotFirst
  | variableLookBehind
  | distantLookBehind
  deriving DecidableEq

def PatternFlaw.reason : PatternFlaw → Text
  | escapeAtEnd => "bad escape (end of pattern)".toList
  | badEscape escape => "bad escape ".toList ++ escape
  | incompleteEscape escape => "incomplete escape ".toList ++ escape
  | octalTooLarge escape =>
    "octal escape value ".toList ++ escape ++ " outside of range 0-0o377".toList
  | unknownCharacterName name => "undefined character name ".toList ++ Text.quoted name
  | missing what => "missing ".toList ++ what
  | unterminated what => "missing ".toList ++ what ++ ", unterminated name".toList
  | unexpectedEnd => "unexpected end of pattern".toList
  | openSet => "unterminated character set".toList
  | badRange first last => "bad character range ".toList ++ first ++ '-' :: last
  | repeatsReversed => "min repeat greater than max repeat".toList
  | nothingToRepeat => "nothing to repeat".toList
  | repeatedRepeat => "multiple repeat".toList
  | repeatTooLarge => "the repetition number is too large".toList
  | openGroup => "missing ), unterminated subpattern".toList
  | unbalanced => "unbalanced parenthesis".toList
  | openComment => "missing ), unterminated comment".toList
  | unknownExtension extension => "unknown extension ".toList ++ extension
  | badGroupName name => "bad character in group name ".toList ++ Text.quoted name
  | unknownGroupName name => "unknown group name ".toList ++ Text.quoted name
  | groupRedefined name number previous =>
    "redefinition of group name ".toList ++ Text.quoted name ++ " as group ".toList ++
      Text.decimal number ++ "; was group ".toList ++ Text.decimal previous
  | noSuchGroup number => "invalid group reference ".toList ++ Text.decimal number
  | groupStillOpen => "cannot refer to an open group".toList
  | groupInSameLookBehind =>
    "cannot refer to group defined in the same lookbehind subpattern".toList
  | groupZero => "bad group number".toList
  | thirdBranch => "conditional backref with more than two branches".toList
  | unknownFlag => "unknown flag".toList
  | missingFlagEnd expected => "missing ".toList ++ expected
  | flagRefused reason => "bad inline flags: ".toList ++ reason
  | flagsNotFirst => "global flags not at the start of the expression".toList
  | variableLookBehind => "look-behind requires fixed-width pattern".toList
  | distantLookBehind => "looks too much behind".toList

/-- A flaw, and how far before the end of the written pattern it stands. Flaws of the whole pattern
have no position. -/
structure PatternFault where
  flaw : PatternFlaw
  fromEnd? : Option Nat
  deriving DecidableEq

def PatternFault.message (written : Text) (fault : PatternFault) : Text :=
  match fault.fromEnd? with
  | none => fault.flaw.reason
  | some fromEnd =>
    let position := written.length - fromEnd
    let earlier := written.take position
    let line := earlier.count '\n' + 1
    let column := (earlier.reverse.takeWhile (· ≠ '\n')).length + 1
    fault.flaw.reason ++ " at position ".toList ++ Text.decimal position ++
      (if written.contains '\n' then
        " (line ".toList ++ Text.decimal line ++ ", column ".toList ++ Text.decimal column ++ [')']
      else [])

end Phrasebook
