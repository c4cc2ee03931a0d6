import Taxonomy.Text.Quoted

/-!
# Faults of regular expressions

Why a text is no regular expression, and where. Positions count characters from zero; for a text
of several lines the message adds line and column, which count from one.
-/

namespace Taxonomy

/-- What is wrong with the text of an expression. -/
inductive RegexCause where
  | trailingBackslash
  | badEscape (escape : String)
  | incompleteEscape (escape : String)
  | octalTooLarge (escape : String)
  | unknownCharacterName (name : String)
  | missing (what : String)
  | unterminatedName (terminator : Char)
  | badGroupName (name : String)
  | unknownGroupName (name : String)
  | redefinedGroup (name : String) (index earlier : Nat)
  | openGroup
  | lookBehindGroup
  | badGroupNumber
  | invalidGroupReference (index : Nat)
  | unterminatedGroup
  | unterminatedComment
  | unterminatedSet
  | badRange (first last : String)
  | nothingToRepeat
  | multipleRepeat
  | repeatBounds
  | unbalanced
  | endOfPattern
  | unknownExtension (text : String)
  | thirdBranch
  | globalFlagsInside
  | unknownFlag
  | flagCase (text : String)
  deriving DecidableEq, Repr

/-- The words for a cause. -/
def RegexCause.message : RegexCause → String
  | .trailingBackslash => "bad escape (end of pattern)"
  | .badEscape e => "bad escape " ++ e
  | .incompleteEscape e => "incomplete escape " ++ e
  | .octalTooLarge e => s!"octal escape value {e} outside of range 0-0o377"
  | .unknownCharacterName n => "undefined character name " ++ Text.quote n
  | .missing what => "missing " ++ what
  | .unterminatedName t => s!"missing {t}, unterminated name"
  | .badGroupName n => "bad character in group name " ++ Text.quote n
  | .unknownGroupName n => "unknown group name " ++ Text.quote n
  | .redefinedGroup n i j =>
    s!"redefinition of group name {Text.quote n} as group {i}; was group {j}"
  | .openGroup => "cannot refer to an open group"
  | .lookBehindGroup => "cannot refer to group defined in the same lookbehind subpattern"
  | .badGroupNumber => "bad group number"
  | .invalidGroupReference i => s!"invalid group reference {i}"
  | .unterminatedGroup => "missing ), unterminated subpattern"
  | .unterminatedComment => "missing ), unterminated comment"
  | .unterminatedSet => "unterminated character set"
  | .badRange a b => s!"bad character range {a}-{b}"
  | .nothingToRepeat => "nothing to repeat"
  | .multipleRepeat => "multiple repeat"
  | .repeatBounds => "min repeat greater than max repeat"
  | .unbalanced => "unbalanced parenthesis"
  | .endOfPattern => "unexpected end of pattern"
  | .unknownExtension t => "unknown extension ?" ++ t
  | .thirdBranch => "conditional backref with more than two branches"
  | .globalFlagsInside => "global flags not at the start of the expression"
  | .unknownFlag => "unknown flag"
  | .flagCase t => "bad inline flags: " ++ t

/-- How eagerly a repetition takes what it can. -/
inductive Greed where
  | greedy
  | lazy
  | possessive
  deriving DecidableEq, Repr

/-- The operator of a repetition, as a fault names it. -/
def Greed.operator : Greed → String
  | .greedy => "MAX_REPEAT"
  | .lazy => "MIN_REPEAT"
  | .possessive => "POSSESSIVE_REPEAT"

/-- **Why a text is no expression**: a cause at a position, a look-behind of several widths or too
wide, a repetition in a template or beyond all bounds, or two kinds of character classes at
once. A group that ends before it begins is noticed in a match. -/
inductive RegexFault where
  | at (cause : RegexCause) (position : Nat)
  | lookBehindWidth
  | lookBehindTooWide
  | templateRepeat (greed : Greed)
  | repeatTooLarge
  | mixedClasses
  | brokenSpan
  deriving DecidableEq, Repr

/-- The line and the column of a position, both from one. -/
def lineAndColumn (cs : List Char) (position : Nat) : Nat × Nat :=
  let before := cs.take position
  (before.count '\n' + 1, (before.reverse.takeWhile (· != '\n')).length + 1)

/-- **The message of a fault** in the expression with the given text. -/
def RegexFault.message (pattern : String) : RegexFault → String
  | .at cause position =>
    let cs := pattern.toList
    let place := s!"{cause.message} at position {position}"
    if cs.contains '\n' then
      let (line, column) := lineAndColumn cs position
      s!"{place} (line {line}, column {column})"
    else place
  | .lookBehindWidth => "look-behind requires fixed-width pattern"
  | .lookBehindTooWide => "invalid SRE code"
  | .templateRepeat greed => "internal: unsupported template operator " ++ greed.operator
  | .repeatTooLarge => "the repetition number is too large"
  | .mixedClasses => "ASCII and UNICODE flags are incompatible"
  | .brokenSpan =>
    "The span of capturing group is wrong, please report a bug for the re module."

/-- The label of a fault that is no complaint about what is written in an expression. -/
def RegexFault.label? : RegexFault → Option String
  | .repeatTooLarge => some "OverflowError"
  | .mixedClasses => some "ValueError"
  | .lookBehindTooWide => some "RuntimeError"
  | .brokenSpan => some "SystemError"
  | .at .. | .lookBehindWidth | .templateRepeat _ => none

end Taxonomy
