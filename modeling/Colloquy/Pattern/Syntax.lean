import Colloquy.Pattern.CharClass

/-! Search patterns: their trees, and the ways a pattern text can be wrong. -/
namespace Colloquy.Pattern

inductive Look where
  | start
  | finish
  | startOfLine
  | endOfLine
  -- Lines that end in a return, a newline, or both.
  | startOfCrLine
  | endOfCrLine
  | wordBoundary
  | notWordBoundary
  | wordStart
  | wordEnd
  | wordStartHalf
  | wordEndHalf
deriving DecidableEq, Repr

inductive Node where
  | empty
  | char (c : Char)
  | oneOf (chars : CharClass)
  | look (look : Look)
  | repeated (node : Node) (low : Nat) (high : Option Nat)
  -- A group that captures, with its place among these and its name, if it has one.
  | group (index : Nat) (name : Option String) (node : Node)
  | sequence (nodes : List Node)
  | choice (nodes : List Node)
deriving Repr

inductive Error where
  | tooMuchNesting
  | duplicateGroupName
  | unclosedGroup
  | unclosedGroupQuestion
  | unopenedGroup
  | lookAround
  | emptyFlags
  | missingGroupName
  | invalidGroupName
  | unclosedGroupName
  | emptyGroupName
  | unknownFlag
  | repeatedNegation
  | duplicateFlag
  | unclosedFlags
  | danglingNegation
  | noDigits
  | invalidDecimal
  | hexBraceDigit
  | hexBraceUnclosed
  | hexBraceEmpty
  | hexBraceInvalid
  | hexFixedEnd
  | hexFixedDigit
  | hexFixedInvalid
  | hexEnd
  | escapeEnd
  | backreference
  | unicodeClass
  | unknownEscape
  | uncountedWithoutOperand
  | countedWithoutOperand
  | countedUnclosed
  | countedIncomplete
  | countedCommaUnclosed
  | countedBothUnclosed
  | countedInvalid
  | countedReversed
  | classUnclosedAfterItem
  | classRangeItem
  | classItem
  | classUnclosedAfterDash
  | classUnclosedAfterNegation
  | classUnclosedAfterClosing
  | classReversedRange
  | classUnclosed
  | nestedClass
  | classIntersection
  | classDifference
  | classSymmetricDifference
  | boundaryUnclosed
  | boundaryUnknown
  | boundaryOrRepetitionEnd
  | tooLarge
deriving DecidableEq, Repr

def Error.message : Error → String
  | .tooMuchNesting => "pattern has too much nesting"
  | .duplicateGroupName => "duplicate capture group name"
  | .unclosedGroup => "found open group without closing ')'"
  | .unclosedGroupQuestion => "expected closing ')', but got end of pattern"
  | .unopenedGroup => "found closing ')' without matching '('"
  | .lookAround => "look-around is not supported"
  | .emptyFlags => "empty flag directive '(?)' is not allowed"
  | .missingGroupName => "expected capture group name, but got end of pattern"
  | .invalidGroupName => "invalid group name"
  | .unclosedGroupName => "expected end of capture group name, but got end of pattern"
  | .emptyGroupName => "empty capture group names are not allowed"
  | .unknownFlag => "unrecognized inline flag"
  | .repeatedNegation => "inline flag negation cannot be repeated"
  | .duplicateFlag => "duplicate inline flag is not allowed"
  | .unclosedFlags => "expected ':' or ')' to end inline flags, but got end of pattern"
  | .danglingNegation => "inline flags cannot end with negation directive"
  | .noDigits => "expected decimal number, but found no digits"
  | .invalidDecimal => "got invalid decimal number"
  | .hexBraceDigit => "expected hexadecimal number in braces, but got non-hex digit"
  | .hexBraceUnclosed => "expected hexadecimal number, but saw end of pattern before closing brace"
  | .hexBraceEmpty => "expected hexadecimal number in braces, but got no digits"
  | .hexBraceInvalid => "got invalid hexadecimal number in braces"
  | .hexFixedEnd => "expected fixed length hexadecimal number, but saw end of pattern first"
  | .hexFixedDigit => "expected fixed length hexadecimal number, but got non-hex digit"
  | .hexFixedInvalid => "got invalid fixed length hexadecimal number"
  | .hexEnd => "expected hexadecimal number, but saw end of pattern first"
  | .escapeEnd => "saw start of escape sequence, but saw end of pattern before it finished"
  | .backreference => "backreferences are not supported"
  | .unicodeClass => "Unicode character classes are not supported"
  | .unknownEscape => "unrecognized escape sequence"
  | .uncountedWithoutOperand => "uncounted repetition operator must be applied to a sub-expression"
  | .countedWithoutOperand => "counted repetition operator must be applied to a sub-expression"
  | .countedUnclosed => "found unclosed counted repetition operator"
  | .countedIncomplete => "found incomplete and unclosed counted repetition operator"
  | .countedCommaUnclosed => "found counted repetition operator with a comma that is unclosed"
  | .countedBothUnclosed => "found counted repetition with min and max that is unclosed"
  | .countedInvalid => "expected closing brace for counted repetition, but got something else"
  | .countedReversed => "found counted repetition with a min bigger than its max"
  | .classUnclosedAfterItem => "non-empty character class has no closing bracket"
  | .classRangeItem => "character class ranges must start and end with a single character"
  | .classItem => "invalid escape sequence in character class"
  | .classUnclosedAfterDash => "non-empty character class has no closing bracket after dash"
  | .classUnclosedAfterNegation => "negated character class has no closing bracket"
  | .classUnclosedAfterClosing =>
    "character class begins with literal ']' but has no closing bracket"
  | .classReversedRange => "invalid range in character class"
  | .classUnclosed => "found unclosed character class"
  | .nestedClass => "nested character classes are not supported"
  | .classIntersection => "character class intersection is not supported"
  | .classDifference => "character class difference is not supported"
  | .classSymmetricDifference => "character class symmetric difference is not supported"
  | .boundaryUnclosed =>
    "special word boundary assertion is unclosed or has an invalid character"
  | .boundaryUnknown => "special word boundary assertion is unrecognized"
  | .boundaryOrRepetitionEnd =>
    "found start of special word boundary or repetition without an end"
  | .tooLarge => "compiled regex exceeded size limit"

namespace Node

def sequenceOf : List Node → Node
  | [] => .empty
  | [node] => node
  | nodes => .sequence nodes

def choiceOf : List Node → Node
  | [] => .empty
  | [node] => node
  | nodes => .choice nodes

def repeatedOf (node : Node) (low : Nat) (high : Option Nat) : Node :=
  if low = 0 ∧ high = some 0 then .empty
  else if low = 1 ∧ high = some 1 then node
  else .repeated node low high

mutual

def depth : Node → Nat
  | .repeated node _ _ => depth node + 1
  | .group _ _ node => depth node + 1
  | .sequence nodes => depths nodes + 1
  | .choice nodes => depths nodes + 1
  | _ => 0

def depths : List Node → Nat
  | [] => 0
  | node :: rest => max (depth node) (depths rest)

end

end Node

end Colloquy.Pattern
