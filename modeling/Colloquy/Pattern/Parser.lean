import Colloquy.Pattern.Size
import Colloquy.Text.Alphanumeric
import Colloquy.Text.Blank

/-! Reading pattern texts. Flags change how the rest of the enclosing group is read. -/
namespace Colloquy.Pattern

structure Flags where
  ignoresCase : Bool := false
  multiLine : Bool := false
  dotAll : Bool := false
  swapsGreed : Bool := false
  crLines : Bool := false
  ignoresSpace : Bool := false

structure ParseState where
  rest : List Char
  flags : Flags := {}
  names : List String := []
  -- How many groups that capture were opened; the whole pattern counts as the first.
  groups : Nat := 1

abbrev Parse := StateT ParseState (Except Error)

namespace Parse

def fail (e : Error) : Parse α := fun _ => .error e

def peek? : Parse (Option Char) := do return (← get).rest.head?

def setRest (rest : List Char) : Parse Unit := modify fun s => { s with rest }

def bump : Parse Bool := do
  let rest := (← get).rest.tail
  setRest rest
  return !rest.isEmpty

def skipSpaceFrom (inComment : Bool) : List Char → List Char
  | [] => []
  | c :: rest =>
    if inComment then skipSpaceFrom (c != '\n') rest
    else if Text.isBlank c then skipSpaceFrom false rest
    else if c = '#' then skipSpaceFrom true rest
    else c :: rest

-- White space and comments, where the flags say that they mean nothing.
def bumpSpace : Parse Unit := do
  let s ← get
  if s.flags.ignoresSpace then setRest (skipSpaceFrom false s.rest)

def bumpThenSpace : Parse Bool := do
  if ← bump then
    bumpSpace
    return !(← get).rest.isEmpty
  else return false

def bumpIf (lead : List Char) : Parse Bool := do
  let rest := (← get).rest
  if lead.isPrefixOf rest then
    setRest (rest.drop lead.length)
    return true
  else return false

-- The character after the current one, past ignored space; a comment hides only its first mark.
def peekSpace? : Parse (Option Char) := do
  let s ← get
  let tail := s.rest.tail
  if !s.flags.ignoresSpace then return tail.head?
  return match tail.dropWhile Text.isBlank with
    | [] => tail.head?
    | '#' :: rest => (rest.dropWhile Text.isBlank).head?.or tail.head?
    | c :: _ => some c

end Parse

open Parse

def digitRanges : List (Char × Char) := [('0', '9')]

def spaceRanges : List (Char × Char) := [('\t', '\r'), (' ', ' ')]

def wordRanges : List (Char × Char) := [('0', '9'), ('A', 'Z'), ('_', '_'), ('a', 'z')]

def namedRanges? (name : String) : Option (List (Char × Char)) :=
  [("alnum", [('0', '9'), ('A', 'Z'), ('a', 'z')]), ("alpha", [('A', 'Z'), ('a', 'z')]),
   ("ascii", [('\x00', '\x7f')]), ("blank", [('\t', '\t'), (' ', ' ')]),
   ("cntrl", [('\x00', '\x1f'), ('\x7f', '\x7f')]), ("digit", digitRanges),
   ("graph", [('!', '~')]), ("lower", [('a', 'z')]), ("print", [(' ', '~')]),
   ("punct", [('!', '/'), (':', '@'), ('[', '\x60'), ('\x7b', '~')]), ("space", spaceRanges),
   ("upper", [('A', 'Z')]), ("word", wordRanges),
   ("xdigit", [('0', '9'), ('A', 'F'), ('a', 'f')])].lookup name

-- The classes that a backslash and a letter name; a capital takes the complement.
def shorthand? (c : Char) : Option CharClass :=
  match c with
  | 'd' => some (.ofRanges digitRanges)
  | 'D' => some (CharClass.ofRanges digitRanges).complement
  | 's' => some (.ofRanges spaceRanges)
  | 'S' => some (CharClass.ofRanges spaceRanges).complement
  | 'w' => some (.ofRanges wordRanges)
  | 'W' => some (CharClass.ofRanges wordRanges).complement
  | _ => none

def charNode (flags : Flags) (c : Char) : Node :=
  if flags.ignoresCase && c.isAlpha then .oneOf (CharClass.single c).caseless else .char c

def dotNode (flags : Flags) : Node :=
  let barred := if flags.dotAll then [] else if flags.crLines then ['\n', '\r'] else ['\n']
  .oneOf (CharClass.ofRanges (barred.map fun c => (c, c))).complement

def startNode (flags : Flags) : Node :=
  .look (if !flags.multiLine then .start else if flags.crLines then .startOfCrLine else .startOfLine)

def endNode (flags : Flags) : Node :=
  .look (if !flags.multiLine then .finish else if flags.crLines then .endOfCrLine else .endOfLine)

def isHex (c : Char) : Bool := c.isDigit || ('a' ≤ c && c ≤ 'f') || ('A' ≤ c && c ≤ 'F')

def hexOf (digits : List Char) : Nat :=
  digits.foldl (fun n c =>
    n * 16 + (if c.isDigit then c.toNat - '0'.toNat else c.toLower.toNat - 'a'.toNat + 10)) 0

def scalar? (n : Nat) : Option Char := if n.isValidChar then some (Char.ofNat n) else none

def hexFixed : Nat → List Char → Parse (List Char)
  | 0, digits => return digits
  | count + 1, digits => do
    if !digits.isEmpty then
      if !(← bumpThenSpace) then fail .hexFixedEnd
    match ← peek? with
    | some c => if isHex c then hexFixed count (digits ++ [c]) else fail .hexFixedDigit
    | none => fail .hexFixedEnd

-- Digits up to the closing brace. `fuel` bounds the characters read.
def hexBraced : (fuel : Nat) → List Char → Parse (List Char)
  | 0, _ => fail .hexBraceUnclosed
  | fuel + 1, digits => do
    if !(← bumpThenSpace) then fail .hexBraceUnclosed
    match ← peek? with
    | some '\x7d' => return digits
    | some c => if isHex c then hexBraced fuel (digits ++ [c]) else fail .hexBraceDigit
    | none => fail .hexBraceUnclosed

def parseHex (width : Nat) : Parse Node := do
  if !(← bumpThenSpace) then fail .hexEnd
  if (← peek?) == some '\x7b' then
    let digits ← hexBraced ((← get).rest.length + 1) []
    let _ ← bumpThenSpace
    if digits.isEmpty then fail .hexBraceEmpty
    match scalar? (hexOf digits) with
    | some c => return charNode (← get).flags c
    | none => fail .hexBraceInvalid
  else
    let digits ← hexFixed width []
    let _ ← bumpThenSpace
    match scalar? (hexOf digits) with
    | some c => return charNode (← get).flags c
    | none => fail .hexFixedInvalid

def decimalDigits : (fuel : Nat) → List Char → Parse (List Char)
  | 0, digits => return digits
  | fuel + 1, digits => do
    match ← peek? with
    | some c =>
      if c.isDigit then
        let _ ← bumpThenSpace
        decimalDigits fuel (digits ++ [c])
      else return digits
    | none => return digits

def parseDecimal : Parse Nat := do
  setRest ((← get).rest.dropWhile Text.isBlank)
  let digits ← decimalDigits ((← get).rest.length) []
  setRest ((← get).rest.dropWhile Text.isBlank)
  bumpSpace
  if digits.isEmpty then fail .noDigits
  let n := digits.foldl (fun n c => n * 10 + (c.toNat - '0'.toNat)) 0
  if n < Nat.pow 2 32 then return n else fail .invalidDecimal

def boundaryLetters : (fuel : Nat) → List Char → Parse (List Char)
  | 0, letters => return letters
  | fuel + 1, letters => do
    match ← peek? with
    | some c =>
      if c.isAlpha || c == '-' then
        let _ ← bumpThenSpace
        boundaryLetters fuel (letters ++ [c])
      else return letters
    | none => return letters

-- A word boundary may be named in braces; anything else there is left to the counted repetition.
def boundaryNode : Parse Node := do
  let saved ← get
  if (← peek?) != some '\x7b' then return .look .wordBoundary
  if !(← bumpThenSpace) then fail .boundaryOrRepetitionEnd
  match ← peek? with
  | some c =>
    if !(c.isAlpha || c == '-') then
      set saved
      return .look .wordBoundary
  | none => fail .boundaryOrRepetitionEnd
  let letters ← boundaryLetters ((← get).rest.length) []
  if (← peek?) != some '\x7d' then fail .boundaryUnclosed
  let _ ← bump
  match String.ofList letters with
  | "start" => return .look .wordStart
  | "end" => return .look .wordEnd
  | "start-half" => return .look .wordStartHalf
  | "end-half" => return .look .wordEndHalf
  | _ => fail .boundaryUnknown

-- ASCII marks stand for themselves after a backslash, save the two of word boundaries.
def isEscapable (c : Char) : Bool := c.toNat < 0x80 && !c.isAlphanum && c != '<' && c != '>'

def parseEscape : Parse Node := do
  match ← peek? with
  | none => fail .escapeEnd
  | some c =>
    if c.isDigit then fail .backreference
    if c == 'p' || c == 'P' then fail .unicodeClass
    if c == 'x' then parseHex 2
    else if c == 'u' then parseHex 4
    else if c == 'U' then parseHex 8
    else
      let _ ← bump
      let plain (c : Char) : Parse Node := do return charNode (← get).flags c
      if let some k := shorthand? c then return .oneOf k
      if isEscapable c then plain c
      else match c with
        | 'a' => plain '\x07'
        | 'f' => plain '\x0c'
        | 't' => plain '\t'
        | 'n' => plain '\n'
        | 'r' => plain '\r'
        | 'v' => plain '\x0b'
        | 'A' => return .look .start
        | 'z' => return .look .finish
        | 'b' => boundaryNode
        | 'B' => return .look .notWordBoundary
        | '<' => return .look .wordStart
        | '>' => return .look .wordEnd
        | _ => fail .unknownEscape

def parsePrimitive (c : Char) : Parse Node := do
  let _ ← bump
  let flags := (← get).flags
  match c with
  | '\\' => parseEscape
  | '.' => return dotNode flags
  | '^' => return startNode flags
  | '$' => return endNode flags
  | c => return charNode flags c

-- A class named between bracket-colon and colon-bracket; where there is none, nothing is read.
def namedClass? : Parse (Option CharClass) := do
  match (← get).rest with
  | '[' :: ':' :: rest =>
    let (negated, rest) := match rest with
      | '^' :: rest => (true, rest)
      | rest => (false, rest)
    match rest.dropWhile (· != ':') with
    | ':' :: ']' :: after =>
      match namedRanges? (String.ofList (rest.takeWhile (· != ':'))) with
      | some ranges =>
        setRest after
        let k := CharClass.ofRanges ranges
        return some (if negated then k.complement else k)
      | none => return none
    | _ => return none
  | _ => return none

def classItem (c : Char) : Parse Node := do
  let _ ← bump
  if c == '\\' then parseEscape else return .char c

def itemRanges : Node → Parse (List (Char × Char))
  | .char c => return [(c, c)]
  | .oneOf k => return k.ranges
  | _ => fail .classItem

def itemChar : Node → Parse Char
  | .char c => return c
  | _ => fail .classRangeItem

-- One item, or a range of two. A dash before the closing bracket or another dash is no range.
def classRange (c : Char) : Parse (List (Char × Char)) := do
  let first ← classItem c
  bumpSpace
  match ← peek? with
  | none => fail .classUnclosedAfterItem
  | some dash =>
    let next ← peekSpace?
    if dash != '-' || next == some ']' || next == some '-' then itemRanges first
    else
      if !(← bumpThenSpace) then fail .classUnclosedAfterDash
      match ← peek? with
      | none => fail .classUnclosedAfterDash
      | some c =>
        let second ← classItem c
        let low ← itemChar first
        let high ← itemChar second
        if low ≤ high then return [(low, high)] else fail .classReversedRange

def leadingDashes : (fuel : Nat) → List (Char × Char) → Parse (List (Char × Char))
  | 0, ranges => return ranges
  | fuel + 1, ranges => do
    if (← peek?) == some '-' then
      if !(← bumpThenSpace) then fail .classUnclosedAfterDash
      leadingDashes fuel (ranges ++ [('-', '-')])
    else return ranges

def classRanges : (fuel : Nat) → List (Char × Char) → Parse (List (Char × Char))
  | 0, _ => fail .classUnclosed
  | fuel + 1, ranges => do
    bumpSpace
    match (← get).rest with
    | [] => fail .classUnclosed
    | '[' :: _ =>
      match ← namedClass? with
      | some k => classRanges fuel (ranges ++ k.ranges)
      | none => fail .nestedClass
    | ']' :: _ =>
      let _ ← bump
      return ranges
    | '&' :: '&' :: _ => fail .classIntersection
    | '-' :: '-' :: _ => fail .classDifference
    | '~' :: '~' :: _ => fail .classSymmetricDifference
    | c :: _ => classRanges fuel (ranges ++ (← classRange c))

-- Case is ignored before the class is negated.
def parseClass : Parse Node := do
  if !(← bumpThenSpace) then fail .classUnclosed
  let negated := (← peek?) == some '^'
  if negated then
    if !(← bumpThenSpace) then fail .classUnclosedAfterNegation
  let fuel := (← get).rest.length + 1
  let dashes ← leadingDashes fuel []
  let opening ←
    if dashes.isEmpty && (← peek?) == some ']' then
      if !(← bumpThenSpace) then fail .classUnclosedAfterClosing
      pure [(']', ']')]
    else pure dashes
  let plain := CharClass.ofRanges (← classRanges fuel opening)
  let folded := if (← get).flags.ignoresCase then plain.caseless else plain
  return .oneOf (if negated then folded.complement else folded)

def uncounted (mark : Char) (operand : Node) : Parse Node := do
  let (low, high) := match mark with
    | '?' => (0, some 1)
    | '*' => (0, none)
    | _ => (1, none)
  if ← bump then
    if (← peek?) == some '?' then
      let _ ← bump
  return .repeatedOf operand low high

-- The upper bound after the lower one: the same, none, or another number.
def upperBound (low : Nat) : Parse (Option Nat) := do
  match ← peek? with
  | none => fail .countedIncomplete
  | some ',' =>
    if !(← bumpThenSpace) then fail .countedCommaUnclosed
    let high ← if (← peek?) == some '\x7d' then pure none else some <$> parseDecimal
    if (← peek?).isNone then fail .countedBothUnclosed
    return high
  | some _ => return some low

def counted (operand : Node) : Parse Node := do
  if !(← bumpThenSpace) then fail .countedUnclosed
  let low ← parseDecimal
  let high ← upperBound low
  if (← peek?) != some '\x7d' then fail .countedInvalid
  if ← bumpThenSpace then
    if (← peek?) == some '?' then
      let _ ← bump
  if high.any (· < low) then fail .countedReversed
  return .repeatedOf operand low high

def isNameChar (first : Bool) (c : Char) : Bool :=
  if first then c == '_' || Text.isAlphabetic c
  else c == '_' || c == '.' || c == '[' || c == ']' || Text.isAlphanumeric c

def nextGroup : Parse Nat := modifyGet fun s => (s.groups, { s with groups := s.groups + 1 })

-- A group name up to its closing angle, each name once in a pattern.
def groupName : Parse String := do
  let s ← get
  if s.rest.isEmpty then fail .missingGroupName
  let name := s.rest.takeWhile (· != '>')
  let valid := name.isEmpty
    || (name.head?.all (isNameChar true) && name.tail.all (isNameChar false))
  if !valid then fail .invalidGroupName
  let rest := s.rest.drop name.length
  if rest.isEmpty then fail .unclosedGroupName
  if name.isEmpty then fail .emptyGroupName
  let name := String.ofList name
  if s.names.contains name then fail .duplicateGroupName
  set { s with rest := rest.tail, names := name :: s.names }
  return name

def setFlag (flags : Flags) (on : Bool) : Char → Parse Flags
  | 'i' => return { flags with ignoresCase := on }
  | 'm' => return { flags with multiLine := on }
  | 's' => return { flags with dotAll := on }
  | 'U' => return { flags with swapsGreed := on }
  | 'R' => return { flags with crLines := on }
  | 'x' => return { flags with ignoresSpace := on }
  | 'u' => return flags
  | _ => fail .unknownFlag

-- Flags up to the colon or closing parenthesis, which is left.
def flagList : (fuel : Nat) → Flags → (negating afterDash : Bool) → List Char → Parse Flags
  | 0, flags, _, _, _ => return flags
  | fuel + 1, flags, negating, afterDash, seen => do
    match ← peek? with
    | none => fail .unclosedFlags
    | some c =>
      if c == ':' || c == ')' then
        if afterDash then fail .danglingNegation else return flags
      else if c == '-' then
        if negating then fail .repeatedNegation
        if !(← bump) then fail .unclosedFlags
        flagList fuel flags true true seen
      else
        let flags ← setFlag flags (!negating) c
        if seen.contains c then fail .duplicateFlag
        if !(← bump) then fail .unclosedFlags
        flagList fuel flags negating false (c :: seen)

inductive GroupHead where
  | capturing (index : Nat) (name : Option String)
  | plain
  -- Flags for the rest of the enclosing group, without a body of their own.
  | directive

-- Everything from the opening parenthesis to the body of the group.
def groupHead : Parse GroupHead := do
  let _ ← bumpThenSpace
  for lead in [['?', '='], ['?', '!'], ['?', '<', '='], ['?', '<', '!']] do
    if ← bumpIf lead then fail .lookAround
  if (← bumpIf ['?', 'P', '<']) || (← bumpIf ['?', '<']) then
    let index ← nextGroup
    return .capturing index (some (← groupName))
  else if ← bumpIf ['?'] then
    if (← peek?).isNone then fail .unclosedGroupQuestion
    let nothing := (← peek?) == some ')'
    let flags ← flagList ((← get).rest.length + 1) (← get).flags false false []
    modify fun s => { s with flags }
    if (← peek?) == some ')' then
      if nothing then fail .emptyFlags
      return .directive
    else
      let _ ← bump
      return .plain
  else return .capturing (← nextGroup) none

def nestingLimit : Nat := 50

-- The branches of one group. `fuel` bounds the characters read; `done` and `current` hold the
-- finished branches and the nodes of the present one, last first.
def branches : (fuel depth : Nat) → (done current : List Node) → Parse Node
  | 0, _, _, _ => fail .unclosedGroup
  | fuel + 1, depth, done, current => do
    let finished := Node.choiceOf (Node.sequenceOf current.reverse :: done).reverse
    bumpSpace
    match ← peek? with
    | none => return finished
    | some '(' =>
      let flags := (← get).flags
      let head ← groupHead
      let node ← match head with
        | .directive => pure none
        | head =>
          if nestingLimit < depth + 1 then fail .tooMuchNesting
          let body ← branches fuel (depth + 1) [] []
          modify fun s => { s with flags }
          pure (some (match head with | .capturing index name => .group index name body | _ => body))
      if (← peek?).isNone then fail .unclosedGroup
      let _ ← bump
      branches fuel depth done (node.toList ++ current)
    | some ')' => if depth = 0 then fail .unopenedGroup else return finished
    | some '|' =>
      let _ ← bump
      branches fuel depth (Node.sequenceOf current.reverse :: done) []
    | some '[' => branches fuel depth done ((← parseClass) :: current)
    | some '\x7b' =>
      match current with
      | [] => fail .countedWithoutOperand
      | operand :: rest => branches fuel depth done ((← counted operand) :: rest)
    | some c =>
      if c == '?' || c == '*' || c == '+' then
        match current with
        | [] => fail .uncountedWithoutOperand
        | operand :: rest => branches fuel depth done ((← uncounted c operand) :: rest)
      else branches fuel depth done ((← parsePrimitive c) :: current)

def parse (source : String) : Except Error Node := do
  let cs := source.toList
  let (node, _) ← (branches (2 * cs.length + 2) 0 [] []).run { rest := cs }
  if nestingLimit < node.depth then .error .tooMuchNesting
  else if sizeLimit < node.wholeSize then .error .tooLarge
  else return node

end Colloquy.Pattern
