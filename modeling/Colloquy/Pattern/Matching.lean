import Colloquy.Pattern.Syntax

/-!
Matching by sets of positions: a node takes the positions where it may begin to those where it may
end.
-/
namespace Colloquy.Pattern

def isWordChar (c : Char) : Bool := c.isAlphanum || c == '_'

def Look.holds (look : Look) (text : Array Char) (position : Nat) : Bool :=
  let before := if position = 0 then none else text[position - 1]?
  let after := text[position]?
  let wordBefore := before.any isWordChar
  let wordAfter := after.any isWordChar
  match look with
  | .start => position == 0
  | .finish => position == text.size
  | .startOfLine => before.all (· == '\n')
  | .endOfLine => after.all (· == '\n')
  | .startOfCrLine =>
    before.all fun c => c == '\n' || (c == '\r' && after.all (· != '\n'))
  | .endOfCrLine =>
    after.all fun c => c == '\r' || (c == '\n' && before.all (· != '\r'))
  | .wordBoundary => wordBefore != wordAfter
  | .notWordBoundary => wordBefore == wordAfter
  | .wordStart => !wordBefore && wordAfter
  | .wordEnd => wordBefore && !wordAfter
  | .wordStartHalf => !wordBefore
  | .wordEndHalf => !wordAfter

abbrev Positions := Array Bool

def Positions.union (a b : Positions) : Positions := a.zipWith (· || ·) b

def Positions.none? (a : Positions) : Bool := !a.any id

-- Each position where a fitting character stands moves one to the right.
def advance (text : Array Char) (fits : Char → Bool) (starts : Positions) : Positions :=
  (Array.range starts.size).map fun i =>
    i != 0 && starts.getD (i - 1) false && (text[i - 1]?).any fits

-- `count` rounds of a step, less if a round changes nothing.
def rounds (step : Positions → Positions) : Nat → Positions → Positions
  | 0, current => current
  | count + 1, current =>
    let next := step current
    if next == current then current else rounds step count next

-- What any number of rounds up to `count` reaches, the start included.
def upToRounds (step : Positions → Positions) : Nat → Positions → Positions → Positions
  | 0, reached, _ => reached
  | count + 1, reached, current =>
    let next := step current
    let wider := reached.union next
    if wider == reached && next == current then reached
    else if next.none? then reached
    else upToRounds step count wider next

mutual

def Node.ends (text : Array Char) : Node → Positions → Positions
  | .empty, p => p
  | .char c, p => advance text (· == c) p
  | .oneOf k, p => advance text k.contains p
  | .look l, p => p.mapIdx fun i held => held && l.holds text i
  | .repeated node low high, p =>
    let enough := text.size + 2
    let first := rounds (node.ends text) (min low enough) p
    let more := match high with
      | none => enough
      | some high => min (high - low) enough
    upToRounds (node.ends text) more first first
  | .group _ _ node, p => node.ends text p
  | .sequence nodes, p => endsAll text nodes p
  | .choice nodes, p => endsAny text nodes p

def endsAll (text : Array Char) : List Node → Positions → Positions
  | [], p => p
  | node :: rest, p => endsAll text rest (node.ends text p)

def endsAny (text : Array Char) : List Node → Positions → Positions
  | [], p => p.map fun _ => false
  | node :: rest, p => (node.ends text p).union (endsAny text rest p)

end

def Node.occursIn (node : Node) (s : String) : Bool :=
  let text := s.toList.toArray
  !(node.ends text (Array.replicate (text.size + 1) true)).none?

end Colloquy.Pattern
