import Colloquy.Pattern.Syntax

/-! The size of a pattern, in the bytes of the machine that would run it state by state. -/
namespace Colloquy.Pattern

namespace Node

mutual

def takesEmpty : Node → Bool
  | .empty => true
  | .char _ => false
  | .oneOf _ => false
  | .look _ => true
  | .repeated node low _ => low == 0 || takesEmpty node
  | .group _ _ node => takesEmpty node
  | .sequence nodes => allTakeEmpty nodes
  | .choice nodes => someTakesEmpty nodes

def allTakeEmpty : List Node → Bool
  | [] => true
  | node :: rest => takesEmpty node && allTakeEmpty rest

def someTakesEmpty : List Node → Bool
  | [] => false
  | node :: rest => takesEmpty node || someTakesEmpty rest

end

def stateSize : Nat := 32

def forkSize : Nat := stateSize + 2 * 4

-- A node of a size, a number of times in a row; none at all is a state of its own.
def copiesSize (size count : Nat) : Nat := if count = 0 then stateSize else count * size

-- What may be absent goes around a fork each time. Without a bound the last time goes back, and a
-- node that takes the empty text needs a way past it besides.
def repeatedSize (size : Nat) (empty : Bool) : Nat → Option Nat → Nat
  | 0, some 1 => forkSize + size + stateSize
  | 0, none => if empty then size + 2 * forkSize + stateSize else forkSize + size
  | low + 1, none => (low + 1) * size + forkSize
  | low, some high =>
    copiesSize size low + if low = high then 0 else stateSize + (high - low) * (forkSize + size)

def nameSize (name : Option String) : Nat := name.elim 0 (·.utf8ByteSize + 4)

mutual

def size : Node → Nat
  | .empty => stateSize
  | .char _ => stateSize
  | .look _ => stateSize
  | .oneOf k => stateSize + 8 * k.ranges.length
  | .repeated node low high => repeatedSize (size node) node.takesEmpty low high
  | .group _ name node => 2 * stateSize + nameSize name + size node
  | .sequence nodes => sizes nodes
  | .choice nodes => 2 * stateSize + 4 * nodes.length + sizes nodes

def sizes : List Node → Nat
  | [] => 0
  | node :: rest => size node + sizes rest

end

mutual

def places : Node → Nat
  | .repeated node _ _ => places node
  | .group index _ node => max (index + 1) (places node)
  | .sequence nodes => mostPlaces nodes
  | .choice nodes => mostPlaces nodes
  | _ => 0

def mostPlaces : List Node → Nat
  | [] => 0
  | node :: rest => max (places node) (mostPlaces rest)

end

def placeSize : Nat := 16

-- The whole pattern is a group and ends in a state of its own.
def wholeSize (node : Node) : Nat :=
  let whole := group 0 none node
  whole.size + stateSize + placeSize * whole.places

end Node

def sizeLimit : Nat := 10 * Nat.pow 2 20

end Colloquy.Pattern
