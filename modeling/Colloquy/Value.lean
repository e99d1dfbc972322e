import Colloquy.Decimal.Layout
import Colloquy.Table
import Colloquy.Text.Blank

/-! Values collected from a conversation. -/
namespace Colloquy

inductive Kind where
  | bool
  | int
  | float
  | text
  | list
deriving DecidableEq, Repr, Inhabited

def Kind.name : Kind → String
  | .bool => "bool"
  | .int => "int"
  | .float => "float"
  | .text => "text"
  | .list => "list"

inductive Value where
  | bool (b : Bool)
  | int (n : Int64)
  | float (x : Float)
  | text (s : String)
  | list (items : List Value)
deriving Inhabited

-- Data under its field names.
abbrev Data := Table Value

namespace Value

mutual

def same : Value → Value → Bool
  | .bool a, .bool b => a == b
  | .int a, .int b => a == b
  | .float a, .float b => a == b
  | .text a, .text b => a == b
  | .list a, .list b => sameList a b
  | _, _ => false

def sameList : List Value → List Value → Bool
  | [], [] => true
  | a :: as, b :: bs => same a b && sameList as bs
  | _, _ => false

end

instance : BEq Value := ⟨same⟩

def kind : Value → Kind
  | .bool _ => .bool
  | .int _ => .int
  | .float _ => .float
  | .text _ => .text
  | .list _ => .list

-- The nearest float: integers beyond 2^53 lose their low digits here.
def widen (n : Int64) : Float := .ofModel (.ofInt64 n)

def number? : Value → Option Float
  | .int n => some (widen n)
  | .float x => some x
  | _ => none

def text? : Value → Option String
  | .text s => some s
  | _ => none

-- An empty list and a text of white space count as not given.
def isBlank : Value → Bool
  | .text s => Text.isBlankText s
  | .list items => items.isEmpty
  | _ => false

-- What a value adds to an accumulated list: a list its items, anything else itself.
def items : Value → List Value
  | .list items => items
  | single => [single]

-- One more item, unless an equal one is already held.
def adjoin (held : List Value) (item : Value) : List Value :=
  if held.any (· == item) then held else held ++ [item]

def accumulate (existing : Option Value) (incoming : Value) : Value :=
  .list (incoming.items.foldl adjoin (existing.elim [] items))

mutual

def display : Value → String
  | .bool b => if b then "true" else "false"
  | .int n => toString n.toInt
  | .float x => Decimal.plain.render x
  | .text s => s
  | .list items => "[" ++ ", ".intercalate (displayList items) ++ "]"

def displayList : List Value → List String
  | [] => []
  | item :: rest => display item :: displayList rest

end

end Value

end Colloquy
