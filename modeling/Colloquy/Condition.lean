import Colloquy.Lexicon
import Colloquy.Pattern
import Colloquy.Value

/-!
Conditions: trees over comparisons of one field with a literal, and their truth in a context.
-/
namespace Colloquy

inductive Field where
  -- A collected or just extracted value.
  | data (name : String)
  -- The intent of the turn, the state it is processed in and its number, counted from one.
  | intent
  | state
  | turn
deriving DecidableEq, Repr

inductive Operator where
  | contains
  | isMatch
  | startsWith
  | endsWith
  | equals
  | greater
  | less
  | atLeast
  | atMost
  | isPresent
  | isMember
deriving DecidableEq, Repr

inductive Literal where
  | text (s : String)
  | number (x : Float)
  | bool (b : Bool)
  | category (name : String)
  | pattern (p : Pattern)
  -- Nothing to compare with.
  | absent

structure Comparison where
  field : Field
  operator : Operator
  negated : Bool
  literal : Literal

inductive Condition where
  | always
  | comparison (c : Comparison)
  | both (a b : Condition)
  | either (a b : Condition)
  | negation (a : Condition)

structure Facts where
  data : Data
  intent : String
  state : String
  turn : Nat

structure Context extends Facts where
  categories : Table Lexicon

inductive Resolved where
  | value (v : Value)
  | text (s : String)
  | number (x : Float)

def Field.resolve (context : Context) : Field → Option Resolved
  | .data name => (context.data.find? name).map .value
  | .intent => some (.text context.intent)
  | .state => some (.text context.state)
  | .turn => some (.number (Float.ofNat context.turn))

namespace Resolved

def text? : Resolved → Option String
  | .value v => v.text?
  | .text s => some s
  | .number _ => none

def number? : Resolved → Option Float
  | .value v => v.number?
  | .text _ => none
  | .number x => some x

end Resolved

-- Numbers closer than 2^-52 count as equal.
def closeTo (a b : Float) : Bool := (a - b).abs < Float.ofScientific 2220446049250313 true 31

def Literal.equals (v : Value) : Literal → Bool
  | .text s => v.text?.any (· == s)
  | .bool b => match v with
    | .bool held => held == b
    | _ => false
  | .number x => v.number?.any (closeTo · x)
  | _ => false

-- The text of a literal; a literal of another kind counts as the empty text.
def Literal.textOrEmpty : Literal → String
  | .text s => s
  | _ => ""

def occurs (part : List Char) : List Char → Bool
  | [] => part.isEmpty
  | c :: rest => part.isPrefixOf (c :: rest) || occurs part rest

namespace Comparison

def ordered (c : Comparison) (resolved : Resolved) (holds : Float → Float → Bool) : Bool :=
  match resolved.number?, c.literal with
  | some a, .number b => holds a b
  | _, _ => false

def onText (c : Comparison) (resolved : Resolved) (holds : List Char → List Char → Bool) : Bool :=
  resolved.text?.any fun s => holds c.literal.textOrEmpty.toList s.toList

def equal (c : Comparison) (resolved : Resolved) : Bool :=
  match resolved, c.literal with
  | .value v, literal => literal.equals v
  | .text s, .text t => s == t
  | .number x, .number y => closeTo x y
  | _, _ => false

-- The comparison before its negation.
def positive (c : Comparison) (context : Context) (resolved : Resolved) : Bool :=
  match c.operator with
  | .isPresent => match resolved with
    | .value v => !v.isBlank
    | .text s => !s.isEmpty
    | .number _ => true
  | .contains => match resolved with
    | .value (.list items) => items.any c.literal.equals
    | other => c.onText other occurs
  | .startsWith => c.onText resolved List.isPrefixOf
  | .endsWith => c.onText resolved List.isSuffixOf
  | .isMatch => match c.literal with
    | .pattern p => resolved.text?.any p.isMatch
    | _ => false
  | .equals => c.equal resolved
  | .greater => c.ordered resolved fun a b => a > b
  | .less => c.ordered resolved fun a b => a < b
  | .atLeast => c.ordered resolved fun a b => a ≥ b
  | .atMost => c.ordered resolved fun a b => a ≤ b
  | .isMember => match c.literal with
    | .category name =>
      (context.categories.find? name).any fun members => resolved.text?.any members.contains
    | _ => false

-- A field that is not there makes the comparison false before its negation.
def holds (c : Comparison) (context : Context) : Bool :=
  ((c.field.resolve context).any (c.positive context)) != c.negated

end Comparison

namespace Condition

def holds (context : Context) : Condition → Bool
  | .always => true
  | .comparison c => c.holds context
  | .both a b => a.holds context && b.holds context
  | .either a b => a.holds context || b.holds context
  | .negation a => !a.holds context

def fields : Condition → Lexicon
  | .always => .empty
  | .comparison c => match c.field with
    | .data name => Lexicon.empty.insert name
    | _ => .empty
  | .both a b => a.fields.union b.fields
  | .either a b => a.fields.union b.fields
  | .negation a => a.fields

def categories : Condition → Lexicon
  | .always => .empty
  | .comparison c => match c.literal with
    | .category name => Lexicon.empty.insert name
    | _ => .empty
  | .both a b => a.categories.union b.categories
  | .either a b => a.categories.union b.categories
  | .negation a => a.categories

end Condition

end Colloquy
