import Colloquy.Condition
import Colloquy.Condition.Token

/-!
Reading conditions. `OR` binds weakest, then `AND`, then a leading `NOT`; `AND` and `OR` group to
the left.
-/
namespace Colloquy

inductive SyntaxError where
  | lexical (e : Token.LexError)
  | leftover (tokens : List Token)
  | unclosedParenthesis
  | notAField (found : Option Token)
  | emptyFieldName
  | unknownField (name : String)
  | notNegatable (found : Token)
  | notAnOperator (found : Option Token)
  | notACategory (found : Option Token)
  | notAPattern (found : Option Token)
  | badPattern (source : String) (e : Pattern.Error)
  | notANumber (found : Option Token)
  | notAValue (found : Option Token)

namespace SyntaxError

def displayFound : Option Token → String
  | none => "None"
  | some token => "Some(" ++ token.display ++ ")"

def message : SyntaxError → String
  | .lexical e => e.message
  | .leftover tokens =>
    "unexpected tokens after expression: [" ++ ", ".intercalate (tokens.map Token.display) ++ "]"
  | .unclosedParenthesis => "expected closing parenthesis"
  | .notAField found => "expected field name, got " ++ displayFound found
  | .emptyFieldName => "empty data field name"
  | .unknownField name => "unknown field: " ++ name
  | .notNegatable found => "cannot negate operator: " ++ found.display
  | .notAnOperator found => "expected operator, got " ++ displayFound found
  | .notACategory found => "IN expects @category, got " ++ displayFound found
  | .notAPattern found => "MATCHES expects a quoted pattern, got " ++ displayFound found
  | .badPattern source e => "invalid pattern " ++ Text.quote source ++ ": " ++ e.message
  | .notANumber found => "numeric comparison expects a number, got " ++ displayFound found
  | .notAValue found => "expected value, got " ++ displayFound found

end SyntaxError

namespace Condition

def dataLead : List Char := ['d', 'a', 't', 'a', '.']

def fieldOf (name : String) : Except SyntaxError Field :=
  if dataLead.isPrefixOf name.toList then
    let rest := name.toList.drop dataLead.length
    if rest.isEmpty then .error .emptyFieldName else .ok (.data (String.ofList rest))
  else if name = "intent" then .ok .intent
  else if name = "state" then .ok .state
  else if name = "turn" then .ok .turn
  else .error (.unknownField name)

-- Operators that a preceding `NOT` may negate.
def negatable? : Token → Option Operator
  | .contains => some .contains
  | .isMatch => some .isMatch
  | .startsWith => some .startsWith
  | .endsWith => some .endsWith
  | .isPresent => some .isPresent
  | .isMember => some .isMember
  | _ => none

-- Operators without a negated form of their own; an inequality is a negated equality.
def symbolic? : Token → Option (Operator × Bool)
  | .equals => some (.equals, false)
  | .differs => some (.equals, true)
  | .greater => some (.greater, false)
  | .less => some (.less, false)
  | .atLeast => some (.atLeast, false)
  | .atMost => some (.atMost, false)
  | _ => none

def operatorOf (negated : Bool) (found : Option Token) : Except SyntaxError (Operator × Bool) :=
  match found with
  | none => .error (.notAnOperator none)
  | some token =>
    match negatable? token with
    | some op => .ok (op, negated)
    | none =>
      if negated then .error (.notNegatable token)
      else (symbolic? token).elim (.error (.notAnOperator token)) .ok

def valueOf : Option Token → Except SyntaxError Literal
  | some (.text s) => .ok (.text s)
  | some (.number x) => .ok (.number x)
  | some (.bool b) => .ok (.bool b)
  | some (.ident name) => .ok (.text name)
  | found => .error (.notAValue found)

-- The literal that an operator takes; presence takes none.
def literalOf (op : Operator) (found : Option Token) : Except SyntaxError Literal :=
  match op with
  | .isPresent => .ok .absent
  | .isMember => match found with
    | some (.category name) => .ok (.category name)
    | found => .error (.notACategory found)
  | .isMatch => match found with
    | some (.text source) => match Pattern.compile source with
      | .ok p => .ok (.pattern p)
      | .error e => .error (.badPattern source e)
    | found => .error (.notAPattern found)
  | .greater | .less | .atLeast | .atMost => match found with
    | some (.number x) => .ok (.number x)
    | found => .error (.notANumber found)
  | .contains | .startsWith | .endsWith | .equals => valueOf found

-- A `NOT` between field and operator, and what follows it.
def splitNot : List Token → Bool × List Token
  | .not :: rest => (true, rest)
  | tokens => (false, tokens)

theorem length_splitNot (tokens : List Token) : (splitNot tokens).2.length ≤ tokens.length := by
  unfold splitNot
  split
  · simp
  · exact Nat.le_refl _

-- A condition read from the front of a token list.
structure Parsed (tokens : List Token) where
  tree : Condition
  rest : List Token
  shorter : rest.length < tokens.length

def afterOperator (op : Operator) (tokens : List Token) : List Token :=
  if op = .isPresent then tokens else tokens.tail

theorem length_afterOperator (op : Operator) (tokens : List Token) :
    (afterOperator op tokens).length ≤ tokens.length := by
  unfold afterOperator
  split <;> simp

def parseAtom : (tokens : List Token) → Except SyntaxError (Parsed tokens)
  | .ident name :: tokens =>
    match fieldOf name with
    | .error e => .error e
    | .ok field =>
      let split := splitNot tokens
      match operatorOf split.1 split.2.head? with
      | .error e => .error e
      | .ok (op, negated) =>
        match literalOf op split.2.tail.head? with
        | .error e => .error e
        | .ok literal => .ok {
            tree := .comparison ⟨field, op, negated, literal⟩
            rest := afterOperator op split.2.tail
            shorter := by
              have h := length_afterOperator op split.2.tail
              have k : split.2.length ≤ tokens.length := length_splitNot tokens
              simp only [List.length_tail, List.length_cons] at h ⊢
              omega }
  | tokens => .error (.notAField tokens.head?)

mutual

def parseOr (tokens : List Token) : Except SyntaxError (Parsed tokens) :=
  match parseAnd tokens with
  | .error e => .error e
  | .ok first => (moreOr first.tree first.rest).map fun p =>
    ⟨p.1, p.2.1, Nat.lt_of_le_of_lt p.2.2 first.shorter⟩
termination_by (tokens.length, 4)
decreasing_by
  · exact Prod.Lex.right _ (by decide)
  · exact Prod.Lex.left _ _ first.shorter

-- Further alternatives after `left`.
def moreOr (left : Condition) (tokens : List Token) :
    Except SyntaxError (Condition × { rest : List Token // rest.length ≤ tokens.length }) :=
  match tokens with
  | .or :: tail =>
    match parseAnd tail with
    | .error e => .error e
    | .ok next => (moreOr (.either left next.tree) next.rest).map fun p =>
      (p.1, ⟨p.2.1, Nat.le_succ_of_le (Nat.le_trans p.2.2 (Nat.le_of_lt next.shorter))⟩)
  | tokens => .ok (left, ⟨tokens, Nat.le_refl _⟩)
termination_by (tokens.length, 0)
decreasing_by
  · exact Prod.Lex.left _ _ (Nat.lt_succ_self _)
  · exact Prod.Lex.left _ _ (Nat.lt_succ_of_lt next.shorter)

def parseAnd (tokens : List Token) : Except SyntaxError (Parsed tokens) :=
  match parseUnary tokens with
  | .error e => .error e
  | .ok first => (moreAnd first.tree first.rest).map fun p =>
    ⟨p.1, p.2.1, Nat.lt_of_le_of_lt p.2.2 first.shorter⟩
termination_by (tokens.length, 3)
decreasing_by
  · exact Prod.Lex.right _ (by decide)
  · exact Prod.Lex.left _ _ first.shorter

-- Further conjuncts after `left`.
def moreAnd (left : Condition) (tokens : List Token) :
    Except SyntaxError (Condition × { rest : List Token // rest.length ≤ tokens.length }) :=
  match tokens with
  | .and :: tail =>
    match parseUnary tail with
    | .error e => .error e
    | .ok next => (moreAnd (.both left next.tree) next.rest).map fun p =>
      (p.1, ⟨p.2.1, Nat.le_succ_of_le (Nat.le_trans p.2.2 (Nat.le_of_lt next.shorter))⟩)
  | tokens => .ok (left, ⟨tokens, Nat.le_refl _⟩)
termination_by (tokens.length, 0)
decreasing_by
  · exact Prod.Lex.left _ _ (Nat.lt_succ_self _)
  · exact Prod.Lex.left _ _ (Nat.lt_succ_of_lt next.shorter)

-- A leading `NOT` negates what follows it up to the next `AND` or `OR`.
def parseUnary (tokens : List Token) : Except SyntaxError (Parsed tokens) :=
  match tokens with
  | .not :: tail =>
    match parseUnary tail with
    | .error e => .error e
    | .ok inner => .ok ⟨.negation inner.tree, inner.rest, Nat.lt_succ_of_lt inner.shorter⟩
  | .opening :: tail =>
    match parseOr tail with
    | .error e => .error e
    | .ok inner =>
      match h : inner.rest with
      | .closing :: rest => .ok ⟨inner.tree, rest, by
          have := inner.shorter
          rw [h] at this
          simp only [List.length_cons] at this ⊢
          omega⟩
      | _ => .error .unclosedParenthesis
  | tokens => parseAtom tokens
termination_by (tokens.length, 2)
decreasing_by
  · exact Prod.Lex.left _ _ (Nat.lt_succ_self _)
  · exact Prod.Lex.left _ _ (Nat.lt_succ_self _)

end

-- A whole condition; a text of white space holds always.
def parse (source : String) : Except SyntaxError Condition :=
  let cs := Text.trim source.toList
  if cs.isEmpty then .ok .always
  else match tokenize cs with
    | .error e => .error (.lexical e)
    | .ok tokens => match parseOr tokens with
      | .error e => .error e
      | .ok p => if p.rest.isEmpty then .ok p.tree else .error (.leftover p.rest)

end Condition

end Colloquy
