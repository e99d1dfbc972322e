import Colloquy.Decimal.Layout
import Colloquy.Text.Alphanumeric
import Colloquy.Text.Blank
import Colloquy.Text.Quoted

/-! The words of the condition language. -/
namespace Colloquy

inductive Token where
  | ident (name : String)
  | category (name : String)
  | text (s : String)
  | number (x : Float)
  | bool (b : Bool)
  | and
  | or
  | not
  | contains
  | isMatch
  | startsWith
  | endsWith
  | isPresent
  | isMember
  | equals
  | differs
  | greater
  | less
  | atLeast
  | atMost
  | opening
  | closing
deriving DecidableEq

namespace Token

-- As messages show it.
def display : Token → String
  | .ident name => "Ident(" ++ Text.quote name ++ ")"
  | .category name => "Category(" ++ Text.quote name ++ ")"
  | .text s => "Str(" ++ Text.quote s ++ ")"
  | .number x => "Num(" ++ Decimal.annotated.render x ++ ")"
  | .bool b => if b then "Bool(true)" else "Bool(false)"
  | .and => "And"
  | .or => "Or"
  | .not => "Not"
  | .contains => "Contains"
  | .isMatch => "Matches"
  | .startsWith => "StartsWith"
  | .endsWith => "EndsWith"
  | .isPresent => "Exists"
  | .isMember => "In"
  | .equals => "Eq"
  | .differs => "NotEq"
  | .greater => "Gt"
  | .less => "Lt"
  | .atLeast => "Gte"
  | .atMost => "Lte"
  | .opening => "LParen"
  | .closing => "RParen"

def keywords : List (String × Token) :=
  [("AND", .and), ("and", .and), ("OR", .or), ("or", .or), ("NOT", .not), ("not", .not),
   ("CONTAINS", .contains), ("contains", .contains), ("MATCHES", .isMatch), ("matches", .isMatch),
   ("STARTS_WITH", .startsWith), ("starts_with", .startsWith),
   ("ENDS_WITH", .endsWith), ("ends_with", .endsWith),
   ("EXISTS", .isPresent), ("exists", .isPresent), ("IN", .isMember), ("in", .isMember),
   ("true", .bool true), ("false", .bool false)]

def ofWord (word : String) : Token := (keywords.lookup word).getD (.ident word)

inductive LexError where
  | unterminatedText
  | emptyCategory
  | invalidNumber (text : String)
  | unexpected (c : Char)
deriving DecidableEq, Repr

def LexError.message : LexError → String
  | .unterminatedText => "unterminated string literal"
  | .emptyCategory => "expected category name after '@'"
  | .invalidNumber written => "invalid number: " ++ written
  | .unexpected c => "unexpected character: " ++ c.toString

def isSpace (c : Char) : Bool := c == ' ' || c == '\t' || c == '\n' || c == '\r'

def isWordChar (c : Char) : Bool := Text.isAlphanumeric c || c == '_' || c == '.'

def isNumberChar (c : Char) : Bool := c.isDigit || c == '.'

-- A decimal without exponent: digits with at most one point among or around them.
def readNumber? (cs : List Char) : Option Float :=
  let (negative, digits) := match cs with
    | '-' :: rest => (true, rest)
    | rest => (false, rest)
  let whole := digits.takeWhile Char.isDigit
  let rest := digits.drop whole.length
  let fraction := rest.tail
  let wellFormed := rest.isEmpty || (rest.head? == some '.' && fraction.all Char.isDigit)
  if wellFormed && !(whole.isEmpty && fraction.isEmpty) then
    let significand := (whole ++ fraction).foldl (fun n c => n * 10 + (c.toNat - '0'.toNat)) 0
    let x := Float.ofScientific significand true fraction.length
    some (if negative then -x else x)
  else none

-- The rest of a quoted text, and what follows its closing quote.
def quotedTail (quote : Char) : List Char → Option (List Char × List Char)
  | [] => none
  | ['\\'] => none
  | '\\' :: c :: rest => (quotedTail quote rest).map fun p => (c :: p.1, p.2)
  | c :: rest =>
    if c = quote then some ([], rest) else (quotedTail quote rest).map fun p => (c :: p.1, p.2)

theorem quotedTail_shorter {quote : Char} {cs text rest : List Char}
    (h : quotedTail quote cs = some (text, rest)) : rest.length < cs.length := by
  fun_induction quotedTail quote cs generalizing text with
  | case1 => cases h
  | case2 => cases h
  | case3 c cs ih =>
    obtain ⟨p, hp, eq⟩ := Option.map_eq_some_iff.mp h
    cases eq
    have := ih hp
    simp only [List.length_cons]
    omega
  | case4 => simp_all
  | case5 c cs _ _ _ ih =>
    obtain ⟨p, hp, eq⟩ := Option.map_eq_some_iff.mp h
    cases eq
    have := ih hp
    simp only [List.length_cons]
    omega

-- The first token of a text, if any is left, with what follows it.
def next? (cs : List Char) : Except LexError (Option (Token × List Char)) :=
  match cs with
  | [] => .ok none
  | c :: rest =>
    -- Two marks make one token where the second is an equals sign.
    let orEqual (alone joined : Token) : Except LexError (Option (Token × List Char)) :=
      match rest with
      | '=' :: rest => .ok (some (joined, rest))
      | rest => .ok (some (alone, rest))
    if c = '(' then .ok (some (.opening, rest))
    else if c = ')' then .ok (some (.closing, rest))
    else if c = '"' ∨ c = '\'' then
      match quotedTail c rest with
      | some (s, rest) => .ok (some (.text (String.ofList s), rest))
      | none => .error .unterminatedText
    else if c = '@' then
      let name := rest.takeWhile isWordChar
      if name.isEmpty then .error .emptyCategory
      else .ok (some (.category (String.ofList name), rest.dropWhile isWordChar))
    else if c = '>' then orEqual .greater .atLeast
    else if c = '<' then orEqual .less .atMost
    else if c = '=' then orEqual .equals .equals
    else if c = '!' then orEqual .not .differs
    else if c.isDigit || c = '-' then
      let text := c :: rest.takeWhile isNumberChar
      match readNumber? text with
      | some x => .ok (some (.number x, rest.dropWhile isNumberChar))
      | none => .error (.invalidNumber (String.ofList text))
    else if isWordChar c then
      .ok (some (ofWord (String.ofList (c :: rest.takeWhile isWordChar)), rest.dropWhile isWordChar))
    else .error (.unexpected c)

theorem length_dropWhile_le (p : α → Bool) (l : List α) : (l.dropWhile p).length ≤ l.length := by
  induction l with
  | nil => exact Nat.le_refl _
  | cons a l ih =>
    rw [List.dropWhile_cons]
    split
    · exact Nat.le_succ_of_le ih
    · exact Nat.le_refl _

theorem next?_shorter {cs rest : List Char} {token : Token}
    (h : next? cs = .ok (some (token, rest))) : rest.length < cs.length := by
  unfold next? at h
  split at h
  · cases h
  · rename_i c tail
    have drop (p : Char → Bool) : (tail.dropWhile p).length ≤ tail.length :=
      length_dropWhile_le p tail
    simp only at h
    repeat' split at h
    all_goals first
      | cases h; done
      | (cases h; simp only [List.length_cons]; omega)
      | (cases h; simp only [List.length_cons]; exact Nat.lt_succ_of_le (drop _))
      | (rename_i hq; cases h; have := quotedTail_shorter hq; simp only [List.length_cons]; omega)

end Token

-- All tokens of a text.
def tokenize (cs : List Char) : Except Token.LexError (List Token) :=
  let body := cs.dropWhile Token.isSpace
  match _h : Token.next? body with
  | .error e => .error e
  | .ok none => .ok []
  | .ok (some (token, rest)) => (tokenize rest).map (token :: ·)
termination_by cs.length
decreasing_by
  exact Nat.lt_of_lt_of_le (Token.next?_shorter _h) (Token.length_dropWhile_le _ _)

end Colloquy
