import Colloquy.Document
import Colloquy.Text.Digits

/-!
Reading JSON text. What nests too deep, numbers out of range and lone surrogates are illegible, and
the text goes on after them.
-/
namespace Colloquy.Json

inductive ReadError where
  | endOfText
  | unexpected (c : Char)
  | trailing
  | invalidEscape
deriving DecidableEq, Repr

def isSpace (c : Char) : Bool := c == ' ' || c == '\n' || c == '\t' || c == '\r'

def skipSpace (cs : List Char) : List Char := cs.dropWhile isSpace

def unexpectedAt : List Char → ReadError
  | [] => .endOfText
  | c :: _ => .unexpected c

def word (expected : List Char) (d : Document) (cs : List Char) : Except ReadError (Document × List Char) :=
  if expected.isPrefixOf cs then .ok (d, cs.drop expected.length) else .error (unexpectedAt cs)

def wordBound : Nat := Nat.pow 2 64

def digitValue (c : Char) : Nat := c.toNat - '0'.toNat

-- The digits of a number taken up so far: the word they make, and the power of ten it stands for.
structure Mantissa where
  word : Nat
  exponent : Int

-- Digits before the point: once one does not fit, it and the rest only raise the exponent.
def wholeDigits (m : Mantissa) : List Char → Mantissa
  | [] => m
  | c :: rest =>
    let next := m.word * 10 + digitValue c
    if next < wordBound then wholeDigits ⟨next, m.exponent⟩ rest
    else ⟨m.word, m.exponent + (rest.length + 1)⟩

-- Digits after the point: once one does not fit, it and the rest are dropped.
def fractionDigits (m : Mantissa) : List Char → Mantissa
  | [] => m
  | c :: rest =>
    let next := m.word * 10 + digitValue c
    if next < wordBound then fractionDigits ⟨next, m.exponent - 1⟩ rest else m

def powerOfTen (n : Nat) : Float := Float.ofScientific 1 false n

def scaled? (x : Float) (exponent : Int) : Option Float :=
  if exponent.natAbs ≤ 308 then
    if 0 ≤ exponent then
      let y := x * powerOfTen exponent.natAbs
      if y.isInf then none else some y
    else some (x / powerOfTen exponent.natAbs)
  else if x == 0.0 then some x
  else if h : 0 ≤ exponent then none
  else scaled? (x / powerOfTen 308) (exponent + 308)
termination_by (-exponent).toNat
decreasing_by omega

def signed (negative : Bool) (x : Float) : Float := if negative then -x else x

def decimalNumber (negative : Bool) (m : Mantissa) : Document :=
  match scaled? (Float.ofNat m.word) m.exponent with
  | some x => .float (signed negative x)
  | none => .illegible

def exponentBound : Nat := Nat.pow 2 31

-- An exponent too large for a word of 31 bits leaves only zero or what is out of range.
def exponentNumber (negative : Bool) (m : Mantissa) (down : Bool) (digits : List Char) : Document :=
  let e := digits.foldl (fun n c => n * 10 + digitValue c) 0
  if e < exponentBound then
    decimalNumber negative ⟨m.word, if down then m.exponent - e else m.exponent + e⟩
  else if m.word ≠ 0 ∧ !down then .illegible
  else .float (signed negative 0.0)

def spanDigits (cs : List Char) : List Char × List Char := cs.span Char.isDigit

-- The exponent that may follow the digits of a number.
def exponentPart (negative : Bool) (m : Mantissa) (cs : List Char) : Except ReadError (Document × List Char) :=
  let (down, rest) := match cs with
    | '+' :: rest => (false, rest)
    | '-' :: rest => (true, rest)
    | rest => (false, rest)
  match spanDigits rest with
  | ([], rest) => .error (unexpectedAt rest)
  | (digits, rest) => .ok (exponentNumber negative m down digits, rest)

def afterWhole (negative : Bool) (digits : List Char) (cs : List Char) : Except ReadError (Document × List Char) :=
  let m := wholeDigits ⟨0, 0⟩ digits
  match cs with
  | '.' :: rest =>
    match spanDigits rest with
    | ([], rest) => .error (unexpectedAt rest)
    | (fraction, rest) =>
      let m := fractionDigits m fraction
      match rest with
      | 'e' :: rest | 'E' :: rest => exponentPart negative m rest
      | rest => .ok (decimalNumber negative m, rest)
  | 'e' :: rest | 'E' :: rest => exponentPart negative m rest
  | rest =>
    if m.exponent ≠ 0 then .ok (decimalNumber negative m, rest)
    else if !negative then .ok (.int m.word, rest)
    else if m.word = 0 ∨ Nat.pow 2 63 < m.word then .ok (.float (-(Float.ofNat m.word)), rest)
    else .ok (.int (-(m.word : Int)), rest)

def number (negative : Bool) (cs : List Char) : Except ReadError (Document × List Char) :=
  match spanDigits cs with
  | ([], rest) => .error (unexpectedAt rest)
  | ('0' :: c :: _, _) => .error (.unexpected c)
  | (digits, rest) => afterWhole negative digits rest

def hexFour : List Char → Except ReadError (Nat × List Char)
  | a :: b :: c :: d :: rest =>
    match Text.hexValue? a, Text.hexValue? b, Text.hexValue? c, Text.hexValue? d with
    | some a, some b, some c, some d => .ok (((a * 16 + b) * 16 + c) * 16 + d, rest)
    | _, _, _, _ => .error .invalidEscape
  | _ => .error .endOfText

def isHighSurrogate (unit : Nat) : Bool := 0xd800 ≤ unit && unit ≤ 0xdbff

def isLowSurrogate (unit : Nat) : Bool := 0xdc00 ≤ unit && unit ≤ 0xdfff

-- A code unit, or a pair of surrogates that makes one character; half a pair makes none.
def unicodeEscape (cs : List Char) : Except ReadError (Option Char × List Char) := do
  let (high, rest) ← hexFour cs
  if isLowSurrogate high then return (none, rest)
  else if isHighSurrogate high then
    match rest with
    | '\\' :: 'u' :: after =>
      let (low, after) ← hexFour after
      if isLowSurrogate low then
        return (some (Char.ofNat (0x10000 + (high - 0xd800) * 0x400 + (low - 0xdc00))), after)
      else return (none, rest)
    | _ => return (none, rest)
  else return (some (Char.ofNat high), rest)

def shortEscape? : Char → Option Char
  | '"' => some '"'
  | '\\' => some '\\'
  | '/' => some '/'
  | 'b' => some '\x08'
  | 'f' => some '\x0c'
  | 'n' => some '\n'
  | 'r' => some '\r'
  | 't' => some '\t'
  | _ => none

-- The rest of a text after its opening quote, if all of it can be held. `fuel` bounds the characters
-- read.
def textTail : (fuel : Nat) → List Char → Except ReadError (Option (List Char) × List Char)
  | 0, _ => .error .endOfText
  | fuel + 1, cs =>
    match cs with
    | [] => .error .endOfText
    | '"' :: rest => .ok (some [], rest)
    | '\\' :: 'u' :: rest => do
      let (c, rest) ← unicodeEscape rest
      let (tail, rest) ← textTail fuel rest
      return (List.cons <$> c <*> tail, rest)
    | '\\' :: e :: rest =>
      match shortEscape? e with
      | none => .error .invalidEscape
      | some c => do
        let (tail, rest) ← textTail fuel rest
        return (tail.map (c :: ·), rest)
    | ['\\'] => .error .endOfText
    | c :: rest =>
      if c.toNat < 0x20 then .error (.unexpected c)
      else do
        let (tail, rest) ← textTail fuel rest
        return (tail.map (c :: ·), rest)

def text (cs : List Char) : Except ReadError (Option String × List Char) := do
  let (chars, rest) ← textTail (cs.length + 1) cs
  return (chars.map String.ofList, rest)

-- A list or table where so many levels are open to nesting.
def nested (depth : Nat) (d : Document) : Document := if depth ≤ 1 then .illegible else d

mutual

-- `depth` counts the levels still open to nesting, `fuel` bounds the characters read.
def value (depth : Nat) : (fuel : Nat) → List Char → Except ReadError (Document × List Char)
  | 0, _ => .error .endOfText
  | fuel + 1, cs =>
    match skipSpace cs with
    | [] => .error .endOfText
    | 'n' :: rest => word ['u', 'l', 'l'] .null rest
    | 't' :: rest => word ['r', 'u', 'e'] (.bool true) rest
    | 'f' :: rest => word ['a', 'l', 's', 'e'] (.bool false) rest
    | '"' :: rest => (text rest).map fun (s, rest) => (s.elim .illegible .text, rest)
    | '-' :: rest => number true rest
    | '[' :: rest =>
      match skipSpace rest with
      | ']' :: rest => .ok (nested depth (.list []), rest)
      | rest => (items (depth - 1) fuel rest).map fun (ds, rest) => (nested depth (.list ds), rest)
    | '\x7b' :: rest =>
      match skipSpace rest with
      | '\x7d' :: rest => .ok (nested depth (.table []), rest)
      | rest => (members (depth - 1) fuel rest).map fun (es, rest) =>
        (es.elim .illegible fun es => nested depth (.table es), rest)
    | c :: rest => if c.isDigit then number false (c :: rest) else .error (.unexpected c)

def items (depth : Nat) : (fuel : Nat) → List Char → Except ReadError (List Document × List Char)
  | 0, _ => .error .endOfText
  | fuel + 1, cs => do
    let (d, rest) ← value depth fuel cs
    match skipSpace rest with
    | ',' :: rest =>
      let (ds, rest) ← items depth fuel rest
      return (d :: ds, rest)
    | ']' :: rest => return ([d], rest)
    | rest => .error (unexpectedAt rest)

-- One member or more, up to the closing brace, if all keys can be held.
def members (depth : Nat) :
    (fuel : Nat) → List Char → Except ReadError (Option (List (String × Document)) × List Char)
  | 0, _ => .error .endOfText
  | fuel + 1, cs =>
    match skipSpace cs with
    | '"' :: rest => do
      let (key, rest) ← text rest
      match skipSpace rest with
      | ':' :: rest =>
        let (d, rest) ← value depth fuel rest
        match skipSpace rest with
        | ',' :: rest =>
          let (es, rest) ← members depth fuel rest
          return ((fun key es => (key, d) :: es) <$> key <*> es, rest)
        | '\x7d' :: rest => return (key.map fun key => [(key, d)], rest)
        | rest => .error (unexpectedAt rest)
      | rest => .error (unexpectedAt rest)
    | rest => .error (unexpectedAt rest)

end

def depthLimit : Nat := 128

def read (source : String) : Except ReadError Document := do
  let cs := source.toList
  let (d, rest) ← value depthLimit (cs.length + 1) cs
  if (skipSpace rest).isEmpty then return d else .error .trailing

end Colloquy.Json
