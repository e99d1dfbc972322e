import Colloquy.Document

/-! Documents as JSON text, on one line or indented by two spaces. -/
namespace Colloquy.Json

def hexDigit (n : Nat) : Char := Nat.digitChar (n % 16)

-- Only quotes, backslashes and the controls below U+0020 are escaped.
def escapeChar (c : Char) : List Char :=
  if c = '"' then ['\\', '"']
  else if c = '\\' then ['\\', '\\']
  else if c.toNat = 0x08 then ['\\', 'b']
  else if c.toNat = 0x09 then ['\\', 't']
  else if c.toNat = 0x0a then ['\\', 'n']
  else if c.toNat = 0x0c then ['\\', 'f']
  else if c.toNat = 0x0d then ['\\', 'r']
  else if c.toNat < 0x20 then ['\\', 'u', '0', '0', hexDigit (c.toNat / 16), hexDigit c.toNat]
  else [c]

def writeText (s : String) : List Char := '"' :: s.toList.flatMap escapeChar ++ ['"']

def writeFloat (x : Float) : List Char :=
  if x.isFinite then (Decimal.stored.render x).toList else ['n', 'u', 'l', 'l']

def scalar? : Document → Option (List Char)
  | .null | .illegible => some ['n', 'u', 'l', 'l']
  | .bool b => some (if b then ['t', 'r', 'u', 'e'] else ['f', 'a', 'l', 's', 'e'])
  | .int n => some (toString n).toList
  | .float x => some (writeFloat x)
  | .text s => some (writeText s)
  | .list _ | .table _ => none

def joined (separator : List Char) : List (List Char) → List Char
  | [] => []
  | [piece] => piece
  | piece :: rest => piece ++ separator ++ joined separator rest

mutual

def lineChars : Document → List Char
  | .list items => '[' :: joined [','] (lineItems items) ++ [']']
  | .table entries => '\x7b' :: joined [','] (lineEntries entries) ++ ['\x7d']
  | d => (scalar? d).getD []

def lineItems : List Document → List (List Char)
  | [] => []
  | d :: rest => lineChars d :: lineItems rest

def lineEntries : List (String × Document) → List (List Char)
  | [] => []
  | (key, d) :: rest => (writeText key ++ ':' :: lineChars d) :: lineEntries rest

end

def newline (depth : Nat) : List Char := '\n' :: List.replicate (2 * depth) ' '

def block (opening closing : Char) (depth : Nat) (pieces : List (List Char)) : List Char :=
  if pieces.isEmpty then [opening, closing]
  else opening :: newline (depth + 1) ++ joined (',' :: newline (depth + 1)) pieces
    ++ newline depth ++ [closing]

mutual

def prettyChars (depth : Nat) : Document → List Char
  | .list items => block '[' ']' depth (prettyItems (depth + 1) items)
  | .table entries => block '\x7b' '\x7d' depth (prettyEntries (depth + 1) entries)
  | d => (scalar? d).getD []

def prettyItems (depth : Nat) : List Document → List (List Char)
  | [] => []
  | d :: rest => prettyChars depth d :: prettyItems depth rest

def prettyEntries (depth : Nat) : List (String × Document) → List (List Char)
  | [] => []
  | (key, d) :: rest =>
    (writeText key ++ ':' :: ' ' :: prettyChars depth d) :: prettyEntries depth rest

end

def line (d : Document) : String := String.ofList (lineChars d)

def pretty (d : Document) : String := String.ofList (prettyChars 0 d)

end Colloquy.Json
