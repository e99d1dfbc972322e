import Colloquy.Toml.Assembly

/-! Reading TOML text: keys, nested values and lines. -/
namespace Colloquy.Toml

def nestingLimit : Nat := 80

def isBare (c : Char) : Bool := c.isAlphanum || c == '-' || c == '_'

def keyPart (cs : List Char) : Except ReadError (String × List Char) :=
  match cs with
  | '"' :: rest => basic rest
  | '\'' :: rest => literal rest
  | cs =>
    let name := cs.takeWhile isBare
    if name.isEmpty then refuse cs else .ok (String.ofList name, cs.drop name.length)

-- The parts of a key between dots. `fuel` bounds their number.
def keyParts : (fuel : Nat) → List Char → Except ReadError (List String × List Char)
  | 0, _ => .error .tooDeep
  | fuel + 1, cs => do
    let (part, rest) ← keyPart (skipSpace cs)
    match skipSpace rest with
    | '.' :: rest =>
      let (parts, rest) ← keyParts fuel rest
      return (part :: parts, rest)
    | rest => return ([part], rest)

-- A key as the path of tables it goes through and its last part.
def key (cs : List Char) : Except ReadError ((List String × String) × List Char) := do
  let (parts, rest) ← keyParts (nestingLimit - 1) cs
  return ((parts.dropLast, parts.getLastD ""), rest)

def endOfLine (cs : List Char) : Except ReadError (List Char) :=
  let rest := match skipSpace cs with
    | '#' :: rest => rest.dropWhile isShown
    | rest => rest
  match rest, newline? rest with
  | [], _ => .ok []
  | _, some rest => .ok rest
  | c :: _, none => .error (.unexpected c)

def skipFiller : (fuel : Nat) → List Char → Except ReadError (List Char)
  | 0, _ => .error .endOfText
  | fuel + 1, cs =>
    match skipSpace cs with
    | '#' :: rest => do skipFiller fuel (← endOfLine ('#' :: rest))
    | rest =>
      match newline? rest with
      | some rest => skipFiller fuel rest
      | none => .ok rest

mutual

-- `depth` counts the lists and inline tables around the value; `fuel` has two steps for each
-- character left.
def value (depth : Nat) : (fuel : Nat) → List Char → Except ReadError (Document × List Char)
  | 0, _ => .error .endOfText
  | fuel + 1, cs =>
    match cs with
    | '"' :: _ | '\'' :: _ => (text cs).map fun (s, rest) => (.text s, rest)
    | '[' :: rest =>
      if nestingLimit ≤ depth + 1 then .error .tooDeep
      else (items (depth + 1) fuel rest).map fun (ds, rest) => (.list ds, rest)
    | '\x7b' :: rest =>
      if nestingLimit ≤ depth + 1 then .error .tooDeep
      else match skipSpace rest with
        | '\x7d' :: rest => .ok (.table [], rest)
        | rest => do
          let (block, rest) ← pairs (depth + 1) fuel rest (.opened [])
          return (block.toDocument, rest)
    | 't' :: 'r' :: 'u' :: 'e' :: rest => .ok (.bool true, rest)
    | 'f' :: 'a' :: 'l' :: 's' :: 'e' :: rest => .ok (.bool false, rest)
    | c :: _ =>
      if c.isDigit || c == '+' || c == '-' || c == 'i' || c == 'n' then numeric cs
      else .error (.unexpected c)
    | [] => .error .endOfText

-- Items up to the closing bracket; a comma may follow the last one.
def items (depth : Nat) : (fuel : Nat) → List Char → Except ReadError (List Document × List Char)
  | 0, _ => .error .endOfText
  | fuel + 1, cs => do
    match ← skipFiller fuel cs with
    | ']' :: rest => return ([], rest)
    | cs =>
      let (d, rest) ← value depth fuel cs
      match ← skipFiller fuel rest with
      | ',' :: rest =>
        let (ds, rest) ← items depth fuel rest
        return (d :: ds, rest)
      | ']' :: rest => return ([d], rest)
      | rest => refuse rest

-- One pair or more, up to the closing brace, on one line.
def pairs (depth : Nat) : (fuel : Nat) → List Char → Block → Except ReadError (Block × List Char)
  | 0, _, _ => .error .endOfText
  | fuel + 1, cs, block => do
    let ((path, name), rest) ← key cs
    let rest ← expect '=' rest
    let (d, rest) ← value depth fuel (skipSpace rest)
    let block ← block.assign path name d
    match skipSpace rest with
    | ',' :: rest => pairs depth fuel rest block
    | '\x7d' :: rest => return (block, rest)
    | rest => refuse rest

end

def lines : (fuel : Nat) → List Char → Draft → Except ReadError Draft
  | 0, _, _ => .error .endOfText
  | fuel + 1, cs, draft => do
    match skipSpace cs with
    | [] => return draft
    | '[' :: '[' :: rest =>
      let ((path, name), rest) ← key rest
      let rest ← expect ']' (← expect ']' rest)
      let rest ← endOfLine rest
      lines fuel rest (← draft.openNext path name)
    | '[' :: rest =>
      let ((path, name), rest) ← key rest
      let rest ← endOfLine (← expect ']' rest)
      lines fuel rest (← draft.openTable path name)
    | c :: rest =>
      if c == '#' || c == '\n' || c == '\r' then lines fuel (← endOfLine (c :: rest)) draft
      else
        let ((path, name), rest) ← key (c :: rest)
        let rest ← expect '=' rest
        let (d, rest) ← value 0 (2 * rest.length + 2) (skipSpace rest)
        let rest ← endOfLine rest
        lines fuel rest (← draft.assign path name d)

-- A mark of byte order may come first.
def read (source : String) : Except ReadError Document := do
  let cs := match source.toList with
    | '\ufeff' :: rest => rest
    | cs => cs
  let draft ← lines (cs.length + 1) cs .empty
  return (← draft.closed).toDocument

end Colloquy.Toml
