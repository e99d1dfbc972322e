import Colloquy.Document
import Colloquy.Text.Digits

/-!
The single values of a TOML text: texts in four kinds of quotes, numbers, and dates and times.
-/
namespace Colloquy.Toml

inductive ReadError where
  | endOfText
  | unexpected (c : Char)
  | invalidEscape
  | invalidMoment
  | numberOutOfRange
  | duplicate (key : String)
  | notATable (key : String)
  | tooDeep
deriving DecidableEq, Repr

def refuse : List Char → Except ReadError (α × List Char)
  | [] => .error .endOfText
  | c :: _ => .error (.unexpected c)

def isSpace (c : Char) : Bool := c == ' ' || c == '\t'

def skipSpace (cs : List Char) : List Char := cs.dropWhile isSpace

-- Controls other than the tab may stand neither in texts nor in comments.
def isShown (c : Char) : Bool := c == '\t' || (0x20 ≤ c.toNat && c.toNat != 0x7f)

def newline? : List Char → Option (List Char)
  | '\n' :: rest => some rest
  | '\r' :: '\n' :: rest => some rest
  | _ => none

def expect (c : Char) : List Char → Except ReadError (List Char)
  | [] => .error .endOfText
  | found :: rest => if found = c then .ok rest else .error (.unexpected found)

def codePoint (width : Nat) (cs : List Char) : Except ReadError (Char × List Char) :=
  let digits := cs.take width
  let n := Text.numberOf 16 digits
  if digits.length = width ∧ digits.all (Text.hexValue? · |>.isSome) ∧ n.isValidChar then
    .ok (Char.ofNat n, cs.drop width)
  else .error .invalidEscape

-- The character that a backslash and what follows it stand for.
def escape : List Char → Except ReadError (Char × List Char)
  | 'b' :: rest => .ok ('\x08', rest)
  | 't' :: rest => .ok ('\t', rest)
  | 'n' :: rest => .ok ('\n', rest)
  | 'f' :: rest => .ok ('\x0c', rest)
  | 'r' :: rest => .ok ('\r', rest)
  | '"' :: rest => .ok ('"', rest)
  | '\\' :: rest => .ok ('\\', rest)
  | 'u' :: rest => codePoint 4 rest
  | 'U' :: rest => codePoint 8 rest
  | _ => .error .invalidEscape

-- The rest of a text on one line, after its opening quote. `fuel` bounds the characters read.
def basicTail : (fuel : Nat) → List Char → Except ReadError (List Char × List Char)
  | 0, _ => .error .endOfText
  | fuel + 1, cs =>
    match cs with
    | '"' :: rest => .ok ([], rest)
    | '\\' :: rest => do
      let (c, rest) ← escape rest
      let (tail, rest) ← basicTail fuel rest
      return (c :: tail, rest)
    | c :: rest =>
      if isShown c then (basicTail fuel rest).map fun (tail, rest) => (c :: tail, rest)
      else .error (.unexpected c)
    | [] => .error .endOfText

def literalTail : List Char → Except ReadError (List Char × List Char)
  | '\'' :: rest => .ok ([], rest)
  | c :: rest =>
    if isShown c then (literalTail rest).map fun (tail, rest) => (c :: tail, rest)
    else .error (.unexpected c)
  | [] => .error .endOfText

def skipLines : List Char → List Char
  | '\r' :: '\n' :: rest => skipLines rest
  | c :: rest => if isSpace c || c == '\n' then skipLines rest else c :: rest
  | [] => []

-- What follows a backslash, spaces and a line break, if that is what stands there.
def continued? (cs : List Char) : Option (List Char) := (newline? (skipSpace cs)).map skipLines

-- The rest of a text over several lines. Up to two quotes may stand at its end, before the three
-- that close it. `fuel` bounds the characters read.
def multilineTail (quote : Char) (escapes : Bool) : (fuel : Nat) → List Char → Except ReadError (List Char × List Char)
  | 0, _ => .error .endOfText
  | fuel + 1, cs =>
    let quotes := (cs.takeWhile (· == quote)).length
    if 5 < quotes then .error (.unexpected quote)
    else if 3 ≤ quotes then .ok (List.replicate (quotes - 3) quote, cs.drop quotes)
    else if 0 < quotes then
      (multilineTail quote escapes fuel (cs.drop quotes)).map fun (tail, rest) =>
        (List.replicate quotes quote ++ tail, rest)
    else match newline? cs, cs with
      | some rest, _ => do
        let (tail, rest) ← multilineTail quote escapes fuel rest
        return ('\n' :: tail, rest)
      | none, c :: rest =>
        if escapes && c == '\\' then
          match continued? rest with
          | some rest => multilineTail quote escapes fuel rest
          | none => do
            let (c, rest) ← escape rest
            let (tail, rest) ← multilineTail quote escapes fuel rest
            return (c :: tail, rest)
        else if isShown c then do
          let (tail, rest) ← multilineTail quote escapes fuel rest
          return (c :: tail, rest)
        else .error (.unexpected c)
      | none, [] => .error .endOfText

-- A line break right after the opening quotes is dropped.
def multiline (quote : Char) (escapes : Bool) (cs : List Char) : Except ReadError (List Char × List Char) :=
  let body := (newline? cs).getD cs
  multilineTail quote escapes (body.length + 1) body

def basic (cs : List Char) : Except ReadError (String × List Char) := do
  let (chars, rest) ← basicTail (cs.length + 1) cs
  return (String.ofList chars, rest)

def literal (cs : List Char) : Except ReadError (String × List Char) := do
  let (chars, rest) ← literalTail cs
  return (String.ofList chars, rest)

def text (cs : List Char) : Except ReadError (String × List Char) :=
  let joined (read : Except ReadError (List Char × List Char)) : Except ReadError (String × List Char) :=
    read.map fun (chars, rest) => (String.ofList chars, rest)
  match cs with
  | '"' :: '"' :: '"' :: rest => joined (multiline '"' true rest)
  | '\'' :: '\'' :: '\'' :: rest => joined (multiline '\'' false rest)
  | '"' :: rest => basic rest
  | '\'' :: rest => literal rest
  | cs => refuse cs

def fixed? (width low high : Nat) (cs : List Char) : Option (Nat × List Char) :=
  let digits := cs.take width
  let n := Text.numberOf 10 digits
  if digits.length = width ∧ digits.all Char.isDigit ∧ low ≤ n ∧ n ≤ high then some (n, cs.drop width)
  else none

def fixed (width low high : Nat) (cs : List Char) : Except ReadError (Nat × List Char) :=
  (fixed? width low high cs).elim (.error .invalidMoment) .ok

def daysInMonth (year month : Nat) : Nat :=
  if month = 2 then
    if year % 4 = 0 ∧ (year % 100 ≠ 0 ∨ year % 400 = 0) then 29 else 28
  else if month = 4 ∨ month = 6 ∨ month = 9 ∨ month = 11 then 30
  else 31

-- A date as it is written. Four digits and a dash are one, or an error.
def date? (cs : List Char) : Except ReadError (Option (List Char × List Char)) :=
  match fixed? 4 0 9999 cs with
  | some (year, '-' :: rest) => do
    let (month, rest) ← fixed 2 1 12 rest
    let rest ← expect '-' rest
    let (day, rest) ← fixed 2 1 31 rest
    if day ≤ daysInMonth year month then return some (cs.take 10, rest) else .error .invalidMoment
  | _ => .ok none

def fractionLimit : Nat := 9

-- The fraction of a second that may follow, with the point: digits beyond the limit and zeros at
-- the end go, and the point with them where nothing is left.
def secondFraction (cs : List Char) : List Char × List Char :=
  match cs with
  | '.' :: rest =>
    let digits := rest.takeWhile Char.isDigit
    let kept := ((digits.take fractionLimit).reverse.dropWhile (· == '0')).reverse
    if digits.isEmpty then ([], cs)
    else (if kept.isEmpty then [] else '.' :: kept, rest.drop digits.length)
  | _ => ([], cs)

-- A time of day. Two digits and a colon are one, or an error.
def time? (cs : List Char) : Except ReadError (Option (List Char × List Char)) :=
  match fixed? 2 0 23 cs with
  | some (_, ':' :: rest) => do
    let (_, rest) ← fixed 2 0 59 rest
    let rest ← expect ':' rest
    let (_, rest) ← fixed 2 0 60 rest
    let (fraction, rest) := secondFraction rest
    return some (cs.take 8 ++ fraction, rest)
  | _ => .ok none

-- The offset that may follow; none at all has a plus sign.
def offset (cs : List Char) : Except ReadError (List Char × List Char) :=
  match cs with
  | 'Z' :: rest | 'z' :: rest => .ok (['Z'], rest)
  | '+' :: rest | '-' :: rest => do
    let (hours, after) ← fixed 2 0 23 rest
    let after ← expect ':' after
    let (minutes, after) ← fixed 2 0 59 after
    let sign := if hours = 0 ∧ minutes = 0 then ['+'] else cs.take 1
    return (sign ++ rest.take 5, after)
  | cs => .ok ([], cs)

def moment? (cs : List Char) : Except ReadError (Option (List Char × List Char)) := do
  match ← date? cs with
  | none => time? cs
  | some (date, rest) =>
    match rest with
    | 'T' :: tail | 't' :: tail | ' ' :: tail =>
      match ← time? tail with
      | some (time, tail) =>
        let (offset, tail) ← offset tail
        return some (date ++ 'T' :: time ++ offset, tail)
      | none => return some (date, rest)
    | rest => return some (date, rest)

-- A date or time is a table of one entry, under a key that is set aside for it.
def moment (written : List Char) : Document :=
  .table [("$__toml_private_datetime", .text (String.ofList written))]

-- Digits after a first one, with single underscores between them.
def moreDigits (radix : Nat) : List Char → Except ReadError (List Char × List Char)
  | '_' :: c :: rest =>
    if (Text.digitValue? radix c).isSome then
      (moreDigits radix rest).map fun (digits, rest) => (c :: digits, rest)
    else .error (.unexpected c)
  | ['_'] => .error .endOfText
  | c :: rest =>
    if (Text.digitValue? radix c).isSome then
      (moreDigits radix rest).map fun (digits, rest) => (c :: digits, rest)
    else .ok ([], c :: rest)
  | [] => .ok ([], [])

def digits (radix : Nat) : List Char → Except ReadError (List Char × List Char)
  | c :: rest =>
    if (Text.digitValue? radix c).isSome then
      (moreDigits radix rest).map fun (digits, rest) => (c :: digits, rest)
    else .error (.unexpected c)
  | [] => .error .endOfText

-- The digits before the point; a zero stands alone.
def wholeDigits : List Char → Except ReadError (List Char × List Char)
  | '0' :: rest => .ok (['0'], rest)
  | cs => digits 10 cs

def integer (negative : Bool) (magnitude : Nat) : Except ReadError Document :=
  let n : Int := if negative then -magnitude else magnitude
  if Int64.minValue.toInt ≤ n ∧ n ≤ Int64.maxValue.toInt then .ok (.int n)
  else .error .numberOutOfRange

-- Leading digits at these powers of ten or beyond make infinity and zero.
def exponentLimit : Int := 400

def decimal (significand : Nat) (exponent : Int) : Float :=
  let lead : Int := exponent + (Nat.toDigits 10 significand).length
  if significand = 0 ∨ lead < -exponentLimit then 0.0
  else if exponentLimit < lead then 1.0 / 0.0
  else if 0 ≤ exponent then Float.ofScientific significand false exponent.toNat
  else Float.ofScientific significand true (-exponent).toNat

-- Only below zero may a number be too large for a float.
def float (negative : Bool) (whole fraction : List Char) (exponent : Int) : Except ReadError Document :=
  let x := decimal (Text.numberOf 10 (whole ++ fraction)) (exponent - fraction.length)
  if negative then .ok (.float (-x))
  else if x.isInf then .error .numberOutOfRange
  else .ok (.float x)

def exponent (cs : List Char) : Except ReadError (Int × List Char) :=
  match cs with
  | '-' :: rest => (digits 10 rest).map fun (ds, rest) => (-(Text.numberOf 10 ds : Int), rest)
  | '+' :: rest => (digits 10 rest).map fun (ds, rest) => ((Text.numberOf 10 ds : Int), rest)
  | rest => (digits 10 rest).map fun (ds, rest) => ((Text.numberOf 10 ds : Int), rest)

def afterWhole (negative : Bool) (whole : List Char) (cs : List Char) : Except ReadError (Document × List Char) :=
  match cs with
  | 'e' :: rest | 'E' :: rest => do
    let (e, rest) ← exponent rest
    return (← float negative whole [] e, rest)
  | '.' :: rest => do
    let (fraction, rest) ← digits 10 rest
    match rest with
    | 'e' :: rest | 'E' :: rest =>
      let (e, rest) ← exponent rest
      return (← float negative whole fraction e, rest)
    | rest => return (← float negative whole fraction 0, rest)
  | cs => do return (← integer negative (Text.numberOf 10 whole), cs)

def signedNumber (negative : Bool) (cs : List Char) : Except ReadError (Document × List Char) :=
  match cs with
  | 'i' :: 'n' :: 'f' :: rest => .ok (.float (if negative then -(1.0 / 0.0) else 1.0 / 0.0), rest)
  | 'n' :: 'a' :: 'n' :: rest => .ok (.float (0.0 / 0.0), rest)
  | cs => do
    let (whole, rest) ← wholeDigits cs
    afterWhole negative whole rest

def radixNumber (radix : Nat) (cs : List Char) : Except ReadError (Document × List Char) := do
  let (ds, rest) ← digits radix cs
  return (← integer false (Text.numberOf radix ds), rest)

def numeric (cs : List Char) : Except ReadError (Document × List Char) := do
  match ← moment? cs with
  | some (written, rest) => return (moment written, rest)
  | none =>
    match cs with
    | '0' :: 'x' :: rest => radixNumber 16 rest
    | '0' :: 'o' :: rest => radixNumber 8 rest
    | '0' :: 'b' :: rest => radixNumber 2 rest
    | '-' :: rest => signedNumber true rest
    | '+' :: rest => signedNumber false rest
    | cs => signedNumber false cs

end Colloquy.Toml
