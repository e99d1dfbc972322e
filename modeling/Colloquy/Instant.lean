import Colloquy.Text.Blank

/-! Points in time, as seconds since the beginning of 1970 in universal time and nanoseconds. -/
namespace Colloquy

structure Instant where
  seconds : Int
  nanos : Nat
deriving DecidableEq, Repr, Inhabited

namespace Instant

def epoch : Instant := ⟨0, 0⟩

def isLeap (year : Int) : Bool := year % 4 == 0 && (year % 100 != 0 || year % 400 == 0)

def daysInMonth (year : Int) (month : Nat) : Nat :=
  if month = 2 then if isLeap year then 29 else 28
  else if month = 4 ∨ month = 6 ∨ month = 9 ∨ month = 11 then 30
  else 31

-- Days from 1970-01-01. Years are counted from March, so that the leap day comes last.
def daysOfDate (year : Int) (month day : Nat) : Int :=
  let y := if month ≤ 2 then year - 1 else year
  let m := (month + 9) % 12
  let dayOfYear := (153 * m + 2) / 5 + day - 1
  365 * y + y / 4 - y / 100 + y / 400 + dayOfYear - 719468

structure Date where
  year : Int
  month : Nat
  day : Nat

def dateOfDays (days : Int) : Date :=
  let z := days + 719468
  let era := z / 146097
  let dayOfEra := (z % 146097).toNat
  let yearOfEra := (dayOfEra - dayOfEra / 1460 + dayOfEra / 36524 - dayOfEra / 146096) / 365
  let dayOfYear := dayOfEra - (365 * yearOfEra + yearOfEra / 4 - yearOfEra / 100)
  let m := (5 * dayOfYear + 2) / 153
  let month := if m < 10 then m + 3 else m - 9
  let year := era * 400 + yearOfEra
  ⟨if month ≤ 2 then year + 1 else year, month, dayOfYear - (153 * m + 2) / 5 + 1⟩

def digits (width n : Nat) : List Char :=
  let text := Nat.toDigits 10 n
  List.replicate (width - text.length) '0' ++ text

def yearText (year : Int) : List Char :=
  if 0 ≤ year ∧ year ≤ 9999 then digits 4 year.toNat
  else (if year < 0 then '-' else '+') :: digits 4 year.natAbs

def fractionText (nanos : Nat) : List Char :=
  if nanos = 0 then []
  else if nanos % 1000000 = 0 then '.' :: digits 3 (nanos / 1000000)
  else if nanos % 1000 = 0 then '.' :: digits 6 (nanos / 1000)
  else '.' :: digits 9 nanos

def baseText (i : Instant) : List Char :=
  let date := dateOfDays (i.seconds / 86400)
  let time := (i.seconds % 86400).toNat
  let second := time % 60 + i.nanos / 1000000000
  yearText date.year ++ '-' :: digits 2 date.month ++ '-' :: digits 2 date.day
    ++ 'T' :: digits 2 (time / 3600) ++ ':' :: digits 2 (time / 60 % 60)
    ++ ':' :: digits 2 second ++ fractionText (i.nanos % 1000000000)

def zulu (i : Instant) : String := String.ofList (i.baseText ++ ['Z'])

def withOffset (i : Instant) : String :=
  String.ofList (i.baseText ++ ['+', '0', '0', ':', '0', '0'])

def skipBlank (cs : List Char) : List Char := cs.dropWhile Text.isBlank

def decimal (cs : List Char) : Nat := cs.foldl (fun n c => n * 10 + (c.toNat - '0'.toNat)) 0

-- At least one digit, at most `width` of them.
def upTo (width : Nat) (cs : List Char) : Option (Nat × List Char) :=
  let taken := (cs.take width).takeWhile Char.isDigit
  if taken.isEmpty then none else some (decimal taken, cs.drop taken.length)

def within (low high : Nat) (read : Option (Nat × List Char)) : Option (Nat × List Char) :=
  read.filter fun p => low ≤ p.1 && p.1 ≤ high

def exactly (expected : Char) (cs : List Char) : Option (List Char) :=
  match cs with
  | c :: rest => if c = expected then some rest else none
  | [] => none

-- A sign lifts the limit of four digits.
def signedYear (cs : List Char) : Option (Int × List Char) :=
  match cs with
  | '-' :: rest => (upTo rest.length rest).map fun p => (-(p.1 : Int), p.2)
  | '+' :: rest => (upTo rest.length rest).map fun p => ((p.1 : Int), p.2)
  | _ => (upTo 4 cs).map fun p => ((p.1 : Int), p.2)

-- Decimals beyond the ninth are passed over.
def fraction (cs : List Char) : Option (Nat × List Char) :=
  match cs with
  | '.' :: rest =>
    let taken := (rest.take 9).takeWhile Char.isDigit
    if taken.isEmpty then none
    else some (decimal taken * Nat.pow 10 (9 - taken.length), rest.dropWhile Char.isDigit)
  | _ => some (0, cs)

def offset (cs : List Char) : Option (Int × List Char) :=
  let amount (negative : Bool) : List Char → Option (Int × List Char)
    | a :: b :: rest =>
      if a.isDigit && b.isDigit then
        match rest.dropWhile (fun c => c == ':' || Text.isBlank c) with
        | c :: d :: rest =>
          if c.isDigit && d.isDigit && c.toNat ≤ '5'.toNat then
            let seconds : Int := (decimal [a, b] * 3600 + decimal [c, d] * 60 : Nat)
            if seconds < 86400 then some (if negative then -seconds else seconds, rest) else none
          else none
        | _ => none
      else none
    | _ => none
  match cs with
  | 'Z' :: rest | 'z' :: rest => some (0, rest)
  | '+' :: rest => amount false rest
  | '-' :: rest | '\u2212' :: rest => amount true rest
  | u :: t :: c :: rest =>
    if u.toLower = 'u' ∧ t.toLower = 't' ∧ c.toLower = 'c' then some (0, rest) else none
  | _ => none

def yearLow : Int := -262143

def yearHigh : Int := 262142

-- The instant of a civil date and time; second 60 is a leap second.
def ofCivil (date : Date) (hour minute second nanos : Nat) (east : Int) : Option Instant :=
  let valid := 1 ≤ date.month && date.month ≤ 12 && 1 ≤ date.day
    && date.day ≤ daysInMonth date.year date.month && yearLow ≤ date.year && date.year ≤ yearHigh
  if !valid then none
  else
    let (second, nanos) := if second = 60 then (59, nanos + 1000000000) else (second, nanos)
    let civil := daysOfDate date.year date.month date.day * 86400
      + (hour * 3600 + minute * 60 + second : Nat)
    let result : Instant := ⟨civil - east, nanos⟩
    let year := (dateOfDays (result.seconds / 86400)).year
    if yearLow ≤ year ∧ year ≤ yearHigh then some result else none

-- White space may stand before each number and each mark between them.
def parse? (s : String) : Option Instant := do
  let cs := s.toList
  let (year, cs) ← signedYear (skipBlank cs)
  let cs ← exactly '-' (skipBlank cs)
  let (month, cs) ← within 1 12 (upTo 2 (skipBlank cs))
  let cs ← exactly '-' (skipBlank cs)
  let (day, cs) ← within 1 31 (upTo 2 (skipBlank cs))
  let cs ← match cs with
    | 'T' :: rest | 't' :: rest | ' ' :: rest => some rest
    | _ => none
  let (hour, cs) ← within 0 23 (upTo 2 (skipBlank cs))
  let cs ← exactly ':' (skipBlank cs)
  let (minute, cs) ← within 0 59 (upTo 2 (skipBlank cs))
  let cs ← exactly ':' (skipBlank cs)
  let (second, cs) ← within 0 60 (upTo 2 (skipBlank cs))
  let (nanos, cs) ← fraction cs
  let (east, cs) ← offset (skipBlank cs)
  if (skipBlank cs).isEmpty then ofCivil ⟨year, month, day⟩ hour minute second nanos east else none

end Instant

end Colloquy
