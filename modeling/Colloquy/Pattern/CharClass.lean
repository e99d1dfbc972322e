/-! Sets of characters as inclusive ranges, in increasing order and apart from each other. -/
namespace Colloquy.Pattern

structure CharClass where
  ranges : List (Char × Char)
deriving DecidableEq, Repr

namespace CharClass

def contains (k : CharClass) (c : Char) : Bool := k.ranges.any fun r => r.1 ≤ c && c ≤ r.2

def lessOrSame (a b : Char × Char) : Bool := a.1 < b.1 || (a.1 == b.1 && a.2 ≤ b.2)

def later (a b : Char) : Char := if a ≤ b then b else a

def earlier (a b : Char) : Char := if a ≤ b then a else b

-- Ranges by their first characters, with a range in front of them all.
def mergeFrom (front : Char × Char) : List (Char × Char) → List (Char × Char)
  | [] => [front]
  | r :: rest =>
    if r.1.toNat ≤ front.2.toNat + 1 then mergeFrom (front.1, later front.2 r.2) rest
    else front :: mergeFrom r rest

def merge : List (Char × Char) → List (Char × Char)
  | [] => []
  | r :: rest => mergeFrom r rest

def ofRanges (ranges : List (Char × Char)) : CharClass := ⟨merge (ranges.mergeSort lessOrSame)⟩

def single (c : Char) : CharClass := ⟨[(c, c)]⟩

-- The letters of one case in a range, in the other case. A range with letters of both cases counts
-- only for its small ones.
def otherCase? (r : Char × Char) : Option (Char × Char) :=
  if r.1 ≤ 'z' && 'a' ≤ r.2 then some ((later r.1 'a').toUpper, (earlier r.2 'z').toUpper)
  else if r.1 ≤ 'Z' && 'A' ≤ r.2 then some ((later r.1 'A').toLower, (earlier r.2 'Z').toLower)
  else none

-- With the other case of its ASCII letters, range by range.
def caseless (k : CharClass) : CharClass := ofRanges (k.ranges ++ k.ranges.filterMap otherCase?)

def lastChar : Char := Char.ofNat 0x10ffff

-- The character after one, across the gap of the surrogates.
def next? (c : Char) : Option Char :=
  if c = lastChar then none
  else if c.toNat = 0xd7ff then some (Char.ofNat 0xe000)
  else some (Char.ofNat (c.toNat + 1))

def previous (c : Char) : Char :=
  if c.toNat = 0xe000 then Char.ofNat 0xd7ff else Char.ofNat (c.toNat - 1)

def gapsFrom : Option Char → List (Char × Char) → List (Char × Char)
  | none, _ => []
  | some low, [] => [(low, lastChar)]
  | some low, r :: rest =>
    let gaps := gapsFrom (next? r.2) rest
    if low < r.1 then (low, previous r.1) :: gaps else gaps

def complement (k : CharClass) : CharClass := ⟨gapsFrom (some (Char.ofNat 0)) k.ranges⟩

end CharClass

end Colloquy.Pattern
