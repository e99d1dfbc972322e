import Colloquy.Value

/-! Documents: the tree that a JSON or TOML text holds, with its entries in the order written. -/
namespace Colloquy

inductive Document where
  | null
  | bool (b : Bool)
  | int (n : Int)
  | float (x : Float)
  | text (s : String)
  -- What follows the grammar and stands for nothing that can be held: a number out of range, half
  -- of a surrogate pair, nesting beyond the limit. Only those who pass over it do not fail on it.
  | illegible
  | list (items : List Document)
  | table (entries : List (String × Document))
deriving Inhabited

namespace Document

mutual

-- Of entries with one key only the last counts, everywhere in the tree.
def settled : Document → Document
  | .list items => .list (settledList items)
  | .table entries => .table (settledEntries entries)
  | d => d

def settledList : List Document → List Document
  | [] => []
  | d :: rest => settled d :: settledList rest

def settledEntries : List (String × Document) → List (String × Document)
  | [] => []
  | (key, d) :: rest =>
    let later := settledEntries rest
    if later.any (·.1 == key) then later else (key, settled d) :: later

end

mutual

def isLegible : Document → Bool
  | .illegible => false
  | .list items => areLegible items
  | .table entries => entriesAreLegible entries
  | _ => true

def areLegible : List Document → Bool
  | [] => true
  | d :: rest => isLegible d && areLegible rest

def entriesAreLegible : List (String × Document) → Bool
  | [] => true
  | (_, d) :: rest => isLegible d && entriesAreLegible rest

end

mutual

def ofValue : Value → Document
  | .bool b => .bool b
  | .int n => .int n.toInt
  | .float x => .float x
  | .text s => .text s
  | .list items => .list (ofValues items)

def ofValues : List Value → List Document
  | [] => []
  | v :: rest => ofValue v :: ofValues rest

end

def ofData (data : Data) : Document := .table (data.entries.map fun p => (p.1, ofValue p.2))

def ofTexts (texts : List String) : Document := .list (texts.map .text)

def ofNat (n : Nat) : Document := .int n

def ofOption (f : α → Document) : Option α → Document
  | some a => f a
  | none => .null

end Document

end Colloquy
