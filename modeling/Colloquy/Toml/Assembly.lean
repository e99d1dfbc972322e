import Colloquy.Toml.Scalar

/-!
The tables of a TOML text while it is read. A header opens a table once, and keys do not reach into
a table that a header opened.
-/
namespace Colloquy.Toml

mutual

inductive Node where
  | value (d : Document)
  | table (block : Block)
  -- The tables under one double header, in order.
  | tables (blocks : List Block)

inductive Block where
  | mk (implicit dotted : Bool) (entries : List (String × Node))

end

namespace Block

def implicit : Block → Bool
  | mk implicit _ _ => implicit

def dotted : Block → Bool
  | mk _ dotted _ => dotted

def entries : Block → List (String × Node)
  | mk _ _ entries => entries

def opened (entries : List (String × Node)) : Block := mk false false entries

def find? (b : Block) (key : String) : Option Node := b.entries.lookup key

def put (b : Block) (key : String) (node : Node) : Block :=
  let entries :=
    if b.entries.any (·.1 == key) then b.entries.map fun p => if p.1 == key then (key, node) else p
    else b.entries ++ [(key, node)]
  mk b.implicit b.dotted entries

def erase (b : Block) (key : String) : Block :=
  mk b.implicit b.dotted (b.entries.filter (·.1 != key))

-- Changes the table at the end of a path; tables missing on the way are made. Of the tables under
-- a double header the last is meant.
def alter (keyDots : Bool) (change : Block → Except ReadError (α × Block)) :
    List String → Block → Except ReadError (α × Block)
  | [], b => change b
  | key :: path, b =>
    match b.find? key with
    | none => do
      let (a, child) ← alter keyDots change path (mk true keyDots [])
      return (a, b.put key (.table child))
    | some (.value _) => .error (.notATable key)
    | some (.table child) =>
      if keyDots && !child.implicit then .error (.duplicate key)
      else do
        let (a, child) ← alter keyDots change path child
        return (a, b.put key (.table child))
    | some (.tables blocks) =>
      match blocks.getLast? with
      | none => .error (.notATable key)
      | some last => do
        let (a, last) ← alter keyDots change path last
        return (a, b.put key (.tables (blocks.dropLast ++ [last])))

-- A key with dots before it opens or goes on with a dotted table; one without stays out of those.
def assign (b : Block) (path : List String) (key : String) (d : Document) : Except ReadError Block :=
  let enter (table : Block) : Except ReadError (Unit × Block) :=
    if table.dotted == path.isEmpty || (table.find? key).isSome then .error (.duplicate key)
    else .ok ((), table.put key (.value d))
  (·.2) <$> alter true enter path b

end Block

mutual

def Node.toDocument : Node → Document
  | .value d => d
  | .table b => b.toDocument
  | .tables blocks => .list (documentsOf blocks)

def Block.toDocument : Block → Document
  | .mk _ _ entries => .table (entriesOf entries)

def documentsOf : List Block → List Document
  | [] => []
  | b :: rest => b.toDocument :: documentsOf rest

def entriesOf : List (String × Node) → List (String × Document)
  | [] => []
  | (key, node) :: rest => (key, node.toDocument) :: entriesOf rest

end

-- The header that the lines being read stand under.
structure Header where
  path : List String
  key : String
  repeatable : Bool

structure Draft where
  root : Block
  -- The table under the last header, or the root before any header.
  current : Block
  header : Option Header

namespace Draft

def empty : Draft := ⟨.opened [], .opened [], none⟩

def closed (draft : Draft) : Except ReadError Block :=
  match draft.header with
  | none => .ok draft.current
  | some header =>
    let settle (parent : Block) : Except ReadError (Unit × Block) :=
      match header.repeatable, parent.find? header.key with
      | false, none => .ok ((), parent.put header.key (.table draft.current))
      | true, none => .ok ((), parent.put header.key (.tables [draft.current]))
      | true, some (.tables blocks) =>
        .ok ((), parent.put header.key (.tables (blocks ++ [draft.current])))
      | _, some _ => .error (.duplicate header.key)
    (·.2) <$> Block.alter false settle header.path draft.root

-- A header may open a table that others were opened in, but none twice.
def openTable (draft : Draft) (path : List String) (key : String) : Except ReadError Draft := do
  let take (parent : Block) : Except ReadError (List (String × Node) × Block) :=
    match parent.find? key with
    | none => .ok ([], parent)
    | some (.table b) =>
      if b.implicit && !b.dotted then .ok (b.entries, parent.erase key) else .error (.duplicate key)
    | some _ => .error (.duplicate key)
  let (entries, root) ← Block.alter false take path (← draft.closed)
  return ⟨root, .opened entries, some ⟨path, key, false⟩⟩

-- A double header opens one more table under its key.
def openNext (draft : Draft) (path : List String) (key : String) : Except ReadError Draft := do
  let check (parent : Block) : Except ReadError (Unit × Block) :=
    match parent.find? key with
    | none | some (.tables _) => .ok ((), parent)
    | some _ => .error (.duplicate key)
  let (_, root) ← Block.alter false check path (← draft.closed)
  return ⟨root, .opened [], some ⟨path, key, true⟩⟩

def assign (draft : Draft) (path : List String) (key : String) (d : Document) :
    Except ReadError Draft := do
  return { draft with current := ← draft.current.assign path key d }

end Draft

end Colloquy.Toml
