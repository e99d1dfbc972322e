import Colloquy.Document

/-! Reading typed records out of documents. -/
namespace Colloquy

-- Where a document comes from: what is taken for a record or a name depends on it.
inductive Dialect where
  | json
  | toml
  -- A record that is read before it is known to be one of several.
  | undecided
deriving DecidableEq, Repr

namespace Dialect

-- Whether a list may go on after the last field of a record.
def allowsExcess : Dialect → Bool
  | .toml => true
  | .json | .undecided => false

-- What may stand with a name that is written as the key of a table.
def isNothing : Dialect → Document → Bool
  | .json, .null => true
  | .undecided, .null => true
  | .undecided, .table [] => true
  | .toml, .table [] => true
  | .toml, .list [] => true
  | _, _ => false

end Dialect

inductive Mismatch where
  | kind
  | range
  | missing (field : String)
  | repeated (field : String)
  -- More items than the record has fields.
  | excess
  | variant
deriving DecidableEq, Repr

abbrev Decoded := ReaderT Dialect (Except Mismatch)

def Decoded.undecided (read : Decoded α) : Decoded α := fun _ => read.run .undecided

-- Why a text is not the record it should be: it is no document, or one of another shape.
inductive Unreadable (ε : Type) where
  | malformed (e : ε)
  | shape (e : Mismatch)
deriving DecidableEq, Repr

def Unreadable.message : Unreadable ε → String
  | .malformed _ => "malformed text"
  | .shape .kind => "a value of another kind is expected"
  | .shape .range => "a number is out of range"
  | .shape (.missing field) => "missing field " ++ field
  | .shape (.repeated field) => "repeated field " ++ field
  | .shape .excess => "too many items"
  | .shape .variant => "unknown name"

namespace Document

def bool? : Document → Decoded Bool
  | .bool b => return b
  | _ => throw .kind

def text? : Document → Decoded String
  | .text s => return s
  | _ => throw .kind

def natBelow (bound : Nat) : Document → Decoded Nat
  | .int n => if 0 ≤ n ∧ n < bound then return n.toNat else throw .range
  | _ => throw .kind

def count? : Document → Decoded Nat := natBelow (Nat.pow 2 32)

-- Sizes, limits and durations.
def size? : Document → Decoded Nat := natBelow (Nat.pow 2 64)

def optional (read : Document → Decoded α) : Document → Decoded (Option α)
  | .null => return none
  | d => some <$> read d

def listOf (read : Document → Decoded α) : Document → Decoded (List α)
  | .list items => items.mapM read
  | _ => throw .kind

-- Entries under free keys; the last of equal keys counts.
def tableOf (read : Document → Decoded α) : Document → Decoded (Table α)
  | .table entries => do
    let read ← entries.mapM fun p => (p.1, ·) <$> read p.2
    return .ofList read
  | _ => throw .kind

def named (all : List α) (name : α → String) (s : String) : Decoded α :=
  match all.find? (name · == s) with
  | some a => return a
  | none => throw .variant

-- A name of a closed vocabulary, plain or as a key that nothing belongs to.
def oneOf (all : List α) (name : α → String) : Document → Decoded α
  | .text s => named all name s
  | .table [(s, d)] => do
    if (← read).isNothing d then named all name s else throw .kind
  | _ => throw .kind

mutual

-- Integers of 64 bits stay integers, all other numbers become floats.
def value? : Document → Decoded Value
  | .bool b => return .bool b
  | .int n => return (if Int64.minValue.toInt ≤ n ∧ n ≤ Int64.maxValue.toInt then .int (Int64.ofInt n)
      else .float (Float.ofInt n))
  | .float x => return .float x
  | .text s => return .text s
  | .list items => .list <$> values? items
  | .null | .illegible | .table _ => throw .kind

def values? : List Document → Decoded (List Value)
  | [] => return []
  | d :: rest => do
    let v ← value? d
    let vs ← values? rest
    return v :: vs

end

def data? : Document → Decoded Data := tableOf value?

-- The fields of one record, by name.
structure Fields where
  present : List (String × Document)

-- A known field may be written once; unknown fields are passed over.
def fields (names : List String) : Document → Decoded Fields
  | .table entries =>
    let known := entries.filter (names.contains ·.1)
    match names.find? fun name => 1 < (known.filter (·.1 == name)).length with
    | some name => throw (.repeated name)
    | none => return ⟨known⟩
  | .list items => do
    if names.length < items.length && !(← read).allowsExcess then throw .excess
    return ⟨names.zip items⟩
  | _ => throw .kind

def Fields.required (f : Fields) (name : String) (read : Document → Decoded α) : Decoded α :=
  match f.present.lookup name with
  | some d => read d
  | none => throw (.missing name)

def Fields.withDefault (f : Fields) (name : String) (default : α) (read : Document → Decoded α) :
    Decoded α :=
  match f.present.lookup name with
  | some d => read d
  | none => return default

-- A field that may be absent or null.
def Fields.optional (f : Fields) (name : String) (read : Document → Decoded α) :
    Decoded (Option α) :=
  f.withDefault name none (Document.optional read)

-- A record out of a text.
def ofText (dialect : Dialect) (parse : String → Except ε Document) (decode : Document → Decoded α)
    (source : String) : Except (Unreadable ε) α :=
  match parse source with
  | .error e => .error (.malformed e)
  | .ok d => ((decode d).run dialect).mapError .shape

end Document

end Colloquy
