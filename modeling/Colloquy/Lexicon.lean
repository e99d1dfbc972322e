import Colloquy.Table

/-! Finite sets of names, kept in increasing order without repetition. -/
namespace Colloquy

structure Lexicon where
  table : Table Unit

namespace Lexicon

def empty : Lexicon := ⟨.empty⟩

instance : Inhabited Lexicon := ⟨empty⟩

def insert (l : Lexicon) (name : String) : Lexicon := ⟨l.table.insert name ()⟩

def ofList (names : List String) : Lexicon := names.foldl insert empty

def toList (l : Lexicon) : List String := l.table.keys

def contains (l : Lexicon) (name : String) : Bool := l.table.contains name

def union (l m : Lexicon) : Lexicon := m.toList.foldl insert l

def size (l : Lexicon) : Nat := l.table.size

instance : Membership String Lexicon := ⟨fun l name => l.contains name = true⟩

instance (name : String) (l : Lexicon) : Decidable (name ∈ l) :=
  inferInstanceAs (Decidable (l.contains name = true))

theorem mem_insert {l : Lexicon} {name x : String} : x ∈ l.insert name ↔ x = name ∨ x ∈ l := by
  by_cases h : x = name <;>
    simp [Membership.mem, contains, insert, Table.contains, h]

theorem not_mem_empty (x : String) : x ∉ empty := by
  simp [Membership.mem, contains, empty, Table.contains]

end Lexicon

end Colloquy
