/-! Tables keyed by text, in increasing key order, each key once. -/
namespace Colloquy

structure Table (α : Type u) where
  entries : List (String × α)
  ordered : (entries.map (·.1)).Pairwise (· < ·)

namespace Table

-- Putting an entry in its place; an entry with the same key gives way.
def place (key : String) (value : α) : List (String × α) → List (String × α)
  | [] => [(key, value)]
  | (k, v) :: rest =>
    if key < k then (key, value) :: (k, v) :: rest
    else if k < key then (k, v) :: place key value rest
    else (key, value) :: rest

theorem mem_keys_place {key x : String} {value : α} {l : List (String × α)}
    (h : x ∈ (place key value l).map (·.1)) : x = key ∨ x ∈ l.map (·.1) := by
  induction l with
  | nil => simpa [place] using h
  | cons head rest ih =>
    obtain ⟨k, v⟩ := head
    unfold place at h
    split at h
    · simpa using h
    · split at h
      · simp only [List.map_cons, List.mem_cons] at h ⊢
        rcases h with h | h
        · exact .inr (.inl h)
        · exact (ih h).imp_right .inr
      · simp only [List.map_cons, List.mem_cons] at h ⊢
        exact h.imp_right .inr

theorem place_ordered (key : String) (value : α) {l : List (String × α)}
    (h : (l.map (·.1)).Pairwise (· < ·)) : ((place key value l).map (·.1)).Pairwise (· < ·) := by
  induction l with
  | nil => simp [place]
  | cons head rest ih =>
    obtain ⟨k, v⟩ := head
    simp only [List.map_cons, List.pairwise_cons] at h
    unfold place
    split
    · rename_i below
      simp only [List.map_cons, List.pairwise_cons, List.mem_cons]
      refine ⟨?_, h.1, h.2⟩
      rintro x (rfl | member)
      · exact below
      · exact String.lt_trans below (h.1 x member)
    · split
      · rename_i above
        simp only [List.map_cons, List.pairwise_cons]
        refine ⟨fun x member => ?_, ih h.2⟩
        rcases mem_keys_place member with rfl | old
        · exact above
        · exact h.1 x old
      · rename_i notBelow notAbove
        have same : key = k := String.le_antisymm (String.not_lt.mp notAbove) (String.not_lt.mp notBelow)
        simp only [List.map_cons, List.pairwise_cons]
        exact ⟨same ▸ h.1, h.2⟩

def empty : Table α := ⟨[], .nil⟩

instance : Inhabited (Table α) := ⟨empty⟩

def insert (t : Table α) (key : String) (value : α) : Table α :=
  ⟨place key value t.entries, place_ordered key value t.ordered⟩

-- Later pairs win over earlier ones with the same key.
def ofList (l : List (String × α)) : Table α := l.foldl (fun t p => t.insert p.1 p.2) empty

def find? (t : Table α) (key : String) : Option α := t.entries.lookup key

def contains (t : Table α) (key : String) : Bool := (t.find? key).isSome

def keys (t : Table α) : List String := t.entries.map (·.1)

def size (t : Table α) : Nat := t.entries.length

def isEmpty (t : Table α) : Bool := t.entries.isEmpty

def erase (t : Table α) (key : String) : Table α where
  entries := t.entries.filter (·.1 != key)
  ordered := t.ordered.sublist (List.filter_sublist.map _)

-- What `f` makes of each entry under the same key; entries it refuses are left out.
def filterMap (t : Table α) (f : String → α → Option β) : Table β where
  entries := t.entries.filterMap fun p => (f p.1 p.2).map (p.1, ·)
  ordered := by
    have h : ((t.entries.filterMap fun p => (f p.1 p.2).map (p.1, ·)).map (·.1)).Sublist
        (t.entries.map (·.1)) := by
      induction t.entries with
      | nil => exact .slnil
      | cons p rest ih =>
        rw [List.filterMap_cons]
        cases f p.1 p.2 with
        | none => exact ih.cons _
        | some v => exact ih.cons_cons _
    exact t.ordered.sublist h

def map (t : Table α) (f : String → α → β) : Table β where
  entries := t.entries.map fun p => (p.1, f p.1 p.2)
  ordered := by
    have h : (t.entries.map fun p => (p.1, f p.1 p.2)).map (·.1) = t.entries.map (·.1) := by
      simp [Function.comp_def]
    exact h ▸ t.ordered

def overlay (t u : Table α) : Table α := u.entries.foldl (fun acc p => acc.insert p.1 p.2) t

instance [BEq α] : BEq (Table α) := ⟨fun t u => t.entries == u.entries⟩

theorem ext {t u : Table α} (h : t.entries = u.entries) : t = u := by
  cases t; cases u; cases h; rfl

theorem lookup_entry (x k : String) (v : α) (rest : List (String × α)) :
    ((k, v) :: rest).lookup x = if x = k then some v else rest.lookup x := by
  by_cases h : x = k
  · simp [h]
  · have : (x == k) = false := by simpa using h
    simp [List.lookup_cons, this, h]

theorem lookup_place (key x : String) (value : α) (l : List (String × α)) :
    (place key value l).lookup x = if x = key then some value else l.lookup x := by
  induction l with
  | nil => simp only [place, lookup_entry, List.lookup_nil]
  | cons head rest ih =>
    obtain ⟨k, v⟩ := head
    unfold place
    split
    · simp only [lookup_entry]
    · split
      · rename_i above
        simp only [lookup_entry, ih]
        by_cases hk : x = k
        · have : x ≠ key := by
            rintro rfl
            exact String.lt_irrefl _ (hk ▸ above)
          simp [hk, hk ▸ this]
        · simp [hk]
      · rename_i notBelow notAbove
        have same : key = k := String.le_antisymm (String.not_lt.mp notAbove) (String.not_lt.mp notBelow)
        subst same
        by_cases h : x = key <;> simp [lookup_entry, h]

@[simp] theorem find?_insert (t : Table α) (key x : String) (value : α) :
    (t.insert key value).find? x = if x = key then some value else t.find? x :=
  lookup_place key x value t.entries

@[simp] theorem find?_empty (x : String) : (empty : Table α).find? x = none := rfl

end Table

end Colloquy
