import Colloquy.Lexicon

/-! What tables and name sets find, in terms of their entries. -/
namespace Colloquy.Table

theorem lookup_iff_mem {l : List (String × α)} (ordered : (l.map (·.1)).Pairwise (· < ·))
    (key : String) (value : α) : l.lookup key = some value ↔ (key, value) ∈ l := by
  induction l with
  | nil => simp
  | cons head rest ih =>
    obtain ⟨k, v⟩ := head
    simp only [List.map_cons, List.pairwise_cons] at ordered
    rw [lookup_entry, List.mem_cons, Prod.mk.injEq]
    by_cases same : key = k
    · subst same
      have fresh : (key, value) ∉ rest := by
        intro member
        exact String.lt_irrefl _ (ordered.1 key (List.mem_map.mpr ⟨_, member, rfl⟩))
      simp [fresh, eq_comm]
    · simp [same, ih ordered.2]

theorem find?_iff_mem {t : Table α} {key : String} {value : α} :
    t.find? key = some value ↔ (key, value) ∈ t.entries :=
  lookup_iff_mem t.ordered key value

theorem contains_iff {t : Table α} {key : String} :
    t.contains key = true ↔ ∃ value, t.find? key = some value := Option.isSome_iff_exists

theorem mem_keys {t : Table α} {key : String} : key ∈ t.keys ↔ t.contains key = true := by
  rw [contains_iff]
  constructor
  · intro member
    obtain ⟨⟨k, v⟩, entry, rfl⟩ := List.mem_map.mp member
    exact ⟨v, find?_iff_mem.mpr entry⟩
  · rintro ⟨value, found⟩
    exact List.mem_map.mpr ⟨_, find?_iff_mem.mp found, rfl⟩

theorem find?_map (t : Table α) (f : String → α → β) (key : String) :
    (t.map f).find? key = (t.find? key).map (f key) := by
  ext w
  rw [find?_iff_mem, Option.map_eq_some_iff]
  simp only [map, List.mem_map, Prod.mk.injEq]
  constructor
  · rintro ⟨⟨k, v⟩, entry, rfl, rfl⟩
    exact ⟨v, find?_iff_mem.mpr entry, rfl⟩
  · rintro ⟨v, found, rfl⟩
    exact ⟨(key, v), find?_iff_mem.mp found, rfl, rfl⟩

theorem find?_filterMap (t : Table α) (f : String → α → Option β) (key : String) :
    (t.filterMap f).find? key = (t.find? key).bind (f key) := by
  ext w
  rw [find?_iff_mem, Option.bind_eq_some_iff]
  simp only [filterMap, List.mem_filterMap, Option.map_eq_some_iff, Prod.mk.injEq]
  constructor
  · rintro ⟨⟨k, v⟩, entry, w', kept, rfl, rfl⟩
    exact ⟨v, find?_iff_mem.mpr entry, kept⟩
  · rintro ⟨v, found, kept⟩
    exact ⟨(key, v), find?_iff_mem.mp found, w, kept, rfl, rfl⟩

theorem find?_overlay_entries (t : Table α) (l : List (String × α))
    (ordered : (l.map (·.1)).Pairwise (· < ·)) (key : String) :
    (l.foldl (fun acc p => acc.insert p.1 p.2) t).find? key =
      (l.lookup key).or (t.find? key) := by
  induction l generalizing t with
  | nil => simp
  | cons head rest ih =>
    obtain ⟨k, v⟩ := head
    simp only [List.map_cons, List.pairwise_cons] at ordered
    rw [List.foldl_cons, ih _ ordered.2, find?_insert, lookup_entry]
    by_cases same : key = k
    · subst same
      have fresh : rest.lookup key = none := by
        refine Option.eq_none_iff_forall_not_mem.mpr fun w found => ?_
        have member := (lookup_iff_mem ordered.2 key w).mp found
        exact String.lt_irrefl _ (ordered.1 key (List.mem_map.mpr ⟨_, member, rfl⟩))
      simp [fresh]
    · simp [same]

theorem find?_overlay (t u : Table α) (key : String) :
    (t.overlay u).find? key = (u.find? key).or (t.find? key) :=
  find?_overlay_entries t u.entries u.ordered key

@[simp] theorem contains_insert (t : Table α) (key x : String) (value : α) :
    (t.insert key value).contains x = (x == key || t.contains x) := by
  by_cases same : x = key <;> simp [contains, same]

theorem find?_erase (t : Table α) (key x : String) :
    (t.erase key).find? x = if x = key then none else t.find? x := by
  ext v
  rw [find?_iff_mem]
  unfold erase
  rw [List.mem_filter, ← find?_iff_mem]
  by_cases same : x = key <;> simp [same]

theorem entries_nodup (t : Table α) : t.entries.Nodup := by
  have keys := t.ordered.imp String.ne_of_lt
  exact (List.pairwise_map.mp keys).imp fun apart same => apart (congrArg Prod.fst same)

-- Names in increasing order are told by which ones there are.
theorem increasing_ext {l m : List String} (left : l.Pairwise (· < ·)) (right : m.Pairwise (· < ·))
    (same : ∀ name, name ∈ l ↔ name ∈ m) : l = m := by
  have perm := (List.perm_ext_iff_of_nodup (left.imp String.ne_of_lt)
    (right.imp String.ne_of_lt)).mpr same
  exact perm.eq_of_pairwise (fun a b _ _ below above => absurd above (String.lt_asymm below))
    left right

theorem keys_congr {t : Table α} {u : Table β} (same : ∀ key, key ∈ t.keys ↔ key ∈ u.keys) :
    t.keys = u.keys :=
  increasing_ext t.ordered u.ordered same

theorem ext_find? {t u : Table α} (same : ∀ key, t.find? key = u.find? key) : t = u := by
  apply ext
  have members (p : String × α) : p ∈ t.entries ↔ p ∈ u.entries := by
    rw [← find?_iff_mem, ← find?_iff_mem, same]
  have perm := (List.perm_ext_iff_of_nodup t.entries_nodup u.entries_nodup).mpr members
  refine perm.eq_of_pairwise ?_ (List.pairwise_map.mp t.ordered) (List.pairwise_map.mp u.ordered)
  exact fun a b _ _ below above => absurd above (String.lt_asymm below)

end Colloquy.Table

namespace Colloquy.Lexicon

theorem mem_iff_contains {l : Lexicon} {name : String} : name ∈ l ↔ l.contains name = true :=
  Iff.rfl

theorem mem_toList {l : Lexicon} {name : String} : name ∈ l.toList ↔ name ∈ l := Table.mem_keys

theorem mem_foldl_insert {names : List String} {l : Lexicon} {x : String} :
    x ∈ names.foldl insert l ↔ x ∈ names ∨ x ∈ l := by
  induction names generalizing l with
  | nil => simp
  | cons name rest ih =>
    rw [List.foldl_cons, ih, mem_insert, List.mem_cons, or_left_comm, or_assoc]

theorem mem_ofList {names : List String} {x : String} : x ∈ ofList names ↔ x ∈ names := by
  simp [ofList, mem_foldl_insert, not_mem_empty]

theorem ext_mem {l m : Lexicon} (same : ∀ name, name ∈ l ↔ name ∈ m) : l = m := by
  have tables : l.table = m.table := by
    apply Table.ext_find?
    intro name
    have known : (l.table.find? name).isSome = (m.table.find? name).isSome :=
      Bool.eq_iff_iff.mpr (same name)
    cases held : l.table.find? name <;> cases held' : m.table.find? name <;> simp_all
  cases l
  cases m
  exact congrArg Lexicon.mk tables

theorem mem_union {l m : Lexicon} {x : String} : x ∈ l.union m ↔ x ∈ l ∨ x ∈ m := by
  rw [union, mem_foldl_insert, mem_toList, or_comm]

end Colloquy.Lexicon
