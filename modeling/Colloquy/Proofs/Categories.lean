import Mathlib.Logic.Relation
import Colloquy.Blueprint.Category
import Colloquy.Proofs.Tables

/-! The closure of a set of names holds exactly the names that steps lead to from it. -/
namespace Colloquy

def Leads (step : String → List String) (names : List String) (a b : String) : Prop :=
  b ∈ step a ∧ b ∈ names

theorem fresh_some {step : String → List String} {names : List String} {seen : Lexicon}
    {name : String} (found : fresh? step names seen = some name) :
    ∃ a ∈ seen, Leads step names a name := by
  have listed := List.mem_of_find?_eq_some found
  have counted := List.find?_some found
  obtain ⟨a, held, edge⟩ := List.mem_flatMap.mp listed
  simp only [Bool.and_eq_true, List.contains_iff_mem] at counted
  exact ⟨a, Lexicon.mem_toList.mp held, edge, counted.1⟩

theorem fresh_none {step : String → List String} {names : List String} {seen : Lexicon}
    (none : fresh? step names seen = none) {a b : String} (held : a ∈ seen)
    (edge : Leads step names a b) : b ∈ seen := by
  have listed : b ∈ seen.toList.flatMap step :=
    List.mem_flatMap.mpr ⟨a, Lexicon.mem_toList.mpr held, edge.1⟩
  have refused := List.find?_eq_none.mp none b listed
  simp only [Bool.and_eq_true, List.contains_iff_mem, Bool.not_eq_true', not_and,
    Bool.not_eq_false] at refused
  exact refused edge.2

theorem closure_extends {step : String → List String} {names : List String} {seen : Lexicon}
    {x : String} (held : x ∈ seen) : x ∈ closure step names seen := by
  fun_induction closure step names seen with
  | case1 => exact held
  | case2 seen name found ih => exact ih (Lexicon.mem_insert.mpr (.inr held))

theorem closure_closed {step : String → List String} {names : List String} {seen : Lexicon}
    {a b : String} (held : a ∈ closure step names seen) (edge : Leads step names a b) :
    b ∈ closure step names seen := by
  fun_induction closure step names seen with
  | case1 seen none => exact fresh_none none held edge
  | case2 seen name found ih => exact ih held

theorem closure_sound {step : String → List String} {names : List String} {seen : Lexicon}
    {x : String} (member : x ∈ closure step names seen) :
    ∃ y ∈ seen, Relation.ReflTransGen (Leads step names) y x := by
  fun_induction closure step names seen with
  | case1 => exact ⟨x, member, .refl⟩
  | case2 seen name found ih =>
    obtain ⟨y, held, path⟩ := ih member
    rcases Lexicon.mem_insert.mp held with rfl | old
    · obtain ⟨a, before, edge⟩ := fresh_some found
      exact ⟨a, before, path.head edge⟩
    · exact ⟨y, old, path⟩

theorem mem_closure {step : String → List String} {names : List String} {seen : Lexicon}
    {x : String} :
    x ∈ closure step names seen ↔ ∃ y ∈ seen, Relation.ReflTransGen (Leads step names) y x := by
  refine ⟨closure_sound, ?_⟩
  rintro ⟨y, held, path⟩
  induction path with
  | refl => exact closure_extends held
  | tail _ edge ih => exact closure_closed ih edge

namespace Blueprint

-- A category that lists another declared one among its members.
def Refers (b : Blueprint) (category other : String) : Prop :=
  other ∈ b.references category ∧ b.categories.contains other = true

theorem leads_references (b : Blueprint) :
    Leads b.references b.categories.keys = b.Refers := by
  funext category other
  rw [Leads, Refers, Table.mem_keys]

theorem mem_reached {b : Blueprint} {category other : String} :
    other ∈ b.reached category ↔ Relation.ReflTransGen b.Refers category other := by
  rw [reached, mem_closure, leads_references]
  constructor
  · rintro ⟨y, held, path⟩
    rwa [List.mem_singleton.mp (Lexicon.mem_ofList.mp held)] at path
  · exact fun path => ⟨category, Lexicon.mem_ofList.mpr (List.mem_singleton_self _), path⟩

theorem cyclic_iff {b : Blueprint} {category : String} :
    b.isCyclic category = true ↔ Relation.TransGen b.Refers category category := by
  rw [isCyclic, ← Lexicon.mem_iff_contains, mem_closure, leads_references,
    Relation.TransGen.head'_iff]
  constructor
  · rintro ⟨y, held, path⟩
    exact ⟨y, List.mem_filter.mp (Lexicon.mem_ofList.mp held), path⟩
  · rintro ⟨y, edge, path⟩
    exact ⟨y, Lexicon.mem_ofList.mpr (List.mem_filter.mpr edge), path⟩

theorem reference_iff {member name : String} :
    reference? member = some name ↔ member = "@" ++ name := by
  unfold reference?
  constructor
  · intro found
    split at found
    · rename_i rest spelled
      cases Option.some.inj found
      exact String.toList_injective (by simp [spelled])
    · cases found
  · rintro rfl
    simp

end Blueprint

end Colloquy
