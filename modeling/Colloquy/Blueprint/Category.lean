import Colloquy.Blueprint
import Colloquy.Lexicon

/-! Categories with the categories they refer to unfolded. -/
namespace Colloquy

theorem length_filter_lt {l : List α} {p q : α → Bool} (weaker : ∀ x, q x = true → p x = true)
    {a : α} (member : a ∈ l) (gained : p a = true) (lost : q a = false) :
    (l.filter q).length < (l.filter p).length := by
  induction l with
  | nil => cases member
  | cons b l ih =>
    have le : (l.filter q).length ≤ (l.filter p).length := by
      rw [← List.countP_eq_length_filter, ← List.countP_eq_length_filter]
      exact List.countP_mono_left fun x _ h => weaker x h
    rcases List.mem_cons.mp member with rfl | later
    · simp [gained, lost]
      omega
    · have := ih later
      by_cases hp : p b = true
      · by_cases hq : q b = true <;> simp [hp, hq] <;> omega
      · have hq : ¬ q b = true := fun h => hp (weaker b h)
        simpa [hp, hq] using this

-- One of the names that a step leads to from those seen.
def fresh? (step : String → List String) (names : List String) (seen : Lexicon) : Option String :=
  (seen.toList.flatMap step).find? fun name => names.contains name && !seen.contains name

-- All of the names that steps lead to from those seen.
def closure (step : String → List String) (names : List String) (seen : Lexicon) : Lexicon :=
  match _h : fresh? step names seen with
  | none => seen
  | some name => closure step names (seen.insert name)
termination_by (names.filter (!seen.contains ·)).length
decreasing_by
  have found := List.find?_some _h
  simp only [Bool.and_eq_true, Bool.not_eq_true'] at found
  refine length_filter_lt (a := name) ?_ (by simpa using found.1) (by simpa using found.2) ?_
  · intro x hx
    simp only [Bool.not_eq_true'] at hx ⊢
    refine Bool.eq_false_iff.mpr fun held => Bool.eq_false_iff.mp hx ?_
    exact Lexicon.mem_insert.mpr (.inr held)
  · simp only [Bool.not_eq_false']
    exact Lexicon.mem_insert.mpr (.inl rfl)

namespace Blueprint

def reference? (member : String) : Option String :=
  match member.toList with
  | '@' :: name => some (String.ofList name)
  | _ => none

def membersOf (b : Blueprint) (category : String) : List String :=
  (b.categories.find? category).getD []

def references (b : Blueprint) (category : String) : List String :=
  (b.membersOf category).filterMap reference?

def reached (b : Blueprint) (category : String) : Lexicon :=
  closure b.references b.categories.keys (Lexicon.ofList [category])

def isCyclic (b : Blueprint) (category : String) : Bool :=
  (closure b.references b.categories.keys
    (Lexicon.ofList ((b.references category).filter b.categories.contains))).contains category

def ownIntents (b : Blueprint) (intents : Lexicon) (category : String) : List String :=
  (b.membersOf category).filter fun member => (reference? member).isNone && intents.contains member

def expand (b : Blueprint) (intents : Lexicon) (category : String) : Lexicon :=
  .ofList ((b.reached category).toList.flatMap (b.ownIntents intents))

end Blueprint

end Colloquy
