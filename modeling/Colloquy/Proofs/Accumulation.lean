import Colloquy.Proofs.Idempotence

/-!
Lists that values accumulate in: what was held, then the first occurrence of each item not held.
-/
namespace Colloquy.Value

-- The items that equal none before them, in order. What is held comes before all of them.
def firsts (held more : List Value) : List Value :=
  (more.zipIdx.filter fun e => !(held ++ more.take e.2).any (· == e.1)).map (·.1)

theorem firsts_concat (held more : List Value) (item : Value) : firsts held (more ++ [item]) =
    if (held ++ more).any (· == item) then firsts held more else firsts held more ++ [item] := by
  have earlier : (more.zipIdx.filter fun e =>
        !(held ++ (more ++ [item]).take e.2).any (· == e.1)) =
      more.zipIdx.filter fun e => !(held ++ more.take e.2).any (· == e.1) := by
    apply List.filter_congr
    intro e member
    have place := List.snd_lt_of_mem_zipIdx member
    rw [List.take_append_of_le_length (by omega)]
  have last : (more ++ [item]).take more.length = more := List.take_left
  unfold firsts
  rw [List.zipIdx_append, List.filter_append, List.map_append, earlier, Nat.zero_add,
    List.zipIdx_singleton, List.filter_singleton, last]
  cases (held ++ more).any (· == item) with
  | true => exact List.append_nil _
  | false => rfl

-- The list lacks what was passed over but has its equals, and what equals the one equals the other.
theorem any_foldl_adjoin (held more : List Value) (item : Value) :
    (more.foldl adjoin held).any (· == item) = (held ++ more).any (· == item) := by
  rw [Bool.eq_iff_iff, List.any_eq_true, List.any_eq_true]
  constructor
  · rintro ⟨earlier, there, equal⟩
    exact ⟨earlier, List.mem_append.mpr (mem_foldl_adjoin there), equal⟩
  · rintro ⟨earlier, there, equal⟩
    rcases List.mem_append.mp there with old | new
    · obtain ⟨fresh, added, _⟩ := foldl_adjoin held more
      rw [added]
      exact ⟨earlier, List.mem_append_left _ old, equal⟩
    · obtain ⟨kept, listed, same⟩ : ∃ kept ∈ more.foldl adjoin held,
          kept = earlier ∨ (kept == earlier) = true := foldl_adjoin_covers new
      refine ⟨kept, listed, ?_⟩
      rcases same with rfl | same
      · exact equal
      · exact same_trans kept earlier item same equal

theorem foldl_adjoin_firsts (held more : List Value) :
    more.foldl adjoin held = held ++ firsts held more := by
  induction more using List.reverseRecOn with
  | nil => exact (List.append_nil held).symm
  | append_singleton more item ih =>
    rw [List.foldl_concat, firsts_concat, adjoin, any_foldl_adjoin, ih]
    split
    · rfl
    · exact List.append_assoc ..

theorem accumulated_firsts (existing : Option Value) (xs ys : List Value) :
    let held := existing.elim [] items
    accumulate existing (.list xs) = .list (held ++ firsts held xs) ∧
    accumulate (some (accumulate existing (.list xs))) (.list ys) =
      accumulate existing (.list (xs ++ ys)) ∧
    ((∀ x ∈ xs, x.Defined) →
      accumulate (some (accumulate existing (.list xs))) (.list xs) =
        accumulate existing (.list xs)) := by
  intro held
  refine ⟨?appended, ?batches, ?again⟩
  case appended => exact congrArg Value.list (foldl_adjoin_firsts held xs)
  case batches => exact congrArg Value.list List.foldl_append.symm
  case again =>
    intro defined
    exact accumulate_again (Defined.list defined).selfsame existing

def wishes : List Value := [.text "blue", .list [.float 2.5], .text "red", .list [.float 2.5]]

-- One wish was stored by itself, and it is among those that come.
theorem wishes_accumulated : (∀ x ∈ wishes, x.Defined) ∧
    accumulate (some (.text "blue")) (.list wishes) =
      .list [.text "blue", .list [.float 2.5], .text "red"] ∧
    accumulate (some (accumulate (some (.text "blue")) (.list wishes))) (.list wishes) =
      accumulate (some (.text "blue")) (.list wishes) := by
  have price : (Value.list [.float 2.5]).Defined :=
    .list (List.forall_mem_singleton.mpr (.float (by decide +kernel)))
  have defined : ∀ x ∈ wishes, x.Defined := by
    simp only [wishes, List.forall_mem_cons]
    exact ⟨.text _, price, .text _, price, nofun⟩
  exact ⟨defined, rfl, (accumulated_firsts _ wishes []).2.2 defined⟩

example : accumulate (some (accumulate none (.float (0 / 0)))) (.float (0 / 0)) =
    .list [.float (0 / 0), .float (0 / 0)] := by rfl

end Colloquy.Value
