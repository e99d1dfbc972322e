import Colloquy.Proofs.Floats
import Colloquy.Proofs.Tables
import Colloquy.Snapshot

/-! What extracted data does to the data of a conversation, field by field. -/
namespace Colloquy

namespace Value

variable {held more : List Value}

theorem foldl_adjoin (held more : List Value) :
    ∃ fresh, more.foldl adjoin held = held ++ fresh ∧ fresh.Sublist more := by
  induction more generalizing held with
  | nil => exact ⟨[], (List.append_nil held).symm, .slnil⟩
  | cons item rest ih =>
    rw [List.foldl_cons]
    cases known : held.any (· == item) with
    | true =>
      obtain ⟨fresh, added, part⟩ := ih held
      refine ⟨fresh, ?_, part.cons item⟩
      rw [adjoin, if_pos known, added]
    | false =>
      obtain ⟨fresh, added, part⟩ := ih (held ++ [item])
      refine ⟨item :: fresh, ?_, part.cons_cons item⟩
      rw [adjoin, if_neg (by simp [known]), added, List.append_assoc]
      rfl

theorem mem_foldl_adjoin {item : Value} (member : item ∈ more.foldl adjoin held) :
    item ∈ held ∨ item ∈ more := by
  obtain ⟨fresh, added, part⟩ := foldl_adjoin held more
  rw [added] at member
  exact (List.mem_append.mp member).imp_right fun new => part.subset new

theorem foldl_adjoin_covers {item : Value} (member : item ∈ more) :
    ∃ kept ∈ more.foldl adjoin held, kept = item ∨ (kept == item) = true := by
  induction more generalizing held with
  | nil => cases member
  | cons first rest ih =>
    rw [List.foldl_cons]
    rcases List.mem_cons.mp member with rfl | later
    · obtain ⟨fresh, added, _⟩ := foldl_adjoin (adjoin held item) rest
      rw [added]
      unfold adjoin
      split
      · rename_i known
        obtain ⟨kept, there, same⟩ := List.any_eq_true.mp known
        exact ⟨kept, List.mem_append_left _ there, .inr same⟩
      · exact ⟨item, by simp, .inl rfl⟩
    · exact ih later

mutual

theorem same_symm (a b : Value) (equal : a.same b = true) : b.same a = true := by
  cases a with
  | float x =>
    cases b with
    | float y => exact float_same_symm equal
    | bool | int | text | list => cases equal
  | list as =>
    cases b with
    | list bs => exact sameList_symm as bs equal
    | bool | int | text | float => cases equal
  | bool x =>
    cases b with
    | bool y => exact beq_iff_eq.mpr (beq_iff_eq.mp equal).symm
    | int | float | text | list => cases equal
  | int x =>
    cases b with
    | int y => exact beq_iff_eq.mpr (beq_iff_eq.mp equal).symm
    | bool | float | text | list => cases equal
  | text x =>
    cases b with
    | text y => exact beq_iff_eq.mpr (beq_iff_eq.mp equal).symm
    | bool | int | float | list => cases equal

theorem sameList_symm (as bs : List Value) (equal : sameList as bs = true) :
    sameList bs as = true := by
  cases as with
  | nil =>
    cases bs with
    | nil => rfl
    | cons => cases equal
  | cons a as =>
    cases bs with
    | nil => cases equal
    | cons b bs =>
      unfold sameList at equal ⊢
      obtain ⟨first, rest⟩ := Bool.and_eq_true_iff.mp equal
      exact Bool.and_eq_true_iff.mpr ⟨same_symm a b first, sameList_symm as bs rest⟩

end

mutual

theorem same_trans (a b c : Value) (first : a.same b = true) (second : b.same c = true) :
    a.same c = true := by
  cases b with
  | float y =>
    cases a with
    | float x =>
      cases c with
      | float z => exact float_same_trans first second
      | bool | int | text | list => cases second
    | bool | int | text | list => cases first
  | list bs =>
    cases a with
    | list as =>
      cases c with
      | list cs => exact sameList_trans as bs cs first second
      | bool | int | text | float => cases second
    | bool | int | text | float => cases first
  | bool y =>
    cases a with
    | bool x =>
      obtain rfl := beq_iff_eq.mp first
      exact second
    | int | float | text | list => cases first
  | int y =>
    cases a with
    | int x =>
      obtain rfl := beq_iff_eq.mp first
      exact second
    | bool | float | text | list => cases first
  | text y =>
    cases a with
    | text x =>
      obtain rfl := beq_iff_eq.mp first
      exact second
    | bool | int | float | list => cases first

theorem sameList_trans (as bs cs : List Value) (first : sameList as bs = true)
    (second : sameList bs cs = true) : sameList as cs = true := by
  cases as with
  | nil =>
    cases bs with
    | nil => exact second
    | cons => cases first
  | cons a as =>
    cases bs with
    | nil => cases first
    | cons b bs =>
      cases cs with
      | nil => cases second
      | cons c cs =>
        unfold sameList at first second ⊢
        obtain ⟨head, tail⟩ := Bool.and_eq_true_iff.mp first
        obtain ⟨head', tail'⟩ := Bool.and_eq_true_iff.mp second
        exact Bool.and_eq_true_iff.mpr
          ⟨same_trans a b c head head', sameList_trans as bs cs tail tail'⟩

end

def Distinct (items : List Value) : Prop :=
  items.Pairwise fun a b => (a == b) = false ∧ (b == a) = false

theorem foldl_adjoin_distinct (distinct : Distinct held) :
    Distinct (more.foldl adjoin held) := by
  induction more generalizing held with
  | nil => exact distinct
  | cons item rest ih =>
    apply ih
    unfold adjoin
    split
    · exact distinct
    · rename_i unknown
      have new {a : Value} (there : a ∈ held) : (a == item) = false :=
        Bool.eq_false_iff.mpr fun same => unknown (List.any_eq_true.mpr ⟨a, there, same⟩)
      unfold Distinct
      rw [List.pairwise_append]
      refine ⟨distinct, List.pairwise_singleton .., fun a there b alone => ?_⟩
      cases List.mem_singleton.mp alone
      refine ⟨new there, Bool.eq_false_iff.mpr fun same => ?_⟩
      exact Bool.eq_false_iff.mp (new there) (same_symm item a same)

end Value

namespace Flow

variable {flow : Flow} {name : String} {w : Value}

theorem find?_sanitize {extracted : Data} : (flow.sanitize extracted).find? name = some w ↔
    ∃ v declaration, extracted.find? name = some v ∧ flow.field? name = some declaration ∧
      v.isBlank = false ∧ v.coerce declaration.kind = some w := by
  unfold sanitize
  rw [Table.find?_filterMap, Option.bind_eq_some_iff]
  constructor
  · rintro ⟨v, given, taken⟩
    split at taken
    · cases taken
    · rename_i declaration declared
      split at taken
      · cases taken
      · rename_i given' filled
        exact ⟨v, declaration, given, declared, Bool.eq_false_iff.mpr filled, taken⟩
  · rintro ⟨v, declaration, given, declared, filled, taken⟩
    refine ⟨v, given, ?_⟩
    rw [declared]
    simpa [filled] using taken

theorem find?_merge (flow : Flow) (committed extracted : Data) (name : String) :
    (flow.merge committed extracted).find? name =
      ((extracted.find? name).map (flow.mergeField committed name)).or (committed.find? name) := by
  unfold merge
  rw [Table.find?_overlay, Table.find?_map]

end Flow

end Colloquy
