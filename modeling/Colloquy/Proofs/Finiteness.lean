import Colloquy.Proofs.Course
import Colloquy.Proofs.Floats
import Colloquy.Proofs.Merging
import Colloquy.Proofs.Resumption

/-!
Floats that are infinite or not numbers: nothing on the way into a conversation keeps them out.
-/
namespace Colloquy

-- No float in it, at any depth, is infinite or not a number.
inductive Value.Finite : Value → Prop where
  | bool (b : Bool) : Finite (.bool b)
  | int (n : Int64) : Finite (.int n)
  | float {x : Float} (finite : x.isFinite = true) : Finite (.float x)
  | text (s : String) : Finite (.text s)
  | list {items : List Value} (each : ∀ v ∈ items, v.Finite) : Finite (.list items)

def Data.Finite (data : Data) : Prop := ∀ name v, data.find? name = some v → v.Finite

theorem Data.empty_finite : Data.Finite .empty := by
  intro name v found
  rw [Table.find?_empty] at found
  cases found

structure Conversation.Finite (c : Conversation) : Prop where
  data : c.data.Finite
  updates : ∀ r ∈ c.lastDecision, r.decision.dataUpdates.Finite

namespace Value

variable {v w : Value}

theorem sameList_finite {as bs : List Value}
    (each : ∀ a ∈ as, ∀ b, a.same b = true → b.Finite) (same : sameList as bs = true) :
    ∀ b ∈ bs, b.Finite := by
  induction as generalizing bs with
  | nil =>
    cases bs with
    | nil => exact nofun
    | cons => cases same
  | cons a as ih =>
    cases bs with
    | nil => cases same
    | cons b bs =>
      unfold sameList at same
      obtain ⟨first, rest⟩ := Bool.and_eq_true_iff.mp same
      obtain ⟨here, later⟩ := List.forall_mem_cons.mp each
      exact List.forall_mem_cons.mpr ⟨here b first, ih later rest⟩

theorem Finite.of_same (finite : v.Finite) (same : v.same w = true) : w.Finite := by
  induction finite generalizing w with
  | bool b => cases w <;> first | exact .bool _ | cases same
  | int n => cases w <;> first | exact .int _ | cases same
  | text s => cases w <;> first | exact .text _ | cases same
  | float finite =>
    cases w with
    | float y => exact .float (float_finite_of_same finite same)
    | bool | int | text | list => cases same
  | list each ih =>
    cases w with
    | list bs => exact .list (sameList_finite ih same)
    | bool | int | text | float => cases same

theorem finite_items : v.Finite ↔ ∀ item ∈ v.items, item.Finite := by
  cases v with
  | list items =>
    constructor
    · intro finite
      cases finite with
      | list each => exact each
    · exact .list
  | bool | int | text | float => exact List.forall_mem_singleton.symm

-- An item that is passed over is finite with the one it equals.
theorem accumulate_finite {existing : Option Value} (held : ∀ e ∈ existing, e.Finite) :
    (accumulate existing v).Finite ↔ v.Finite := by
  rw [finite_items, finite_items (v := v)]
  constructor
  · intro each item member
    obtain ⟨kept, there, rfl | same⟩ := foldl_adjoin_covers member
    · exact each kept there
    · exact (each kept there).of_same same
  · intro each item member
    rcases mem_foldl_adjoin member with old | new
    · cases existing with
      | none => cases old
      | some e => exact finite_items.mp (held e rfl) item old
    · exact each item new

theorem coerce_finite {kind : Kind} (finite : v.Finite) (coerced : v.coerce kind = some w) :
    w.Finite := by
  unfold coerce at coerced
  split at coerced
  · cases coerced
    exact .float (widen_finite _)
  · cases coerced
    exact .list (finite_items.mp finite)
  · split at coerced
    · cases coerced
      exact finite
    · cases coerced

end Value

namespace Flow

variable {flow : Flow} {committed extracted : Data}

theorem sanitize_finite (finite : extracted.Finite) : (flow.sanitize extracted).Finite := by
  intro name w found
  obtain ⟨v, declaration, given, _, _, coerced⟩ := find?_sanitize.mp found
  exact Value.coerce_finite (finite name v given) coerced

theorem merge_finite (held : committed.Finite) :
    (flow.merge committed extracted).Finite ↔ extracted.Finite := by
  have field (name : String) (v : Value) :
      (flow.mergeField committed name v).Finite ↔ v.Finite := by
    unfold mergeField
    split
    · exact Value.accumulate_finite fun e there => held name e there
    · rfl
  constructor
  · intro finite name v given
    refine (field name v).mp (finite name _ ?_)
    rw [find?_merge, given]
    rfl
  · intro finite name w found
    rw [find?_merge, Option.or_eq_some_iff] at found
    rcases found with new | ⟨_, old⟩
    · obtain ⟨v, given, rfl⟩ := Option.map_eq_some_iff.mp new
      exact (field name v).mpr (finite name v given)
    · exact held name w old

end Flow

theorem Turn.dataUpdates_finite {s : Snapshot} (finite : s.prospective.Finite) :
    (dataUpdates s).Finite := by
  intro name w found
  unfold dataUpdates at found
  rw [Table.find?_filterMap, Option.bind_eq_some_iff] at found
  obtain ⟨v, there, changed⟩ := found
  split at changed
  · cases changed
  · cases changed
    exact finite name _ there

theorem Engine.turn_finite (engine : Engine) {c : Conversation} (held : c.data.Finite)
    (input : TurnInput) (now : Instant) :
    (engine.turn c input now).conversation.Finite ↔ (engine.snapshot c input).extracted.Finite := by
  have merged : (engine.snapshot c input).prospective.Finite ↔
      (engine.snapshot c input).extracted.Finite := Flow.merge_finite held
  constructor
  · exact fun finite => merged.mp finite.data
  · intro finite
    refine ⟨merged.mpr finite, ?_⟩
    rintro _ ⟨⟩
    exact Turn.dataUpdates_finite (merged.mpr finite)

namespace Course

-- Every turn of the log took in finite data, and every turn left finite data.
def TookFinite (t : Course) : Prop := ∀ turn ∈ t.log, turn.snapshot.extracted.Finite

def LeftFinite (t : Course) : Prop := ∀ turn ∈ t.log, turn.result.conversation.Finite

structure FiniteSoFar (t : Course) : Prop where
  same : t.TookFinite ↔ t.LeftFinite
  held : t.TookFinite → t.conversation.Finite

theorem fresh_finite (engine : Engine) (id initial : String) (limit : Nat) (now : Instant) :
    FiniteSoFar ⟨engine, .begin id initial limit now, initial, []⟩ where
  same := iff_of_true (List.forall_mem_nil _) (List.forall_mem_nil _)
  held _ := ⟨Data.empty_finite, fun _ never => nomatch never⟩

theorem step_finite (t : Course) (step : Step) (before : t.FiniteSoFar) :
    (t.step step).FiniteSoFar := by
  cases step with
  | reload flow => exact ⟨before.same, before.held⟩
  | reset now => exact fresh_finite ..
  | turn input now =>
    let s := t.engine.snapshot t.conversation input
    let result := t.engine.turn t.conversation input now
    have took : (t.step (.turn input now)).TookFinite ↔ t.TookFinite ∧ s.extracted.Finite := by
      unfold TookFinite step
      simp only [List.forall_mem_append, List.forall_mem_singleton]
      rfl
    have left : (t.step (.turn input now)).LeftFinite ↔
        t.LeftFinite ∧ result.conversation.Finite := by
      unfold LeftFinite step
      simp only [List.forall_mem_append, List.forall_mem_singleton]
      rfl
    have here (all : t.TookFinite) : result.conversation.Finite ↔ s.extracted.Finite :=
      t.engine.turn_finite (before.held all).data input now
    refine ⟨?_, fun all => ?_⟩
    · rw [took, left, ← before.same]
      exact and_congr_right fun all => (here all).symm
    · obtain ⟨all, new⟩ := took.mp all
      exact (here all).mpr new

theorem run_finite (engine : Engine) (id : String) (now : Instant) (steps : List Step) :
    ((begin engine id now).run steps).FiniteSoFar :=
  run_keeps step_finite _ (fresh_finite ..) steps

theorem took_finite {steps : List Step}
    (given : ∀ input now, Step.turn input now ∈ steps → input.extracted.Finite) (t : Course)
    (before : t.TookFinite) : (t.run steps).TookFinite := by
  induction steps generalizing t with
  | nil => exact before
  | cons step rest ih =>
    refine ih (fun input now later => given input now (List.mem_cons_of_mem _ later)) _ ?_
    cases step with
    | reload flow => exact before
    | reset now => exact List.forall_mem_nil _
    | turn input now =>
      have finite := given input now List.mem_cons_self
      exact List.forall_mem_append.mpr
        ⟨before, List.forall_mem_singleton.mpr (Flow.sanitize_finite finite)⟩

theorem finite_iff_taken (engine : Engine) (id : String) (now : Instant) (steps : List Step) :
    let t := (begin engine id now).run steps
    (t.LeftFinite ↔ t.TookFinite) ∧ (t.TookFinite → t.conversation.Finite) ∧
    ((∀ input at', Step.turn input at' ∈ steps → input.extracted.Finite) → t.TookFinite) := by
  intro t
  have finite := run_finite engine id now steps
  exact ⟨finite.same.symm, finite.held, fun given => took_finite given _ (List.forall_mem_nil _)⟩

end Course

-- A price without bound, as a script may state it. Its field keeps it.
def boundless : TurnInput := ⟨"hello", Table.ofList [("price", .float (1 / 0))]⟩

theorem boundless_held :
    let left := (shopEngine.turn (shopEngine.start "visitor" .epoch) boundless .epoch).conversation
    Flow.build shop = .ok shopEngine.flow ∧ ¬ left.Finite := by
  intro left
  refine ⟨by rfl, fun finite => ?_⟩
  have held : left.data.find? "price" = some (.float (1 / 0)) := by rfl
  cases finite.data "price" _ held with
  | float finite => exact absurd finite (by decide +kernel)

end Colloquy
