import Colloquy.Proofs.Merging
import Colloquy.Proofs.Resumption

/-! What the data of a conversation may hold. -/
namespace Colloquy

structure FieldDeclaration.Fits (d : FieldDeclaration) (v : Value) : Prop where
  filled : v.isBlank = false
  replaced : d.merge = .replace → v.kind = d.kind
  accumulated : d.merge = .accumulate → ∃ items, v = .list items ∧ items ≠ [] ∧
    Value.Distinct items ∧ (d.kind ≠ .list → ∀ item ∈ items, item.kind = d.kind)

def Flow.Fitting (flow : Flow) (data : Data) : Prop :=
  ∀ name v, data.find? name = some v → ∃ d, flow.field? name = some d ∧ d.Fits v

namespace Value

variable {v w : Value} {kind : Kind}

theorem coerce_kind (coerced : v.coerce kind = some w) : w.kind = kind := by
  unfold coerce at coerced
  split at coerced
  · cases coerced
    rfl
  · cases coerced
    rfl
  · split at coerced
    · cases coerced
      assumption
    · cases coerced

theorem items_filled (filled : v.isBlank = false) : v.items ≠ [] := by
  cases v with
  | list items =>
    rintro rfl
    cases filled
  | bool | int | float | text => exact List.cons_ne_nil _ _

theorem coerce_filled (coerced : v.coerce kind = some w) (filled : v.isBlank = false) :
    w.isBlank = false := by
  unfold coerce at coerced
  split at coerced
  · cases coerced
    rfl
  · cases coerced
    exact List.isEmpty_eq_false_iff.mpr (items_filled filled)
  · split at coerced
    · cases coerced
      exact filled
    · cases coerced

theorem items_single (single : v.kind ≠ .list) : v.items = [v] := by
  cases v with
  | list items => exact absurd rfl single
  | bool | int | float | text => rfl

end Value

open Value

namespace Flow

variable {flow : Flow} {committed extracted : Data} {d : FieldDeclaration}

theorem accumulate_fits {existing : Option Value} {w : Value} (d : FieldDeclaration)
    (policy : d.merge = .accumulate) (held : ∀ v, existing = some v → d.Fits v)
    (kind : w.kind = d.kind) (filled : w.isBlank = false) : d.Fits (accumulate existing w) := by
  have before : Distinct (existing.elim [] items) ∧ (d.kind ≠ .list →
      ∀ item ∈ existing.elim [] items, item.kind = d.kind) := by
    cases existing with
    | none => exact ⟨.nil, fun _ _ never => by cases never⟩
    | some v =>
      obtain ⟨items, rfl, _, distinct, kinds⟩ := (held v rfl).accumulated policy
      exact ⟨distinct, kinds⟩
  have some : w.items.foldl adjoin (existing.elim [] items) ≠ [] := by
    intro none
    obtain ⟨item, there⟩ := List.exists_mem_of_ne_nil _ (items_filled filled)
    obtain ⟨kept, member, _⟩ : ∃ kept ∈ w.items.foldl adjoin (existing.elim [] items), _ :=
      foldl_adjoin_covers there
    rw [none] at member
    cases member
  refine ⟨List.isEmpty_eq_false_iff.mpr some, fun replaced => ?_, fun _ => ?_⟩
  · rw [policy] at replaced
    cases replaced
  · refine ⟨_, rfl, some, foldl_adjoin_distinct before.1, fun single item member => ?_⟩
    rcases mem_foldl_adjoin member with old | new
    · exact before.2 single item old
    · rw [items_single (kind ▸ single)] at new
      rw [List.mem_singleton.mp new, kind]

theorem sanitize_fits {name : String} {w : Value}
    (taken : (flow.sanitize extracted).find? name = some w) :
    ∃ d, flow.field? name = some d ∧ w.kind = d.kind ∧ w.isBlank = false := by
  obtain ⟨v, d, _, declared, filled, coerced⟩ := find?_sanitize.mp taken
  exact ⟨d, declared, coerce_kind coerced, coerce_filled coerced filled⟩

theorem merge_fitting (fitting : flow.Fitting committed) :
    flow.Fitting (flow.merge committed (flow.sanitize extracted)) := by
  intro name v found
  rw [find?_merge] at found
  cases taken : (flow.sanitize extracted).find? name with
  | none =>
    rw [taken] at found
    exact fitting name v found
  | some w =>
    rw [taken] at found
    obtain ⟨d, declared, kind, filled⟩ := sanitize_fits taken
    refine ⟨d, declared, ?_⟩
    cases Option.some.inj found
    have policy : flow.mergeOf name = d.merge := by
      unfold mergeOf
      rw [declared]
      rfl
    unfold mergeField
    rw [policy]
    cases merge : d.merge with
    | replace => exact ⟨filled, fun _ => kind, fun other => by rw [merge] at other; cases other⟩
    | accumulate =>
      apply accumulate_fits d merge _ kind filled
      intro v held
      obtain ⟨d', declared', fits⟩ := fitting name v held
      rw [declared] at declared'
      cases declared'
      exact fits

end Flow

-- Whatever is taken in, and whatever the sources are.
theorem Engine.reached_fitting {engine : Engine} {c : Conversation} (reached : engine.Reached c) :
    engine.flow.Fitting c.data := by
  induction reached with
  | start id now => exact fun _ _ never => by cases never
  | turn input now _ ih => exact Flow.merge_fitting ih
  | reset now _ _ => exact fun _ _ never => by cases never

-- A single wish is a list of wishes.
theorem bargain_fitting :
    let left := (shopEngine.turn (shopEngine.start "visitor" .epoch) bargain .epoch).conversation
    shopEngine.Reached left ∧ shopEngine.flow.Fitting left.data ∧
    left.data.find? "wishes" = some (.list [.text "blue"]) := by
  intro left
  have reached : shopEngine.Reached left := .turn _ _ (.start "visitor" .epoch)
  exact ⟨reached, Engine.reached_fitting reached, by rfl⟩

end Colloquy
