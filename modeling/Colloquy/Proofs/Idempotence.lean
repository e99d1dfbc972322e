import Colloquy.Proofs.Holdings

/-!
The data that a turn leaves: its updates tell it from the data before, and data that was taken in
once is taken in again without a trace.
-/
namespace Colloquy

inductive Value.Defined : Value → Prop where
  | bool (b : Bool) : Defined (.bool b)
  | int (n : Int64) : Defined (.int n)
  | float {x : Float} (number : x.isNaN = false) : Defined (.float x)
  | text (s : String) : Defined (.text s)
  | list {items : List Value} (each : ∀ v ∈ items, v.Defined) : Defined (.list items)

def Data.Defined (data : Data) : Prop := ∀ name v, data.find? name = some v → v.Defined

-- It equals itself, which a value with an undefined float does not.
def Value.Selfsame (v : Value) : Prop := (v == v) = true

def Data.Selfsame (data : Data) : Prop := ∀ name v, data.find? name = some v → v.Selfsame

theorem float_same_number {x : Float} (number : x.isNaN = false) : (x == x) = true := by
  change x.toModel.unpack.isNaN = false at number
  change (x.toModel.unpack.compare x.toModel.unpack == some .eq) = true
  cases value : x.toModel.unpack with
  | infinity s => cases s <;> rfl
  | notANumber =>
    rw [value] at number
    cases number
  | zero s => rfl
  | finite s m e positive => cases s <;> simp [Float.Model.UnpackedFloat.compare]

namespace Value

variable {v w : Value}

theorem Defined.selfsame (defined : v.Defined) : v.Selfsame := by
  induction defined with
  | bool b => exact beq_self_eq_true b
  | int n => exact beq_self_eq_true n
  | float number => exact float_same_number number
  | text s => exact beq_self_eq_true s
  | list each ih => exact sameList_self ih

theorem sameList_each {items : List Value} (same : sameList items items = true) :
    ∀ item ∈ items, item.Selfsame := by
  induction items with
  | nil => simp
  | cons item rest ih =>
    unfold sameList at same
    obtain ⟨here, later⟩ := Bool.and_eq_true_iff.mp same
    exact List.forall_mem_cons.mpr ⟨here, ih later⟩

theorem selfsame_items : v.Selfsame ↔ ∀ item ∈ v.items, item.Selfsame := by
  cases v with
  | list items => exact ⟨sameList_each, sameList_self⟩
  | bool | int | float | text => exact List.forall_mem_singleton.symm

theorem Selfsame.coerce {kind : Kind} (same : v.Selfsame) (coerced : v.coerce kind = some w) :
    w.Selfsame := by
  unfold Value.coerce at coerced
  split at coerced
  · cases coerced
    exact float_same (widen_finite _)
  · cases coerced
    exact sameList_self (selfsame_items.mp same)
  · split at coerced
    · cases coerced
      exact same
    · cases coerced

theorem Selfsame.accumulate {existing : Option Value} (held : ∀ e ∈ existing, e.Selfsame)
    (same : v.Selfsame) : (accumulate existing v).Selfsame := by
  apply sameList_self
  intro item member
  rcases mem_foldl_adjoin member with old | new
  · cases existing with
    | none => cases old
    | some e => exact selfsame_items.mp (held e rfl) item old
  · exact selfsame_items.mp same item new

theorem foldl_adjoin_known {held more : List Value}
    (known : ∀ item ∈ more, held.any (· == item) = true) : more.foldl adjoin held = held := by
  induction more with
  | nil => rfl
  | cons item rest ih =>
    obtain ⟨here, later⟩ := List.forall_mem_cons.mp known
    rw [List.foldl_cons, adjoin, if_pos here, ih later]

-- All items of a value stand in the list that took it in, so taking it in again adds none.
theorem accumulate_again (same : v.Selfsame) (existing : Option Value) :
    accumulate (some (accumulate existing v)) v = accumulate existing v := by
  apply congrArg Value.list
  apply foldl_adjoin_known
  intro item member
  obtain ⟨kept, there, equal⟩ : ∃ kept ∈ v.items.foldl adjoin (existing.elim [] items),
      kept = item ∨ (kept == item) = true := foldl_adjoin_covers member
  refine List.any_eq_true.mpr ⟨kept, there, ?_⟩
  rcases equal with rfl | equal
  · exact selfsame_items.mp same kept member
  · exact equal

-- A value of the kind asked for is taken as it is.
theorem coerce_fitting {kind : Kind} (fits : v.kind = kind) : v.coerce kind = some v := by
  subst fits
  cases v <;> rfl

end Value

namespace Flow

variable {flow : Flow} {committed extracted : Data}

theorem sanitize_selfsame (same : extracted.Selfsame) : (flow.sanitize extracted).Selfsame := by
  intro name w found
  obtain ⟨v, declaration, given, _, _, coerced⟩ := find?_sanitize.mp found
  exact (same name v given).coerce coerced

theorem merge_selfsame (held : committed.Selfsame) (taken : extracted.Selfsame) :
    (flow.merge committed extracted).Selfsame := by
  intro name w found
  rw [find?_merge, Option.or_eq_some_iff] at found
  rcases found with new | ⟨_, old⟩
  · obtain ⟨v, given, rfl⟩ := Option.map_eq_some_iff.mp new
    unfold mergeField
    split
    · exact (taken name v given).accumulate fun e there => held name e there
    · exact taken name v given
  · exact held name w old

theorem sanitize_idempotent (flow : Flow) (extracted : Data) :
    flow.sanitize (flow.sanitize extracted) = flow.sanitize extracted := by
  apply Table.ext_find?
  intro name
  ext w
  constructor
  · intro found
    obtain ⟨v, declaration, taken, declared, _, coerced⟩ := find?_sanitize.mp found
    obtain ⟨_, known, kind, _⟩ := sanitize_fits taken
    rw [declared] at known
    cases known
    rw [Value.coerce_fitting kind] at coerced
    rwa [← Option.some.inj coerced]
  · intro taken
    obtain ⟨declaration, declared, kind, filled⟩ := sanitize_fits taken
    exact find?_sanitize.mpr ⟨w, declaration, taken, declared, filled, Value.coerce_fitting kind⟩

theorem merge_again (same : extracted.Selfsame) (committed : Data) :
    flow.merge (flow.merge committed extracted) extracted = flow.merge committed extracted := by
  apply Table.ext_find?
  intro name
  rw [find?_merge]
  cases given : extracted.find? name with
  | none => rfl
  | some v =>
    have merged : (flow.merge committed extracted).find? name =
        some (flow.mergeField committed name v) := by
      rw [find?_merge, given]
      rfl
    rw [merged, Option.map_some, Option.some_or]
    unfold mergeField at merged ⊢
    cases policy : flow.mergeOf name with
    | replace => rfl
    | accumulate =>
      rw [policy] at merged
      rw [merged]
      exact congrArg some (Value.accumulate_again (same name v given) _)

end Flow

theorem entries_beq {l m : List (String × Value)} (keys : l.map (·.1) = m.map (·.1))
    (each : ∀ p ∈ l, ∀ q ∈ m, p.1 = q.1 → (p.2 == q.2) = true) : (l == m) = true := by
  induction l generalizing m with
  | nil =>
    rw [List.map_eq_nil_iff.mp keys.symm]
    rfl
  | cons p rest ih =>
    cases m with
    | nil => cases keys
    | cons q others =>
      obtain ⟨key, keys⟩ := List.cons.inj keys
      have first := each p List.mem_cons_self q List.mem_cons_self key
      have later := ih keys fun p here q there =>
        each p (List.mem_cons_of_mem _ here) q (List.mem_cons_of_mem _ there)
      change ((p.1 == q.1 && p.2 == q.2) && rest == others) = true
      rw [first, later, beq_iff_eq.mpr key]
      rfl

theorem Data.beq_of_find? {data other : Data}
    (same : ∀ name, (data.find? name == other.find? name) = true) : (data == other) = true := by
  apply entries_beq
  · apply Table.keys_congr
    intro name
    rw [Table.mem_keys, Table.mem_keys, Table.contains, Table.contains]
    have equal := same name
    cases one : data.find? name <;> cases two : other.find? name <;> simp_all
  · rintro ⟨name, v⟩ here ⟨other, w⟩ there rfl
    have equal := same name
    rw [Table.find?_iff_mem.mpr here, Table.find?_iff_mem.mpr there] at equal
    exact equal

namespace Turn

variable (s : Snapshot)

theorem find?_dataUpdates (name : String) : (dataUpdates s).find? name =
    if s.conversation.data.find? name == s.prospective.find? name then none
    else s.prospective.find? name := by
  unfold dataUpdates
  rw [Table.find?_filterMap]
  cases found : s.prospective.find? name with
  | none => simp
  | some v => rfl

theorem overlay_dataUpdates (same : s.prospective.Selfsame)
    (kept : ∀ name, s.prospective.find? name = none → s.conversation.data.find? name = none) :
    (s.conversation.data.overlay (dataUpdates s) == s.prospective) = true := by
  apply Data.beq_of_find?
  intro name
  rw [Table.find?_overlay, find?_dataUpdates]
  split
  · rename_i equal
    rwa [Option.none_or]
  · cases found : s.prospective.find? name with
    | none =>
      rw [kept name found]
      rfl
    | some v => exact same name v found

theorem dataUpdates_empty (same : s.prospective.Selfsame)
    (settled : s.prospective = s.conversation.data) : dataUpdates s = .empty := by
  apply Table.ext_find?
  intro name
  rw [find?_dataUpdates, ← settled, Table.find?_empty]
  cases found : s.prospective.find? name with
  | none => rfl
  | some v => exact if_pos (same name v found)

end Turn

theorem data_settles (registry : Registry) (flow : Flow) (c : Conversation) (input : TurnInput)
    (now : Instant) (held : c.data.Defined) (given : input.extracted.Defined) :
    let turn := processTurn registry flow c input now
    let before := c.data
    let after := turn.conversation.data
    (∀ name, turn.decision.dataUpdates.find? name =
      if before.find? name == after.find? name then none else after.find? name) ∧
    (before.overlay turn.decision.dataUpdates == after) = true ∧
    (∀ name, (flow.sanitize input.extracted).find? name = none →
      after.find? name = before.find? name) ∧
    flow.sanitize (flow.sanitize input.extracted) = flow.sanitize input.extracted ∧
    flow.merge after (flow.sanitize input.extracted) = after ∧
    ∀ registry' label now',
      let again := processTurn registry' flow turn.conversation ⟨label, input.extracted⟩ now'
      again.decision.dataUpdates = .empty ∧ again.conversation.data = after := by
  intro turn before after
  have taken : (flow.sanitize input.extracted).Selfsame :=
    Flow.sanitize_selfsame fun name v found => (given name v found).selfsame
  have selfsame : after.Selfsame :=
    Flow.merge_selfsame (fun name v found => (held name v found).selfsame) taken
  have unchanged (name : String) (left : (flow.sanitize input.extracted).find? name = none) :
      after.find? name = before.find? name := by
    change (flow.merge c.data (flow.sanitize input.extracted)).find? name = _
    rw [Flow.find?_merge, left]
    rfl
  have settled : flow.merge after (flow.sanitize input.extracted) = after :=
    Flow.merge_again taken c.data
  refine ⟨?updates, ?overlay, unchanged, Flow.sanitize_idempotent flow _, settled, ?again⟩
  case updates => exact Turn.find?_dataUpdates _
  case overlay =>
    apply Turn.overlay_dataUpdates _ selfsame
    intro name missing
    change (flow.merge c.data (flow.sanitize input.extracted)).find? name = none at missing
    rw [Flow.find?_merge, Option.or_eq_none_iff] at missing
    exact missing.2
  case again =>
    -- Which data a turn leaves depends on the extracted data only, whatever it is asked and decides.
    intro registry' label now' again
    refine ⟨Turn.dataUpdates_empty _ ?_ settled, settled⟩
    change (flow.merge after (flow.sanitize input.extracted)).Selfsame
    rw [settled]
    exact selfsame

def wisher : Conversation :=
  { shopper with data := Table.ofList [("price", .float 2.5), ("wishes", .text "blue")] }

theorem wisher_settles : wisher.data.Defined ∧ bargain.extracted.Defined ∧
    let turn := processTurn Registry.standard shopEngine.flow wisher bargain .epoch
    let again := processTurn Registry.standard shopEngine.flow turn.conversation
      ⟨"mumble", bargain.extracted⟩ .epoch
    turn.decision.dataUpdates.find? "wishes" = some (.list [.text "blue"]) ∧
    again.decision.dataUpdates = .empty ∧ again.conversation.data = turn.conversation.data := by
  have listed {data : Data} (each : ∀ p ∈ data.entries, p.2.Defined) : data.Defined :=
    fun name v found => each _ (Table.find?_iff_mem.mp found)
  have held : wisher.data.Defined := by
    have entries : wisher.data.entries = [("price", .float 2.5), ("wishes", .text "blue")] := rfl
    apply listed
    rw [entries]
    simp only [List.forall_mem_cons]
    exact ⟨.float (by decide +kernel), .text _, nofun⟩
  have given : bargain.extracted.Defined := by
    have entries : bargain.extracted.entries = [("price", .int 3), ("wishes", .text "blue")] := rfl
    apply listed
    rw [entries]
    simp only [List.forall_mem_cons]
    exact ⟨.int 3, .text _, nofun⟩
  obtain ⟨updates, _, _, _, _, again⟩ :=
    data_settles Registry.standard shopEngine.flow wisher bargain .epoch held given
  exact ⟨held, given, updates "wishes", again Registry.standard "mumble" .epoch⟩

end Colloquy
