import Colloquy.Proofs.JsonText
import Colloquy.Proofs.Records

/-! A conversation is restored from what it is stored as. -/
namespace Colloquy

open Json

-- Values that a document keeps, with so many levels of lists. That a finite float is read back is
-- asked of each one: it does not hold of all of them.
inductive Value.Kept : (levels : Nat) → Value → Prop where
  | bool {levels : Nat} (b : Bool) : Kept levels (.bool b)
  | int {levels : Nat} (n : Int64) : Kept levels (.int n)
  | float {levels : Nat} {x : Float} (exact : Exact x) : Kept levels (.float x)
  | text {levels : Nat} (s : String) : Kept levels (.text s)
  | list {levels : Nat} {items : List Value} (each : ∀ v ∈ items, Kept levels v) :
      Kept (levels + 1) (.list items)

def Data.Kept (levels : Nat) (data : Data) : Prop := ∀ p ∈ data.entries, p.2.Kept levels

theorem Value.Kept.mono {v : Value} {levels more : Nat} (kept : v.Kept levels)
    (le : levels ≤ more) : v.Kept more := by
  induction kept generalizing more with
  | bool b => exact .bool b
  | int n => exact .int n
  | float exact => exact .float exact
  | text s => exact .text s
  | list each ih =>
    obtain ⟨more, rfl⟩ := Nat.exists_eq_add_of_le le
    rw [Nat.add_right_comm]
    exact .list fun v member => ih v member (Nat.le_add_right ..)

theorem ofValues_eq (vs : List Value) : Document.ofValues vs = vs.map .ofValue := by
  induction vs with
  | nil => rfl
  | cons v rest ih =>
    unfold Document.ofValues
    rw [ih, List.map_cons]

theorem readable_ofValue {v : Value} {levels : Nat} (kept : v.Kept levels) :
    Readable levels (.ofValue v) := by
  induction kept with
  | bool b => exact .bool b
  | int n =>
    have low := Int64.le_toInt n
    have high := Int64.toInt_lt n
    exact .int (by omega) (by omega)
  | float exact => exact .float exact
  | text s => exact .text s
  | list each ih =>
    unfold Document.ofValue
    rw [ofValues_eq]
    refine .list fun d member => ?_
    obtain ⟨v, there, rfl⟩ := List.mem_map.mp member
    exact ih v there

theorem readable_ofData {data : Data} {levels : Nat} (kept : data.Kept levels) :
    Readable (levels + 1) (.ofData data) := by
  refine .table fun p member => ?_
  obtain ⟨q, there, rfl⟩ := List.mem_map.mp member
  exact readable_ofValue (kept q there)

theorem readable_nat {n levels : Nat} (fits : n < Nat.pow 2 64) : Readable levels (.ofNat n) := by
  have bound : Nat.pow 2 64 = 18446744073709551616 := by decide
  exact .int (by omega) (by omega)

theorem readable_count {n levels : Nat} (fits : n < countBound) : Readable levels (.ofNat n) :=
  readable_nat (Nat.lt_trans fits (by decide))

theorem readable_map {f : α → Document} {l : List α} {levels : Nat}
    (each : ∀ a ∈ l, Readable levels (f a)) : Readable (levels + 1) (.list (l.map f)) := by
  refine .list fun d member => ?_
  obtain ⟨a, there, rfl⟩ := List.mem_map.mp member
  exact each a there

theorem TurnRecord.readable {r : TurnRecord} {levels : Nat} (fits : r.turn < countBound) :
    Readable (levels + 1) r.encode := by
  refine .table ?_
  simp only [List.forall_mem_cons]
  exact ⟨readable_count fits, .text _, .text _, .text _, .text _, nofun⟩

theorem Counters.readable {c : Counters} {levels : Nat} (fits : c.Fits) :
    Readable (levels + 1) c.encode := by
  refine .table ?_
  simp only [List.forall_mem_cons]
  exact ⟨readable_count fits.streak, readable_count fits.consecutive, readable_count fits.total,
    readable_count fits.unclear, nofun⟩

theorem TraceEntry.readable {e : TraceEntry} {levels : Nat} (fits : e.rank < countBound) :
    Readable (levels + 1) e.encode := by
  refine .table ?_
  simp only [List.forall_mem_cons]
  exact ⟨.text _, .text _, .text _, .text _, readable_count fits, .text _, .text _, nofun⟩

theorem Decision.readable {d : Decision} {levels : Nat} (fits : d.Fits)
    (kept : d.dataUpdates.Kept (levels + 1)) : Readable (levels + 3) d.encode := by
  refine .table ?_
  simp only [List.forall_mem_append, List.forall_mem_cons]
  have source : ∀ p ∈ (d.winningSource.map fun s => ("winning_source", Document.text s)).toList,
      Readable (levels + 2) p.2 := by
    cases d.winningSource with
    | none => exact nofun
    | some s => simpa using .text s
  exact ⟨⟨⟨.text _, .text _, readable_map fun _ _ => .text _, .bool _, .bool _, nofun⟩, source⟩,
    readable_ofData kept, readable_map fun e member => TraceEntry.readable (fits e member), nofun⟩

namespace Conversation

structure Storable (c : Conversation) : Prop where
  fits : c.Fits
  data : c.data.Kept 125
  updates : ∀ r ∈ c.lastDecision, r.decision.dataUpdates.Kept 123

theorem readable {c : Conversation} (storable : c.Storable) : Readable 127 c.encode := by
  have fits := storable.fits
  refine .table ?_
  unfold encodeBody
  simp only [List.forall_mem_append, List.forall_mem_cons]
  have history : Readable 126 (.list (c.history.map TurnRecord.encode)) :=
    readable_map fun r member => TurnRecord.readable (fits.history r member)
  have tiers : Readable 126 (encodeTiers c.tiers) := by
    refine .table fun p member => ?_
    obtain ⟨q, _, rfl⟩ := List.mem_map.mp member
    exact .text _
  have last : ∀ p ∈ (c.lastDecision.map fun r => ("last_decision", r.encode)).toList,
      Readable 126 p.2 := by
    cases last : c.lastDecision with
    | none => exact nofun
    | some r =>
      have fitting := fits.lastDecision r last
      have turn : Readable 125 (.ofNat r.turn) := readable_count fitting.turn
      have decision := Decision.readable fitting.decision (storable.updates r last)
      simpa using .table (by simpa [DatedDecision.encode] using ⟨turn, decision⟩)
  exact ⟨⟨⟨.text _, .text _, readable_ofData storable.data, readable_count fits.turn, history,
    readable_nat fits.historyLimit, Counters.readable fits.counters, tiers, nofun⟩, last⟩,
    .text _, .text _, nofun⟩

theorem ofJson_toJson {c : Conversation} (storable : c.Storable) : ofJson c.toJson = .ok c := by
  unfold ofJson Document.ofText toJson
  rw [read_pretty (readable storable) (by decide)]
  dsimp only
  rw [decode_encode storable.fits]
  rfl

end Conversation

end Colloquy
