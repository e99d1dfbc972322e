import Colloquy.Conversation.Codec
import Colloquy.Proofs.Timestamps
import Mathlib.Data.List.Nodup

/-! What a record is written as reads back, if its numbers fit their fields. -/
namespace Colloquy

theorem Table.place_last {key : String} {value : α} {l : List (String × α)}
    (last : ∀ k ∈ l.map (·.1), k < key) : place key value l = l ++ [(key, value)] := by
  induction l with
  | nil => rfl
  | cons head rest ih =>
    obtain ⟨k, v⟩ := head
    obtain ⟨below, later⟩ := List.forall_mem_cons.mp last
    unfold place
    rw [if_neg (String.lt_asymm below), if_pos below, ih later]
    rfl

theorem Table.foldl_insert_entries (t : Table α) {l : List (String × α)}
    (ordered : ((t.entries ++ l).map (·.1)).Pairwise (· < ·)) :
    (l.foldl (fun acc p => acc.insert p.1 p.2) t).entries = t.entries ++ l := by
  induction l generalizing t with
  | nil => simp
  | cons p rest ih =>
    have inserted : (t.insert p.1 p.2).entries = t.entries ++ [p] := by
      refine place_last fun k member => ?_
      rw [List.map_append, List.pairwise_append] at ordered
      exact ordered.2.2 k member p.1 (by simp)
    rw [List.foldl_cons, ih, inserted]
    · simp
    · rw [inserted]
      simpa using ordered

theorem Table.ofList_entries (t : Table α) : ofList t.entries = t := by
  apply Table.ext
  have ordered : (((empty : Table α).entries ++ t.entries).map (·.1)).Pairwise (· < ·) := t.ordered
  exact foldl_insert_entries empty ordered

namespace Document

theorem mapM_pure {f : α → β} {read : β → Decoded α} {l : List α}
    (each : ∀ a ∈ l, read (f a) = pure a) : (l.map f).mapM read = pure l := by
  induction l with
  | nil => rfl
  | cons a rest ih =>
    obtain ⟨here, later⟩ := List.forall_mem_cons.mp each
    rw [List.map_cons, List.mapM_cons, here, pure_bind, ih later, pure_bind]

theorem listOf_map {f : α → Document} {read : Document → Decoded α} {l : List α}
    (each : ∀ a ∈ l, read (f a) = pure a) : listOf read (.list (l.map f)) = pure l :=
  mapM_pure each

theorem tableOf_map {f : α → Document} {read : Document → Decoded α} {t : Table α}
    (each : ∀ p ∈ t.entries, read (f p.2) = pure p.2) :
    tableOf read (.table (t.entries.map fun p => (p.1, f p.2))) = pure t := by
  have entries : (t.entries.map fun p => (p.1, f p.2)).mapM
      (fun p => (p.1, ·) <$> read p.2 : String × Document → Decoded (String × α)) =
        pure t.entries := by
    apply mapM_pure
    intro p member
    rw [each p member, map_pure]
  unfold tableOf
  dsimp only
  rw [entries, pure_bind, Table.ofList_entries]

theorem natBelow_ofNat {n bound : Nat} (fits : n < bound) :
    natBelow bound (.ofNat n) = pure n := by
  unfold ofNat natBelow
  dsimp only
  rw [if_pos ⟨Int.natCast_nonneg n, Int.ofNat_lt.mpr fits⟩, Int.toNat_natCast]

theorem oneOf_name {all : List α} {name : α → String} {a : α}
    (found : all.find? (name · == name a) = some a) : oneOf all name (.text (name a)) = pure a := by
  unfold oneOf named
  dsimp only
  rw [found]

mutual

theorem value_ofValue (v : Value) : value? (ofValue v) = pure v := by
  cases v with
  | bool b => rfl
  | int n =>
    have low : Int64.minValue.toInt ≤ n.toInt := Int64.minValue_le_toInt n
    have high : n.toInt ≤ Int64.maxValue.toInt := Int64.toInt_le n
    unfold ofValue value?
    rw [if_pos ⟨low, high⟩, Int64.ofInt_toInt]
  | float x => rfl
  | text s => rfl
  | list items =>
    unfold ofValue value?
    rw [values_ofValues items, map_pure]

theorem values_ofValues (vs : List Value) : values? (ofValues vs) = pure vs := by
  cases vs with
  | nil => rfl
  | cons v rest =>
    unfold ofValues values?
    rw [value_ofValue v, pure_bind, values_ofValues rest, pure_bind]

end

theorem data_ofData (data : Data) : data? (.ofData data) = pure data :=
  tableOf_map fun p _ => value_ofValue p.2

theorem fields_table {names : List String} {entries : List (String × Document)}
    (inOrder : (entries.map (·.1)).isSublist names = true) (once : names.Nodup) :
    fields names (.table entries) = pure ⟨entries⟩ := by
  have keys : (entries.map (·.1)).Sublist names := List.isSublist_iff_sublist.mp inOrder
  have known : entries.filter (names.contains ·.1) = entries := by
    refine List.filter_eq_self.mpr fun p member => ?_
    exact List.contains_iff_mem.mpr (keys.subset (List.mem_map_of_mem member))
  have single (name : String) : (entries.filter (·.1 == name)).length ≤ 1 := by
    have count := List.nodup_iff_count_le_one.mp (keys.nodup once) name
    rw [List.count, List.countP_map] at count
    rw [← List.countP_eq_length_filter]
    exact count
  unfold fields
  dsimp only
  rw [known, List.find?_eq_none.mpr fun name _ => by simpa using single name]

variable {entries : List (String × Document)} {name : String} {d : Document}
  {read : Document → Decoded α} {a : α}

theorem required_found (found : entries.lookup name = some d) (reads : read d = pure a) :
    (Fields.mk entries).required name read = pure a := by
  unfold Fields.required
  rw [found]
  exact reads

theorem withDefault_found {default : α} (found : entries.lookup name = some d)
    (reads : read d = pure a) : (Fields.mk entries).withDefault name default read = pure a := by
  unfold Fields.withDefault
  rw [found]
  exact reads

theorem optional_found (found : entries.lookup name = some d) (given : d ≠ .null)
    (reads : read d = pure a) : (Fields.mk entries).optional name read = pure (some a) := by
  refine withDefault_found found ?_
  unfold optional
  split
  · exact absurd rfl given
  · rw [reads, map_pure]

theorem optional_absent (absent : entries.lookup name = none) :
    (Fields.mk entries).optional name read = pure none := by
  unfold Fields.optional Fields.withDefault
  rw [absent]

end Document

theorem Decoded.next {x : Decoded α} {more : α → Decoded β} {a : α} {r : Decoded β}
    (reads : x = pure a) (goes : more a = r) : x >>= more = r := by
  rw [reads, pure_bind]
  exact goes

open Document Decoded

namespace Counters

structure Fits (c : Counters) : Prop where
  streak : c.sameStateStreak < countBound
  consecutive : c.consecutiveObjections < countBound
  total : c.totalObjections < countBound
  unclear : c.consecutiveUnclear < countBound

theorem decode_encode {c : Counters} (fits : c.Fits) : decode c.encode = pure c := by
  refine next (fields_table rfl (by decide)) ?_
  refine next (required_found rfl (natBelow_ofNat fits.streak)) ?_
  refine next (required_found rfl (natBelow_ofNat fits.consecutive)) ?_
  refine next (required_found rfl (natBelow_ofNat fits.total)) ?_
  exact next (required_found rfl (natBelow_ofNat fits.unclear)) rfl

end Counters

namespace TurnRecord

theorem decode_encode {r : TurnRecord} (fits : r.turn < countBound) :
    decode r.encode = pure r := by
  refine next (fields_table rfl (by decide)) ?_
  refine next (required_found rfl (natBelow_ofNat fits)) ?_
  refine next (required_found rfl rfl) ?_
  refine next (required_found rfl rfl) ?_
  refine next (required_found rfl rfl) ?_
  exact next (required_found rfl rfl) rfl

end TurnRecord

theorem Tier.decode_name (t : Tier) : decode (.text t.name) = pure t := by
  cases t <;> exact oneOf_name rfl

namespace TraceEntry

theorem decode_encode {e : TraceEntry} (fits : e.rank < countBound) : decode e.encode = pure e := by
  have kind : oneOf [.action, .transition] ProposalKind.name (.text e.kind.name) = pure e.kind := by
    cases e.kind <;> exact oneOf_name rfl
  have priority : Proposal.priority? (.text e.priority.name) = pure e.priority := by
    cases e.priority <;> exact oneOf_name rfl
  have outcome : oneOf TraceOutcome.all TraceOutcome.name (.text e.outcome.name) =
      pure e.outcome := by
    cases e.outcome <;> exact oneOf_name rfl
  refine next (fields_table rfl (by decide)) ?_
  refine next (required_found rfl rfl) ?_
  refine next (required_found rfl kind) ?_
  refine next (required_found rfl rfl) ?_
  refine next (required_found rfl priority) ?_
  refine next (required_found rfl (natBelow_ofNat fits)) ?_
  refine next (required_found rfl rfl) ?_
  exact next (required_found rfl outcome) rfl

end TraceEntry

namespace Decision

-- The ranks in the trace fit their fields; all else is read whatever it is.
def Fits (d : Decision) : Prop := ∀ e ∈ d.trace, e.rank < countBound

theorem decode_encode {d : Decision} (fits : d.Fits) : decode d.encode = pure d := by
  have reasons : listOf text? (.ofTexts d.reasons) = pure d.reasons := listOf_map fun s _ => rfl
  have trace : listOf TraceEntry.decode (.list (d.trace.map TraceEntry.encode)) = pure d.trace :=
    listOf_map fun e member => TraceEntry.decode_encode (fits e member)
  obtain ⟨action, nextState, _, suppressed, degraded, winningSource, updates, _⟩ := d
  -- The one field that may be left out decides what is written.
  cases winningSource with
  | none =>
    refine next (fields_table rfl (by decide)) ?_
    refine next (required_found rfl rfl) ?_
    refine next (required_found rfl rfl) ?_
    refine next (required_found rfl reasons) ?_
    refine next (required_found rfl rfl) ?_
    refine next (withDefault_found rfl rfl) ?_
    refine next (optional_absent rfl) ?_
    refine next (withDefault_found rfl (data_ofData updates)) ?_
    exact next (withDefault_found rfl trace) rfl
  | some source =>
    refine next (fields_table rfl (by decide)) ?_
    refine next (required_found rfl rfl) ?_
    refine next (required_found rfl rfl) ?_
    refine next (required_found rfl reasons) ?_
    refine next (required_found rfl rfl) ?_
    refine next (withDefault_found rfl rfl) ?_
    refine next (optional_found rfl nofun rfl) ?_
    refine next (withDefault_found rfl (data_ofData updates)) ?_
    exact next (withDefault_found rfl trace) rfl

end Decision

namespace DatedDecision

structure Fits (r : DatedDecision) : Prop where
  turn : r.turn < countBound
  decision : r.decision.Fits

theorem decode_encode {r : DatedDecision} (fits : r.Fits) : decode r.encode = pure r := by
  refine next (fields_table rfl (by decide)) ?_
  refine next (required_found rfl (natBelow_ofNat fits.turn)) ?_
  exact next (required_found rfl (Decision.decode_encode fits.decision)) rfl

end DatedDecision

theorem Instant.decode_zulu {i : Instant} (valid : i.Valid) : decode (.text i.zulu) = pure i := by
  refine next (a := i.zulu) rfl ?_
  rw [parse_zulu valid]

namespace Conversation

-- The numbers of a conversation fit their fields, and its times are in the years that there are.
structure Fits (c : Conversation) : Prop where
  turn : c.turn < countBound
  history : ∀ r ∈ c.history, r.turn < countBound
  historyLimit : c.historyLimit < Nat.pow 2 64
  counters : c.counters.Fits
  lastDecision : ∀ r ∈ c.lastDecision, r.Fits
  startedAt : c.startedAt.Valid
  updatedAt : c.updatedAt.Valid

theorem decode_encode {c : Conversation} (fits : c.Fits) : decode c.encode = pure c := by
  have history : listOf TurnRecord.decode (.list (c.history.map TurnRecord.encode)) =
      pure c.history := listOf_map fun r member => TurnRecord.decode_encode (fits.history r member)
  have tiers : tableOf Tier.decode (encodeTiers c.tiers) = pure c.tiers :=
    tableOf_map (f := fun t : Tier => .text t.name) fun p _ => Tier.decode_name p.2
  have counters := Counters.decode_encode fits.counters
  have last := fits.lastDecision
  have turn := natBelow_ofNat fits.turn
  have limit := natBelow_ofNat fits.historyLimit
  have started := Instant.decode_zulu fits.startedAt
  have updated := Instant.decode_zulu fits.updatedAt
  obtain ⟨id, current, data, _, _, _, _, _, lastDecision, _, _⟩ := c
  cases lastDecision with
  | none =>
    refine next (fields_table rfl (by decide)) ?_
    refine next (required_found rfl rfl) ?_
    refine next (required_found rfl rfl) ?_
    refine next (withDefault_found rfl (data_ofData data)) ?_
    refine next (withDefault_found rfl turn) ?_
    refine next (withDefault_found rfl history) ?_
    refine next (withDefault_found rfl limit) ?_
    refine next (withDefault_found rfl counters) ?_
    refine next (withDefault_found rfl tiers) ?_
    refine next (optional_absent rfl) ?_
    refine next (required_found rfl started) ?_
    exact next (required_found rfl updated) rfl
  | some r =>
    refine next (fields_table rfl (by decide)) ?_
    refine next (required_found rfl rfl) ?_
    refine next (required_found rfl rfl) ?_
    refine next (withDefault_found rfl (data_ofData data)) ?_
    refine next (withDefault_found rfl turn) ?_
    refine next (withDefault_found rfl history) ?_
    refine next (withDefault_found rfl limit) ?_
    refine next (withDefault_found rfl counters) ?_
    refine next (withDefault_found rfl tiers) ?_
    refine next (optional_found rfl nofun (DatedDecision.decode_encode (last r rfl))) ?_
    refine next (required_found rfl started) ?_
    exact next (required_found rfl updated) rfl

end Conversation

end Colloquy
