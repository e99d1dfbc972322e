import Colloquy.Conversation
import Colloquy.Document.Decoding
import Colloquy.Json.Reader
import Colloquy.Json.Writer

/-! Conversations as documents, and as the JSON text they are stored in. -/
namespace Colloquy

namespace Tier

def decode : Document → Decoded Tier := Document.oneOf all name

end Tier

namespace Proposal

def priority? : Document → Decoded Priority := Document.oneOf Priority.all Priority.name

end Proposal

namespace Counters

def encode (c : Counters) : Document :=
  .table [
    ("same_state_streak", .ofNat c.sameStateStreak),
    ("consecutive_objections", .ofNat c.consecutiveObjections),
    ("total_objections", .ofNat c.totalObjections),
    ("consecutive_unclear", .ofNat c.consecutiveUnclear)]

def decode (d : Document) : Decoded Counters := do
  let f ← d.fields
    ["same_state_streak", "consecutive_objections", "total_objections", "consecutive_unclear"]
  return {
    sameStateStreak := ← f.required "same_state_streak" Document.count?
    consecutiveObjections := ← f.required "consecutive_objections" Document.count?
    totalObjections := ← f.required "total_objections" Document.count?
    consecutiveUnclear := ← f.required "consecutive_unclear" Document.count? }

end Counters

namespace TurnRecord

def encode (r : TurnRecord) : Document :=
  .table [
    ("turn", .ofNat r.turn),
    ("state", .text r.state),
    ("intent", .text r.intent),
    ("action", .text r.action),
    ("next_state", .text r.nextState)]

def decode (d : Document) : Decoded TurnRecord := do
  let f ← d.fields ["turn", "state", "intent", "action", "next_state"]
  return {
    turn := ← f.required "turn" Document.count?
    state := ← f.required "state" Document.text?
    intent := ← f.required "intent" Document.text?
    action := ← f.required "action" Document.text?
    nextState := ← f.required "next_state" Document.text? }

end TurnRecord

namespace TraceEntry

def encode (e : TraceEntry) : Document :=
  .table [
    ("source", .text e.source),
    ("kind", .text e.kind.name),
    ("value", .text e.value),
    ("priority", .text e.priority.name),
    ("rank", .ofNat e.rank),
    ("reason_code", .text e.reason),
    ("outcome", .text e.outcome.name)]

def decode (d : Document) : Decoded TraceEntry := do
  let f ← d.fields ["source", "kind", "value", "priority", "rank", "reason_code", "outcome"]
  return {
    source := ← f.required "source" Document.text?
    kind := ← f.required "kind" (Document.oneOf [.action, .transition] ProposalKind.name)
    value := ← f.required "value" Document.text?
    priority := ← f.required "priority" Proposal.priority?
    rank := ← f.required "rank" Document.count?
    reason := ← f.required "reason_code" Document.text?
    outcome := ← f.required "outcome" (Document.oneOf TraceOutcome.all TraceOutcome.name) }

end TraceEntry

namespace Decision

-- A fallback decision has no winning source, and the field is left out.
def encode (d : Decision) : Document :=
  .table ([
    ("action", .text d.action),
    ("next_state", .text d.nextState),
    ("reason_codes", .ofTexts d.reasons),
    ("transitions_suppressed", .bool d.transitionsSuppressed),
    ("degraded", .bool d.degraded)]
    ++ (d.winningSource.map fun s => ("winning_source", Document.text s)).toList ++ [
    ("data_updates", .ofData d.dataUpdates),
    ("trace", .list (d.trace.map TraceEntry.encode))])

def decode (d : Document) : Decoded Decision := do
  let f ← d.fields ["action", "next_state", "reason_codes", "transitions_suppressed", "degraded",
    "winning_source", "data_updates", "trace"]
  return {
    action := ← f.required "action" Document.text?
    nextState := ← f.required "next_state" Document.text?
    reasons := ← f.required "reason_codes" (Document.listOf Document.text?)
    transitionsSuppressed := ← f.required "transitions_suppressed" Document.bool?
    degraded := ← f.withDefault "degraded" false Document.bool?
    winningSource := ← f.optional "winning_source" Document.text?
    dataUpdates := ← f.withDefault "data_updates" .empty Document.data?
    trace := ← f.withDefault "trace" [] (Document.listOf TraceEntry.decode) }

end Decision

namespace DatedDecision

def encode (r : DatedDecision) : Document :=
  .table [("turn", .ofNat r.turn), ("decision", r.decision.encode)]

def decode (d : Document) : Decoded DatedDecision := do
  let f ← d.fields ["turn", "decision"]
  return {
    turn := ← f.required "turn" Document.count?
    decision := ← f.required "decision" Decision.decode }

end DatedDecision

namespace Instant

def decode (d : Document) : Decoded Instant := do
  let s ← d.text?
  match parse? s with
  | some i => return i
  | none => throw .kind

end Instant

namespace Conversation

def encodeTiers (tiers : Table Tier) : Document :=
  .table (tiers.entries.map fun p => (p.1, .text p.2.name))

def encodeBody (c : Conversation) : List (String × Document) := [
    ("conversation_id", .text c.id),
    ("current_state", .text c.current),
    ("collected_data", .ofData c.data),
    ("turn", .ofNat c.turn),
    ("history", .list (c.history.map TurnRecord.encode)),
    ("history_limit", .ofNat c.historyLimit),
    ("counters", c.counters.encode),
    ("guard_tiers", encodeTiers c.tiers)]
  ++ (c.lastDecision.map fun r => ("last_decision", r.encode)).toList

def encode (c : Conversation) : Document :=
  .table (c.encodeBody ++ [
    ("started_at", .text c.startedAt.zulu),
    ("updated_at", .text c.updatedAt.zulu)])

def decode (d : Document) : Decoded Conversation := do
  let f ← d.fields ["conversation_id", "current_state", "collected_data", "turn", "history",
    "history_limit", "counters", "guard_tiers", "last_decision", "started_at", "updated_at"]
  return {
    id := ← f.required "conversation_id" Document.text?
    current := ← f.required "current_state" Document.text?
    data := ← f.withDefault "collected_data" .empty Document.data?
    turn := ← f.withDefault "turn" 0 Document.count?
    history := ← f.withDefault "history" [] (Document.listOf TurnRecord.decode)
    historyLimit := ← f.withDefault "history_limit" defaultHistoryLimit Document.size?
    counters := ← f.withDefault "counters" {} Counters.decode
    tiers := ← f.withDefault "guard_tiers" .empty (Document.tableOf Tier.decode)
    lastDecision := ← f.optional "last_decision" DatedDecision.decode
    startedAt := ← f.required "started_at" Instant.decode
    updatedAt := ← f.required "updated_at" Instant.decode }

def toJson (c : Conversation) : String := Json.pretty c.encode

def ofJson : String → Except (Unreadable Json.ReadError) Conversation := 
  Document.ofText .json Json.read decode

end Conversation

end Colloquy
