import Colloquy.Resolution
import Colloquy.Source

/-! One turn: ask every source, decide, commit. A turn cannot fail. -/
namespace Colloquy

inductive Event where
  | turnResolved (conversation : String) (turn : Nat) (action nextState : String) (degraded : Bool)
  | sourceFaulted (conversation source : String) (fault : SourceFault)
  | guardEscalated (conversation guard : String) (tier : Tier)
  | flowReloaded (states : Nat)
deriving DecidableEq, Repr

structure TurnInput where
  label : String
  extracted : Data := .empty

structure FaultRecord where
  source : String
  fault : SourceFault
deriving DecidableEq, Repr

structure View where
  state : String
  goal : String
  missingRequired : List String
  isTerminal : Bool
  turn : Nat
  lastAction : Option String
deriving DecidableEq, Repr

def Flow.view (flow : Flow) (c : Conversation) : View :=
  let state := flow.state? c.current
  { state := c.current
    goal := state.elim "" (·.goal)
    missingRequired := flow.missingRequired c.current c.data
    isTerminal := state.any (·.terminal)
    turn := c.turn
    lastAction := c.lastAction }

structure TurnResult where
  conversation : Conversation
  decision : Decision
  view : View
  faults : List FaultRecord
  events : List Event

namespace Registry

def proposals (registry : Registry) (s : Snapshot) : List Collected :=
  registry.zipIdx.flatMap fun (source, index) =>
    if source.applies s then
      (source.contribute s).proposals.zipIdx.map fun (p, seq) => ⟨source.name, index, seq, p⟩
    else []

def faults (registry : Registry) (s : Snapshot) : List FaultRecord :=
  registry.filterMap fun source =>
    if source.applies s then (source.contribute s).fault.map (⟨source.name, ·⟩) else none

end Registry

namespace Turn

def degradedSource : String := "orchestrator"

def degradedReason : String := "degraded"

inductive DegradedCause where
  | unknownState
  | exhausted
deriving DecidableEq, Repr

def DegradedCause.name : DegradedCause → String
  | .unknownState => "unknown_state"
  | .exhausted => "resolution_exhausted"

-- The escalation action, staying in the state.
def degraded (s : Snapshot) (proposals : List Collected) (cause : DegradedCause) : Decision :=
  let action := s.flow.engine.escalationAction
  { action := action
    nextState := s.current
    reasons := [degradedReason, cause.name]
    transitionsSuppressed := true
    degraded := true
    winningSource := some degradedSource
    trace := proposals.map (Resolution.traceEntry · .overridden) ++ [{
      source := degradedSource
      kind := .action
      value := action
      priority := .critical
      rank := 0
      reason := degradedReason
      outcome := .won }] }

-- In a state that the flow does not know, no source is asked.
def askedProposals (registry : Registry) (s : Snapshot) : List Collected :=
  if s.state?.isSome then registry.proposals s else []

def askedFaults (registry : Registry) (s : Snapshot) : List FaultRecord :=
  if s.state?.isSome then registry.faults s else []

def decision (s : Snapshot) (proposals : List Collected) : Decision :=
  if s.state?.isNone then degraded s proposals .unknownState
  else match resolve proposals s.current (some s.flow.engine.defaultAction) with
    | .ok d => d
    | .error .exhausted => degraded s proposals .exhausted

-- Prospective fields that differ from what was committed.
def dataUpdates (s : Snapshot) : Data :=
  s.prospective.filterMap fun name value =>
    if s.conversation.data.find? name == some value then none else some value

def escalations (proposals : List Collected) : List Escalation :=
  proposals.filterMap (·.proposal.escalation?)

def effective (c : Conversation) : List Escalation → List Escalation
  | [] => []
  | e :: rest =>
    if c.raises e then e :: effective (c.raiseTier e) rest else effective c rest

-- Counted once the turn is decided, whatever its sources took the counts to be.
def nextCounters (s : Snapshot) (next : String) : Counters :=
  let before := s.conversation.counters
  let objection := s.flow.isObjection s.intent
  { sameStateStreak := if next = s.current then countAfter before.sameStateStreak else 0
    consecutiveObjections := if objection then countAfter before.consecutiveObjections else 0
    totalObjections :=
      if objection then countAfter before.totalObjections else before.totalObjections
    consecutiveUnclear :=
      if s.flow.isUnclear s.intent then countAfter before.consecutiveUnclear else 0 }

def record (s : Snapshot) (d : Decision) : TurnRecord :=
  ⟨s.turn, s.current, s.intent, d.action, d.nextState⟩

-- Guards that fired escalate whether or not their proposals won.
def commit (s : Snapshot) (d : Decision) (raised : List Escalation) (now : Instant) : Conversation :=
  let c := s.conversation.pushHistory (record s d)
  { raised.foldl Conversation.raiseTier c with
    current := d.nextState
    data := s.prospective
    turn := s.turn
    counters := nextCounters s d.nextState
    lastDecision := some ⟨s.turn, d⟩
    updatedAt := now }

end Turn

open Turn in
def processTurn (registry : Registry) (flow : Flow) (c : Conversation) (input : TurnInput)
    (now : Instant) : TurnResult :=
  let s := Snapshot.capture flow c (flow.intentOf input.label) input.extracted
  let proposals := askedProposals registry s
  let faults := askedFaults registry s
  let d := { decision s proposals with dataUpdates := dataUpdates s }
  let raised := escalations proposals
  let after := commit s d raised now
  { conversation := after
    decision := d
    view := flow.view after
    faults := faults
    events :=
      faults.map (fun f => .sourceFaulted c.id f.source f.fault) ++
      (effective c raised).map (fun e => .guardEscalated c.id e.guard e.tier) ++
      [.turnResolved c.id s.turn d.action d.nextState d.degraded] }

end Colloquy
