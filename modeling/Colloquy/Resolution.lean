import Colloquy.Decision

/-! Conflict resolution: many proposals in, one decision out. -/
namespace Colloquy

-- A proposal with where it came from: its source's place in the registry and its place in that
-- source's output.
structure Collected where
  source : String
  sourceIndex : Nat
  seq : Nat
  proposal : Proposal
deriving DecidableEq, Repr

inductive ResolutionError where
  | exhausted
deriving DecidableEq, Repr

def ResolutionError.message : ResolutionError → String
  | .exhausted => "no action was proposed and no default action is configured"

namespace Resolution

def compareCollected (a b : Collected) : Ordering :=
  (compare b.proposal.priority.level a.proposal.priority.level).then <|
    (compare a.proposal.rank b.proposal.rank).then <|
      (compare a.sourceIndex b.sourceIndex).then (compare a.seq b.seq)

-- The members of one partition in resolution order; equal ones keep their order in the list.
def partition (kind : ProposalKind) (proposals : List Collected) : List (Collected × Nat) :=
  (proposals.zipIdx.filter (·.1.proposal.kind == kind)).mergeSort fun a b =>
    (compareCollected a.1 b.1).isLE

-- What became of a proposal, given the winner of its partition.
def outcomeOf (winner : Option (Collected × Nat)) (suppressed : Bool) (entry : Collected × Nat) :
    TraceOutcome :=
  if suppressed then .suppressed
  else if winner.any (·.2 == entry.2) then .won
  else if winner.any (·.1.proposal.priority == entry.1.proposal.priority)
      || entry.1.proposal.informational then .retained
  else .overridden

def traceEntry (entry : Collected) (outcome : TraceOutcome) : TraceEntry where
  source := entry.source
  kind := entry.proposal.kind
  value := entry.proposal.value
  priority := entry.proposal.priority
  rank := entry.proposal.rank
  reason := entry.proposal.reason
  outcome := outcome

-- Adds a reason unless it is already listed.
def addReason (reasons : List String) (reason : String) : List String :=
  if reasons.contains reason then reasons else reasons ++ [reason]

def keepsReason : TraceOutcome → Bool
  | .won | .retained => true
  | .overridden | .suppressed => false

def defaultReason : String := "default_action"

-- The winning action with its source, whether transitions may follow it, and its reason.
structure Lead where
  action : String
  combinable : Bool
  source : Option String
  reason : String

def lead? (head : Option (Collected × Nat)) (defaultAction : Option String) : Option Lead :=
  match head with
  | some (⟨source, _, _, .action p⟩, _) => some ⟨p.action, p.combinable, some source, p.reason⟩
  | _ => defaultAction.map fun action => ⟨action, true, none, defaultReason⟩

def nextState (combinable : Bool) (head : Option (Collected × Nat)) (current : String) : String :=
  match combinable, head with
  | true, some (⟨_, _, _, .transition p⟩, _) => p.target
  | _, _ => current

end Resolution

open Resolution in
def resolve (proposals : List Collected) (current : String) (defaultAction : Option String) :
    Except ResolutionError Decision :=
  let actions := partition .action proposals
  match lead? actions.head? defaultAction with
  | none => .error .exhausted
  | some lead =>
    let transitions := partition .transition proposals
    let outcome (entry : Collected × Nat) : TraceOutcome :=
      match entry.1.proposal.kind with
      | .action => outcomeOf actions.head? false entry
      | .transition => outcomeOf transitions.head? (!lead.combinable) entry
    let kept := (actions ++ transitions).filter fun entry => keepsReason (outcome entry)
    .ok {
      action := lead.action
      nextState := nextState lead.combinable transitions.head? current
      reasons := (kept.map (·.1.proposal.reason)).foldl addReason [lead.reason]
      transitionsSuppressed := !lead.combinable
      winningSource := lead.source
      trace := proposals.zipIdx.map fun entry => traceEntry entry.1 (outcome entry) }

end Colloquy
