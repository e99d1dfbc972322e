import Colloquy.Proposal
import Colloquy.Value

/-! The decision of one turn, and the trace that tells what became of every proposal. -/
namespace Colloquy

inductive TraceOutcome where
  | won
  -- Lost, with its reason kept: same priority as the winner, or informational.
  | retained
  | overridden
  -- A transition set aside because the winning action holds the conversation in its state.
  | suppressed
deriving DecidableEq, Repr

def TraceOutcome.name : TraceOutcome → String
  | .won => "won"
  | .retained => "retained"
  | .overridden => "overridden"
  | .suppressed => "suppressed"

def TraceOutcome.all : List TraceOutcome := [.won, .retained, .overridden, .suppressed]

structure TraceEntry where
  source : String
  kind : ProposalKind
  value : String
  priority : Priority
  rank : Nat
  reason : String
  outcome : TraceOutcome
deriving DecidableEq, Repr

structure Decision where
  action : String
  nextState : String
  reasons : List String
  transitionsSuppressed : Bool
  degraded : Bool := false
  -- The source of the winning action; a configured fallback has none.
  winningSource : Option String := none
  -- Fields whose value changed when the turn was committed.
  dataUpdates : Data := .empty
  trace : List TraceEntry := []

namespace Decision

def hasReason (d : Decision) (reason : String) : Bool := d.reasons.contains reason

def traceMentions (d : Decision) (reason : String) : Bool := d.trace.any (·.reason == reason)

end Decision

end Colloquy
