/-! What sources propose: an action to take or a state to move to. -/
namespace Colloquy

inductive Priority where
  | low
  | normal
  | high
  | critical
deriving DecidableEq, Repr

namespace Priority

def level : Priority → Nat
  | .low => 0
  | .normal => 1
  | .high => 2
  | .critical => 3

def name : Priority → String
  | .low => "low"
  | .normal => "normal"
  | .high => "high"
  | .critical => "critical"

def all : List Priority := [.low, .normal, .high, .critical]

theorem level_injective {p q : Priority} (h : p.level = q.level) : p = q := by
  cases p <;> cases q <;> simp_all [level]

end Priority

-- How far a guard has escalated within one conversation.
inductive Tier where
  | normal
  | nudge
  | offerAlternative
  | forcedExit
deriving DecidableEq, Repr, Inhabited

namespace Tier

def level : Tier → Nat
  | .normal => 0
  | .nudge => 1
  | .offerAlternative => 2
  | .forcedExit => 3

-- One step up; the last tier has no successor of its own.
def next : Tier → Tier
  | .normal => .nudge
  | .nudge => .offerAlternative
  | .offerAlternative => .forcedExit
  | .forcedExit => .forcedExit

def name : Tier → String
  | .normal => "normal"
  | .nudge => "nudge"
  | .offerAlternative => "offer_alternative"
  | .forcedExit => "forced_exit"

def all : List Tier := [.normal, .nudge, .offerAlternative, .forcedExit]

theorem level_injective {s t : Tier} (h : s.level = t.level) : s = t := by
  cases s <;> cases t <;> simp_all [level]

theorem level_next (t : Tier) : t.next.level = min (t.level + 1) 3 := by
  cases t <;> rfl

end Tier

structure Escalation where
  guard : String
  tier : Tier
deriving DecidableEq, Repr

-- An action that is not combinable holds the conversation in its state.
structure ActionProposal where
  action : String
  priority : Priority
  rank : Nat := 0
  combinable : Bool := true
  reason : String
  informational : Bool := false
  escalation : Option Escalation := none
deriving DecidableEq, Repr

structure TransitionProposal where
  target : String
  priority : Priority
  rank : Nat := 0
  reason : String
  informational : Bool := false
deriving DecidableEq, Repr

inductive Proposal where
  | action (p : ActionProposal)
  | transition (p : TransitionProposal)
deriving DecidableEq, Repr

inductive ProposalKind where
  | action
  | transition
deriving DecidableEq, Repr

def ProposalKind.name : ProposalKind → String
  | .action => "action"
  | .transition => "transition"

namespace Proposal

def kind : Proposal → ProposalKind
  | .action _ => .action
  | .transition _ => .transition

def value : Proposal → String
  | .action p => p.action
  | .transition p => p.target

def priority : Proposal → Priority
  | .action p => p.priority
  | .transition p => p.priority

def rank : Proposal → Nat
  | .action p => p.rank
  | .transition p => p.rank

def reason : Proposal → String
  | .action p => p.reason
  | .transition p => p.reason

def informational : Proposal → Bool
  | .action p => p.informational
  | .transition p => p.informational

def escalation? : Proposal → Option Escalation
  | .action p => p.escalation
  | .transition _ => none

end Proposal

end Colloquy
