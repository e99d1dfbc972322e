import Colloquy.Decision
import Colloquy.Instant

/-! The state of one conversation between turns. -/
namespace Colloquy

-- Turns and what happens in them are counted in 32 bits: after the greatest count comes zero.
def countBound : Nat := 4294967296

def countAfter (n : Nat) : Nat := (n + 1) % countBound

theorem countAfter_le (n : Nat) : countAfter n ≤ n + 1 := Nat.mod_le ..

theorem countAfter_short {n : Nat} (short : n + 1 < countBound) : countAfter n = n + 1 :=
  Nat.mod_eq_of_lt short

theorem countAfter_mod (n : Nat) : countAfter (n % countBound) = (n + 1) % countBound :=
  Nat.mod_add_mod ..

structure Counters where
  -- Consecutive completed turns processed in the current state.
  sameStateStreak : Nat := 0
  -- Consecutive completed turns with an objection, and all of them.
  consecutiveObjections : Nat := 0
  totalObjections : Nat := 0
  -- Consecutive completed turns with an unclear intent.
  consecutiveUnclear : Nat := 0
deriving DecidableEq, Repr

-- One completed turn; `state` is where it was processed.
structure TurnRecord where
  turn : Nat
  state : String
  intent : String
  action : String
  nextState : String
deriving DecidableEq, Repr

structure DatedDecision where
  turn : Nat
  decision : Decision

structure Conversation where
  id : String
  current : String
  data : Data := .empty
  turn : Nat := 0
  history : List TurnRecord := []
  historyLimit : Nat
  counters : Counters := {}
  tiers : Table Tier := .empty
  lastDecision : Option DatedDecision := none
  startedAt : Instant
  updatedAt : Instant

namespace Conversation

def defaultHistoryLimit : Nat := 20

-- A conversation that has not had a turn. At least one turn is always remembered.
def begin (id initial : String) (historyLimit : Nat) (now : Instant) : Conversation where
  id := id
  current := initial
  historyLimit := max historyLimit 1
  startedAt := now
  updatedAt := now

-- The tier of a guard, normal if it never fired.
def tier (c : Conversation) (guard : String) : Tier := (c.tiers.find? guard).getD .normal

-- Lower and equal tiers leave the conversation as it is.
def raises (c : Conversation) (e : Escalation) : Bool := (c.tier e.guard).level < e.tier.level

def raiseTier (c : Conversation) (e : Escalation) : Conversation :=
  if c.raises e then { c with tiers := c.tiers.insert e.guard e.tier } else c

def lastOf (n : Nat) (l : List α) : List α := l.drop (l.length - n)

def pushHistory (c : Conversation) (record : TurnRecord) : Conversation :=
  { c with history := lastOf c.historyLimit (c.history ++ [record]) }

def recent (c : Conversation) (n : Nat) : List TurnRecord := lastOf n c.history

def lastAction (c : Conversation) : Option String := c.history.getLast?.map (·.action)

-- Back to the initial state; only the id is kept.
def reset (c : Conversation) (initial : String) (historyLimit : Nat) (now : Instant) : Conversation :=
  begin c.id initial historyLimit now

end Conversation

end Colloquy
