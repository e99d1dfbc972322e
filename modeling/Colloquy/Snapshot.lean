import Colloquy.Conversation
import Colloquy.Flow

/-! What sources may look at during one turn. -/
namespace Colloquy

-- Integers widen to floats, and a single value becomes a list of one.
def Value.coerce : Kind → Value → Option Value
  | .float, .int n => some (.float (widen n))
  | .list, v => some (.list v.items)
  | kind, v => if v.kind = kind then some v else none

namespace Flow

-- Extracted data without undeclared fields, blank values and values of the wrong kind.
def sanitize (flow : Flow) (extracted : Data) : Data :=
  extracted.filterMap fun name value =>
    match flow.field? name with
    | none => none
    | some declaration => if value.isBlank then none else value.coerce declaration.kind

def mergeOf (flow : Flow) (name : String) : Merge := (flow.field? name).elim .replace (·.merge)

def mergeField (flow : Flow) (committed : Data) (name : String) (value : Value) : Value :=
  match flow.mergeOf name with
  | .accumulate => Value.accumulate (committed.find? name) value
  | .replace => value

def merge (flow : Flow) (committed extracted : Data) : Data :=
  committed.overlay (extracted.map (flow.mergeField committed))

-- Objections are counted also while their guard is disabled.
def isObjection (flow : Flow) (intent : String) : Bool :=
  flow.blueprint.objection.any fun s => flow.inCategory s.category intent

-- Without a category for them, unclear turns are those with the unknown intent.
def isUnclear (flow : Flow) (intent : String) : Bool :=
  match flow.engine.unclearCategory with
  | some category => flow.inCategory category intent
  | none => intent == flow.engine.unknownIntent

-- A label outside the vocabulary counts as the unknown intent.
def intentOf (flow : Flow) (label : String) : String :=
  if flow.isIntent label then label else flow.engine.unknownIntent

end Flow

structure Snapshot where
  flow : Flow
  -- As it stands before the turn.
  conversation : Conversation
  intent : String
  extracted : Data
  prospective : Data

namespace Snapshot

def capture (flow : Flow) (c : Conversation) (intent : String) (extracted : Data) : Snapshot :=
  let clean := flow.sanitize extracted
  ⟨flow, c, intent, clean, flow.merge c.data clean⟩

def current (s : Snapshot) : String := s.conversation.current

def turn (s : Snapshot) : Nat := countAfter s.conversation.turn

-- The state is unknown only if the flow was changed since.
def state? (s : Snapshot) : Option State := s.flow.state? s.current

def isTerminal (s : Snapshot) : Bool := s.state?.any (·.terminal)

def facts (s : Snapshot) : Facts := ⟨s.prospective, s.intent, s.current, s.turn⟩

def select (s : Snapshot) (outcome : Outcome) : Option Selected := s.flow.select s.facts outcome

def inCategory (s : Snapshot) (category : String) : Bool := s.flow.inCategory category s.intent

def missingRequired (s : Snapshot) : List String := s.flow.missingRequired s.current s.prospective

def recent (s : Snapshot) (n : Nat) : List TurnRecord := s.conversation.recent n

def turnsInState (s : Snapshot) : Nat := countAfter s.conversation.counters.sameStateStreak

def isObjection (s : Snapshot) : Bool := s.flow.isObjection s.intent

def isUnclear (s : Snapshot) : Bool := s.flow.isUnclear s.intent

def consecutiveObjections (s : Snapshot) : Nat :=
  if s.isObjection then countAfter s.conversation.counters.consecutiveObjections else 0

def totalObjections (s : Snapshot) : Nat :=
  let before := s.conversation.counters.totalObjections
  if s.isObjection then countAfter before else before

def consecutiveUnclear (s : Snapshot) : Nat :=
  if s.isUnclear then countAfter s.conversation.counters.consecutiveUnclear else 0

-- The tier a guard goes to if it fires.
def nextTier (s : Snapshot) (guard : String) : Tier := (s.conversation.tier guard).next

end Snapshot

end Colloquy
