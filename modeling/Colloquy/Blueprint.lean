import Colloquy.Table
import Colloquy.Value

/-!
Blueprints: the description of a conversation flow before its names are checked against each other.
-/
namespace Colloquy

-- One step of a chain; without a condition it always applies.
structure Clause where
  condition : Option String
  target : String
deriving DecidableEq, Repr

-- Where a rule or transition leads: one target, or the target of the first clause that applies.
inductive Outcome where
  | direct (target : String)
  | chain (clauses : List Clause)
deriving DecidableEq, Repr

inductive Merge where
  | replace
  | accumulate
deriving DecidableEq, Repr, Inhabited

namespace Merge

def name : Merge → String
  | .replace => "replace"
  | .accumulate => "accumulate"

def all : List Merge := [.replace, .accumulate]

end Merge

def Kind.all : List Kind := [.bool, .int, .float, .text, .list]

structure FieldDeclaration where
  kind : Kind := .text
  merge : Merge := .replace
  description : String := ""
deriving DecidableEq, Repr

structure State where
  goal : String := ""
  requiredData : List String := []
  optionalData : List String := []
  -- Keyed by intent, or by one of the reserved triggers.
  transitions : Table Outcome := .empty
  rules : Table Outcome := .empty
  defaultAction : Option String := none
  terminal : Bool := false

namespace Trigger

def dataComplete : String := "data_complete"

-- Where a conversation goes that stays in a state for too long.
def stalled : String := "stalled"

end Trigger

structure EngineSettings where
  defaultAction : String := "continue"
  escalationAction : String := "escalate_to_human"
  -- Stands for every label outside the vocabulary.
  unknownIntent : String := "unclear"
  historyLimit : Nat := 20
  unclearCategory : Option String := none

structure QuestionSettings where
  enabled : Bool := true
  category : String
  answers : Table String := .empty
  defaultAnswer : Option String := none

structure RejectionSettings where
  enabled : Bool := true
  category : String
  action : String := "soft_close"

structure StallSettings where
  enabled : Bool := true
  maxTurnsInState : Nat := 10
  offerSkipAction : String
  skipAction : String
  exitAction : String
  -- For states without a transition on a stall.
  skipState : Option String := none

structure LoopSettings where
  enabled : Bool := true
  maxRepeats : Nat := 4
  window : Nat := 10
  -- Intents that show progress.
  informativeCategory : Option String := none
  nudgeAction : String
  rephraseAction : String
  exitAction : String

-- The category is counted also while the guard is disabled.
structure ObjectionSettings where
  enabled : Bool := true
  category : String
  maxConsecutive : Nat := 3
  maxTotal : Nat := 6
  action : String := "soft_close"

structure Blueprint where
  initialState : String
  intents : List String := []
  actions : List String := []
  engine : EngineSettings := {}
  fields : Table FieldDeclaration := .empty
  -- Members are intents, or other categories after an `@`.
  categories : Table (List String) := .empty
  conditions : Table String := .empty
  states : Table State
  questions : Option QuestionSettings := none
  rejection : Option RejectionSettings := none
  stall : Option StallSettings := none
  loop : Option LoopSettings := none
  objection : Option ObjectionSettings := none

def QuestionSettings.answerFor (q : QuestionSettings) (intent : String) : Option String :=
  (q.answers.find? intent).or q.defaultAnswer

end Colloquy
