import Colloquy.Blueprint.Violation
import Colloquy.Blueprint.Vocabulary

/-! Checking a blueprint: a list of violations, in a fixed order. -/
namespace Colloquy

-- A violation, unless what it denies holds.
def need (holds : Bool) (violation : Violation) : List Violation :=
  if holds then [] else [violation]

namespace Vocabulary

def needAction (v : Vocabulary) (site : Site) (name : String) : List Violation :=
  need (v.actions.contains name) (.unknownAction site name)

def needIntent (v : Vocabulary) (site : Site) (name : String) : List Violation :=
  need (v.intents.contains name) (.unknownIntent site name)

def needCategory (v : Vocabulary) (site : Site) (name : String) : List Violation :=
  need (v.categories.contains name) (.unknownCategory site name)

-- A clause that is not the last one has a condition, and every condition is known.
def clauseViolations (v : Vocabulary) (site : Site) (count position : Nat) (clause : Clause) :
    List Violation :=
  match clause.condition with
  | some name => need (v.conditions.contains name) (.unknownCondition site name)
  | none => need (position == count) (.malformedChain site (.unconditional position))

def outcomeViolations (v : Vocabulary) (site : Site) (target : String → List Violation) :
    Outcome → List Violation
  | .direct name => target name
  | .chain clauses =>
    need (!clauses.isEmpty) (.malformedChain site .noClauses) ++
      clauses.zipIdx.flatMap fun (clause, i) =>
        v.clauseViolations site clauses.length (i + 1) clause ++ target clause.target

end Vocabulary

namespace Blueprint

def repeated : List String → List String → List String
  | _, [] => []
  | seen, name :: rest =>
    if seen.contains name then name :: repeated seen rest else repeated (name :: seen) rest

def duplicateViolations (kind : NameKind) (ids : List String) : List Violation :=
  (repeated [] ids).map (.duplicate kind)

def needField (b : Blueprint) (site : Site) (name : String) : List Violation :=
  need (b.fields.contains name) (.unknownField site name)

def needState (b : Blueprint) (state trigger target : String) : List Violation :=
  need (b.states.contains target) (.danglingTransition state trigger target)

def memberViolations (b : Blueprint) (v : Vocabulary) (category member : String) : List Violation :=
  match reference? member with
  | some name => need (b.categories.contains name) (.unknownCategory (.category category) name)
  | none => v.needIntent (.category category) member

def categoryViolations (b : Blueprint) (v : Vocabulary) : List Violation :=
  b.categories.entries.flatMap fun (name, members) => members.flatMap (b.memberViolations v name)

def cycleViolations (b : Blueprint) : List Violation :=
  (b.categories.keys.filter b.isCyclic).map .categoryCycle

def conditionViolations (b : Blueprint) (v : Vocabulary) : List Violation :=
  b.conditions.entries.flatMap fun (name, source) =>
    if NamedCondition.isReserved name then [.duplicate .condition name]
    else match Condition.parse source with
      | .error detail => [.malformedCondition name detail]
      | .ok c =>
        c.fields.toList.flatMap (b.needField (.condition name)) ++
          c.categories.toList.flatMap (v.needCategory (.condition name))

def engineViolations (b : Blueprint) (v : Vocabulary) : List Violation :=
  v.needAction (.setting "engine.default_action") b.engine.defaultAction ++
  v.needAction (.setting "engine.escalation_action") b.engine.escalationAction ++
  v.needIntent (.setting "engine.unknown_intent") b.engine.unknownIntent ++
  need (1 ≤ b.engine.historyLimit) (.invalidSetting "engine.history_limit" .belowOne) ++
  b.engine.unclearCategory.toList.flatMap (v.needCategory (.setting "engine.unclear_category"))

def initialViolations (b : Blueprint) : List Violation :=
  need (b.states.contains b.initialState) (.unknownInitialState b.initialState)

def isReservedTrigger (trigger : String) : Bool :=
  trigger == Trigger.dataComplete || trigger == Trigger.stalled

def transitionViolations (b : Blueprint) (v : Vocabulary) (id trigger : String) (outcome : Outcome) :
    List Violation :=
  (if isReservedTrigger trigger then [] else v.needIntent (.transitions id) trigger) ++
    v.outcomeViolations (.transition id trigger) (b.needState id trigger) outcome

def ruleViolations (v : Vocabulary) (id intent : String) (outcome : Outcome) : List Violation :=
  v.needIntent (.rules id) intent ++
    v.outcomeViolations (.rule id intent) (v.needAction (.rule id intent)) outcome

def stateViolations (b : Blueprint) (v : Vocabulary) (id : String) (s : State) : List Violation :=
  (s.requiredData ++ s.optionalData).flatMap (b.needField (.state id)) ++
  s.defaultAction.toList.flatMap (v.needAction (.stateDefault id)) ++
  s.transitions.entries.flatMap (fun (trigger, outcome) => b.transitionViolations v id trigger outcome) ++
  s.rules.entries.flatMap fun (intent, outcome) => ruleViolations v id intent outcome

def questionViolations (v : Vocabulary) (q : QuestionSettings) : List Violation :=
  v.needCategory (.setting "sources.questions.category") q.category ++
  q.answers.entries.flatMap (fun (intent, action) =>
    v.needIntent (.answer intent) intent ++ v.needAction (.answer intent) action) ++
  q.defaultAnswer.toList.flatMap (v.needAction (.setting "sources.questions.default_answer"))

def rejectionViolations (v : Vocabulary) (r : RejectionSettings) : List Violation :=
  v.needCategory (.setting "sources.rejection.category") r.category ++
  v.needAction (.setting "sources.rejection.action") r.action

-- States that a stall can happen in without a transition for it.
def withoutWayOut (b : Blueprint) : List String :=
  (b.states.entries.filter fun (_, s) => !s.terminal && !s.transitions.contains Trigger.stalled).map (·.1)

def wayOutViolations (b : Blueprint) (s : StallSettings) : List Violation :=
  if s.enabled && s.skipState.isNone then
    b.withoutWayOut.head?.toList.map fun id =>
      .invalidSetting "guards.stall.skip_state" (.noWayOut id s.maxTurnsInState)
  else []

def stallViolations (b : Blueprint) (v : Vocabulary) (s : StallSettings) : List Violation :=
  b.wayOutViolations s ++
  v.needAction (.setting "guards.stall.offer_skip_action") s.offerSkipAction ++
  v.needAction (.setting "guards.stall.skip_action") s.skipAction ++
  v.needAction (.setting "guards.stall.exit_action") s.exitAction ++
  s.skipState.toList.flatMap (b.needState "guards.stall" "skip_state")

def windowViolations (historyLimit window : Nat) : List Violation :=
  if window = 0 then [.invalidSetting "guards.loop.window" .belowOne]
  else need (window ≤ historyLimit)
    (.invalidSetting "guards.loop.window" (.windowTooLong window historyLimit))

def loopViolations (b : Blueprint) (v : Vocabulary) (s : LoopSettings) : List Violation :=
  windowViolations b.engine.historyLimit s.window ++
  s.informativeCategory.toList.flatMap (v.needCategory (.setting "guards.loop.informative_category")) ++
  v.needAction (.setting "guards.loop.nudge_action") s.nudgeAction ++
  v.needAction (.setting "guards.loop.rephrase_action") s.rephraseAction ++
  v.needAction (.setting "guards.loop.exit_action") s.exitAction

def objectionViolations (v : Vocabulary) (s : ObjectionSettings) : List Violation :=
  v.needCategory (.setting "guards.objection.category") s.category ++
  v.needAction (.setting "guards.objection.action") s.action

def violations (b : Blueprint) (v : Vocabulary) : List Violation :=
  duplicateViolations .intent b.intents ++
  duplicateViolations .action b.actions ++
  b.categoryViolations v ++
  b.cycleViolations ++
  b.conditionViolations v ++
  b.engineViolations v ++
  b.initialViolations ++
  b.states.entries.flatMap (fun (id, s) => b.stateViolations v id s) ++
  b.questions.toList.flatMap (questionViolations v) ++
  b.rejection.toList.flatMap (rejectionViolations v) ++
  b.stall.toList.flatMap (b.stallViolations v) ++
  b.loop.toList.flatMap (b.loopViolations v) ++
  b.objection.toList.flatMap (objectionViolations v)

end Blueprint

end Colloquy
