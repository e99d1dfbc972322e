import Colloquy.Source

/-! The sources that follow the flow. -/
namespace Colloquy.Source

-- A reason that names the condition it depended on.
def reasonFor (base : String) (condition : Option String) : String :=
  condition.elim base fun name => base ++ ":" ++ name

def needSetting (path : String) (setting : Option α) : Except SourceFault α :=
  setting.elim (.error (.missingSetting path)) .ok

def needState (s : Snapshot) : Except SourceFault State :=
  s.state?.elim (.error (.unknownState s.current)) .ok

def questionResponder : Source where
  name := "question_responder"
  applies s := s.flow.blueprint.questions.any fun q => q.enabled && s.inCategory q.category
  contribute s := .ofExcept do
    let q ← needSetting "sources.questions" s.flow.blueprint.questions
    return (q.answerFor s.intent).toList.map fun action =>
      .action { action := action, priority := .high, reason := "question_answered" }

def stateRules : Source where
  name := "state_rules"
  applies _ := true
  contribute s := .ofExcept do
    let state ← needState s
    let rule := (state.rules.find? s.intent).bind s.select
    let transition := (state.transitions.find? s.intent).bind s.select
    return rule.toList.map (fun picked => .action {
        action := picked.target
        priority := .normal
        reason := reasonFor "state_rule" picked.condition }) ++
      transition.toList.map fun picked => .transition {
        target := picked.target
        priority := .normal
        reason := reasonFor "state_transition" picked.condition }

def dataCollector : Source where
  name := "data_collector"
  applies s := s.state?.any fun state =>
    !state.requiredData.isEmpty && state.transitions.contains Trigger.dataComplete
  contribute s := .ofExcept do
    if !s.missingRequired.isEmpty then return []
    let state ← needState s
    let picked := (state.transitions.find? Trigger.dataComplete).bind s.select
    return picked.toList.map fun picked => .transition {
      target := picked.target
      priority := .high
      reason := "data_complete" }

def rejectionHandler : Source where
  name := "rejection_handler"
  applies s := s.flow.blueprint.rejection.any fun r => r.enabled && s.inCategory r.category
  contribute s := .ofExcept do
    let r ← needSetting "sources.rejection" s.flow.blueprint.rejection
    return [.action {
      action := r.action
      priority := .critical
      combinable := false
      reason := "rejection" }]

def defaultActionOf (s : Snapshot) : String :=
  (s.state?.bind (·.defaultAction)).getD s.flow.engine.defaultAction

-- Proposes something in every turn: the default action, and to stay.
def fallback : Source where
  name := "fallback"
  applies _ := true
  contribute s := { written := [
    .action { action := defaultActionOf s, priority := .low, reason := "fallback_default" },
    .transition { target := s.current, priority := .low, reason := "stay_in_state" }] }

end Colloquy.Source
