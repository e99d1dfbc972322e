import Colloquy.Blueprint
import Colloquy.Document.Decoding
import Colloquy.Json.Reader
import Colloquy.Toml.Reader

/-! Blueprints out of documents. -/
namespace Colloquy

namespace Clause

def decode (d : Document) : Decoded Clause := do
  let f ← d.fields ["when", "then"]
  return {
    condition := ← f.optional "when" Document.text?
    target := ← f.required "then" Document.text? }

end Clause

namespace Outcome

-- A text is a target, a list a chain.
def decode : Document → Decoded Outcome
  | .text target => return .direct target
  | .list clauses => chain <$> Decoded.undecided (clauses.mapM Clause.decode)
  | _ => throw .kind

end Outcome

namespace FieldDeclaration

def decode (d : Document) : Decoded FieldDeclaration := do
  let f ← d.fields ["kind", "merge", "description"]
  return {
    kind := ← f.withDefault "kind" .text (Document.oneOf Kind.all Kind.name)
    merge := ← f.withDefault "merge" .replace (Document.oneOf Merge.all Merge.name)
    description := ← f.withDefault "description" "" Document.text? }

end FieldDeclaration

def Document.texts? : Document → Decoded (List String) := Document.listOf Document.text?

namespace State

def decode (d : Document) : Decoded State := do
  let f ← d.fields ["goal", "required_data", "optional_data", "transitions", "rules",
    "default_action", "terminal"]
  return {
    goal := ← f.withDefault "goal" "" Document.text?
    requiredData := ← f.withDefault "required_data" [] Document.texts?
    optionalData := ← f.withDefault "optional_data" [] Document.texts?
    transitions := ← f.withDefault "transitions" .empty (Document.tableOf Outcome.decode)
    rules := ← f.withDefault "rules" .empty (Document.tableOf Outcome.decode)
    defaultAction := ← f.optional "default_action" Document.text?
    terminal := ← f.withDefault "terminal" false Document.bool? }

end State

namespace EngineSettings

def decode (d : Document) : Decoded EngineSettings := do
  let f ← d.fields ["default_action", "escalation_action", "unknown_intent", "history_limit",
    "unclear_category"]
  let default : EngineSettings := {}
  return {
    defaultAction := ← f.withDefault "default_action" default.defaultAction Document.text?
    escalationAction := ← f.withDefault "escalation_action" default.escalationAction Document.text?
    unknownIntent := ← f.withDefault "unknown_intent" default.unknownIntent Document.text?
    historyLimit := ← f.withDefault "history_limit" default.historyLimit Document.size?
    unclearCategory := ← f.optional "unclear_category" Document.text? }

end EngineSettings

namespace QuestionSettings

def decode (d : Document) : Decoded QuestionSettings := do
  let f ← d.fields ["enabled", "category", "answers", "default_answer"]
  return {
    enabled := ← f.withDefault "enabled" true Document.bool?
    category := ← f.required "category" Document.text?
    answers := ← f.withDefault "answers" .empty (Document.tableOf Document.text?)
    defaultAnswer := ← f.optional "default_answer" Document.text? }

end QuestionSettings

namespace RejectionSettings

def decode (d : Document) : Decoded RejectionSettings := do
  let f ← d.fields ["enabled", "category", "action"]
  return {
    enabled := ← f.withDefault "enabled" true Document.bool?
    category := ← f.required "category" Document.text?
    action := ← f.withDefault "action" "soft_close" Document.text? }

end RejectionSettings

namespace StallSettings

def decode (d : Document) : Decoded StallSettings := do
  let f ← d.fields ["enabled", "max_turns_in_state", "offer_skip_action", "skip_action",
    "exit_action", "skip_state"]
  return {
    enabled := ← f.withDefault "enabled" true Document.bool?
    maxTurnsInState := ← f.withDefault "max_turns_in_state" 10 Document.count?
    offerSkipAction := ← f.required "offer_skip_action" Document.text?
    skipAction := ← f.required "skip_action" Document.text?
    exitAction := ← f.required "exit_action" Document.text?
    skipState := ← f.optional "skip_state" Document.text? }

end StallSettings

namespace LoopSettings

def decode (d : Document) : Decoded LoopSettings := do
  let f ← d.fields ["enabled", "max_repeats", "window", "informative_category", "nudge_action",
    "rephrase_action", "exit_action"]
  return {
    enabled := ← f.withDefault "enabled" true Document.bool?
    maxRepeats := ← f.withDefault "max_repeats" 4 Document.count?
    window := ← f.withDefault "window" 10 Document.size?
    informativeCategory := ← f.optional "informative_category" Document.text?
    nudgeAction := ← f.required "nudge_action" Document.text?
    rephraseAction := ← f.required "rephrase_action" Document.text?
    exitAction := ← f.required "exit_action" Document.text? }

end LoopSettings

namespace ObjectionSettings

def decode (d : Document) : Decoded ObjectionSettings := do
  let f ← d.fields ["enabled", "category", "max_consecutive", "max_total", "action"]
  return {
    enabled := ← f.withDefault "enabled" true Document.bool?
    category := ← f.required "category" Document.text?
    maxConsecutive := ← f.withDefault "max_consecutive" 3 Document.count?
    maxTotal := ← f.withDefault "max_total" 6 Document.count?
    action := ← f.withDefault "action" "soft_close" Document.text? }

end ObjectionSettings

namespace Blueprint

-- Sections that a missing table of sections leaves out.
def noSections : Document := .table []

def decode (d : Document) : Decoded Blueprint := do
  let f ← d.fields ["initial_state", "intents", "actions", "engine", "fields", "categories",
    "conditions", "states", "sources", "guards"]
  let initialState ← f.required "initial_state" Document.text?
  let intents ← f.withDefault "intents" [] Document.texts?
  let actions ← f.withDefault "actions" [] Document.texts?
  let engine ← f.withDefault "engine" {} EngineSettings.decode
  let fields ← f.withDefault "fields" .empty (Document.tableOf FieldDeclaration.decode)
  let categories ← f.withDefault "categories" .empty (Document.tableOf Document.texts?)
  let conditions ← f.withDefault "conditions" .empty (Document.tableOf Document.text?)
  let states ← f.required "states" (Document.tableOf State.decode)
  let sources ← ((f.present.lookup "sources").getD noSections).fields ["questions", "rejection"]
  let guards ← ((f.present.lookup "guards").getD noSections).fields ["stall", "loop", "objection"]
  return {
    initialState := initialState
    intents := intents
    actions := actions
    engine := engine
    fields := fields
    categories := categories
    conditions := conditions
    states := states
    questions := ← sources.optional "questions" QuestionSettings.decode
    rejection := ← sources.optional "rejection" RejectionSettings.decode
    stall := ← guards.optional "stall" StallSettings.decode
    loop := ← guards.optional "loop" LoopSettings.decode
    objection := ← guards.optional "objection" ObjectionSettings.decode }

def ofToml : String → Except (Unreadable Toml.ReadError) Blueprint := 
  Document.ofText .toml Toml.read decode

end Blueprint

end Colloquy
