import Colloquy.Engine
import Colloquy.Toml.Reader

/-! Scripts: turns written beforehand, played one after the other. -/
namespace Colloquy

structure Script where
  conversation : Option String
  turns : List TurnInput

namespace Script

def decodeTurn (d : Document) : Decoded TurnInput := do
  let f ← d.fields ["intent", "data"]
  return {
    label := ← f.required "intent" Document.text?
    extracted := ← f.withDefault "data" .empty Document.data? }

def decode (d : Document) : Decoded Script := do
  let f ← d.fields ["conversation_id", "turn"]
  return {
    conversation := ← f.optional "conversation_id" Document.text?
    turns := ← f.withDefault "turn" [] (Document.listOf decodeTurn) }

def ofToml : String → Except (Unreadable Toml.ReadError) Script := 
  Document.ofText .toml Toml.read decode

end Script

-- The results of the turns in order, each from where the one before it ended.
def Engine.play (engine : Engine) (now : Instant) : Conversation → List TurnInput → List TurnResult
  | _, [] => []
  | c, input :: rest =>
    let result := engine.turn c input now
    result :: play engine now result.conversation rest

namespace TurnResult

-- Columns count characters; a longer text is not cut.
def padRight (width : Nat) (s : String) : String :=
  s ++ String.ofList (List.replicate (width - s.length) ' ')

def padLeft (width : Nat) (s : String) : String :=
  String.ofList (List.replicate (width - s.length) ' ') ++ s

def indent : String := "         "

def marker : TraceOutcome → String
  | .won => "*"
  | .retained => "+"
  | .overridden => "-"
  | .suppressed => "x"

def headLine (r : TurnResult) : String :=
  "turn " ++ padLeft 2 (toString r.view.turn) ++ "  " ++ padRight 20 r.decision.action ++ " -> "
    ++ r.decision.nextState ++ (if r.decision.degraded then "  [degraded]" else "")
    ++ (if r.decision.transitionsSuppressed then "  [stay]" else "")

def dataLines (updates : Data) : List String :=
  if updates.isEmpty then []
  else
    let shown := updates.entries.map fun (field, value) => field ++ "=" ++ value.display
    [indent ++ "data: " ++ ", ".intercalate shown]

def faultLine (f : FaultRecord) : String :=
  indent ++ "fault: " ++ f.source ++ " (" ++ f.fault.message ++ ")"

def traceLine (e : TraceEntry) : String :=
  indent ++ marker e.outcome ++ " " ++ padRight 20 e.source ++ " " ++ padRight 10 e.kind.name ++ " "
    ++ padRight 20 e.value ++ " " ++ padRight 8 e.priority.name ++ " " ++ e.reason

def lines (withTrace : Bool) (r : TurnResult) : List String :=
  [r.headLine, indent ++ "reasons: " ++ ", ".intercalate r.decision.reasons]
  ++ dataLines r.decision.dataUpdates
  ++ r.faults.map faultLine
  ++ (if withTrace then r.decision.trace.map traceLine else [])

def render (withTrace : Bool) (r : TurnResult) : String :=
  String.join ((r.lines withTrace).map (· ++ "\n"))

end TurnResult

end Colloquy
