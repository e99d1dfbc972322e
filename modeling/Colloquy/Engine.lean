import Colloquy.Source.Guard
import Colloquy.Turn

/-! The engine: a flow that can be replaced and the sources asked in every turn. -/
namespace Colloquy

structure Engine where
  flow : Flow
  registry : Registry := .standard

namespace Engine

def start (engine : Engine) (id : String) (now : Instant) : Conversation :=
  .begin id engine.flow.initialState engine.flow.engine.historyLimit now

def reset (engine : Engine) (c : Conversation) (now : Instant) : Conversation :=
  c.reset engine.flow.initialState engine.flow.engine.historyLimit now

def turn (engine : Engine) (c : Conversation) (input : TurnInput) (now : Instant) : TurnResult :=
  processTurn engine.registry engine.flow c input now

def reload (engine : Engine) (flow : Flow) : Engine × Event :=
  ({ engine with flow := flow }, .flowReloaded flow.blueprint.states.size)

def view (engine : Engine) (c : Conversation) : View := engine.flow.view c

end Engine

end Colloquy
