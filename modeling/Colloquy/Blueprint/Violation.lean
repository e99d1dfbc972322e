import Colloquy.Condition.Parser

/-! What can be wrong with a blueprint, and where. -/
namespace Colloquy

inductive Site where
  | category (name : String)
  | condition (name : String)
  | setting (path : String)
  | answer (intent : String)
  -- The data of a state, its default action, and the keys of its two tables.
  | state (id : String)
  | stateDefault (id : String)
  | transitions (id : String)
  | rules (id : String)
  | transition (id trigger : String)
  | rule (id intent : String)
deriving DecidableEq, Repr

def Site.text : Site → String
  | .category name => "category '@" ++ name ++ "'"
  | .condition name => "condition '" ++ name ++ "'"
  | .setting path => path
  | .answer intent => "sources.questions.answers." ++ intent
  | .state id => "state '" ++ id ++ "'"
  | .stateDefault id => "state '" ++ id ++ "' default_action"
  | .transitions id => "state '" ++ id ++ "' transitions"
  | .rules id => "state '" ++ id ++ "' rules"
  | .transition id trigger => "state '" ++ id ++ "' transition on '" ++ trigger ++ "'"
  | .rule id intent => "state '" ++ id ++ "' rule on '" ++ intent ++ "'"

inductive ChainFault where
  | noClauses
  -- A clause without a condition before the last one, counted from one.
  | unconditional (position : Nat)
deriving DecidableEq, Repr

def ChainFault.text : ChainFault → String
  | .noClauses => "chain has no clauses"
  | .unconditional position =>
    "unconditional clause " ++ toString position ++ " must be the last clause"

inductive SettingFault where
  | belowOne
  -- More turns to look back on than are remembered.
  | windowTooLong (window historyLimit : Nat)
  -- A state that a stall would leave without a way out.
  | noWayOut (state : String) (maxTurnsInState : Nat)
deriving DecidableEq, Repr

def SettingFault.text : SettingFault → String
  | .belowOne => "must be at least 1"
  | .windowTooLong window historyLimit =>
    "window " ++ toString window ++ " exceeds engine.history_limit " ++ toString historyLimit
  | .noWayOut state maxTurnsInState =>
    "required because state '" ++ state ++ "' has no 'stalled' transition (max_turns_in_state = "
      ++ toString maxTurnsInState ++ ")"

inductive NameKind where
  | intent
  | action
  | condition
deriving DecidableEq, Repr

def NameKind.name : NameKind → String
  | .intent => "intent"
  | .action => "action"
  | .condition => "condition"

inductive Violation where
  -- A transition, or a setting that names a state, to a state that there is not.
  | danglingTransition (state trigger target : String)
  | unknownInitialState (state : String)
  | unknownCategory (site : Site) (name : String)
  | categoryCycle (name : String)
  | unknownCondition (site : Site) (name : String)
  | malformedCondition (name : String) (detail : SyntaxError)
  | malformedChain (site : Site) (fault : ChainFault)
  | unknownAction (site : Site) (action : String)
  | unknownIntent (site : Site) (intent : String)
  | unknownField (site : Site) (field : String)
  | duplicate (kind : NameKind) (id : String)
  | invalidSetting (setting : String) (fault : SettingFault)

def Violation.message : Violation → String
  | .danglingTransition state trigger target =>
    "state '" ++ state ++ "' transition on '" ++ trigger ++ "' points to unknown state '" ++ target
      ++ "'"
  | .unknownInitialState state => "initial_state '" ++ state ++ "' is not a declared state"
  | .unknownCategory site name => site.text ++ " references unknown category '@" ++ name ++ "'"
  | .categoryCycle name => "category '@" ++ name ++ "' includes itself"
  | .unknownCondition site name => site.text ++ " references unknown condition '" ++ name ++ "'"
  | .malformedCondition name detail =>
    "condition '" ++ name ++ "' does not parse: " ++ detail.message
  | .malformedChain site fault => site.text ++ ": " ++ fault.text
  | .unknownAction site action => site.text ++ " uses undeclared action '" ++ action ++ "'"
  | .unknownIntent site intent => site.text ++ " uses undeclared intent '" ++ intent ++ "'"
  | .unknownField site field => site.text ++ " uses undeclared field '" ++ field ++ "'"
  | .duplicate kind id => kind.name ++ " '" ++ id ++ "' is declared more than once"
  | .invalidSetting setting fault => setting ++ ": " ++ fault.text

end Colloquy
