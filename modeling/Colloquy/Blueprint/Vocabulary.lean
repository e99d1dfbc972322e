import Colloquy.Blueprint.Category
import Colloquy.Condition.Parser

/-! The names that a blueprint declares. -/
namespace Colloquy

inductive NamedCondition where
  | always
  -- All data that the state requires is there.
  | dataComplete
  | expression (c : Condition)

namespace NamedCondition

def alwaysName : String := "always"

def dataCompleteName : String := "data_complete"

def isReserved (name : String) : Bool := name == alwaysName || name == dataCompleteName

def reserved : Table NamedCondition :=
  .ofList [(alwaysName, .always), (dataCompleteName, .dataComplete)]

end NamedCondition

structure Vocabulary where
  intents : Lexicon
  actions : Lexicon
  categories : Table Lexicon
  conditions : Table NamedCondition

namespace Blueprint

def expandedCategories (b : Blueprint) (intents : Lexicon) : Table Lexicon :=
  b.categories.map fun name _ => b.expand intents name

-- Conditions by name. A reserved name keeps its meaning; one that does not parse has none.
def compiledConditions (b : Blueprint) : Table NamedCondition :=
  NamedCondition.reserved.overlay <| b.conditions.filterMap fun name source =>
    if NamedCondition.isReserved name then none
    else match Condition.parse source with
      | .ok c => some (.expression c)
      | .error _ => none

def vocabulary (b : Blueprint) : Vocabulary :=
  let intents := Lexicon.ofList b.intents
  { intents := intents
    actions := .ofList b.actions
    categories := b.expandedCategories intents
    conditions := b.compiledConditions }

end Blueprint

end Colloquy
