import Colloquy.Blueprint.Check
import Colloquy.Blueprint.Decoding

/-! Flows: blueprints that passed every check, with their vocabulary. -/
namespace Colloquy

structure Flow where
  blueprint : Blueprint
  vocabulary : Vocabulary

inductive FlowError where
  | unreadable (e : Unreadable Toml.ReadError)
  | invalid (violations : List Violation)

namespace FlowError

def invalidMessage (violations : List Violation) : String :=
  "flow configuration has " ++ toString violations.length ++ " violation(s): "
    ++ "; ".intercalate (violations.map Violation.message)

end FlowError

structure Selected where
  target : String
  condition : Option String
deriving DecidableEq, Repr

namespace Flow

def build (b : Blueprint) : Except (List Violation) Flow :=
  let vocabulary := b.vocabulary
  match b.violations vocabulary with
  | [] => .ok ⟨b, vocabulary⟩
  | violations => .error violations

def ofBlueprint (b : Blueprint) : Except FlowError Flow := (build b).mapError .invalid

def ofToml (source : String) : Except FlowError Flow :=
  match Blueprint.ofToml source with
  | .error e => .error (.unreadable e)
  | .ok b => ofBlueprint b

def ofDocument (d : Document) : Except FlowError Flow :=
  match (Blueprint.decode d).run .json with
  | .error e => .error (.unreadable (.shape e))
  | .ok b => ofBlueprint b

def initialState (flow : Flow) : String := flow.blueprint.initialState

def engine (flow : Flow) : EngineSettings := flow.blueprint.engine

def state? (flow : Flow) (id : String) : Option State := flow.blueprint.states.find? id

def hasState (flow : Flow) (id : String) : Bool := flow.blueprint.states.contains id

def isIntent (flow : Flow) (name : String) : Bool := flow.vocabulary.intents.contains name

def isAction (flow : Flow) (name : String) : Bool := flow.vocabulary.actions.contains name

def field? (flow : Flow) (name : String) : Option FieldDeclaration :=
  flow.blueprint.fields.find? name

def category? (flow : Flow) (name : String) : Option Lexicon :=
  flow.vocabulary.categories.find? name

-- Nothing is in a category that there is not.
def inCategory (flow : Flow) (name intent : String) : Bool :=
  (flow.category? name).any (·.contains intent)

def isMissing (data : Data) (field : String) : Bool := (data.find? field).all Value.isBlank

-- Data that a state requires and that is absent or blank, in the order required.
def missingRequired (flow : Flow) (state : String) (data : Data) : List String :=
  (flow.state? state).elim [] fun s => s.requiredData.filter (isMissing data)

def context (flow : Flow) (facts : Facts) : Context :=
  { toFacts := facts, categories := flow.vocabulary.categories }

-- A condition that there is not never holds.
def holds (flow : Flow) (facts : Facts) (name : String) : Bool :=
  match flow.vocabulary.conditions.find? name with
  | none => false
  | some .always => true
  | some .dataComplete => (flow.missingRequired facts.state facts.data).isEmpty
  | some (.expression c) => c.holds (flow.context facts)

def applies (flow : Flow) (facts : Facts) (clause : Clause) : Bool :=
  clause.condition.all (flow.holds facts)

def select (flow : Flow) (facts : Facts) : Outcome → Option Selected
  | .direct target => some ⟨target, none⟩
  | .chain clauses =>
    (clauses.find? (flow.applies facts)).map fun clause => ⟨clause.target, clause.condition⟩

end Flow

end Colloquy
