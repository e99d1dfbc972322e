import Colloquy.Engine
import Colloquy.Fault

/-! Sessions: turns with their collaborators, neither of which can make a turn fail. -/
namespace Colloquy

structure Classification where
  intent : String
  confidence : Float32 := 1
  extracted : Data := .empty

structure ClassifierContext where
  conversation : String
  current : String
  lastAction : Option String
  turn : Nat
  allowedIntents : List String
deriving DecidableEq, Repr

structure ResponseRequest where
  conversation : String
  action : String
  state : String
  goal : String
  missing : List String
  data : Data
  text : String

-- An answer and the milliseconds it takes.
structure Timed (α : Type) where
  delay : Nat := 0
  answer : Except CollaboratorError α

-- An answer exactly at the limit is still in time.
def Timed.within (timed : Timed α) (limit : Nat) (name : String) : Except CollaboratorError α :=
  if limit < timed.delay then .error (.timeout name limit) else timed.answer

structure Classifier where
  name : String
  classify : String → ClassifierContext → Timed Classification

structure Generator where
  name : String
  generate : ResponseRequest → Timed String

-- What is fixed before the classifier answers. The flow may be replaced while it works.
structure Opening where
  text : String
  context : ClassifierContext
  unknownIntent : String

def Opening.of (flow : Flow) (c : Conversation) (text : String) : Opening where
  text := text
  context := {
    conversation := c.id
    current := c.current
    lastAction := c.lastAction
    turn := countAfter c.turn
    allowedIntents := flow.vocabulary.intents.toList }
  unknownIntent := flow.engine.unknownIntent

def Opening.input (o : Opening) : Except CollaboratorError Classification → TurnInput
  | .ok c => ⟨c.intent, c.extracted⟩
  | .error _ => ⟨o.unknownIntent, .empty⟩

def ResponseRequest.of (result : TurnResult) (text : String) : ResponseRequest where
  conversation := result.conversation.id
  action := result.decision.action
  state := result.view.state
  goal := result.view.goal
  missing := result.view.missingRequired
  data := result.conversation.data
  text := text

structure Reply where
  result : TurnResult
  text : Option String
  classification : Option Classification
  context : ClassifierContext
  request : ResponseRequest

structure Session where
  engine : Engine
  classifier : Classifier
  generator : Generator
  -- Milliseconds for each call.
  limit : Nat := 30000

namespace Session

def heard (s : Session) (o : Opening) : Except CollaboratorError Classification :=
  (s.classifier.classify o.text o.context).within s.limit s.classifier.name

def worded (s : Session) (request : ResponseRequest) : Except CollaboratorError String :=
  (s.generator.generate request).within s.limit s.generator.name

-- The turn under the flow now in force, and its wording.
def complete (s : Session) (c : Conversation) (o : Opening)
    (heard : Except CollaboratorError Classification) (now : Instant) : Reply :=
  let result := s.engine.turn c (o.input heard) now
  let request := ResponseRequest.of result o.text
  { result := result
    text := (s.worded request).toOption
    classification := heard.toOption
    context := o.context
    request := request }

def turn (s : Session) (c : Conversation) (text : String) (now : Instant) : Reply :=
  let o := Opening.of s.engine.flow c text
  s.complete c o (s.heard o) now

def noStore : Fault := .collaborator (.notConfigured "state store")

variable [Monad m] (s : Session)

-- One turn of a stored conversation; one that is not stored begins.
def respond (store : Option (Store m)) (id text : String) (now : Instant) :
    m (Except Fault Reply) := do
  let some store := store | return .error noStore
  match ← store.load id with
  | .error e => return .error (.store e)
  | .ok found =>
    let reply := s.turn (found.getD (s.engine.start id now)) text now
    match ← store.save reply.result.conversation with
    | .error e => return .error (.store e)
    | .ok () => return .ok reply

def forget (store : Option (Store m)) (id : String) : m (Except Fault Unit) := do
  let some store := store | return .error noStore
  match ← store.delete id with
  | .error e => return .error (.store e)
  | .ok true => return .ok ()
  | .ok false => return .error (.store (.notFound id))

end Session

end Colloquy
