import Colloquy.Store

/-! What can go wrong around a turn; within a turn nothing does. -/
namespace Colloquy

inductive CollaboratorError where
  | classification (reason : String)
  | generation (reason : String)
  | timeout (name : String) (milliseconds : Nat)
  | notConfigured (name : String)
deriving DecidableEq, Repr

def CollaboratorError.message : CollaboratorError → String
  | .classification reason => "Classifier failed: " ++ reason
  | .generation reason => "Response generation failed: " ++ reason
  | .timeout name ms => "Collaborator timed out after " ++ toString ms ++ "ms: " ++ name
  | .notConfigured name => "Collaborator not configured: " ++ name

inductive Fault where
  | configuration (reason : String)
  | store (e : StoreError)
  | collaborator (e : CollaboratorError)
  | serialization (reason : String)
  | internal (reason : String)
deriving DecidableEq, Repr

def Fault.message : Fault → String
  | .configuration reason => "Configuration error: " ++ reason
  | .store e => "Store error: " ++ e.message
  | .collaborator e => "Collaborator error: " ++ e.message
  | .serialization reason => "Serialization error: " ++ reason
  | .internal reason => "Internal error: " ++ reason

end Colloquy
