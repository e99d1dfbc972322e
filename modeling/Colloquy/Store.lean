import Colloquy.Conversation

/-! Stores keep whole conversations between turns, each under its id. -/
namespace Colloquy

inductive StoreError where
  -- The id cannot name what is stored.
  | unusableId (id : String)
  | failed (reason : String)
  | notFound (id : String)
  -- What is stored under the id is no conversation.
  | corrupted (id reason : String)
deriving DecidableEq, Repr

def StoreError.message : StoreError → String
  | .unusableId id => "Storage error: conversation id '" ++ id ++ "' cannot be used as a file name"
  | .failed reason => "Storage error: " ++ reason
  | .notFound id => "Conversation not found: " ++ id
  | .corrupted id reason => "Corrupted snapshot for " ++ id ++ ": " ++ reason

structure Store (m : Type → Type) where
  name : String
  save : Conversation → m (Except StoreError Unit)
  load : String → m (Except StoreError (Option Conversation))
  -- Whether there was one to delete.
  delete : String → m (Except StoreError Bool)
  -- All ids, in increasing order.
  list : m (Except StoreError (List String))

namespace Store

-- The same store where more can happen.
def lift [MonadLiftT m n] (store : Store m) : Store n where
  name := store.name
  save c := liftM (store.save c)
  load id := liftM (store.load id)
  delete id := liftM (store.delete id)
  list := liftM store.list

-- Conversations in a table that the program carries along.
def memory [MonadStateOf (Table Conversation) m] : Store m where
  name := "in_memory"
  save c := modifyGet fun t => (.ok (), t.insert c.id c)
  load id := modifyGet fun t => (.ok (t.find? id), t)
  delete id := modifyGet fun t => (.ok (t.contains id), t.erase id)
  list := modifyGet fun t => (.ok t.keys, t)

end Store

end Colloquy
