import Colloquy.Conversation.Codec
import Colloquy.Folder
import Colloquy.Lexicon
import Colloquy.Store

/-! A store of files: one JSON text per conversation, written beside its place and moved there. -/
namespace Colloquy

namespace Store.Files

def isIdChar (c : Char) : Bool := c.isAlphanum || c == '-' || c == '_' || c == '.'

-- Ids that are file names of their own, and not hidden ones.
def isUsable (id : String) : Bool :=
  match id.toList with
  | [] => false
  | c :: rest => c != '.' && (c :: rest).all isIdChar

def extension : List Char := ['.', 'j', 's', 'o', 'n']

def fileName (id : String) : String := String.ofList (id.toList ++ extension)

-- The id under which a file is listed; hidden files and other extensions have none.
def idOf? (name : String) : Option String :=
  let stem := name.toList.take (name.toList.length - extension.length)
  if name.toList = stem ++ extension ∧ stem ≠ [] ∧ stem.head? ≠ some '.' then
    some (String.ofList stem)
  else none

def failure (what : String) (shown : String) (e : FileFault) : StoreError :=
  .failed ("Failed to " ++ what ++ " " ++ shown ++ ": " ++ e.message)

def read (id content : String) : Except StoreError Conversation :=
  (Conversation.ofJson content).mapError fun e => .corrupted id e.message

variable [Monad m] (folder : FolderAccess m)

-- Writing beside the place and moving there; what a failed move leaves is removed.
def put (name content : String) : m (Except StoreError Unit) := do
  let temporary ← folder.temporary
  match ← folder.write temporary content with
  | .error e => return .error (failure "write" (folder.shown temporary) e)
  | .ok () =>
    match ← folder.rename temporary name with
    | .ok () => return .ok ()
    | .error e =>
      let _ ← folder.remove temporary
      return .error (failure "move snapshot into" (folder.shown name) e)

def save (c : Conversation) : m (Except StoreError Unit) := do
  if isUsable c.id then
    match ← folder.create with
    | .error e => return .error (failure "create" (folder.shown none) e)
    | .ok () => put folder (fileName c.id) c.toJson
  else return .error (.unusableId c.id)

def load (id : String) : m (Except StoreError (Option Conversation)) := do
  if isUsable id then
    match ← folder.read (fileName id) with
    | .ok content => return some <$> read id content
    | .error .notFound => return .ok none
    | .error e => return .error (failure "read" (folder.shown (fileName id)) e)
  else return .error (.unusableId id)

def delete (id : String) : m (Except StoreError Bool) := do
  if isUsable id then
    match ← folder.remove (fileName id) with
    | .ok () => return .ok true
    | .error .notFound => return .ok false
    | .error e => return .error (failure "delete" (folder.shown (fileName id)) e)
  else return .error (.unusableId id)

def list : m (Except StoreError (List String)) := do
  match ← folder.names with
  | .ok names => return .ok (Lexicon.ofList (names.filterMap idOf?)).toList
  | .error .notFound => return .ok []
  | .error e => return .error (failure "list" (folder.shown none) e)

end Store.Files

def Store.files [Monad m] (folder : FolderAccess m) : Store m where
  name := "file"
  save := Files.save folder
  load := Files.load folder
  delete := Files.delete folder
  list := Files.list folder

end Colloquy
