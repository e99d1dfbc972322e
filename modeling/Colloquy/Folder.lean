import Colloquy.Table

/-! Folders and the single calls on one of them. -/
namespace Colloquy

inductive FileFault where
  | notFound
  | notAFolder
  | isAFolder
  | nameTooLong
  | other (reason : String)
deriving DecidableEq, Repr

def FileFault.message : FileFault → String
  | .notFound => "No such file or directory (os error 2)"
  | .notAFolder => "Not a directory (os error 20)"
  | .isAFolder => "Is a directory (os error 21)"
  | .nameTooLong => "File name too long (os error 36)"
  | .other reason => reason

inductive Entry where
  | file (content : String)
  | folder
deriving DecidableEq, Repr

abbrev Folder := Table Entry

inductive Place where
  | absent
  -- A file stands there or on the way.
  | blocked
  | folder (entries : Folder)

namespace Place

def entries? : Place → Except FileFault Folder
  | .absent => .error .notFound
  | .blocked => .error .notAFolder
  | .folder entries => .ok entries

def create : Place → Except FileFault Place
  | .absent => .ok (.folder .empty)
  | .blocked => .error .notAFolder
  | .folder entries => .ok (.folder entries)

-- Names beyond the limit, in bytes, are refused by every call.
def checkName (limit : Option Nat) (name : String) : Except FileFault Unit :=
  if limit.any (· < name.utf8ByteSize) then .error .nameTooLong else .ok ()

variable (limit : Option Nat)

def read (p : Place) (name : String) : Except FileFault String := do
  let entries ← p.entries?
  checkName limit name
  match entries.find? name with
  | none => .error .notFound
  | some .folder => .error .isAFolder
  | some (.file content) => return content

def write (p : Place) (name content : String) : Except FileFault Place := do
  let entries ← p.entries?
  checkName limit name
  match entries.find? name with
  | some .folder => .error .isAFolder
  | _ => return .folder (entries.insert name (.file content))

def remove (p : Place) (name : String) : Except FileFault Place := do
  let entries ← p.entries?
  checkName limit name
  match entries.find? name with
  | none => .error .notFound
  | some .folder => .error .isAFolder
  | some (.file _) => return .folder (entries.erase name)

-- The file under `source` takes the place of the one under `target`.
def rename (p : Place) (source target : String) : Except FileFault Place := do
  let content ← p.read limit source
  let entries ← p.entries?
  checkName limit target
  match entries.find? target with
  | some .folder => .error .isAFolder
  | _ => return .folder ((entries.erase source).insert target (.file content))

def names (p : Place) : Except FileFault (List String) := Table.keys <$> p.entries?

end Place

structure FolderAccess (m : Type → Type) where
  -- How messages name a file of the folder, or the folder itself.
  shown : Option String → String
  create : m (Except FileFault Unit)
  read : String → m (Except FileFault String)
  write : String → String → m (Except FileFault Unit)
  remove : String → m (Except FileFault Unit)
  rename : String → String → m (Except FileFault Unit)
  names : m (Except FileFault (List String))
  -- A hidden file name that nobody else uses.
  temporary : m String

namespace Place

-- What a call that changes the place leaves behind; a failed one changes nothing.
def keeping (call : Place → Except FileFault Place) : StateM Place (Except FileFault Unit) :=
  modifyGet fun p => match call p with
    | .ok p' => (.ok (), p')
    | .error e => (.error e, p)

def temporaryName (n : Nat) : String :=
  String.ofList ('.' :: List.replicate n '0' ++ ['.', 't', 'm', 'p'])

-- The first temporary name not taken; one of as many as there are entries, and one more, is free.
def unused : Place → String
  | .folder entries =>
    let free := (List.range (entries.size + 1)).find? fun n => !entries.contains (temporaryName n)
    temporaryName (free.getD 0)
  | _ => temporaryName 0

def access (limit : Option Nat) : FolderAccess (StateM Place) where
  shown name := name.getD "."
  create := keeping create
  read name := return (← get).read limit name
  write name content := keeping (·.write limit name content)
  remove name := keeping (·.remove limit name)
  rename source target := keeping (·.rename limit source target)
  names := return (← get).names
  temporary := return (← get).unused

end Place

end Colloquy
