import Colloquy.Host
import Colloquy.Path

/-! Folders within folders, held in memory, and a machine that has nothing else. -/
namespace Colloquy

structure Disk where
  folders : Table Folder

namespace Disk

def empty : Disk := ⟨.empty⟩

-- Bytes in the longest name.
def nameLimit : Nat := 255

def key (upward : List String) : String := "/".intercalate upward.reverse

def entries (d : Disk) (upward : List String) : Folder := (d.folders.find? (key upward)).getD .empty

-- What is where the parts lead; the root is always there.
def place (d : Disk) : List String → Place
  | [] => .folder (d.entries [])
  | part :: above =>
    match d.place above with
    | .folder entries =>
      match entries.find? part with
      | none => .absent
      | some (.file _) => .blocked
      | some .folder => .folder (d.entries (part :: above))
    | other => other

def put (d : Disk) (upward : List String) : Place → Disk
  | .folder entries => ⟨d.folders.insert (key upward) entries⟩
  | _ => d

-- A call on the folder under a path, which has to be there.
def within (upward : List String) (call : StateM Place α) : StateM Disk α :=
  modifyGet fun d =>
    let (answer, after) := call.run (d.place upward)
    (answer, d.put upward after)

def makeFolders (d : Disk) : List String → Except FileFault Disk
  | [] => .ok d
  | part :: above => do
    let d ← d.makeFolders above
    let entries ← (d.place above).entries?
    Place.checkName nameLimit part
    match entries.find? part with
    | some .folder => return d
    | some (.file _) => .error .notAFolder
    | none =>
      let d := d.put above (.folder (entries.insert part .folder))
      return d.put (part :: above) (.folder .empty)

-- Where a path leads to a file: the folders above it, from the last to the first, and its name.
def file (d : Disk) (path : String) : Except FileFault (List String × String) :=
  match Path.upward path with
  | [] => .error (if path.isEmpty then .notFound else .isAFolder)
  | part :: above =>
    if Path.isOfFolder path then do
      let _ ← (d.place (part :: above)).entries?
      .error .isAFolder
    else .ok (above, part)

def read (d : Disk) (path : String) : Except FileFault String := do
  let (above, name) ← d.file path
  (d.place above).read nameLimit name

def write (d : Disk) (path content : String) : Except FileFault Disk := do
  let (above, name) ← d.file path
  return d.put above (← (d.place above).write nameLimit name content)

def isFolder (d : Disk) (path : String) : Bool :=
  match d.place (Path.upward path) with
  | .folder _ => !path.isEmpty
  | _ => false

def isPresent (d : Disk) (path : String) : Bool := d.isFolder path || (d.read path).isOk

def keeping (call : Disk → Except FileFault Disk) : StateM Disk (Except FileFault Unit) :=
  modifyGet fun d => match call d with
    | .ok d' => (.ok (), d')
    | .error e => (.error e, d)

def access (path : String) : FolderAccess (StateM Disk) :=
  let upward := Path.upward path
  let inside := Place.access (some nameLimit)
  { shown := fun name => name.elim path (Path.join path)
    create := keeping (·.makeFolders upward)
    read := fun name => within upward (inside.read name)
    write := fun name content => within upward (inside.write name content)
    remove := fun name => within upward (inside.remove name)
    rename := fun source target => within upward (inside.rename source target)
    names := within upward inside.names
    temporary := within upward inside.temporary }

end Disk

-- A machine whose clock stands still.
structure Machine where
  disk : Disk := .empty
  printed : String := ""
  clock : Instant := .epoch
  -- How many ids were handed out.
  issued : Nat := 0

namespace Machine

def onDisk (call : StateM Disk α) : StateM Machine α :=
  modifyGet fun w =>
    let (answer, after) := call.run w.disk
    (answer, { w with disk := after })

def folder (path : String) : FolderAccess (StateM Machine) :=
  let inside := Disk.access path
  { shown := inside.shown
    create := onDisk inside.create
    read := fun name => onDisk (inside.read name)
    write := fun name content => onDisk (inside.write name content)
    remove := fun name => onDisk (inside.remove name)
    rename := fun source target => onDisk (inside.rename source target)
    names := onDisk inside.names
    temporary := onDisk inside.temporary }

def host : Host (StateM Machine) where
  read path := return (← get).disk.read path
  write path content := onDisk (Disk.keeping (·.write path content))
  isPresent path := return (← get).disk.isPresent path
  isFolder path := return (← get).disk.isFolder path
  makeFolders path := onDisk (Disk.keeping (·.makeFolders (Path.upward path)))
  folder := folder
  print text := modify fun w => { w with printed := w.printed ++ text }
  identifier := modifyGet fun w => (toString w.issued, { w with issued := w.issued + 1 })
  now := return (← get).clock

end Machine

end Colloquy
