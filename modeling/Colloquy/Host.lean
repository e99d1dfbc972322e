import Colloquy.Folder
import Colloquy.Instant

/-! What the commands need of the machine they run on. -/
namespace Colloquy

structure Host (m : Type → Type) where
  read : String → m (Except FileFault String)
  write : String → String → m (Except FileFault Unit)
  isPresent : String → m Bool
  isFolder : String → m Bool
  -- The folder under a path and all folders on the way to it.
  makeFolders : String → m (Except FileFault Unit)
  folder : String → FolderAccess m
  print : String → m Unit
  identifier : m String
  now : m Instant

-- Where a command is started: the user's home folder and the variables that are set.
structure Surroundings where
  home : String
  environment : Table String := .empty

def Surroundings.lookup (s : Surroundings) (name : String) : Option String :=
  s.environment.find? name

end Colloquy
