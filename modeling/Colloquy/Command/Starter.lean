import Colloquy.Command.Outcome
import Colloquy.Conversation
import Colloquy.Host
import Colloquy.Sample

/-! Running commands, and the first of them: writing the files that a new user begins with. -/
namespace Colloquy

abbrev Running (m : Type → Type) := ExceptT CommandError (StateT (Table Conversation) m)

namespace Command

variable {m : Type → Type} [Monad m] (host : Host m) (around : Surroundings)

def calling (call : m α) : Running m α := ExceptT.lift (StateT.lift call)

def say (line : String) : Running m Unit := calling (host.print (line ++ "\n"))

def configFolder : String := Settings.folder around.home

def configPath : String := Path.join (configFolder around) Settings.fileName

def starterFiles : List (String × String) := [
  (Settings.fileName, (Settings.standard around.home).toToml),
  (Settings.flowName, Sample.flow),
  ("script.toml", Sample.script)]

-- Files that are there already are kept unless forced; the names of those written are given back.
def writeFiles (folder : String) (force : Bool) :
    List (String × String) → m (Except FileFault (List String))
  | [] => return .ok []
  | (name, content) :: rest => do
    let path := Path.join folder name
    if (← host.isPresent path) && !force then
      writeFiles folder force rest
    else
      match ← host.write path content with
      | .error e => return .error e
      | .ok () => return (name :: ·) <$> (← writeFiles folder force rest)

def writeStarterFiles (folder : String) (force : Bool) : m (Except FileFault (List String)) :=
  writeFiles host folder force (starterFiles around)

def onFile (answer : m (Except FileFault α)) : Running m α := do
  match ← calling answer with
  | .ok a => return a
  | .error e => throw (.file e)

def runInit (force : Bool) : Running m Unit := do
  let folder := configFolder around
  say host "Parley — setup"
  say host "==============\n"
  if ← calling (host.isPresent folder) then
    say host ("  Config directory exists: " ++ folder)
  else
    onFile (host.makeFolders folder)
    say host ("  Created config directory: " ++ folder)
  let written ← onFile (writeStarterFiles host around folder force)
  written.forM fun name => say host ("  Wrote " ++ Path.join folder name)
  if written.length < (starterFiles around).length then
    say host "\n  Existing files were kept; pass --force to overwrite them."
  say host "\nNext steps:"
  say host ("  1. Edit " ++ Path.join folder Settings.flowName)
  say host "  2. Run: parley validate"
  say host ("  3. Run: parley simulate --script " ++ Path.join folder "script.toml")

end Command

end Colloquy
