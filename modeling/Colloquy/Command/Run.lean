import Colloquy.Command
import Colloquy.Command.Starter
import Colloquy.Report
import Colloquy.Script
import Colloquy.Store.Files

/-! What the commands do, and a whole run of the program. -/
namespace Colloquy

namespace Command

variable {m : Type → Type} [Monad m] (host : Host m) (around : Surroundings)

def loadSettings : m (Except SettingsError Settings) := do
  let path := configPath around
  let written ← if ← host.isPresent path then some <$> host.read path else pure none
  return Settings.load around.home around.lookup written

def settings : Running m Settings := do
  match ← calling (loadSettings host around) with
  | .ok s => return s
  | .error e => throw (.settings e)

def loadFlow (path : String) : m (Except FlowFileError Flow) := do
  match ← host.read path with
  | .error e => return .error (.unreadable path e)
  | .ok source => return (Flow.ofToml source).mapError fun
    | .unreadable e => .malformed path e
    | .invalid violations => .invalid violations

-- The flow under a path given, or else under the one of the settings.
def flow (s : Settings) (path : Option String) : Running m Flow := do
  match ← calling (loadFlow host (path.getD s.flowPath)) with
  | .ok f => return f
  | .error e => throw (.flow e)

def store (s : Settings) : Store (Running m) :=
  match s.backend with
  | .memory => Store.memory
  | .file => (Store.files (host.folder s.storeFolder)).lift

def stored (answer : Running m (Except StoreError α)) : Running m α := do
  match ← answer with
  | .ok a => return a
  | .error e => throw (.store e)

def storedConversation (store : Store (Running m)) (id : String) : Running m Conversation := do
  match ← stored (store.load id) with
  | some c => return c
  | none => throw (.noConversation id store.name)

def runValidate (path : Option String) : Running m Unit := do
  let path ← match path with
    | some path => pure path
    | none => Settings.flowPath <$> settings host around
  say host ("Validating " ++ path)
  match ← calling (loadFlow host path) with
  | .ok f =>
    say host ("  ok: " ++ toString f.blueprint.states.size ++ " states, "
      ++ toString f.vocabulary.intents.size ++ " intents, "
      ++ toString f.vocabulary.actions.size ++ " actions")
    say host ("  initial state: " ++ f.initialState)
  | .error (.invalid violations) =>
    violations.forM fun v => say host ("  error: " ++ v.message)
    throw (.violations violations.length path)
  | .error e => throw (.flow e)

def script (path : String) : Running m Script := do
  match ← calling (host.read path) with
  | .error e => throw (.unreadableScript path e)
  | .ok source =>
    match Script.ofToml source with
    | .error e => throw (.malformedScript path e)
    | .ok s => return s

-- The conversation of a script: the stored one goes on where it will be saved again.
def opening (engine : Engine) (store : Option (Store (Running m))) (id : Option String)
    (now : Instant) : Running m Conversation := do
  let some id := id | return engine.start (← calling host.identifier) now
  let some store := store | return engine.start id now
  match ← stored (store.load id) with
  | none => return engine.start id now
  | some c =>
    say host ("Resuming conversation " ++ id ++ " at turn " ++ toString c.turn)
    return c

def runSimulate (scriptPath : String) (flowPath : Option String) (save withTrace : Bool) :
    Running m Unit := do
  let s ← settings host around
  let f ← flow host s flowPath
  let played ← script host scriptPath
  let engine : Engine := { flow := f }
  let store := if save then some (store host s) else none
  let now ← calling host.now
  let c ← opening host engine store played.conversation now
  say host ("Conversation " ++ c.id ++ " (" ++ toString played.turns.length ++ " turns scripted)\n")
  let results := engine.play now c played.turns
  results.forM fun r => calling (host.print (r.render withTrace))
  let after := (results.getLast?.map (·.conversation)).getD c
  let some store := store | return
  stored (store.save after)
  say host ("Saved conversation " ++ after.id ++ " (" ++ store.name ++ " store)")

def listConversations (store : Store (Running m)) (json : Bool) : Running m Unit := do
  let ids ← stored store.list
  if json then
    say host (Json.pretty (.ofTexts ids))
  else if ids.isEmpty then
    say host ("No stored conversations (" ++ store.name ++ " store)")
  else
    say host ("Stored conversations (" ++ store.name ++ " store):")
    ids.forM fun id => say host ("  " ++ id)

def runStatus (id : Option String) (json : Bool) : Running m Unit := do
  let s ← settings host around
  let store := store host s
  let some id := id | listConversations host store json
  let c ← storedConversation store id
  let report := Report.of c (← flow host s none)
  say host (if json then Json.pretty report.encode else report.text)

def runReset (id : String) : Running m Unit := do
  let s ← settings host around
  let store := store host s
  let c ← storedConversation store id
  let engine : Engine := { flow := ← flow host s none }
  let after := engine.reset c (← calling host.now)
  stored (store.save after)
  say host ("Conversation " ++ id ++ " reset to '" ++ after.current ++ "'")

-- The settings in force, and whether the file is missing.
def checkSettings : Running m (Settings × Bool) := do
  if ← calling (host.isPresent (configPath around)) then
    match ← calling (loadSettings host around) with
    | .ok s =>
      say host "  ok    config file valid"
      return (s, false)
    | .error e =>
      say host ("  FAIL  config file invalid: " ++ e.message)
      throw .invalidSettings
  else
    say host "  warn  no config file, using defaults (run `parley init`)"
    return (Settings.standard around.home, true)

def checkFlow (path : String) : Running m Bool := do
  match ← calling (loadFlow host path) with
  | .ok f =>
    say host ("  ok    flow " ++ path ++ " (" ++ toString f.blueprint.states.size ++ " states)")
    return false
  | .error (.invalid violations) =>
    say host ("  FAIL  flow " ++ path ++ " has " ++ toString violations.length
      ++ " violation(s); run `parley validate`")
    return true
  | .error e =>
    say host ("  FAIL  " ++ e.message)
    return true

def reportStore (s : Settings) : Running m Unit := do
  match s.backend with
  | .memory => say host "  ok    memory store (conversations are not persisted)"
  | .file =>
    let pending := if ← calling (host.isFolder s.storeFolder) then "" else " (created on first save)"
    say host ("  ok    file store at " ++ s.storeFolder ++ pending)

def runDoctor : Running m Unit := do
  say host "Parley Doctor — setup diagnostics"
  say host "=================================\n"
  let (s, missing) ← checkSettings host around
  let faulty ← checkFlow host s.flowPath
  reportStore host s
  let issues := missing.toNat + faulty.toNat
  say host ""
  if issues = 0 then say host "  All checks passed!"
  else say host ("  " ++ toString issues ++ " issue(s) found. See above for details.")

def run : Command → Running m Unit
  | .init force => runInit host around force
  | .validate path => runValidate host around path
  | .simulate script path save withTrace => runSimulate host around script path save withTrace
  | .status id json => runStatus host around id json
  | .reset id => runReset host around id
  | .doctor => runDoctor host around

def versionText : String := "parley 0.1.0"

def helpText : String :=
  "\n".intercalate [
    "Usage: parley [OPTIONS] <COMMAND>",
    "",
    "Commands:",
    "  init [--force]                                 Write a starter config and sample flow",
    "  validate [-f FLOW]                             Load a flow and report every violation",
    "  simulate -s SCRIPT [-f FLOW] [--save] [--trace] Run a scripted conversation",
    "  status [ID] [--json]                           Show a stored conversation, or list them",
    "  reset ID                                       Send a conversation to its initial state",
    "  doctor                                         Diagnose the local setup"]

def execute (args : List String) : m Ending := do
  match parse around.lookup args with
  | .error e => return .usage e
  | .ok .help => host.print (helpText ++ "\n"); return .done
  | .ok .version => host.print (versionText ++ "\n"); return .done
  | .ok (.run i) =>
    match ← ((run host around i.command).run).run' .empty with
    | .ok () => return .done
    | .error e => return .failed e

end Command

end Colloquy
