import Colloquy.Document.Decoding
import Colloquy.Folder
import Colloquy.Path
import Colloquy.Text.Lowercase
import Colloquy.Toml.Reader
import Colloquy.Toml.Writer

/-! The settings of the program: a file, variables of the environment before it, and defaults. -/
namespace Colloquy

inductive LogLevel where
  | trace
  | debug
  | info
  | warn
  | error
deriving DecidableEq, Repr

namespace LogLevel

def name : LogLevel → String
  | .trace => "trace"
  | .debug => "debug"
  | .info => "info"
  | .warn => "warn"
  | .error => "error"

def all : List LogLevel := [.trace, .debug, .info, .warn, .error]

end LogLevel

inductive Backend where
  | memory
  | file
deriving DecidableEq, Repr

namespace Backend

def name : Backend → String
  | .memory => "memory"
  | .file => "file"

def all : List Backend := [.memory, .file]

end Backend

structure Settings where
  flowPath : String
  backend : Backend
  storeFolder : String
  level : LogLevel
  logJson : Bool
deriving DecidableEq, Repr

inductive SettingsError where
  | unreadable (path : String) (e : FileFault)
  | malformed (path : String) (e : Unreadable Toml.ReadError)
  | unknownLevel (level : String)
  | unknownBackend (backend : String)

namespace SettingsError

def oneOfMessage (setting : String) (names : List String) (found : String) : String :=
  "Configuration validation failed: " ++ setting ++ " must be one of " ++ ", ".intercalate names
    ++ ", got '" ++ found ++ "'"

def message : SettingsError → String
  | .unreadable path e => "Failed to read config file at " ++ path ++ ": " ++ e.message
  | .malformed path e => "Failed to parse config file at " ++ path ++ ": " ++ e.message
  | .unknownLevel level => oneOfMessage "logging.level" (LogLevel.all.map LogLevel.name) level
  | .unknownBackend backend => oneOfMessage "store.backend" (Backend.all.map Backend.name) backend

end SettingsError

namespace Settings

-- The folder of the program's own files.
def folder (home : String) : String := Path.join home ".parley"

def fileName : String := "config.toml"

def flowName : String := "flow.toml"

def defaultFlowPath (home : String) : String := Path.join (folder home) flowName

def defaultStoreFolder (home : String) : String := Path.join (folder home) "conversations"

-- Settings as written, with names that may not exist.
structure Draft where
  flowPath : String
  backend : String
  storeFolder : String
  level : String
  logJson : Bool

namespace Draft

def standard (home : String) : Draft :=
  ⟨defaultFlowPath home, Backend.file.name, defaultStoreFolder home, LogLevel.info.name, false⟩

def decode (home : String) (d : Document) : Decoded Draft := do
  let s := standard home
  let f ← d.fields ["flow_path", "store", "logging"]
  let flowPath ← f.withDefault "flow_path" s.flowPath Document.text?
  let store ← ((f.present.lookup "store").getD (.table [])).fields ["backend", "dir"]
  let backend ← store.withDefault "backend" s.backend Document.text?
  let storeFolder ← store.withDefault "dir" s.storeFolder Document.text?
  let logging ← ((f.present.lookup "logging").getD (.table [])).fields ["level", "json"]
  return {
    flowPath := flowPath
    backend := backend
    storeFolder := storeFolder
    level := ← logging.withDefault "level" s.level Document.text?
    logJson := ← logging.withDefault "json" s.logJson Document.bool? }

-- Variables of the environment come before the file; a level may be written in any case.
def override (lookup : String → Option String) (d : Draft) : Draft :=
  { d with
    flowPath := (lookup "PARLEY_FLOW_PATH").getD d.flowPath
    level := ((lookup "PARLEY_LOG_LEVEL").map Text.lowercase).getD d.level
    storeFolder := (lookup "PARLEY_STORE_DIR").getD d.storeFolder }

-- The level is looked at first.
def check (d : Draft) : Except SettingsError Settings := do
  let some level := LogLevel.all.find? (·.name == d.level) | throw (.unknownLevel d.level)
  let some backend := Backend.all.find? (·.name == d.backend) | throw (.unknownBackend d.backend)
  return ⟨d.flowPath, backend, d.storeFolder, level, d.logJson⟩

end Draft

-- The text of the settings file, if there is one.
abbrev Written := Option (Except FileFault String)

def draft (home : String) : Written → Except SettingsError Draft
  | none => .ok (Draft.standard home)
  | some content => do
    let path := Path.join (folder home) fileName
    let text ← content.mapError (.unreadable path)
    let d ← (Document.ofText .toml Toml.read (Draft.decode home) text).mapError (.malformed path)
    let _ ← d.check
    return d

def load (home : String) (lookup : String → Option String) (written : Written) :
    Except SettingsError Settings := do
  let d ← draft home written
  (d.override lookup).check

def standard (home : String) : Settings :=
  ⟨defaultFlowPath home, .file, defaultStoreFolder home, .info, false⟩

def encode (s : Settings) : Document :=
  .table [
    ("flow_path", .text s.flowPath),
    ("store", .table [("backend", .text s.backend.name), ("dir", .text s.storeFolder)]),
    ("logging", .table [("level", .text s.level.name), ("json", .bool s.logJson)])]

-- The settings as a file.
def toToml (s : Settings) : String :=
  "\n".intercalate [
    "flow_path = " ++ Toml.writeText s.flowPath,
    "",
    "[store]",
    "backend = " ++ Toml.writeText s.backend.name,
    "dir = " ++ Toml.writeText s.storeFolder,
    "",
    "[logging]",
    "level = " ++ Toml.writeText s.level.name,
    "json = " ++ (if s.logJson then "true" else "false"),
    ""]

end Settings

end Colloquy
