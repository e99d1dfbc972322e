import Colloquy.Command.Arguments
import Colloquy.Flow
import Colloquy.Settings
import Colloquy.Store
import Colloquy.Text.Quoted

/-! How a run of the program ends. -/
namespace Colloquy

inductive FlowFileError where
  | unreadable (path : String) (e : FileFault)
  | malformed (path : String) (e : Unreadable Toml.ReadError)
  | invalid (violations : List Violation)

def FlowFileError.message : FlowFileError → String
  | .unreadable path e => "failed to read flow file " ++ path ++ ": " ++ e.message
  | .malformed path e => "failed to parse flow file " ++ path ++ ": " ++ e.message
  | .invalid violations => FlowError.invalidMessage violations

inductive CommandError where
  | settings (e : SettingsError)
  -- Found by a check of the whole installation.
  | invalidSettings
  | flow (e : FlowFileError)
  | violations (count : Nat) (path : String)
  | unreadableScript (path : String) (e : FileFault)
  | malformedScript (path : String) (e : Unreadable Toml.ReadError)
  | noConversation (id storeName : String)
  | store (e : StoreError)
  | file (e : FileFault)

namespace CommandError

def violationsText (count : Nat) (path : String) : String :=
  toString count ++ " violation(s) in " ++ path

def noConversationText (id storeName : String) : String :=
  "No conversation '" ++ id ++ "' in the " ++ storeName ++ " store"

-- Errors of the commands themselves are quoted, those of their parts are not.
def text : CommandError → String
  | .settings e => Text.quote ("Failed to load config: " ++ e.message)
  | .invalidSettings => Text.quote "config file invalid"
  | .flow e => e.message
  | .violations count path => Text.quote (violationsText count path)
  | .unreadableScript path e =>
    Text.quote ("Failed to read script " ++ path ++ ": " ++ e.message)
  | .malformedScript path e =>
    Text.quote ("Failed to parse script " ++ path ++ ": " ++ e.message)
  | .noConversation id storeName => Text.quote (noConversationText id storeName)
  | .store e => e.message
  | .file e => e.message

def line (e : CommandError) : String := "Error: " ++ e.text ++ "\n"

end CommandError

inductive Ending where
  | done
  | usage (e : UsageError)
  | failed (e : CommandError)

namespace Ending

def code : Ending → UInt8
  | .done => 0
  | .usage _ => 2
  | .failed _ => 1

def errorText : Ending → String
  | .done => ""
  | .usage e => "error: " ++ e.message ++ "\n"
  | .failed e => e.line

end Ending

end Colloquy
