import Colloquy.Command.Arguments

/-! The commands of the program, and how they are written on a command line. -/
namespace Colloquy

inductive Command where
  | init (force : Bool)
  | validate (flow : Option String)
  | simulate (script : String) (flow : Option String) (save withTrace : Bool)
  | status (conversation : Option String) (json : Bool)
  | reset (conversation : String)
  | doctor
deriving DecidableEq, Repr

structure Invocation where
  command : Command
  verbose : Bool := false
  logJson : Bool := false
deriving DecidableEq, Repr

inductive Request where
  | run (i : Invocation)
  | help
  | version
deriving DecidableEq, Repr

inductive CommandName where
  | init
  | validate
  | simulate
  | status
  | reset
  | doctor
deriving DecidableEq, Repr

namespace CommandName

def name : CommandName → String
  | .init => "init"
  | .validate => "validate"
  | .simulate => "simulate"
  | .status => "status"
  | .reset => "reset"
  | .doctor => "doctor"

def all : List CommandName := [.init, .validate, .simulate, .status, .reset, .doctor]

def ofName? (s : String) : Option CommandName := all.find? (·.name == s)

def options : CommandName → List OptionShape
  | .init => [⟨"force", none, false⟩]
  | .validate => [⟨"flow", some 'f', true⟩]
  | .simulate => [⟨"script", some 's', true⟩, ⟨"flow", some 'f', true⟩, ⟨"save", none, false⟩,
      ⟨"trace", none, false⟩]
  | .status => [⟨"json", none, false⟩]
  | .reset | .doctor => []

def mostPositional : CommandName → Nat
  | .status | .reset => 1
  | _ => 0

end CommandName

namespace Command

-- Options that may stand before the command as well as after it.
def common : List OptionShape :=
  [⟨"verbose", some 'v', false⟩, ⟨"log-json", none, false⟩, ⟨"help", some 'h', false⟩]

def versionOption : OptionShape := ⟨"version", some 'V', false⟩

-- The flow to validate: the option, or else a variable of the environment, which may not be empty.
def flowToValidate (lookup : String → Option String) (a : Arguments) :
    Except UsageError (Option String) :=
  match a.value? "flow", lookup "PARLEY_FLOW_PATH" with
  | some path, _ => .ok (some path)
  | none, some path => if path.isEmpty then .error (.emptyValue "flow") else .ok (some path)
  | none, none => .ok none

def ofArguments (lookup : String → Option String) (name : CommandName) (a : Arguments) :
    Except UsageError Command := do
  match name with
  | .init => return .init (a.hasFlag "force")
  | .validate => return .validate (← flowToValidate lookup a)
  | .simulate =>
    let some script := a.value? "script" | throw (.missingArgument "--script <SCRIPT>")
    return .simulate script (a.value? "flow") (a.hasFlag "save") (a.hasFlag "trace")
  | .status => return .status a.positional.head? (a.hasFlag "json")
  | .reset =>
    match a.positional with
    | id :: _ => return .reset id
    | [] => throw (.missingArgument "<CONVERSATION_ID>")
  | .doctor => return .doctor

def parseRest (lookup : String → Option String) (before : Arguments) (name : CommandName)
    (rest : List String) : Except UsageError Request := do
  let (a, _) ← Arguments.scan (name.options ++ common) ["help"] false {} rest
  match a.positional.drop name.mostPositional with
  | extra :: _ => throw (.unexpectedArgument extra)
  | [] =>
    if a.hasFlag "help" then return .help
    return .run {
      command := ← ofArguments lookup name a
      verbose := before.hasFlag "verbose" || a.hasFlag "verbose"
      logJson := before.hasFlag "log-json" || a.hasFlag "log-json" }

def parseHelp : List String → Except UsageError Request
  | [] => .ok .help
  | [name] =>
    if name == "help" || (CommandName.ofName? name).isSome then .ok .help
    else .error (.unknownCommand name)
  | _ :: extra :: _ => .error (.unknownCommand extra)

def parse (lookup : String → Option String) (args : List String) :
    Except UsageError Request := do
  let (before, rest) ← Arguments.scan (versionOption :: common) ["help", "version"] true {} args
  if before.hasFlag "help" then return .help
  if before.hasFlag "version" then return .version
  match rest with
  | [] => throw .missingCommand
  | name :: rest =>
    match CommandName.ofName? name with
    | some name => parseRest lookup before name rest
    | none => if name == "help" then parseHelp rest else throw (.unknownCommand name)

end Command

end Colloquy
