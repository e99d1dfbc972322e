/-! Arguments of a command line: options, joined letters and positional arguments. -/
namespace Colloquy

structure OptionShape where
  long : String
  letter : Option Char := none
  valued : Bool := false
deriving DecidableEq, Repr

inductive UsageError where
  | unknownOption (written : String)
  | repeatedOption (long : String)
  | missingValue (long : String)
  | unexpectedValue (long : String)
  | emptyValue (long : String)
  | unexpectedArgument (written : String)
  | missingArgument (name : String)
  | unknownCommand (name : String)
  | missingCommand
deriving DecidableEq, Repr

namespace UsageError

def message : UsageError → String
  | .unknownOption written => "unexpected argument '" ++ written ++ "' found"
  | .repeatedOption long => "the argument '--" ++ long ++ "' cannot be used multiple times"
  | .missingValue long => "a value is required for '--" ++ long ++ "' but none was supplied"
  | .unexpectedValue long => "unexpected value for '--" ++ long ++ "' found; no more were expected"
  | .emptyValue long => "a value is required for '--" ++ long ++ "' but none was supplied"
  | .unexpectedArgument written => "unexpected argument '" ++ written ++ "' found"
  | .missingArgument name => "the following required arguments were not provided: " ++ name
  | .unknownCommand name => "unrecognized subcommand '" ++ name ++ "'"
  | .missingCommand => "a subcommand is required"

end UsageError

structure Arguments where
  flags : List String := []
  values : List (String × String) := []
  positional : List String := []
deriving DecidableEq, Repr

namespace Arguments

def hasFlag (a : Arguments) (long : String) : Bool := a.flags.contains long

def value? (a : Arguments) (long : String) : Option String := a.values.lookup long

def addFlag (a : Arguments) (long : String) : Except UsageError Arguments :=
  if a.hasFlag long then .error (.repeatedOption long)
  else .ok { a with flags := a.flags ++ [long] }

def addValue (a : Arguments) (long value : String) : Except UsageError Arguments :=
  if (a.value? long).isSome then .error (.repeatedOption long)
  else if value.isEmpty then .error (.emptyValue long)
  else .ok { a with values := a.values ++ [(long, value)] }

-- What an argument with options in it leaves: an option may still wait for its value.
structure Pending where
  arguments : Arguments
  waiting : Option String := none

def long (shapes : List OptionShape) (a : Arguments) (body : List Char) :
    Except UsageError Pending := do
  let name := String.ofList (body.takeWhile (· != '='))
  let some shape := shapes.find? (·.long == name)
    | throw (.unknownOption ("--" ++ String.ofList body))
  match body.dropWhile (· != '='), shape.valued with
  | [], false => return ⟨← a.addFlag name, none⟩
  | [], true => return ⟨a, some name⟩
  | _ :: _, false => throw (.unexpectedValue name)
  | _ :: value, true => return ⟨← a.addValue name (String.ofList value), none⟩

-- Joined letters: the first that takes a value takes the rest for it, and a final one ends them.
def letters (shapes : List OptionShape) (final : List String) :
    Arguments → List Char → Except UsageError Pending
  | a, [] => .ok ⟨a, none⟩
  | a, c :: rest => do
    let some shape := shapes.find? (·.letter == some c)
      | throw (.unknownOption ("-" ++ String.singleton c))
    if shape.valued then
      match rest with
      | [] => return ⟨a, some shape.long⟩
      | '=' :: value => return ⟨← a.addValue shape.long (String.ofList value), none⟩
      | value => return ⟨← a.addValue shape.long (String.ofList value), none⟩
    else
      let a ← a.addFlag shape.long
      if final.contains shape.long then return ⟨a, none⟩
      letters shapes final a rest

inductive Reading where
  | option (p : Pending)
  | endOfOptions
  | positional

def read (shapes : List OptionShape) (final : List String) (a : Arguments) (written : String) :
    Except UsageError Reading :=
  match written.toList with
  | ['-', '-'] => .ok .endOfOptions
  | '-' :: '-' :: body => .option <$> long shapes a body
  | '-' :: c :: body => .option <$> letters shapes final a (c :: body)
  | _ => .ok .positional

-- Whether an argument can be the value of the option before it.
def canBeValue (written : String) : Bool :=
  match written.toList with
  | '-' :: _ :: _ => false
  | _ => true

-- Reading stops after an option among `final`, and before the first positional argument where only
-- options are read; what was not read is given back.
def scan (shapes : List OptionShape) (final : List String) (optionsOnly : Bool) :
    Arguments → List String → Except UsageError (Arguments × List String)
  | a, [] => .ok (a, [])
  | a, written :: rest => do
    match ← read shapes final a written with
    | .endOfOptions =>
      if optionsOnly then throw .missingCommand
      return ({ a with positional := a.positional ++ rest }, [])
    | .positional =>
      if optionsOnly then return (a, written :: rest)
      scan shapes final optionsOnly { a with positional := a.positional ++ [written] } rest
    | .option ⟨a, none⟩ =>
      if final.any a.hasFlag then return (a, rest)
      scan shapes final optionsOnly a rest
    | .option ⟨a, some name⟩ =>
      match rest with
      | value :: rest =>
        if canBeValue value then scan shapes final optionsOnly (← a.addValue name value) rest
        else throw (.missingValue name)
      | [] => throw (.missingValue name)

end Arguments

end Colloquy
