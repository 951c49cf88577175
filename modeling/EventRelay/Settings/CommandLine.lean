import EventRelay.Text.Blank

/-!
# Command lines

A command line is read from left to right into the values of flags, each of
which takes one value, in the same argument after an equals sign or in the
next. Flags that are not given take the value of their environment variable.
The first fault ends the reading.
-/

set_option autoImplicit false

namespace EventRelay.CommandLine

open EventRelay.Text

inductive Usage where
  | help
  | version
  | noCommand
  | unknownCommand
  | unknownArgument
  | missingValue
  | surplusValue
  | repeatedFlag
  | missingFlag
  | badValue (reason : String)
  deriving DecidableEq, Repr

structure Flag where
  name : String
  envName : Option String
  complaint : String → Option Usage

abbrev Values := List (String × String)

abbrev Environment := List (String × String)

def give (flag : Flag) (value : String) (values : Values) : Except Usage Values :=
  if (values.lookup flag.name).isSome then .error .repeatedFlag
  else
    match flag.complaint value with
    | some usage => .error usage
    | none => .ok (values ++ [(flag.name, value)])

abbrev Pending := Option (Flag × Option String)

def settle : Pending → Values → Except Usage Values
  | none, values => .ok values
  | some (_, none), _ => .error .missingValue
  | some (flag, some value), values => give flag value values

inductive Argument where
  | escape
  | long (name : String) (value : Option String)
  | short (letter : Char)
  | plain (s : String)
  deriving DecidableEq, Repr

def Argument.read (s : String) : Argument :=
  match s.toList with
  | ['-', '-'] => .escape
  | '-' :: '-' :: cs =>
    let (name, value) := splitFirst '=' cs
    .long (String.ofList name) (value.map String.ofList)
  | '-' :: c :: _ => .short c
  | _ => .plain s

/-- The flags after a command. A value in an argument of its own is looked at when the next flag
or the end is reached. -/
def readFlags (flags : List Flag) : List Argument → Pending → Values → Except Usage Values
  | [], pending, values => settle pending values
  | [.escape], pending, values => settle pending values
  | .escape :: _ :: _, _, _ => .error .unknownArgument
  | .short letter :: _, pending, values =>
    if letter = 'h' then
      match settle pending values with
      | .error usage => .error usage
      | .ok _ => .error .help
    else .error .unknownArgument
  | .plain s :: rest, some (flag, none), values => readFlags flags rest (some (flag, some s)) values
  | .plain _ :: _, _, _ => .error .unknownArgument
  | .long name value :: rest, pending, values =>
    if name = "help" then
      match value, settle pending values with
      | some _, _ => .error .surplusValue
      | none, .error usage => .error usage
      | none, .ok _ => .error .help
    else
      match flags.find? fun f => f.name == name with
      | none => .error .unknownArgument
      | some flag =>
        match settle pending values, value with
        | .error usage, _ => .error usage
        | .ok values, none => readFlags flags rest (some (flag, none)) values
        | .ok values, some v =>
          match give flag v values with
          | .error usage => .error usage
          | .ok values => readFlags flags rest none values

/-- Fills in from the environment; a variable that is set but empty counts. -/
def readVariables (environment : Environment) : List Flag → Values → Except Usage Values
  | [], values => .ok values
  | flag :: rest, values =>
    match flag.envName.bind fun name => environment.lookup name with
    | none => readVariables environment rest values
    | some value =>
      if (values.lookup flag.name).isSome then readVariables environment rest values
      else
        match give flag value values with
        | .error usage => .error usage
        | .ok values => readVariables environment rest values

def readValues (flags : List Flag) (environment : Environment) (arguments : List String) :
    Except Usage Values :=
  match readFlags flags (arguments.map Argument.read) none [] with
  | .error usage => .error usage
  | .ok values => readVariables environment flags values

/-- Whether a path of commands has a help page: the help command knows itself, once. -/
def hasHelp (commands : List String) : List String → Bool
  | [] => true
  | [c] => commands.contains c || c == "help"
  | [c, d] => c == "help" && (commands.contains d || d == "help")
  | _ => false

def readCommand (commands : List String) : List String → Except Usage (String × List String)
  | [] => .error .noCommand
  | first :: rest =>
    match Argument.read first with
    | .escape =>
      match rest with
      | [] => .error .noCommand
      | c :: _ =>
        .error (if commands.contains c ∨ c = "help" then .unknownArgument else .unknownCommand)
    | .long name value =>
      .error (
        if name ≠ "help" ∧ name ≠ "version" then .unknownArgument
        else if value.isSome then .surplusValue
        else if name = "help" then .help
        else .version)
    | .short letter =>
      .error (if letter = 'h' then .help else if letter = 'V' then .version else .unknownArgument)
    | .plain c =>
      if commands.contains c then .ok (c, rest)
      else if c = "help" then .error (if hasHelp commands rest then .help else .unknownCommand)
      else .error .unknownCommand

end EventRelay.CommandLine
