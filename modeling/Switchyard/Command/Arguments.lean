/-!
# Command-line arguments

The arguments of the route inspector: an optional settings file, and a command. Arguments are
looked at from left to right, and the first one that asks for help or that cannot be used decides.
-/

namespace Switchyard

/-- What the inspector is asked to do. -/
inductive Command where
  /-- list the routes, as a table or as JSON -/
  | routes (asJson : Bool)
  /-- tell what a method and a path lead to -/
  | lookup (method path : String)
  deriving Repr, DecidableEq

/-- What help is asked about. -/
inductive HelpTopic where
  | program
  | routes
  | lookup
  | help
  deriving Repr, DecidableEq

/-- What arguments ask for. -/
inductive Inquiry where
  | run (settingsFile : Option String) (command : Command)
  | help (topic : HelpTopic)
  /-- the arguments cannot be used -/
  | misuse (report : String)
  deriving Repr, DecidableEq

namespace Arguments

/-- Does the argument look like a flag? A single hyphen does not. -/
def isFlag (arg : String) : Bool :=
  arg ≠ "-" && arg.toList.head? == some '-'

/-- Does the argument ask for help with its short flag? -/
def isShortHelp (arg : String) : Bool :=
  arg.toList.take 2 == ['-', 'h']

def unexpected (arg : String) : Inquiry :=
  .misuse ("unexpected argument '" ++ arg ++ "' found")

/-- The arguments of the command that lists routes. -/
def readRoutes (file : Option String) (asJson : Bool) : List String → Inquiry
  | [] => .run file (.routes asJson)
  | arg :: rest =>
    if arg = "--json" then
      if asJson then .misuse "the argument '--json' cannot be used multiple times"
      else readRoutes file true rest
    else if arg = "--help" || isShortHelp arg then .help .routes
    else if arg = "--" && rest.isEmpty then .run file (.routes asJson)
    else unexpected arg

/-- The arguments of the command that looks a request up; `given` are its values so far, and
behind `--` every argument is a value. -/
def readLookup (file : Option String) (given : List String) (onlyValues : Bool) :
    List String → Inquiry
  | [] =>
    match given with
    | [method, path] => .run file (.lookup method path)
    | _ => .misuse "the following required arguments were not provided: <METHOD> <PATH>"
  | arg :: rest =>
    if !onlyValues && arg = "--" then readLookup file given true rest
    else if !onlyValues && (arg = "--help" || isShortHelp arg) then .help .lookup
    else if !onlyValues && isFlag arg then unexpected arg
    else if given.length < 2 then readLookup file (given ++ [arg]) onlyValues rest
    else unexpected arg

/-- The commands that help is asked about. -/
def readHelp : List String → Inquiry
  | [] => .help .program
  | ["routes"] => .help .routes
  | ["match"] => .help .lookup
  | ["help"] => .help .help
  | arg :: _ => .misuse ("unrecognized subcommand '" ++ arg ++ "'")

/-- A value of the flag for the settings file, which may be given once and is not empty. -/
def checkFile (file : Option String) (value : String) : Option String :=
  if file.isSome || value.isEmpty then none else some value

/-- The value that is attached to the flag for the settings file, if the argument is that flag. -/
def attachedFile? (arg : String) : Option String :=
  match arg.toList with
  | '-' :: '-' :: 'c' :: 'o' :: 'n' :: 'f' :: 'i' :: 'g' :: '=' :: value =>
    some (String.ofList value)
  | '-' :: 'c' :: '=' :: value => some (String.ofList value)
  | '-' :: 'c' :: v :: value => some (String.ofList (v :: value))
  | _ => none

def fileMisuse : Inquiry :=
  .misuse "the argument '--config <CONFIG>' needs one value and can be used once"

/-- All arguments. -/
def read (file : Option String) : List String → Inquiry
  | [] => .misuse "a subcommand is required but one was not provided"
  | [arg] =>
    match attachedFile? arg with
    | some value =>
      if (checkFile file value).isNone then fileMisuse
      else .misuse "a subcommand is required but one was not provided"
    | none =>
      if arg = "--help" || isShortHelp arg then .help .program
      else if arg = "routes" then readRoutes file false []
      else if arg = "match" then readLookup file [] false []
      else if arg = "help" then .help .program
      else unexpected arg
  | arg :: next :: rest =>
    match attachedFile? arg with
    | some value =>
      match checkFile file value with
      | some value => read (some value) (next :: rest)
      | none => fileMisuse
    | none =>
      if arg = "--config" || arg = "-c" then
        match if isFlag next then none else checkFile file next with
        | some value => read (some value) rest
        | none => fileMisuse
      else if arg = "--help" || isShortHelp arg then .help .program
      else if arg = "routes" then readRoutes file false (next :: rest)
      else if arg = "match" then readLookup file [] false (next :: rest)
      else if arg = "help" then readHelp (next :: rest)
      else unexpected arg

end Arguments

end Switchyard
