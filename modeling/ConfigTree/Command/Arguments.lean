set_option relaxedAutoImplicit false
set_option autoImplicit false

/-!
# Commands and their arguments

A command line names one of three commands and gives its arguments: files and a path by their
position, and options by their names. A long name follows two dashes, and its value an equals sign
or the next argument; short names are single letters that follow one dash, and may share it. After
two dashes alone all arguments count by their position.

## Main definitions

* `ConfigTree.Command` — the commands.
* `ConfigTree.CommandLine` — a command, and whether the work is to be followed closely.
* `ConfigTree.CommandLine.parse?` — the command line that some arguments make up.
-/

namespace ConfigTree

/-- A command. -/
inductive Command where
  /-- Prints the value at a path of a file. -/
  | get (file path : String) (raw : Bool) (format : String) (fallback : Option String)
  /-- Exports a file, to the output or to another file. -/
  | dump (file : String) (resolved : Bool) (format : String) (output : Option String)
  /-- Loads files and reads all of their values. -/
  | check (files : List String)

/-- A command, and whether its events are shown. -/
structure CommandLine where
  /-- Whether the events are shown. -/
  verbose : Bool
  /-- The command. -/
  command : Command

namespace CommandLine

/-- An option that may be given to a command. -/
structure Choice where
  /-- Its long name. -/
  name : String
  /-- Its short name. -/
  letter : Option Char
  /-- Whether it has a value. -/
  hasValue : Bool

/-- The options that were given, with their values, and the arguments by position. -/
structure Given where
  /-- Options with their values. -/
  choices : List (String × String) := []
  /-- Arguments by position. -/
  positional : List String := []

/-- The option that is given with every command. -/
def verboseChoice : Choice := ⟨"verbose", some 'v', false⟩

/-- The options of a command. -/
def choicesOf? : String → Option (List Choice)
  | "get" =>
    some [verboseChoice, ⟨"raw", none, false⟩, ⟨"format", some 'f', true⟩,
      ⟨"default", some 'd', true⟩]
  | "dump" =>
    some [verboseChoice, ⟨"resolve", some 'r', false⟩, ⟨"format", some 'f', true⟩,
      ⟨"output", some 'o', true⟩]
  | "check" => some [verboseChoice]
  | _ => none

namespace Given

/-- The value that an option has, if it is given. -/
def value? (given : Given) (name : String) : Option String :=
  given.choices.lookup name

/-- Whether an option is given. -/
def has (given : Given) (name : String) : Bool :=
  (given.value? name).isSome

/-- Adds an option with its value. No option may be given twice. -/
def add? (given : Given) (choice : Choice) (value : String) : Option Given :=
  if given.has choice.name then none
  else some { given with choices := (choice.name, value) :: given.choices }

end Given

/-- Whether an argument is the value of the option before it, and not an option itself. -/
def isValue (argument : String) : Bool :=
  argument = "-" || !argument.startsWith "-"

/-- An option whose value, if it has one, is attached to it or the next argument; the outcome has
the arguments that are left. -/
def addChoice? (given : Given) (choice : Choice) (attached : Option String) (rest : List String) :
    Option (Given × List String) :=
  if choice.hasValue then
    match attached, rest with
    | some value, _ => (given.add? choice value).map fun given => (given, rest)
    | none, value :: rest =>
      if isValue value then (given.add? choice value).map fun given => (given, rest) else none
    | none, [] => none
  else
    match attached with
    | some _ => none
    | none => (given.add? choice "").map fun given => (given, rest)

/-- The name of a long option and the value that is attached to it. -/
def splitLong (argument : List Char) : String × Option String :=
  let name := argument.takeWhile (· != '=')
  match argument.dropWhile (· != '=') with
  | [] => (String.ofList name, none)
  | _ :: value => (String.ofList name, some (String.ofList value))

/-- The value that is attached to a short option. -/
def attachedTo : List Char → Option String
  | [] => none
  | '=' :: value => some (String.ofList value)
  | value => some (String.ofList value)

/-- The options whose letters share a dash. -/
def addLetters? (choices : List Choice) (given : Given) :
    List Char → List String → Option (Given × List String)
  | [], rest => some (given, rest)
  | letter :: more, rest =>
    (choices.find? fun choice => choice.letter == some letter).bind fun choice =>
      if choice.hasValue then addChoice? given choice (attachedTo more) rest
      else (given.add? choice "").bind fun given => addLetters? choices given more rest

/-- One argument, and the ones after it that belong to it; the outcome has those that are left. -/
def addArgument? (choices : List Choice) (given : Given) (argument : String) (rest : List String) :
    Option (Given × List String) :=
  match argument.toList with
  | '-' :: '-' :: long =>
    let (name, attached) := splitLong long
    (choices.find? fun choice => choice.name == name).bind fun choice =>
      addChoice? given choice attached rest
  | '-' :: letter :: more => addLetters? choices given (letter :: more) rest
  | _ => some ({ given with positional := given.positional ++ [argument] }, rest)

/-- All arguments from some on. -/
def addArguments? (choices : List Choice) (given : Given) (arguments : List String) :
    Option Given :=
  match arguments with
  | [] => some given
  | "--" :: rest => some { given with positional := given.positional ++ rest }
  | argument :: rest =>
    match addArgument? choices given argument rest with
    | none => none
    | some (given, left) =>
      if _h : left.length ≤ rest.length then addArguments? choices given left else none
termination_by arguments.length

/-- The command of the given name, if it was given as many arguments as it needs. -/
def command? (name : String) (given : Given) : Option Command :=
  if given.positional.any String.isEmpty && name != "get" then none
  else
    match name, given.positional with
    | "get", [file, path] =>
      if file.isEmpty then none
      else
        some (.get file path (given.has "raw") ((given.value? "format").getD "text")
          (given.value? "default"))
    | "dump", [file] =>
      if given.value? "output" = some "" then none
      else
        some (.dump file (given.has "resolve") ((given.value? "format").getD "yaml")
          (given.value? "output"))
    | "check", file :: files => some (.check (file :: files))
    | _, _ => none

/-- The options before the name of the command, and the arguments from there on. -/
def leading? (given : Given) (arguments : List String) : Option (Given × String × List String) :=
  match arguments with
  | [] => none
  | argument :: rest =>
    if isValue argument then some (given, argument, rest)
    else
      match addArgument? [verboseChoice] given argument rest with
      | none => none
      | some (given, left) =>
        if _h : left.length ≤ rest.length then leading? given left else none
termination_by arguments.length

/-- The command line that the arguments make up. -/
def parse? (arguments : List String) : Option CommandLine := do
  let (leading, name, rest) ← leading? {} arguments
  let choices ← choicesOf? name
  let given ← addArguments? choices {} rest
  let command ← command? name given
  return ⟨leading.has "verbose" || given.has "verbose", command⟩

end CommandLine

end ConfigTree
