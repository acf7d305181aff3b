/-!
# Command lines

A command takes options, positional arguments and subcommands.  An option has
a long spelling after two dashes, and perhaps a short one after a single dash;
its value follows as the next word, after an equals sign, or right behind the
short spelling.  Two dashes alone make everything behind them positional.

A value is checked when the argument after it is read, or at once when it is
attached to its option; so of two mistakes the one found first is reported.
-/

namespace AgentPipeline

/-- Why a command line does not name a command that can be carried out. -/
inductive UsageError where
  | unknownArgument
  | invalidSubcommand
  | missingSubcommand
  | missingArgument
  /-- A value that is not of the form that its argument takes. -/
  | malformedValue
  /-- A value that is not one of the values of its argument, or none. -/
  | invalidValue
  /-- A value for an option that takes none. -/
  | unneededValue
  | conflict
  | help
  | version
  /-- A command that does nothing by itself was given alone. -/
  | bareCommand
deriving DecidableEq, Inhabited, Repr

namespace UsageError

def message : UsageError → String
  | unknownArgument => "unexpected argument found"
  | invalidSubcommand => "unrecognized subcommand"
  | missingSubcommand => "a subcommand is required but was not given"
  | missingArgument => "a required argument was not given"
  | malformedValue | invalidValue => "invalid value for an argument"
  | unneededValue => "unexpected value for an option"
  | conflict => "arguments cannot be used together or more than once"
  | help | version | bareCommand => ""

end UsageError

structure Argument where
  name : String
  /-- The spellings of an option; a positional argument has none. -/
  long : Option String
  short : Option Char
  takesValue : Bool
  isRequired : Bool
  /-- Whether it may be given more than once. -/
  repeats : Bool
  /-- The arguments that it cannot be combined with. -/
  excludes : List String
  /-- What is wrong with a value. -/
  check : String → Option UsageError
  /-- What is asked for in place of a command. -/
  request : Option UsageError

namespace Argument

/-- A positional argument with any value. -/
def positional (name : String) (isRequired : Bool) : Argument where
  name
  long := none
  short := none
  takesValue := true
  isRequired
  repeats := false
  excludes := []
  check _ := none
  request := none

/-- An option with a value, which its name is the long spelling of. -/
def option (name : String) : Argument :=
  { positional name false with long := some name }

/-- An option without a value. -/
def flag (name : String) : Argument :=
  { option name with takesValue := false }

/-- The argument with a value that has to be of some form. -/
def checked {α : Type} (argument : Argument) (read? : String → Option α)
    (error : UsageError) : Argument :=
  { argument with
    check := fun value => if (read? value).isSome then none else some error }

def withShort (argument : Argument) (short : Char) : Argument :=
  { argument with short := some short }

def required (argument : Argument) : Argument :=
  { argument with isRequired := true }

/-- The option that asks for the help. -/
def help : Argument :=
  { (flag "help").withShort 'h' with request := some .help }

/-- The option that asks for the version. -/
def version : Argument :=
  { (flag "version").withShort 'V' with request := some .version }

end Argument

/-- What a command takes. -/
structure Grammar where
  options : List Argument
  positionals : List Argument
  commands : List (String × Grammar)
  /-- Whether one of the subcommands has to be named. -/
  needsCommand : Bool

namespace Grammar

/-- A command with arguments only; every command has its help. -/
def leaf (options positionals : List Argument) : Grammar :=
  ⟨options ++ [.help], positionals, [], false⟩

def group (options : List Argument) (needsCommand : Bool)
    (commands : List (String × Grammar)) : Grammar :=
  ⟨options ++ [.help], [], commands, needsCommand⟩

/-- The name of the subcommand that every command with subcommands has. -/
def helpCommand : String := "help"

def namesCommand (grammar : Grammar) (word : String) : Bool :=
  !grammar.commands.isEmpty
    && (word == helpCommand || (grammar.commands.lookup word).isSome)

/-- What the names behind the help command ask for. -/
def helpFor (grammar : Grammar) : List String → UsageError
  | [] => .help
  | name :: rest =>
      match grammar.commands.lookup name with
      | some inner => inner.helpFor rest
      | none =>
          if grammar.namesCommand name ∧ rest = [] then .help
          else .invalidSubcommand

end Grammar

/-- What the words of one command have given so far. -/
structure Parsing where
  /-- The arguments that were taken, in order, and their values. -/
  taken : List (Argument × Option String)
  /-- The argument whose value is not checked yet; an option without a value
  waits for it. -/
  pending : Option (Argument × Option String)
  /-- The number of positional arguments so far. -/
  position : Nat
  /-- Whether the rest of the words are positional. -/
  onlyValues : Bool

namespace Parsing

def start : Parsing := ⟨[], none, 0, false⟩

def take (parsing : Parsing) (argument : Argument) (value : Option String) :
    Except UsageError Parsing :=
  match argument.request with
  | some request => .error request
  | none =>
      if argument.takesValue ∧ value.isNone then .error .invalidValue
      else if ¬ argument.repeats ∧ parsing.taken.any (fun entry =>
          entry.1.name == argument.name) then .error .conflict
      else
        match value.bind argument.check with
        | some error => .error error
        | none =>
            .ok { parsing with
              taken := parsing.taken ++ [(argument, value)] }

/-- Takes the argument that is pending. -/
def settle (parsing : Parsing) : Except UsageError Parsing :=
  match parsing.pending with
  | none => .ok parsing
  | some (argument, value) =>
      { parsing with pending := none }.take argument value

/-- Takes the pending argument and then another. -/
def settleAndTake (parsing : Parsing) (argument : Argument)
    (value : Option String) : Except UsageError Parsing := do
  (← parsing.settle).take argument value

/-- Takes the pending argument; another one is pending then. -/
def settleAndWait (parsing : Parsing) (argument : Argument)
    (value : Option String) : Except UsageError Parsing := do
  .ok { ← parsing.settle with pending := some (argument, value) }

/-- Whether the next word is the value of an option. -/
def awaitsValue (parsing : Parsing) : Bool :=
  match parsing.pending with
  | some (_, none) => true
  | _ => false

/-- Reads an option in its long spelling. -/
def readLong (parsing : Parsing) (grammar : Grammar) (word : List Char) :
    Except UsageError Parsing :=
  let name := String.ofList (word.takeWhile (· ≠ '='))
  match grammar.options.find? fun option => option.long == some name,
      word.dropWhile (· ≠ '=') with
  | none, _ => .error .unknownArgument
  | some option, _ :: value =>
      if option.takesValue then
        parsing.settleAndTake option (some (String.ofList value))
      else .error .unneededValue
  | some option, [] =>
      if option.takesValue then parsing.settleAndWait option none
      else parsing.settleAndTake option none

/-- Reads options in their short spellings, the last of which may have its
value behind it. -/
def readShort (parsing : Parsing) (grammar : Grammar) :
    List Char → Except UsageError Parsing
  | [] => .ok parsing
  | letter :: rest =>
      match grammar.options.find? fun option => option.short == some letter,
          rest with
      | none, _ => .error .unknownArgument
      | some option, value =>
          if option.takesValue then
            match value with
            | [] => parsing.settleAndWait option none
            | '=' :: value =>
                parsing.settleAndTake option (some (String.ofList value))
            | value =>
                parsing.settleAndTake option (some (String.ofList value))
          else
            match parsing.settleAndTake option none with
            | .error error => .error error
            | .ok parsing => parsing.readShort grammar rest

def readWord (parsing : Parsing) (grammar : Grammar) (word : String) :
    Except UsageError Parsing :=
  match grammar.positionals[parsing.position]? with
  | some argument => do
      let next ← parsing.settleAndWait argument (some word)
      .ok { next with position := next.position + 1 }
  | none =>
      if grammar.commands.isEmpty then .error .unknownArgument
      else if parsing.onlyValues && grammar.namesCommand word then
        .error .unknownArgument
      else .error .invalidSubcommand

/-- Reads a word that names no subcommand. -/
def read (parsing : Parsing) (grammar : Grammar) (word : String) :
    Except UsageError Parsing :=
  if parsing.onlyValues then parsing.readWord grammar word
  else
    match word.toList with
    | ['-', '-'] => .ok { parsing with onlyValues := true }
    | '-' :: '-' :: rest => parsing.readLong grammar rest
    | '-' :: letter :: rest => parsing.readShort grammar (letter :: rest)
    | _ =>
        match parsing.pending with
        | some (argument, none) =>
            .ok { parsing with pending := some (argument, some word) }
        | _ => parsing.readWord grammar word

/-- Whether a word may name a subcommand. -/
def mayName (parsing : Parsing) : Bool :=
  !parsing.onlyValues && !parsing.awaitsValue

/-- Checks what was given once all words have been read. -/
def finish (parsing : Parsing) (grammar : Grammar) (hasCommand : Bool) :
    Except UsageError (List (String × Option String)) := do
  let parsing ← parsing.settle
  let given (name : String) : Bool :=
    parsing.taken.any fun entry => entry.1.name == name
  if grammar.needsCommand && !hasCommand then
    .error (if parsing.taken.isEmpty then .bareCommand else .missingSubcommand)
  else if parsing.taken.any fun entry => entry.1.excludes.any given then
    .error .conflict
  else if (grammar.options ++ grammar.positionals).any fun argument =>
      argument.isRequired && !given argument.name then
    .error .missingArgument
  else .ok (parsing.taken.map fun entry => (entry.1.name, entry.2))

end Parsing

/-- What a command line says. -/
structure CommandLine where
  /-- The names of the command and its subcommands. -/
  path : List String
  /-- The arguments by name, those of inner commands later. -/
  arguments : List (String × Option String)
deriving DecidableEq, Inhabited, Repr

namespace CommandLine

/-- Reads words as a command line, given what was read of its command. -/
def readFrom (grammar : Grammar) (parsing : Parsing) :
    List String → Except UsageError CommandLine
  | [] => (parsing.finish grammar false).map fun arguments => ⟨[], arguments⟩
  | word :: rest =>
      match grammar.commands.lookup word with
      | some inner =>
          if parsing.mayName then
            match readFrom inner .start rest with
            | .error error => .error error
            | .ok line =>
                (parsing.finish grammar true).map fun arguments =>
                  ⟨word :: line.path, arguments ++ line.arguments⟩
          else
            match parsing.read grammar word with
            | .error error => .error error
            | .ok next => readFrom grammar next rest
      | none =>
          if parsing.mayName && grammar.namesCommand word then
            .error (grammar.helpFor rest)
          else
            match parsing.read grammar word with
            | .error error => .error error
            | .ok next => readFrom grammar next rest

def read (grammar : Grammar) (words : List String) :
    Except UsageError CommandLine :=
  readFrom grammar .start words

/-- Whether an argument was given. -/
def has (line : CommandLine) (name : String) : Bool :=
  line.arguments.any fun entry => entry.1 == name

/-- The values of an argument, in order. -/
def values (line : CommandLine) (name : String) : List String :=
  line.arguments.filterMap fun entry =>
    if entry.1 == name then entry.2 else none

/-- The value of an argument; the innermost counts. -/
def value? (line : CommandLine) (name : String) : Option String :=
  (line.values name).getLast?

end CommandLine

end AgentPipeline
