import StackDeploy.Text.Decimal

/-!
# Commands

What the words on the command line ask for. Words are read from the left; a command comes first, and
its operand and options follow in any order.

* `Word.ofText` — tells options from operands.
* `Invocation.ofWords` — the command that the words ask for, or what is wrong with them.
-/

namespace StackDeploy

/-! ### What can be asked for -/

/-- A **command**. Every command that draws can be told not to use colours. -/
inductive Command where
  /-- Deploys the stack of the manifest at a path, on demand as an update whatever the manifest
  says. -/
  | deploy (manifest : String) (update noColor : Bool)
  | delete (stack : String) (noColor : Bool)
  /-- Follows the events of a stack, from so many minutes ago on. -/
  | events (stack : String) (sinceMinutes : Int) (noColor : Bool)
  | status (stack : String)
  | config
deriving DecidableEq, Repr

/-- What a command line asks for. -/
inductive Invocation where
  | run (command : Command)
  | version
  | help
deriving DecidableEq, Repr

/-- What is **wrong** with a command line. -/
inductive UsageError where
  | noCommand
  | unknownCommand (word : String)
  | unknownOption (word : String)
  | repeatedOption (name : String)
  | missingValue (name : String)
  | unexpectedValue (name : String)
  | badValue (name value : String)
  | missingOperand (command : String)
  | unexpectedOperand (word : String)
  | emptyOperand
deriving DecidableEq, Repr

/-- The wording of an error. -/
def UsageError.message : UsageError → String
  | noCommand => "a command is required"
  | unknownCommand word => "unrecognized command '" ++ word ++ "'"
  | unknownOption word => "unexpected option '" ++ word ++ "'"
  | repeatedOption name => "the option '--" ++ name ++ "' cannot be used more than once"
  | missingValue name => "the option '--" ++ name ++ "' needs a value"
  | unexpectedValue name => "the option '--" ++ name ++ "' takes no value"
  | badValue name value => "invalid value '" ++ value ++ "' for the option '--" ++ name ++ "'"
  | missingOperand command => "the command '" ++ command ++ "' needs an operand"
  | unexpectedOperand word => "unexpected operand '" ++ word ++ "'"
  | emptyOperand => "the path of the manifest is empty"

/-! ### Words -/

/-- A **word** on the command line. -/
inductive Word where
  /-- All words after this one are operands. -/
  | separator
  /-- An option with a long name, perhaps with a value in the same word. -/
  | long (name : String) (value : Option String)
  /-- An option whose name is one letter. -/
  | short (letter : Char)
  | operand (text : String)
deriving DecidableEq, Repr

/-- The word that a text is. -/
def Word.ofText (text : String) : Word :=
  match text.toList with
  | ['-', '-'] => .separator
  | '-' :: '-' :: rest =>
    let name := String.ofList (rest.takeWhile (· ≠ '='))
    match rest.dropWhile (· ≠ '=') with
    | _ :: value => .long name (some (String.ofList value))
    | [] => .long name none
  | '-' :: letter :: _ => .short letter
  | _ => .operand text

/-! ### Operands and options -/

/-- What an operand is. A path cannot be empty. -/
inductive OperandKind where
  | name
  | path
deriving DecidableEq, Repr

/-- What a command takes: perhaps one operand, options that are there or not, and options whose
value is a number. -/
structure Signature where
  command : String
  operand : Option OperandKind
  flags : List String
  numbers : List String
deriving DecidableEq, Repr

/-- What was **given** to a command so far. -/
structure Given where
  operand : Option String
  flags : List String
  numbers : List (String × Int)
deriving DecidableEq, Repr

namespace Given

/-- Nothing was given. -/
def nothing : Given := ⟨none, [], []⟩

/-- Takes an operand. -/
def addOperand (s : Signature) (g : Given) (text : String) : Except UsageError Given :=
  if s.operand.isNone || g.operand.isSome then .error (.unexpectedOperand text)
  else if s.operand = some .path && text = "" then .error .emptyOperand
  else .ok { g with operand := some text }

/-- Takes operands. -/
def addOperands (s : Signature) : Given → List String → Except UsageError Given
  | g, [] => .ok g
  | g, text :: rest =>
    match g.addOperand s text with
    | .ok g => addOperands s g rest
    | .error e => .error e

/-- Takes an option that has no value. -/
def addFlag (g : Given) (name : String) : Except UsageError Given :=
  if g.flags.contains name then .error (.repeatedOption name)
  else .ok { g with flags := name :: g.flags }

/-- Takes an option whose value is a number of 64 bits. -/
def addNumber (g : Given) (name value : String) : Except UsageError Given :=
  match Text.readInt? 64 value.toList with
  | none => .error (.badValue name value)
  | some n =>
    if (g.numbers.lookup name).isSome then .error (.repeatedOption name)
    else .ok { g with numbers := (name, n) :: g.numbers }

/-- Reads the words after a command. Whoever asks for help gets it, if nothing before is wrong: then
the result is nothing. -/
def read (s : Signature) : Given → List String → Except UsageError (Option Given)
  | g, [] => .ok (some g)
  | g, text :: rest =>
    match Word.ofText text with
    | .separator => (g.addOperands s rest).map some
    | .operand text =>
      match g.addOperand s text with
      | .ok g => read s g rest
      | .error e => .error e
    | .short letter => if letter = 'h' then .ok none else .error (.unknownOption text)
    | .long name value =>
      if name = "help" && value.isNone then .ok none
      else if s.flags.contains name then
        match value with
        | some _ => .error (.unexpectedValue name)
        | none =>
          match g.addFlag name with
          | .ok g => read s g rest
          | .error e => .error e
      else if s.numbers.contains name then
        match value with
        | some value =>
          match g.addNumber name value with
          | .ok g => read s g rest
          | .error e => .error e
        | none =>
          match rest with
          | [] => .error (.missingValue name)
          | next :: rest =>
            match Word.ofText next with
            | .operand value =>
              match g.addNumber name value with
              | .ok g => read s g rest
              | .error e => .error e
            | _ => .error (.missingValue name)
      else .error (.unknownOption text)

/-- The option was given. -/
def has (g : Given) (name : String) : Bool := g.flags.contains name

end Given

/-! ### Commands from words -/

namespace Command

/-- The signatures of all commands. -/
def signatures : List Signature :=
  [⟨"deploy", some .path, ["update", "no-color"], []⟩,
    ⟨"delete", some .name, ["no-color"], []⟩,
    ⟨"events", some .name, ["no-color"], ["since-minutes"]⟩,
    ⟨"status", some .name, [], []⟩,
    ⟨"config", none, [], []⟩]

/-- The command of a signature, from what was given to it. -/
def ofGiven (s : Signature) (g : Given) : Except UsageError Command :=
  match s.command, g.operand with
  | "config", _ => .ok .config
  | _, none => .error (.missingOperand s.command)
  | "deploy", some manifest => .ok (.deploy manifest (g.has "update") (g.has "no-color"))
  | "delete", some stack => .ok (.delete stack (g.has "no-color"))
  | "events", some stack =>
    .ok (.events stack ((g.numbers.lookup "since-minutes").getD 0) (g.has "no-color"))
  | "status", some stack => .ok (.status stack)
  | other, some _ => .error (.unknownCommand other)

end Command

namespace Invocation

/-- The invocation that the words after the name of a command ask for. -/
def ofCommand (s : Signature) (words : List String) : Except UsageError Invocation :=
  match Given.nothing.read s words with
  | .error e => .error e
  | .ok none => .ok .help
  | .ok (some given) => (Command.ofGiven s given).map .run

/-- The command has a signature, or is the one that shows help. -/
def isKnown (name : String) : Bool :=
  name = "help" || Command.signatures.any (·.command = name)

/-- The invocation that the words after a request for help ask for. -/
def ofHelp : List String → Except UsageError Invocation
  | [] => .ok .help
  | [name] => if isKnown name then .ok .help else .error (.unknownCommand name)
  | _ :: word :: _ => .error (.unexpectedOperand word)

/-- What the words of a command line **ask for**. -/
def ofWords : List String → Except UsageError Invocation
  | [] => .error .noCommand
  | text :: rest =>
    match Command.signatures.find? (·.command = text) with
    | some signature => ofCommand signature rest
    | none =>
      match Word.ofText text with
      | .separator => .error .noCommand
      | .operand "help" => ofHelp rest
      | .operand text => .error (.unknownCommand text)
      | .long "help" none | .short 'h' => .ok .help
      | .long "version" none | .short 'V' => .ok .version
      | .long _ _ | .short _ => .error (.unknownOption text)

end Invocation

end StackDeploy
