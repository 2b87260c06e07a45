/-!
# Command lines

What a command line asks for. There are three commands, each with options of its own, and options
that may stand before or after the name of the command; of these two places the one after it
counts. Options have long names, most of them also a letter, and the value of an option is the next
argument or is attached. Most options may be given once only.

A command line that is wrong is refused, and one that asks for help or for the version is answered
with that. Which of the two it is can depend on how far the line has been read: an option with a
value is looked at only when the next option begins or when the line ends, and what stands before
the name of a command is settled after what stands behind it.
-/

namespace Forwarder

/-- A command with its own options. -/
inductive Command where
  /-- Generates source units from snapshots, one pass for each, into a directory. -/
  | generate (inputs : List String) (directory : String)
  /-- Analyzes a snapshot. -/
  | analyze (input : String)
  /-- Shows what a snapshot holds. -/
  | inspect (input : String)
  deriving DecidableEq, Repr

/-- What a command line asks for. -/
structure Invocation where
  /-- The command. -/
  command : Command
  /-- The settings file, if one is given. -/
  settings : Option String
  /-- Whether more is to be logged. -/
  verbose : Bool
  /-- The name of the output format. -/
  format : String
  deriving DecidableEq, Repr

/-- Why a command line runs no command. -/
inductive LineStop where
  /-- It asks for help or for the version. -/
  | information
  /-- It is wrong. -/
  | misuse
  deriving DecidableEq, Repr

/-- The exit code where a command line runs no command. -/
def LineStop.exitCode : LineStop → Nat
  | .information => 0
  | .misuse => 2

namespace CommandLine

/-! ## Vocabulary -/

/-- What the name of a command stands for. -/
inductive Verb where
  /-- To generate. -/
  | generate
  /-- To analyze. -/
  | analyze
  /-- To inspect. -/
  | inspect
  deriving DecidableEq, Repr

/-- The names of the commands. -/
def verbs : List (String × Verb) :=
  [("generate", .generate), ("analyze", .analyze), ("inspect", .inspect)]

/-- The name that asks for help in the place of a command. -/
def helpName : String := "help"

/-- The options. -/
inductive Flag where
  /-- The settings file. -/
  | settings
  /-- More logging. -/
  | verbose
  /-- The output format. -/
  | format
  /-- A snapshot. -/
  | input
  /-- The output directory. -/
  | directory
  /-- Help. -/
  | help
  /-- The version. -/
  | version
  deriving DecidableEq, Repr

namespace Flag

/-- All options. -/
def all : List Flag := [.settings, .verbose, .format, .input, .directory, .help, .version]

/-- The long name of an option. -/
def longName : Flag → String
  | .settings => "config"
  | .verbose => "verbose"
  | .format => "format"
  | .input => "input"
  | .directory => "out-dir"
  | .help => "help"
  | .version => "version"

/-- The letter of an option, if it has one. -/
def letter? : Flag → Option Char
  | .settings => some 'c'
  | .verbose => some 'v'
  | .format => none
  | .input => some 'i'
  | .directory => some 'o'
  | .help => some 'h'
  | .version => some 'V'

/-- Whether an option has a value. -/
def takesValue : Flag → Bool
  | .settings | .format | .input | .directory => true
  | .verbose | .help | .version => false

/-- Whether the value of an option is a path, which is never empty. -/
def isPath : Flag → Bool
  | .settings | .input | .directory => true
  | _ => false

/-- Whether an option asks for information instead of a command. -/
def asksForInformation : Flag → Bool
  | .help | .version => true
  | _ => false

/-- Whether an option may stand in a place: behind the name of a command, or before any. -/
def isAllowed (verb : Option Verb) : Flag → Bool
  | .settings | .verbose | .format | .help => true
  | .version => verb.isNone
  | .input => verb.isSome
  | .directory => verb = some .generate

/-- Whether an option may stand more than once in a place. -/
def isRepeatable (verb : Option Verb) (flag : Flag) : Bool :=
  flag = .input && verb = some .generate

/-- The option of a long name, where it is allowed. -/
def ofLongName? (verb : Option Verb) (name : String) : Option Flag :=
  all.find? fun flag => flag.isAllowed verb && flag.longName = name

/-- The option of a letter, where it is allowed. -/
def ofLetter? (verb : Option Verb) (letter : Char) : Option Flag :=
  all.find? fun flag => flag.isAllowed verb && flag.letter? = some letter

end Flag

/-! ## Options in one place -/

/-- What has been read of the options in one place. -/
structure Gathered where
  /-- The options that have been looked at, with their values, in their order. -/
  accepted : List (Flag × String)
  /-- The option that is still to be looked at, with its value if that has been read. -/
  pending : Option (Flag × Option String)
  deriving Repr

namespace Gathered

/-- Nothing read yet. -/
def empty : Gathered := ⟨[], none⟩

/-- The values of an option, in their order. -/
def values (gathered : Gathered) (flag : Flag) : List String :=
  (gathered.accepted.filter (·.1 = flag)).map (·.2)

/-- Whether an option has been given. -/
def contains (gathered : Gathered) (flag : Flag) : Bool := gathered.accepted.any (·.1 = flag)

/-- Looks at an option with its value. -/
def accept (verb : Option Verb) (gathered : Gathered) (flag : Flag) (value : String) :
    Except LineStop Gathered :=
  if flag.asksForInformation then .error .information
  else if flag.isPath && value = "" then .error .misuse
  else if gathered.contains flag && !flag.isRepeatable verb then .error .misuse
  else .ok { gathered with accepted := gathered.accepted ++ [(flag, value)] }

/-- Looks at the option that is still to be looked at. -/
def settle (verb : Option Verb) (gathered : Gathered) : Except LineStop Gathered :=
  match gathered.pending with
  | none => .ok gathered
  | some (_, none) => .error .misuse
  | some (flag, some value) => accept verb { gathered with pending := none } flag value

/-- Takes an option, perhaps with an attached value. An option whose value is attached, or that has
none, is looked at right away. -/
def add (verb : Option Verb) (gathered : Gathered) (flag : Flag) (attached : Option String) :
    Except LineStop Gathered := do
  let gathered ← gathered.settle verb
  match flag.takesValue, attached with
  | true, some value => gathered.accept verb flag value
  | true, none => return { gathered with pending := some (flag, none) }
  | false, some _ => .error .misuse
  | false, none => gathered.accept verb flag ""

/-- The value that is attached to a long name, from the equals sign on. -/
def attachedToName : List Char → Option String
  | [] => none
  | _ :: value => some (String.ofList value)

/-- The value that is attached to a letter; an equals sign before it is no part of it. -/
def attachedToLetter : List Char → Option String
  | [] => none
  | '=' :: value => some (String.ofList value)
  | value => some (String.ofList value)

/-- Takes an option by its long name, from behind the dashes on. -/
def addLong (verb : Option Verb) (gathered : Gathered) (text : List Char) :
    Except LineStop Gathered :=
  match Flag.ofLongName? verb (String.ofList (text.takeWhile (· ≠ '='))) with
  | some flag => gathered.add verb flag (attachedToName (text.dropWhile (· ≠ '=')))
  | none => .error .misuse

/-- Takes options by their letters, from behind the dash on. What follows the letter of an option
with a value is that value. -/
def addLetters (verb : Option Verb) (gathered : Gathered) : List Char → Except LineStop Gathered
  | [] => .ok gathered
  | letter :: rest =>
    match Flag.ofLetter? verb letter with
    | none => .error .misuse
    | some flag =>
      if flag.takesValue then gathered.add verb flag (attachedToLetter rest)
      else do addLetters verb (← gathered.add verb flag none) rest

end Gathered

/-- Whether an argument is written as an option. One dash alone is not. -/
def isDashed (argument : String) : Bool :=
  match argument.toList with
  | '-' :: _ :: _ => true
  | _ => false

/-- The answer to a question for help about the commands with given names. -/
def helpAnswer : List String → LineStop
  | [] => .information
  | [name] => if name = helpName || (verbs.lookup name).isSome then .information else .misuse
  | _ => .misuse

/-- Reads the options in one place: to the end of the line or, where no command has been named yet,
to the name of a command. Gives that with the arguments behind it. Two dashes end the options, and
nothing may follow them. -/
def readPlace (verb : Option Verb) (gathered : Gathered) :
    List String → Except LineStop (Gathered × Option (Verb × List String))
  | [] => .ok (gathered, none)
  | argument :: rest =>
    match gathered.pending with
    | some (flag, none) =>
      if isDashed argument then .error .misuse
      else readPlace verb { gathered with pending := some (flag, some argument) } rest
    | _ =>
      match verb, verbs.lookup argument with
      | none, some named => .ok (gathered, some (named, rest))
      | _, _ =>
        if verb.isNone && argument = helpName then .error (helpAnswer rest)
        else match argument.toList with
          | ['-', '-'] => if rest.isEmpty then .ok (gathered, none) else .error .misuse
          | '-' :: '-' :: name => do readPlace verb (← gathered.addLong verb name) rest
          | '-' :: letter :: letters => do
            readPlace verb (← gathered.addLetters verb (letter :: letters)) rest
          | _ => .error .misuse

/-! ## Whole lines -/

/-- A command made of its options, all of which have to be given. -/
def commandOf (verb : Verb) (gathered : Gathered) : Except LineStop Command :=
  match verb, gathered.values .input, gathered.values .directory with
  | .generate, input :: inputs, [directory] => .ok (.generate (input :: inputs) directory)
  | .analyze, [input], _ => .ok (.analyze input)
  | .inspect, [input], _ => .ok (.inspect input)
  | _, _, _ => .error .misuse

/-- The value of an option that may stand in two places, the place behind the name of the command
first. -/
def valueOf? (after before : Gathered) (flag : Flag) : Option String :=
  (after.values flag ++ before.values flag).head?

/-- What a command line asks for. A settings file of the environment is used in every place where
the line names none, and its path is never empty either. -/
def parse (environment : Option String) (arguments : List String) :
    Except LineStop Invocation := do
  match ← readPlace none .empty arguments with
  | (_, none) => .error .misuse
  | (before, some (verb, rest)) =>
    let (after, _) ← readPlace (some verb) .empty rest
    let after ← after.settle (some verb)
    let command ← commandOf verb after
    let before ← before.settle none
    if environment = some "" && !(after.contains .settings && before.contains .settings) then
      .error .misuse
    else return {
      command
      settings := valueOf? after before .settings <|> environment
      verbose := after.contains .verbose || before.contains .verbose
      format := (valueOf? after before .format).getD "pretty" }

/-! ## Help -/

/-- An option as help lists it. -/
def Flag.usage (flag : Flag) : String :=
  "  " ++ flag.letter?.elim "    " (fun letter => "-" ++ letter.toString ++ ", ") ++ "--" ++
    flag.longName ++ (if flag.takesValue then " <VALUE>" else "")

/-- What is printed where a command line runs no command. -/
def usage : String :=
  "\n".intercalate (["Usage: forwarder [OPTIONS] <COMMAND>", "", "Commands:"] ++
    verbs.map ("  " ++ ·.1) ++ ["  " ++ helpName, "", "Options:"] ++ Flag.all.map (·.usage))

end CommandLine

end Forwarder
