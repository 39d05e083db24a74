/-!
The arguments of the command line: options, a command, and the command's own options and values.
Options that every command knows may stand before the command or behind it.
-/

namespace CameraRoll.CommandLine

/-- What the program can be asked to do. -/
inductive Command where
  | list
  | save (file : String) (video : Bool)
  | delete (name : String)
  | copyOut (name target : String)
  | check
  | url (name : String) (thumbnail : Bool)
  deriving DecidableEq, Repr

/-- A command together with what was said about its surroundings. -/
structure Invocation where
  /-- The configuration file, unless it is the usual one. -/
  config : Option String
  /-- Whether moving pictures is agreed to in advance. -/
  agreed : Bool
  command : Command
  deriving DecidableEq, Repr

/-- What is wrong with the arguments. -/
inductive UsageError where
  | unknownCommand (word : String)
  | unexpectedArgument (word : String)
  | unexpectedValue (value option : String)
  /-- An option or an argument has no value, or an empty one where it must not be empty. -/
  | missingValue (of : String)
  | repeated (option : String)
  | missingArguments (names : List String)
  | missingCommand
  deriving DecidableEq, Repr

def UsageError.message : UsageError → String
  | .unknownCommand word => "unrecognized subcommand '" ++ word ++ "'"
  | .unexpectedArgument word => "unexpected argument '" ++ word ++ "' found"
  | .unexpectedValue value option =>
    "unexpected value '" ++ value ++ "' for '" ++ option ++ "' found; no more were expected"
  | .missingValue of => "a value is required for '" ++ of ++ "' but none was supplied"
  | .repeated option => "the argument '" ++ option ++ "' cannot be used multiple times"
  | .missingArguments _ => "the following required arguments were not provided:"
  | .missingCommand => "'shutter' requires a subcommand but one was not provided"

/-- What is said instead of running a command. -/
inductive Reply where
  | help
  | version
  /-- Nothing was asked, so that some help is in place. -/
  | guidance
  | refusal (error : UsageError)
  deriving DecidableEq, Repr

/-- The options. -/
inductive OptionName where
  | config
  | yes
  | help
  | version
  | video
  | thumbnail
  deriving DecidableEq, Repr

namespace OptionName

/-- The option's name behind two dashes. -/
def long : OptionName → String
  | .config => "config"
  | .yes => "yes"
  | .help => "help"
  | .version => "version"
  | .video => "video"
  | .thumbnail => "thumbnail"

/-- The option's letter behind one dash, if it has one. -/
def letter? : OptionName → Option Char
  | .config => some 'c'
  | .yes => some 'y'
  | .help => some 'h'
  | .version => some 'V'
  | .video | .thumbnail => none

/-- The option as errors name it. -/
def display : OptionName → String
  | .config => "--config <CONFIG>"
  | option => "--" ++ option.long

end OptionName

/-- A value that a command takes. -/
structure Slot where
  name : String
  /-- A path, which is not empty. -/
  isPath : Bool
  deriving DecidableEq, Repr

/-- What can be said at one level: before the command, or behind it. -/
structure Level where
  options : List OptionName
  slots : List Slot
  /-- Commands that can follow. -/
  commands : List String
  deriving DecidableEq, Repr

def commandWords : List String := ["list", "save", "delete", "export", "check", "url"]

/-- The word that asks for help about other words. -/
def helpWord : String := "help"

/-- The level before the command. -/
def Level.outer : Level where
  options := [.config, .yes, .help, .version]
  slots := []
  commands := commandWords ++ [helpWord]

/-- Options that every command knows. -/
def commonOptions : List OptionName := [.config, .yes, .help]

/-- The level behind a command. -/
def Level.ofCommand (word : String) : Level :=
  match word with
  | "save" => ⟨.video :: commonOptions, [⟨"FILE", true⟩], []⟩
  | "delete" => ⟨commonOptions, [⟨"NAME", false⟩], []⟩
  | "export" => ⟨commonOptions, [⟨"NAME", false⟩, ⟨"TARGET", true⟩], []⟩
  | "url" => ⟨.thumbnail :: commonOptions, [⟨"NAME", false⟩], []⟩
  | _ => ⟨commonOptions, [], []⟩

/-- A value that was read but not looked at yet. -/
inductive Pending where
  /-- The option is there, its value is not. -/
  | awaited
  | option (value : String)
  | argument (slot : Slot) (value : String)
  deriving DecidableEq, Repr

/-- What was read at a level. -/
structure Reading where
  config : Option String := none
  /-- Options without values that were given. -/
  given : List OptionName := []
  /-- Values of the command, in their order. -/
  values : List String := []
  pending : Option Pending := none
  deriving DecidableEq, Repr

namespace Reading

def isEmpty (r : Reading) : Bool := r.config.isNone && r.given.isEmpty && r.values.isEmpty

/-- Takes a configuration file. It can be given once at a level. -/
def setConfig (r : Reading) (value : String) : Except Reply Reading :=
  if r.config.isSome then .error (.refusal (.repeated OptionName.config.display))
  else if value.isEmpty then .error (.refusal (.missingValue OptionName.config.display))
  else .ok { r with config := some value }

/-- Looks at the pending value. -/
def settle (r : Reading) : Except Reply Reading :=
  let rest := { r with pending := none }
  match r.pending with
  | none => .ok r
  | some .awaited => .error (.refusal (.missingValue OptionName.config.display))
  | some (.option value) => rest.setConfig value
  | some (.argument slot value) =>
    if slot.isPath && value.isEmpty then
      .error (.refusal (.missingValue ("<" ++ slot.name ++ ">")))
    else .ok { rest with values := r.values ++ [value] }

/-- Takes an option that has no value. -/
def switch (r : Reading) (option : OptionName) : Except Reply Reading := do
  let r ← r.settle
  match option with
  | .help => throw .help
  | .version => throw .version
  | option =>
    if option ∈ r.given then throw (.refusal (.repeated option.display))
    return { r with given := option :: r.given }

/-- Takes an option by its name, and its value if one is attached. -/
def long (r : Reading) (level : Level) (name : String) (value : Option String) :
    Except Reply Reading :=
  match level.options.find? (·.long == name), value with
  | none, _ => .error (.refusal (.unexpectedArgument ("--" ++ name)))
  | some .config, some value => do (← r.settle).setConfig value
  | some .config, none => do return { ← r.settle with pending := some .awaited }
  | some option, some value => .error (.refusal (.unexpectedValue value option.display))
  | some option, none => r.switch option

/-- Takes options by their letters. What follows the letter of an option with a value is its
value. -/
def letters (level : Level) : List Char → Reading → Except Reply Reading
  | [], r => .ok r
  | c :: rest, r =>
    match level.options.find? (·.letter? == some c) with
    | none => .error (.refusal (.unexpectedArgument (String.ofList ['-', c])))
    | some .config => do
      let r ← r.settle
      match rest with
      | [] => return { r with pending := some .awaited }
      | '=' :: value | value => r.setConfig (String.ofList value)
    | some option => do letters level rest (← r.switch option)

/-- How many values of the command were read, looked at or not. -/
def valueCount (r : Reading) : Nat :=
  r.values.length + match r.pending with
    | some (.argument ..) => 1
    | _ => 0

/-- Takes a word that is no option. `plain` says that it can be nothing but a value. -/
def word (r : Reading) (level : Level) (plain : Bool) (text : String) : Except Reply Reading :=
  match level.slots[r.valueCount]? with
  | some slot => do return { ← r.settle with pending := some (.argument slot text) }
  | none =>
    if level.commands.isEmpty || (plain && text ∈ level.commands) then
      .error (.refusal (.unexpectedArgument text))
    else .error (.refusal (.unknownCommand text))

end Reading

/-- The name and the attached value of an option behind two dashes. -/
def splitAtEquals (s : List Char) : String × Option String :=
  let name := String.ofList (s.takeWhile (· != '='))
  match s.dropWhile (· != '=') with
  | _ :: value => (name, some (String.ofList value))
  | [] => (name, none)

/-- Reads the words of a level up to a command. Behind two dashes alone every word is a value. -/
def readLevel (level : Level) (plain : Bool) :
    (words : List String) → Reading → Except Reply (Reading × Option (String × List String))
  | [], r => .ok (r, none)
  | text :: rest, r =>
    let further (r : Reading) := readLevel level plain rest r
    if plain then do further (← r.word level true text)
    else if r.pending ≠ some .awaited ∧ text ∈ level.commands then .ok (r, some (text, rest))
    else match text.toList with
      | ['-', '-'] => readLevel level true rest r
      | '-' :: '-' :: s => do
        let (name, value) := splitAtEquals s
        further (← r.long level name value)
      | '-' :: c :: s => do further (← Reading.letters level (c :: s) r)
      | _ =>
        if r.pending = some .awaited then further { r with pending := some (.option text) }
        else do further (← r.word level false text)

/-- Ends a level: the last value is looked at, and a configuration file that was not given comes
from the environment. -/
def Reading.finish (r : Reading) (environment : Option String) : Except Reply Reading := do
  let r ← r.settle
  match r.config, environment with
  | none, some value => r.setConfig value
  | _, _ => return r

/-- The command that a word and what was read behind it make. -/
def commandOf (word : String) (r : Reading) : Except Reply Command :=
  match word, r.values with
  | "list", _ => .ok .list
  | "check", _ => .ok .check
  | "save", [file] => .ok (.save file (.video ∈ r.given))
  | "delete", [name] => .ok (.delete name)
  | "export", [name, target] => .ok (.copyOut name target)
  | "url", [name] => .ok (.url name (.thumbnail ∈ r.given))
  | word, values =>
    let names := ((Level.ofCommand word).slots.drop values.length).map (·.name)
    .error (.refusal (.missingArguments names))

/-- Help about words: of all words only the first can be a command. -/
def helpAbout : List String → Reply
  | [] => .help
  | word :: rest =>
    if word ∈ Level.outer.commands then
      match rest with
      | [] => .help
      | next :: _ => .refusal (.unknownCommand next)
    else .refusal (.unknownCommand word)

/-- The invocation that the arguments make. `environment` is the configuration file that is used if
none is given. -/
def Invocation.ofArguments (arguments : List String) (environment : Option String) :
    Except Reply Invocation := do
  match ← readLevel .outer false arguments {} with
  | (outer, none) =>
    let outer ← outer.finish environment
    throw (if outer.isEmpty then .guidance else .refusal .missingCommand)
  | (outer, some (word, rest)) =>
    if word = helpWord then throw (helpAbout rest)
    let level := Level.ofCommand word
    let (inner, _) ← readLevel level false rest {}
    let inner ← inner.finish none
    if inner.config.isNone ∧ environment = some "" then
      throw (.refusal (.missingValue OptionName.config.display))
    let command ← commandOf word inner
    let outer ← outer.finish environment
    return {
      config := inner.config.or outer.config
      agreed := .yes ∈ outer.given || .yes ∈ inner.given
      command }

end CameraRoll.CommandLine
