import CameraRoll.Catalog.Basic
import CameraRoll.CommandLine.Arguments
import CameraRoll.Config.Basic
import CameraRoll.Host.Local
import CameraRoll.Resolver.Initialization
import CameraRoll.Settings.File
import CameraRoll.Text.Base64

/-!
Running a command: the configuration is loaded, a session is started, and one operation of the
catalog is done. Everything goes through a machine, which can be a real one or one held in memory.
-/

namespace CameraRoll.CommandLine

open CameraRoll.Calendar

/-- Why a command failed. -/
inductive CommandError where
  | configuration
  | preparation
  | library
  | unknownPicture (name : String)
  | unreadable (file : String)
  deriving DecidableEq, Repr

def CommandError.message : CommandError → String
  | .configuration => "could not load configuration"
  | .preparation => "could not prepare picture storage"
  | .library => "picture library operation failed"
  | .unknownPicture name => "no picture named " ++ name
  | .unreadable file => "could not read " ++ file

/-- What a platform tells a program. -/
structure Platform where
  /-- Variables of the environment. -/
  environment : List (String × String)
  places : Config.Places
  /-- Seconds that the platform's clocks are ahead of universal time at an instant, if it can tell. -/
  offset? : Instant → Option Int

/-- A platform that is known by its environment alone. -/
def Platform.ofEnvironment (environment : List (String × String)) : Platform where
  environment := environment
  places := .ofEnvironment environment
  offset? _ := none

/-- What a program runs on. -/
structure Machine (m : Type → Type) where
  disk : Disk m
  clock : m Instant
  /-- The next line of the user's input. -/
  input : m ByteArray
  /-- Writes results. -/
  say : String → m Unit
  /-- Writes everything else. -/
  complain : String → m Unit
  platform : Platform
  codec : Codec

/-- The question that is asked before pictures are moved. -/
def question : String :=
  "Pictures taken earlier are stored privately. Move them to your Downloads folder? [y/N] "

/-- Whether an answer is a yes. Everything else is a no. -/
def isYes (answer : ByteArray) : Bool :=
  match String.fromUTF8? answer with
  | some text =>
    let word := String.ofList ((Text.trimBlanks text.toList).map Char.toLower)
    word == "y" || word == "yes"
  | none => false

/-- What is said after a no. -/
def declinedText : String := "Pictures were left where they are; nothing else was done.\n"

/-- A picture in a line of a list. -/
def lineOf (picture : Picture) : String :=
  String.intercalate "\t"
    [picture.time.text, picture.kind.text, picture.file.location.text, picture.name]

variable {m : Type → Type} [Monad m]

abbrev Step (m : Type → Type) (α : Type) := ExceptT CommandError (StateT Catalog m) α

/-- An operation of the catalog as a step of a command. -/
def inLibrary {α : Type} (act : Library.Action m α) : Step m α := act.adapt fun _ => .library

/-- The picture with a name. -/
def find (library : Library m) (name : String) : Step m Picture := do
  match ← inLibrary (library.find? name) with
  | some picture => return picture
  | none => throw (.unknownPicture name)

/-- Does what a command asks for; the answer is the lines to write. -/
def Command.execute (library : Library m) : Command → Step m (List String)
  | .list => return (← inLibrary library.list).map lineOf
  | .save file video => do
    match ← ExceptT.lift (StateT.lift (library.disk.read file).run) with
    | .error _ => throw (.unreadable file)
    | .ok content =>
      let kind := if video then MediaKind.video else MediaKind.image
      return [(← inLibrary (library.save content kind)).name]
  | .delete name => do
    let picture ← find library name
    inLibrary (library.delete picture false)
    return []
  | .copyOut name target => do
    let picture ← find library name
    inLibrary (library.copyOut picture target)
    return []
  | .check => do
    match ← inLibrary library.checkLast with
    | some last => return [last.name]
    | none => return ["No pictures"]
  | .url name thumbnail => do
    let picture ← find library name
    if thumbnail then
      match ← inLibrary (library.thumbnailUrl picture) with
      | some address => return [address]
      | none => return ["No thumbnail"]
    else return [← inLibrary (library.pictureUrl picture)]

namespace Machine

/-- Asks the user whether pictures may be moved. -/
def ask (machine : Machine m) : m Bool := do
  machine.complain question
  return isYes (← machine.input)

/-- The configuration that an invocation uses. -/
def config (machine : Machine m) (invocation : Invocation) : ExceptT CommandError m Config :=
  (Config.load machine.disk machine.platform.places invocation.config
    machine.platform.environment).adapt fun _ => .configuration

/-- The start of a session with a configuration. The user is not asked if there was an agreement in
advance. -/
def start (machine : Machine m) (config : Config) (agreed : Bool) :
    ExceptT CommandError m (Initialization m) :=
  let host : LocalHost := ⟨config.internalPath, config.volumes⟩
  (Resolver.start (host.operations machine.disk)
    (SettingsFile.operations machine.disk config.settingsPath) config.quota
    (config.zone.zone machine.platform.offset?)
    (if agreed then pure true else machine.ask)).adapt fun _ => .preparation

/-- Runs an invocation; the answer is the lines to write, or nothing if the user does not want
pictures to be moved. -/
def run (machine : Machine m) (invocation : Invocation) :
    ExceptT CommandError m (Option (List String)) := do
  let config ← machine.config invocation
  match ← machine.start config invocation.agreed with
  | .declined => return none
  | .ready resolver =>
    let library : Library m :=
      ⟨resolver, machine.codec, config.thumbnailWidth, machine.clock, machine.disk⟩
    ExceptT.mk do
      let (result, _) ← ((invocation.command.execute library).run).run {}
      return result.map some

def aboutText : String :=
  "Picture library manager for camera captures across internal and external storage\n"

/-- How the program is used. -/
def helpText : String :=
  aboutText ++ "
Usage: shutter [OPTIONS] <COMMAND>

Commands:
  list                      List pictures, oldest first
  save <FILE> [--video]     Add a picture from a file
  delete <NAME>             Delete a picture and its thumbnail
  export <NAME> <TARGET>    Copy a picture out of the library
  check                     Drop pictures removed by others from the end of the list
  url <NAME> [--thumbnail]  Print a URL the picture (or its thumbnail) can be viewed from
  help                      Print this help

Options:
  -c, --config <CONFIG>  Configuration file [env: SHUTTER_CONFIG]
  -y, --yes              Agree to moving pictures to external storage without asking
  -h, --help             Print this help
  -V, --version          Print the version
"

/-- The program's name and version. -/
def versionText : String := "shutter 0.1.0-beta\n"

/-- An error as it is reported. -/
def errorText (message : String) : String := "error: " ++ message ++ "\n"

/-- Gives a reply; the answer is the exit status. -/
def reply (machine : Machine m) : Reply → m UInt8
  | .help => do
    machine.say helpText
    return 0
  | .version => do
    machine.say versionText
    return 0
  | .guidance => do
    machine.complain helpText
    return 2
  | .refusal e => do
    machine.complain (errorText e.message ++ "\nFor more information, try '--help'.\n")
    return 2

/-- Does what the arguments ask for; the answer is the exit status. -/
def serve (machine : Machine m) (arguments : List String) : m UInt8 := do
  match Invocation.ofArguments arguments (machine.platform.environment.lookup "SHUTTER_CONFIG") with
  | .error r => machine.reply r
  | .ok invocation =>
    match ← (machine.run invocation).run with
    | .error e =>
      machine.complain (errorText e.message)
      return 1
    | .ok none =>
      machine.complain declinedText
      return 2
    | .ok (some lines) =>
      machine.say (String.join (lines.map (· ++ "\n")))
      return 0

end Machine

end CameraRoll.CommandLine
