import CameraRoll.CommandLine.Run
import CameraRoll.Media.StillCodec
import Std.Time.DateTime.Timestamp
import Std.Time.Zoned.Database

/-!
The program: the command line on the real disk, clock and terminal.
-/

namespace CameraRoll.Main

open CameraRoll.Calendar

/-- A failure of the system as the disk's own. -/
def diskError : IO.Error → DiskError
  | .noFileOrDirectory .. => .notFound
  | .permissionDenied .. => .permissionDenied
  | .alreadyExists .. => .alreadyExists
  | e => .other (toString e)

/-- A step that can fail. -/
def attempt {α : Type} (act : IO α) : ExceptT DiskError IO α :=
  ExceptT.mk do
    try return .ok (← act)
    catch e => return .error (diskError e)

/-- An entry of a directory. -/
def entryOf (entry : IO.FS.DirEntry) : IO DiskEntry := do
  let info ← entry.path.symlinkMetadata
  let size := match info.type with
    | .file => some info.byteSize.toNat
    | _ => none
  return ⟨some entry.fileName, size⟩

/-- The disk of the system. -/
def disk : Disk IO where
  inspect path := attempt do
    let info ← (← IO.FS.realPath path).metadata
    return match info.type with
      | .dir => .directory
      | _ => .file info.byteSize.toNat
  list path := attempt do
    let entries ← (← IO.FS.realPath path).readDir
    return (← entries.mapM entryOf).toList
  read path := attempt (IO.FS.readBinFile path)
  write path content := attempt (IO.FS.writeBinFile path content)
  create path content := attempt do
    let handle ← IO.FS.Handle.mk path .writeNew
    handle.write content
  remove path := attempt (IO.FS.removeFile path)
  rename source target := attempt (IO.FS.rename source target)
  makeDirectories path := attempt (IO.FS.createDirAll path)

def clock : IO Instant := do
  return ⟨(← Std.Time.Timestamp.now).toNanosecondsSinceUnixEpoch.val⟩

/-- The next line of the user's input; one that is no text counts as empty. -/
def input : IO ByteArray := do
  try return (← (← IO.getStdin).getLine).toUTF8
  catch _ => return ByteArray.empty

/-- Writes a text at once. -/
def write (stream : IO.FS.Stream) (text : String) : IO Unit := do
  stream.putStr text
  stream.flush

/-- Variables written down as names and values with zeros behind them. -/
def variablesOf (text : String) : List (String × String) :=
  ((text.splitOn "\x00").filter (!·.isEmpty)).map fun entry =>
    let (name, value) := CommandLine.splitAtEquals entry.toList
    (name, value.getD "")

/-- The variables of the environment. -/
def environment : IO (List (String × String)) := do
  try
    let bytes ← IO.FS.readBinFile "/proc/self/environ"
    return variablesOf ((String.fromUTF8? bytes).getD "")
  catch _ => return []

/-- The offsets of the system's zone, where its rules can be found. -/
def offset? : IO (Instant → Option Int) := do
  try
    let rules ← Std.Time.Database.defaultGetLocalZoneRules
    return fun instant =>
      let time := Std.Time.Timestamp.ofNanosecondsSinceUnixEpoch ⟨instant.nanos⟩
      some (rules.findLocalTimeTypeForTimestamp time).gmtOffset.second.val
  catch _ => return fun _ => none

/-- What the system tells. -/
def platform : IO CommandLine.Platform := do
  return { CommandLine.Platform.ofEnvironment (← environment) with offset? := ← offset? }

/-- The system as a machine. -/
def machine (platform : CommandLine.Platform) : IO (CommandLine.Machine IO) := do
  let out ← IO.getStdout
  let err ← IO.getStderr
  return {
    disk, clock, input, platform
    say := write out
    complain := write err
    codec := stillCodec }

end CameraRoll.Main

def main (arguments : List String) : IO UInt32 := do
  let machine ← CameraRoll.Main.machine (← CameraRoll.Main.platform)
  return (← machine.serve arguments).toUInt32
