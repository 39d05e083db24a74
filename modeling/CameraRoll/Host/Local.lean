import CameraRoll.Host.Basic
import CameraRoll.Store.Directory
import CameraRoll.Store.Quota

/-!
A host made of directories of one disk.
-/

namespace CameraRoll

/-- The directory of the private store, and the declared volumes in order, each with its
directory. -/
structure LocalHost where
  internalPath : String
  volumes : List (String × String)
  deriving DecidableEq, Repr

namespace LocalHost

/-- The directory of a volume: of declarations with the same identifier the last one counts. -/
def directory? (host : LocalHost) (volume : String) : Option String :=
  host.volumes.reverse.lookup volume

variable {m : Type → Type} [Monad m]

/-- The operations of the host on a disk. -/
def operations (host : LocalHost) (disk : Disk m) : Host m where
  internalStore quota := do
    return (← DirectoryStore.make disk "internal" host.internalPath).withQuota quota
  volumes := return some (host.volumes.map (·.1))
  openVolume volume subdirectory :=
    match host.directory? volume with
    | none => return none
    | some root =>
      let path := match subdirectory with
        | some directory => Path.join root directory
        | none => root
      DirectoryStore.openExisting disk volume path

end LocalHost

end CameraRoll
