import CameraRoll.Settings.Basic
import CameraRoll.Part

/-!
Settings in memory. Reading and writing of single keys can be made to fail.
-/

namespace CameraRoll

/-- Flags by key, the latest first, and the keys whose reading or writing fails. -/
structure MemorySettings where
  values : List (String × Bool) := []
  failingReads : List String := []
  failingWrites : List String := []
  deriving DecidableEq, Repr

namespace MemorySettings

/-- The flag under a key. -/
def value? (settings : MemorySettings) (key : String) : Option Bool := settings.values.lookup key

/-- The settings with a flag. -/
def put (settings : MemorySettings) (key : String) (value : Bool) : MemorySettings :=
  { settings with values := (key, value) :: settings.values.filter (·.1 ≠ key) }

/-- Settings with these flags, later ones in place of earlier ones. -/
def ofValues (values : List (String × Bool)) : MemorySettings :=
  values.foldl (fun settings entry => settings.put entry.1 entry.2) {}

/-- Reading `key` fails from now on. -/
def failReadsOf (settings : MemorySettings) (key : String) : MemorySettings :=
  { settings with failingReads := key :: settings.failingReads }

def get (key : String) (default : Bool) : ExceptT SettingsError (StateM MemorySettings) Bool :=
  ExceptT.mk fun settings =>
    if key ∈ settings.failingReads then (.error .unreadable, settings)
    else (.ok ((settings.value? key).getD default), settings)

def set (key : String) (value : Bool) : ExceptT SettingsError (StateM MemorySettings) Unit :=
  ExceptT.mk fun settings =>
    if key ∈ settings.failingWrites then (.error .unwritable, settings)
    else (.ok (), settings.put key value)

/-- The operations of the settings that are a part of a world. -/
def operations {W : Type} (part : Part W MemorySettings) : Settings (StateM W) where
  get key default := ExceptT.mk (part.run (get key default).run)
  set key value := ExceptT.mk (part.run (set key value).run)

/-- A flag that was put is found. -/
theorem value?_put_self (settings : MemorySettings) (key : String) (value : Bool) :
    (settings.put key value).value? key = some value := by
  simp [put, value?]

end MemorySettings

end CameraRoll
