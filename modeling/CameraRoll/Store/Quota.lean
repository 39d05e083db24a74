import CameraRoll.Store.Basic
import CameraRoll.Text.Numeral

/-!
Stores with a quota: a file is stored only if it fits beside all other files. What is used is
counted anew each time, so files put there by others count too. Sizes are numbers of 64 bits: their
sum wraps around, and a sum that must not is cut off at the largest number.
-/

namespace CameraRoll

namespace Quota

/-- Bytes of all these files, counted in 64 bits. -/
def total (files : List FileInfo) : Nat :=
  files.foldr (fun file total => (file.size + total) % (Text.maxWord64 + 1)) 0

/-- Bytes used by all files of a store but the one called `name`. -/
def usedBeside (name : String) (files : List FileInfo) : Nat :=
  total (files.filter (·.name ≠ name))

/-- Why a file of this size must not be stored, if it must not. -/
def refusal? (quota : Nat) (name : String) (requested : Nat) (files : List FileInfo) :
    Option StoreError :=
  let used := usedBeside name files
  if quota < min (used + requested) Text.maxWord64 then
    some (.quotaExceeded name quota used requested)
  else none

variable {m : Type → Type} [Monad m]

/-- Bytes used by all files of a store. -/
def usage (store : Store m) : ExceptT StoreError m Nat := return total (← store.list)

/-- Fails if a file of this size would not fit. -/
def ensureFits (store : Store m) (quota : Nat) (name : String) (requested : Nat) :
    ExceptT StoreError m Unit := do
  match refusal? quota name requested (← store.list) with
  | some e => throw e
  | none => pure ()

end Quota

/-- The store with a quota on the total size of its files. -/
def Store.withQuota {m : Type → Type} [Monad m] (store : Store m) (quota : Nat) : Store m :=
  { store with
    write := fun name content => do
      Quota.ensureFits store quota name content.size
      store.write name content
    create := fun name content => do
      Quota.ensureFits store quota name content.size
      store.create name content }

end CameraRoll
