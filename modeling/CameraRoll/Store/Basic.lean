import CameraRoll.Store.Error

/-!
Flat stores of named files. A store is a record of its operations in some monad; files have no
directories, and there is no renaming. A valid name cannot address anything but one file of the
store.
-/

namespace CameraRoll

/-- Name and size of a stored file. -/
structure FileInfo where
  name : String
  size : Nat
  deriving DecidableEq, Repr

/-- A character that no name may hold. -/
def isSeparator (c : Char) : Bool := c == '/' || c == '\\' || c == '\x00'

/-- A name that addresses one file of a store: not empty, no dots alone, no separator. -/
def isValidName (name : String) : Bool :=
  name != "" && name != "." && name != ".." && !name.toList.any isSeparator

/-- The name itself, if it is valid. -/
def validateName (name : String) : Except StoreError String :=
  if isValidName name then .ok name else .error (.invalidName name)

/-- The operations of a store. -/
structure Store (m : Type → Type) where
  name : String
  /-- All files. -/
  list : ExceptT StoreError m (List FileInfo)
  /-- Whether a file exists. -/
  contains : String → ExceptT StoreError m Bool
  read : String → ExceptT StoreError m ByteArray
  /-- Stores a file, in place of the one of that name. -/
  write : String → ByteArray → ExceptT StoreError m Unit
  /-- Stores a file only if none has that name. -/
  create : String → ByteArray → ExceptT StoreError m FileInfo
  delete : String → ExceptT StoreError m Unit
  stat : String → ExceptT StoreError m FileInfo
  /-- A URL that addresses the file in place, if the store has such. -/
  nativeUrl : String → Option String

end CameraRoll
