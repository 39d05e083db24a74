import CameraRoll.Store.Basic
import CameraRoll.Part

/-!
Stores in memory. They list their files in the order in which these were first stored, and calls
can be made to fail, for everyone who wants to see what happens then.
-/

namespace CameraRoll

/-- The calls of a store. -/
inductive StoreCall where
  | list
  | contains
  | read
  | write
  | create
  | delete
  | stat
  deriving DecidableEq, Repr

/-- A failure put in the way of a call, for one name or, without `target`, for every name. -/
structure Fault where
  call : StoreCall
  target : Option String
  error : String → StoreError

/-- Files in the order in which they were first stored, and the failures in the way. -/
structure MemoryStore where
  files : List (String × ByteArray) := []
  faults : List Fault := []

namespace MemoryStore

/-- The content of a file. -/
def find? (store : MemoryStore) (name : String) : Option ByteArray := store.files.lookup name

/-- The store with a file: in its place if one of that name is there, else at the end. -/
def put (store : MemoryStore) (name : String) (content : ByteArray) : MemoryStore :=
  if (store.find? name).isSome then
    { store with files := store.files.map fun file =>
        if file.1 = name then (name, content) else file }
  else { store with files := store.files ++ [(name, content)] }

/-- The store without a file. -/
def erase (store : MemoryStore) (name : String) : MemoryStore :=
  { store with files := store.files.filter fun file => file.1 ≠ name }

/-- A store with these files, later ones in place of earlier ones of the same name; the first
invalid name among them otherwise. -/
def ofFiles (files : List (String × ByteArray)) : Except String MemoryStore :=
  match files.find? fun file => !isValidName file.1 with
  | some file => .error file.1
  | none => .ok (files.foldl (fun store file => store.put file.1 file.2) {})

def names (store : MemoryStore) : List String :=
  (store.files.map (·.1)).mergeSort fun a b => !(b < a)

/-- Puts a failure in the way. -/
def addFault (store : MemoryStore) (fault : Fault) : MemoryStore :=
  { store with faults := fault :: store.faults }

/-- Every write or creation of `name` fails from now on. -/
def failWritesTo (store : MemoryStore) (name : String) : MemoryStore :=
  let error := fun name => StoreError.backend ("injected write failure for " ++ name)
  (store.addFault ⟨.write, some name, error⟩).addFault ⟨.create, some name, error⟩

/-- The failure in the way of a call; one for the name itself goes before one for every name. -/
def failure? (store : MemoryStore) (call : StoreCall) (name : String) : Option StoreError :=
  let fault :=
    (store.faults.find? fun fault => fault.call = call && fault.target == some name).or
      (store.faults.find? fun fault => fault.call = call && fault.target == none)
  fault.map (·.error name)

/-- The checks before every call that takes a name: the name is valid and no failure is in the
way. -/
def check (store : MemoryStore) (call : StoreCall) (name : String) : Except StoreError Unit :=
  if !isValidName name then .error (.invalidName name)
  else match store.failure? call name with
    | some e => .error e
    | none => .ok ()

/-- A call as an answer together with the store afterwards. -/
abbrev Call (α : Type) := ExceptT StoreError (StateM MemoryStore) α

/-- A call that lets the checks pass and then answers; the store stays as it is on an error. -/
def call {α : Type} (kind : StoreCall) (name : String)
    (work : MemoryStore → Except StoreError (α × MemoryStore)) : Call α :=
  ExceptT.mk fun store =>
    match store.check kind name with
    | .error e => (.error e, store)
    | .ok () =>
      match work store with
      | .error e => (.error e, store)
      | .ok (a, changed) => (.ok a, changed)

/-- Lists all files in their order. -/
def listCall : Call (List FileInfo) :=
  ExceptT.mk fun store =>
    match store.failure? .list "" with
    | some e => (.error e, store)
    | none => (.ok (store.files.map fun file => ⟨file.1, file.2.size⟩), store)

def containsCall (name : String) : Call Bool :=
  call .contains name fun store => .ok ((store.find? name).isSome, store)

def readCall (name : String) : Call ByteArray :=
  call .read name fun store =>
    match store.find? name with
    | some content => .ok (content, store)
    | none => .error (.notFound name)

/-- Stores a file, over the one that has its name. -/
def writeCall (name : String) (content : ByteArray) : Call Unit :=
  call .write name fun store => .ok ((), store.put name content)

/-- Stores a file under a name that is still free. -/
def createCall (name : String) (content : ByteArray) : Call FileInfo :=
  call .create name fun store =>
    match store.find? name with
    | some _ => .error (.alreadyExists name)
    | none => .ok (⟨name, content.size⟩, store.put name content)

def deleteCall (name : String) : Call Unit :=
  call .delete name fun store =>
    match store.find? name with
    | some _ => .ok ((), store.erase name)
    | none => .error (.notFound name)

/-- Looks at the size of a file. -/
def statCall (name : String) : Call FileInfo :=
  call .stat name fun store =>
    match store.find? name with
    | some content => .ok (⟨name, content.size⟩, store)
    | none => .error (.notFound name)

/-- The operations of the store that is a part of a world. `url` is what URLs of its files start
with, if it has any. -/
def operations {W : Type} (part : Part W MemoryStore) (name : String)
    (url : Option String := none) : Store (StateM W) where
  name := name
  list := ExceptT.mk (part.run listCall.run)
  contains name := ExceptT.mk (part.run (containsCall name).run)
  read name := ExceptT.mk (part.run (readCall name).run)
  write name content := ExceptT.mk (part.run (writeCall name content).run)
  create name content := ExceptT.mk (part.run (createCall name content).run)
  delete name := ExceptT.mk (part.run (deleteCall name).run)
  stat name := ExceptT.mk (part.run (statCall name).run)
  nativeUrl name := url.map (· ++ name)

end MemoryStore

end CameraRoll
