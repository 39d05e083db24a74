import CameraRoll.Proofs.Outcome
import CameraRoll.Store.Basic

/-!
Requests to a store, one after another, with the answers to them, and all else that a store can be
asked (`Store.Operation`).
-/

namespace CameraRoll

variable {W : Type}

/-- A call of a store that can fail, with what is passed to it. -/
inductive Store.Request where
  | list
  | contains (name : String)
  | read (name : String)
  | write (name : String) (content : ByteArray)
  | create (name : String) (content : ByteArray)
  | delete (name : String)
  | stat (name : String)

namespace Store

/-- The name that a request is about. -/
def Request.name? : Request → Option String
  | .list => none
  | .contains name | .read name | .write name _ | .create name _ | .delete name | .stat name =>
    some name

/-- What a request asks to be stored, and under which name. -/
def Request.stores? : Request → Option (String × ByteArray)
  | .write name content | .create name content => some (name, content)
  | _ => none

/-- What a store can answer. -/
inductive Answer where
  | files (files : List FileInfo)
  | flag (value : Bool)
  | content (content : ByteArray)
  | done
  | info (info : FileInfo)

/-- Passes a request to a store. -/
def request {m : Type → Type} [Monad m] (store : Store m) : Request → ExceptT StoreError m Answer
  | .list => return .files (← store.list)
  | .contains name => return .flag (← store.contains name)
  | .read name => return .content (← store.read name)
  | .write name content => do
    store.write name content
    return .done
  | .create name content => return .info (← store.create name content)
  | .delete name => do
    store.delete name
    return .done
  | .stat name => return .info (← store.stat name)

section Outcomes

variable (store : Store (StateM W)) (name : String) (content : ByteArray) (w : W)

theorem outcome_request_list : outcome (store.request .list) w =
    ((outcome store.list w).1.map .files, (outcome store.list w).2) :=
  outcome_bind_pure _ _ w

theorem outcome_request_contains : outcome (store.request (.contains name)) w =
    ((outcome (store.contains name) w).1.map .flag, (outcome (store.contains name) w).2) :=
  outcome_bind_pure _ _ w

theorem outcome_request_read : outcome (store.request (.read name)) w =
    ((outcome (store.read name) w).1.map .content, (outcome (store.read name) w).2) :=
  outcome_bind_pure _ _ w

theorem outcome_request_write : outcome (store.request (.write name content)) w =
    ((outcome (store.write name content) w).1.map fun _ => .done,
      (outcome (store.write name content) w).2) :=
  outcome_bind_pure _ (fun _ => Answer.done) w

theorem outcome_request_create : outcome (store.request (.create name content)) w =
    ((outcome (store.create name content) w).1.map .info,
      (outcome (store.create name content) w).2) :=
  outcome_bind_pure _ _ w

theorem outcome_request_delete : outcome (store.request (.delete name)) w =
    ((outcome (store.delete name) w).1.map fun _ => .done, (outcome (store.delete name) w).2) :=
  outcome_bind_pure _ (fun _ => Answer.done) w

theorem outcome_request_stat : outcome (store.request (.stat name)) w =
    ((outcome (store.stat name) w).1.map .info, (outcome (store.stat name) w).2) :=
  outcome_bind_pure _ _ w

end Outcomes

/-- The answers to requests that are passed on one after another. -/
def answers (store : Store (StateM W)) : List Request → W → List (Except StoreError Answer) :=
  answersTo store.request

/-- The world after requests that were passed on one after another. -/
def after (store : Store (StateM W)) : List Request → W → W := worldAfter store.request

/-- All that can be asked of a store: a request, the URL of a file, or what the store is called. -/
inductive Operation where
  | request (asked : Request)
  | url (name : String)
  | label

/-- What an operation asks to be stored, and under which name. -/
def Operation.stores? : Operation → Option (String × ByteArray)
  | .request asked => asked.stores?
  | .url _ | .label => none

/-- What comes of an operation. -/
inductive Reply where
  | answer (answer : Answer)
  | url (url : Option String)
  | label (name : String)

/-- Asks a store. Only requests can fail. -/
def perform {m : Type → Type} [Monad m] (store : Store m) : Operation → ExceptT StoreError m Reply
  | .request asked => return .answer (← store.request asked)
  | .url name => return .url (store.nativeUrl name)
  | .label => return .label store.name

section Outcomes

variable (store : Store (StateM W)) (w : W)

theorem outcome_perform_request (asked : Request) : outcome (store.perform (.request asked)) w =
    ((outcome (store.request asked) w).1.map .answer, (outcome (store.request asked) w).2) :=
  outcome_bind_pure _ _ w

theorem outcome_perform_url (name : String) :
    outcome (store.perform (.url name)) w = (.ok (.url (store.nativeUrl name)), w) := rfl

theorem outcome_perform_label :
    outcome (store.perform .label) w = (.ok (.label store.name), w) := rfl

end Outcomes

end Store

end CameraRoll
