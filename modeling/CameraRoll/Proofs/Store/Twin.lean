import CameraRoll.Proofs.Store.Directory
import CameraRoll.Proofs.Store.Held

/-!
A directory and a store in memory that hold the same files cannot be told apart by requests: both
stay twins with every request and answer alike. Main statements: `Twin.request` for one request and
`DirectoryStore.answers_like_memory` for any number of them.
-/

namespace CameraRoll

open Store

variable {W V : Type}

/-- Answers that say the same: the files of a list come in any order. -/
def Store.Answer.Same : Except StoreError Answer → Except StoreError Answer → Prop
  | .ok (.files listed), .ok (.files others) => listed.Perm others
  | answer, other => answer = other

theorem Store.Answer.Same.refl (answer : Except StoreError Answer) : Same answer answer := by
  unfold Same
  split
  next listed others => exact List.Perm.refl _
  · rfl

/-- A directory holds the files of a store in memory, and nothing else. -/
structure Twin (tree : FileTree) (root : String) (place : TreeLocation) (memory : MemoryStore) :
    Prop where
  houses : tree.Houses root place
  regular : memory.Regular
  clear : memory.faults = []
  same : ∀ entry : EntryName,
    tree.at? (place ++ [entry]) = (entry.text?.bind memory.find?).map Node.file

namespace Twin

variable {tree : FileTree} {root : String} {place : TreeLocation} {memory : MemoryStore}

theorem standing (twin : Twin tree root place memory) (name : String) :
    tree.at? (place ++ [EntryName.ofText name]) = (memory.find? name).map Node.file := by
  rw [twin.same, EntryName.text?_ofText, Option.bind_some]

theorem noDirectory (twin : Twin tree root place memory) (name : String) :
    tree.at? (place ++ [EntryName.ofText name]) ≠ some .directory := by
  rw [twin.standing]
  cases memory.find? name <;> simp

theorem perm (twin : Twin tree root place memory) :
    (DirectoryStore.filesIn tree place).Perm memory.files := by
  refine perm_of_lookup (DirectoryStore.nodup_filesIn twin.houses.distinct place)
    twin.regular.distinct fun name => ?_
  rw [DirectoryStore.lookup_filesIn twin.houses.distinct, twin.standing]
  change _ = memory.find? name
  cases memory.find? name <;> rfl

theorem put (twin : Twin tree root place memory) {name : String} (valid : isValidName name = true)
    (content : ByteArray) :
    Twin (tree.put (place ++ [EntryName.ofText name]) (.file content)) root place
      (memory.put name content) where
  houses := twin.houses.put (twin.noDirectory name) content
  regular := twin.regular.put valid content
  clear := by rw [MemoryStore.put_faults, twin.clear]
  same entry := by
    rw [FileTree.at?_put _ (by simp)]
    by_cases here : entry = EntryName.ofText name
    · simp [here, EntryName.text?_ofText]
    · rw [if_neg (by simpa using here), twin.same]
      cases read : entry.text? with
      | none => rfl
      | some other => simp [MemoryStore.find?_put, EntryName.ne_of_text? here read]

theorem erase (twin : Twin tree root place memory) (name : String) :
    Twin (tree.erase (place ++ [EntryName.ofText name])) root place (memory.erase name) where
  houses := twin.houses.erase (twin.noDirectory name)
  regular := twin.regular.erase name
  clear := by rw [MemoryStore.erase_faults, twin.clear]
  same entry := by
    rw [FileTree.at?_erase _ (by simp)]
    by_cases here : entry = EntryName.ofText name
    · simp [here, EntryName.text?_ofText, MemoryStore.find?_erase]
    · rw [if_neg (by simpa using here), twin.same]
      cases read : entry.text? with
      | none => rfl
      | some other => simp [MemoryStore.find?_erase, EntryName.ne_of_text? here read]

end Twin

/-! ### The calls of a store in memory without failures in the way -/

namespace MemoryStore

variable {α : Type} {kind : StoreCall} {name : String} {part : Part V MemoryStore} {v : V}

/-- A call as the store sees it. -/
theorem outcome_call_clear (clear : (part.get v).faults = []) (valid : isValidName name = true)
    (work : MemoryStore → Except StoreError (α × MemoryStore)) :
    outcome (ExceptT.mk (part.run (call kind name work).run)) v =
      match work (part.get v) with
      | .error e => (.error e, v)
      | .ok (a, changed) => (.ok a, part.set changed v) := by
  rw [outcome_part]
  cases done : work (part.get v) with
  | error e => rw [outcome_call_error (check_eq_ok_of_clear clear valid) done, part.set_get]
  | ok answered => rw [outcome_call_ok (check_eq_ok_of_clear clear valid) done]

theorem outcome_call_invalid (invalid : isValidName name = false)
    (work : MemoryStore → Except StoreError (α × MemoryStore)) :
    outcome (ExceptT.mk (part.run (call kind name work).run)) v =
      (.error (.invalidName name), v) := by
  rw [outcome_part, outcome_call_refused (e := .invalidName name) (by simp [check, invalid]),
    part.set_get]

end MemoryStore

/-! ### Twins answer alike -/

variable {part : Part W FileTree} {memoryPart : Part V MemoryStore} {root name : String}
  {place : TreeLocation} {w : W} {v : V} {asked : Request}

theorem DirectoryStore.request_of_invalid (label : String) (named : asked.name? = some name)
    (invalid : isValidName name = false) :
    outcome ((DirectoryStore.operations (FileTree.disk part) label root).request asked) w =
      (.error (.invalidName name), w) := by
  have refused {α : Type} (act : String → ExceptT DiskError (StateM W) α) :
      outcome (onFile root name act) w = (.error (.invalidName name), w) :=
    outcome_onFile_of_invalid invalid act
  cases asked with
  | list => cases named
  | contains file =>
    cases named
    rw [outcome_request_contains]
    simp only [DirectoryStore.operations, DirectoryStore.contains, invalid]
    rfl
  | read file =>
    cases named
    rw [outcome_request_read]
    simp only [DirectoryStore.operations, refused]
    rfl
  | write file content =>
    cases named
    rw [outcome_request_write]
    simp only [DirectoryStore.operations, refused]
    rfl
  | create file content =>
    cases named
    rw [outcome_request_create]
    simp only [DirectoryStore.operations, outcome_bind, refused]
    rfl
  | delete file =>
    cases named
    rw [outcome_request_delete]
    simp only [DirectoryStore.operations, refused]
    rfl
  | stat file =>
    cases named
    rw [outcome_request_stat]
    simp only [DirectoryStore.operations, DirectoryStore.stat, outcome_bind, refused]
    rfl

theorem MemoryStore.request_of_invalid (label : String) (url : Option String)
    (named : asked.name? = some name) (invalid : isValidName name = false) :
    outcome ((MemoryStore.operations memoryPart label url).request asked) v =
      (.error (.invalidName name), v) := by
  have refused {α : Type} (kind : StoreCall)
      (work : MemoryStore → Except StoreError (α × MemoryStore)) :
      outcome (ExceptT.mk (memoryPart.run (call kind name work).run)) v =
        (.error (.invalidName name), v) := outcome_call_invalid invalid work
  cases asked with
  | list => cases named
  | contains file | read file | write file content | create file content | delete file
  | stat file =>
    cases named
    simp only [outcome_request_contains, outcome_request_read, outcome_request_write,
      outcome_request_create, outcome_request_delete, outcome_request_stat, operations,
      containsCall, readCall, writeCall, createCall, deleteCall, statCall, refused]
    rfl

theorem Twin.request (twin : Twin (part.get w) root place (memoryPart.get v)) (label : String)
    (name : String) (url : Option String)
    (short : ∀ name, asked.name? = some name → name.utf8ByteSize ≤ EntryName.maxLength) :
    Answer.Same
      (outcome ((DirectoryStore.operations (FileTree.disk part) label root).request asked) w).1
      (outcome ((MemoryStore.operations memoryPart name url).request asked) v).1 ∧
    Twin
      (part.get (outcome
        ((DirectoryStore.operations (FileTree.disk part) label root).request asked) w).2) root place
      (memoryPart.get
        (outcome ((MemoryStore.operations memoryPart name url).request asked) v).2) := by
  -- an invalid name is refused by both
  by_cases refused : ∃ file, asked.name? = some file ∧ isValidName file = false
  · obtain ⟨file, named, invalid⟩ := refused
    rw [DirectoryStore.request_of_invalid label named invalid,
      MemoryStore.request_of_invalid name url named invalid]
    exact ⟨.refl _, twin⟩
  -- all others are about a file that both have or both do not have
  have valid {file : String} (named : asked.name? = some file) : isValidName file = true := by
    simpa using fun invalid => refused ⟨file, named, invalid⟩
  have kept : Twin (part.get w) root place
      (memoryPart.get (memoryPart.set (memoryPart.get v) v)) := by
    rwa [memoryPart.set_get]
  have stored {file : String} (named : asked.name? = some file) (content : ByteArray) :
      Twin (part.get (part.set ((part.get w).put (place ++ [EntryName.ofText file])
        (.file content)) w)) root place
        (memoryPart.get (memoryPart.set ((memoryPart.get v).put file content) v)) := by
    rw [part.get_set, memoryPart.get_set]
    exact twin.put (valid named) content
  have erased (file : String) :
      Twin (part.get (part.set ((part.get w).erase (place ++ [EntryName.ofText file])) w)) root
        place (memoryPart.get (memoryPart.set ((memoryPart.get v).erase file) v)) := by
    rw [part.get_set, memoryPart.get_set]
    exact twin.erase file
  cases asked with
  | list =>
    rw [outcome_request_list, outcome_request_list, DirectoryStore.outcome_list twin.houses,
      (MemoryStore.operations_holds memoryPart name url).list v twin.regular]
    refine ⟨?_, twin⟩
    exact twin.perm.map _
  | contains file =>
    rw [outcome_request_contains, outcome_request_contains,
      DirectoryStore.outcome_contains twin.houses (valid rfl) (short file rfl), twin.standing]
    simp only [MemoryStore.operations, MemoryStore.containsCall]
    rw [MemoryStore.outcome_call_clear twin.clear (valid rfl), Option.isSome_map]
    exact ⟨.refl _, kept⟩
  | read file =>
    rw [outcome_request_read, outcome_request_read,
      DirectoryStore.outcome_read twin.houses (valid rfl) (short file rfl), twin.standing]
    simp only [MemoryStore.operations, MemoryStore.readCall]
    rw [MemoryStore.outcome_call_clear twin.clear (valid rfl)]
    cases (memoryPart.get v).find? file with
    | none => exact ⟨.refl _, twin⟩
    | some content => exact ⟨.refl _, kept⟩
  | write file content =>
    rw [outcome_request_write, outcome_request_write,
      DirectoryStore.outcome_write twin.houses (valid rfl) (short file rfl), twin.standing]
    simp only [MemoryStore.operations, MemoryStore.writeCall]
    rw [MemoryStore.outcome_call_clear twin.clear (valid rfl)]
    cases (memoryPart.get v).find? file with
    | none => exact ⟨.refl _, stored rfl content⟩
    | some old => exact ⟨.refl _, stored rfl content⟩
  | create file content =>
    rw [outcome_request_create, outcome_request_create,
      DirectoryStore.outcome_create twin.houses (valid rfl) (short file rfl), twin.standing]
    simp only [MemoryStore.operations, MemoryStore.createCall]
    rw [MemoryStore.outcome_call_clear twin.clear (valid rfl)]
    cases (memoryPart.get v).find? file with
    | none => exact ⟨.refl _, stored rfl content⟩
    | some old => exact ⟨.refl _, twin⟩
  | delete file =>
    rw [outcome_request_delete, outcome_request_delete,
      DirectoryStore.outcome_delete twin.houses (valid rfl) (short file rfl), twin.standing]
    simp only [MemoryStore.operations, MemoryStore.deleteCall]
    rw [MemoryStore.outcome_call_clear twin.clear (valid rfl)]
    cases (memoryPart.get v).find? file with
    | none => exact ⟨.refl _, twin⟩
    | some old => exact ⟨.refl _, erased file⟩
  | stat file =>
    rw [outcome_request_stat, outcome_request_stat,
      DirectoryStore.outcome_stat twin.houses (valid rfl) (short file rfl), twin.standing]
    simp only [MemoryStore.operations, MemoryStore.statCall]
    rw [MemoryStore.outcome_call_clear twin.clear (valid rfl)]
    cases (memoryPart.get v).find? file with
    | none => exact ⟨.refl _, twin⟩
    | some content => exact ⟨.refl _, kept⟩

/-- Twins answer alike to requests that are passed on one after another. -/
theorem Twin.answers (twin : Twin (part.get w) root place (memoryPart.get v)) (label name : String)
    (url : Option String) (requests : List Request)
    (short : ∀ asked ∈ requests, ∀ file, asked.name? = some file →
      file.utf8ByteSize ≤ EntryName.maxLength) :
    List.Forall₂ Answer.Same
      ((DirectoryStore.operations (FileTree.disk part) label root).answers requests w)
      ((MemoryStore.operations memoryPart name url).answers requests v) := by
  induction requests generalizing w v with
  | nil => exact .nil
  | cons asked rest ih =>
    obtain ⟨alike, still⟩ := twin.request label name url (short asked List.mem_cons_self)
    exact .cons alike (ih still fun other member => short other (List.mem_cons_of_mem _ member))

/-- A store in a directory that exists and the store in memory that is made of the same files give
the same answers to all requests, as long as the names in them fit into a directory. -/
theorem DirectoryStore.answers_like_memory {files : List (String × ByteArray)}
    (absolute : Path.isAbsolute root = true) (houses : (part.get w).Houses root place)
    (made : MemoryStore.ofFiles files = .ok (memoryPart.get v))
    (same : ∀ entry : EntryName, (part.get w).at? (place ++ [entry]) =
      (entry.text?.bind (memoryPart.get v).find?).map Node.file)
    (label name : String) (url : Option String) (requests : List Request)
    (short : ∀ asked ∈ requests, ∀ file, asked.name? = some file →
      file.utf8ByteSize ≤ EntryName.maxLength) :
    ∃ store, outcome (DirectoryStore.make (FileTree.disk part) label root) w = (.ok store, w) ∧
      List.Forall₂ Answer.Same (store.answers requests w)
        ((MemoryStore.operations memoryPart name url).answers requests v) := by
  have twin : Twin (part.get w) root place (memoryPart.get v) := {
    houses := houses
    regular := MemoryStore.regular_ofFiles made
    clear := MemoryStore.faults_ofFiles made
    same := same }
  exact ⟨_, DirectoryStore.outcome_make houses absolute label,
    twin.answers label name url requests short⟩

/-- A picture is replaced, another one deleted, and a name leads out of the directory. -/
theorem DirectoryStore.answers_like_memory_camera :
    let requests := [.write "a.jpg" "new".toUTF8, .create "b.jpg" "".toUTF8, .list,
      .read "../secret", .delete "b.jpg", .stat "b.jpg"]
    ∃ store, outcome (DirectoryStore.make (FileTree.disk (Part.whole FileTree)) "local" "/camera")
        cameraTree = (.ok store, cameraTree) ∧
      List.Forall₂ Answer.Same (store.answers requests cameraTree)
        ((MemoryStore.operations (Part.whole MemoryStore) "mock").answers requests
          { files := [("a.jpg", "old".toUTF8)] }) := by
  refine DirectoryStore.answers_like_memory (by decide) cameraTree_houses
    (show MemoryStore.ofFiles [("a.jpg", "old".toUTF8)] = .ok _ from rfl) (fun entry => ?_)
    "local" "mock" none _ ?_
  · refine (cameraTree_at? entry).trans ?_
    cases read : entry.text? with
    | none =>
      have other : entry ≠ EntryName.ofText "a.jpg" := by
        rintro rfl
        simp [EntryName.text?_ofText] at read
      simp [other]
    | some name =>
      obtain rfl := EntryName.eq_ofText_of_text? read
      simp [EntryName.ofText_injective.eq_iff, Part.whole, MemoryStore.find?, lookup_cons_ite,
        apply_ite (Option.map Node.file)]
  · intro asked member
    simp only [List.mem_cons, List.not_mem_nil, or_false] at member
    rcases member with rfl | rfl | rfl | rfl | rfl | rfl <;> rintro file ⟨⟩ <;> decide

end CameraRoll
