import CameraRoll.Naming.Kind
import CameraRoll.Proofs.Keyed
import CameraRoll.Store.Memory
import Mathlib.Data.List.Nodup

/-!
The files of a store in memory: what storing and erasing one file does to every other, and to the
pictures among them. Main statements: `Regular.put` and `Regular.erase`, by which a store stays as
it was made, `erase_put` and `put_put`, by which a file that was created empty can be taken back or
filled, and the equations for `pictures`.
-/

namespace CameraRoll

def Naming.isThumbnailName (name : String) : Bool := (Naming.kindOf name).isThumbnail

namespace MemoryStore

/-- What a store in memory is from its making on: names are told apart and valid, and only the
calls that store a file can be made to fail. -/
structure Regular (store : MemoryStore) : Prop where
  distinct : (store.files.map (·.1)).Nodup
  valid : ∀ file ∈ store.files, isValidName file.1 = true
  faults : ∀ fault ∈ store.faults, fault.call = .write ∨ fault.call = .create

def contents (store : MemoryStore) : List ByteArray := store.files.map (·.2)

/-- The files that are no thumbnails. -/
def pictures (store : MemoryStore) : List (String × ByteArray) :=
  store.files.filter fun file => !Naming.isThumbnailName file.1

/-! ### Looking for a file -/

theorem mem_of_find? {store : MemoryStore} {name : String} {content : ByteArray}
    (found : store.find? name = some content) : (name, content) ∈ store.files :=
  mem_of_lookup found

theorem find?_of_mem {store : MemoryStore} (distinct : (store.files.map (·.1)).Nodup)
    {file : String × ByteArray} (member : file ∈ store.files) :
    store.find? file.1 = some file.2 :=
  lookup_of_mem distinct member

theorem files_put (store : MemoryStore) (name : String) (content : ByteArray) :
    (store.put name content).files = putKeyed store.files name content := by
  unfold put putKeyed find?
  split <;> rfl

/-- After a file was stored it is found, and every other file is as before. -/
theorem find?_put (store : MemoryStore) (name other : String) (content : ByteArray) :
    (store.put name content).find? other =
      if other = name then some content else store.find? other := by
  simp only [find?, files_put, lookup_putKeyed]

@[simp] theorem find?_put_self (store : MemoryStore) (name : String) (content : ByteArray) :
    (store.put name content).find? name = some content := by
  simp [find?_put]

theorem find?_erase (store : MemoryStore) (name other : String) :
    (store.erase name).find? other = if other = name then none else store.find? other :=
  lookup_filter store.files name other

/-! ### Storing and erasing -/

@[simp] theorem put_faults (store : MemoryStore) (name : String) (content : ByteArray) :
    (store.put name content).faults = store.faults := by
  unfold put
  split <;> rfl

@[simp] theorem erase_faults (store : MemoryStore) (name : String) :
    (store.erase name).faults = store.faults := rfl

theorem put_of_free {store : MemoryStore} {name : String} (free : store.find? name = none)
    (content : ByteArray) :
    store.put name content = { store with files := store.files ++ [(name, content)] } := by
  simp [put, free]

/-- A file that was created can be taken back. -/
theorem erase_put {store : MemoryStore} {name : String} (free : store.find? name = none)
    (content : ByteArray) : (store.put name content).erase name = store := by
  rw [erase, files_put, filter_putKeyed free]
  exact congrArg (MemoryStore.mk store.files) (put_faults _ _ _)

/-- A file that was created can be filled. -/
theorem put_put {store : MemoryStore} {name : String} (free : store.find? name = none)
    (first content : ByteArray) :
    (store.put name first).put name content = store.put name content := by
  have same : ∀ changed : MemoryStore, changed.files = (store.put name content).files →
      changed.faults = (store.put name content).faults → changed = store.put name content := by
    rintro ⟨files, faults⟩ rfl rfl
    rfl
  refine same _ ?_ ?_
  · rw [files_put, files_put, files_put, putKeyed_putKeyed free]
  · rw [put_faults, put_faults, put_faults]

/-- A file that is not there can be erased without a change. -/
theorem erase_of_free {store : MemoryStore} {name : String} (free : store.find? name = none) :
    store.erase name = store := by
  have others := (lookup_eq_none_iff_ne _ _).mp free
  refine congrArg (MemoryStore.mk · store.faults) (List.filter_eq_self.mpr fun file member => ?_)
  exact decide_eq_true (others file member)

theorem regular_empty : Regular {} := ⟨List.nodup_nil, by simp, by simp⟩

/-- A store stays as it was made when a file with a valid name is stored. -/
theorem Regular.put {store : MemoryStore} (regular : store.Regular) {name : String}
    (valid : isValidName name = true) (content : ByteArray) : (store.put name content).Regular where
  distinct := by
    rw [files_put]
    exact nodup_putKeyed regular.distinct name content
  valid := by
    intro file member
    rw [files_put] at member
    rcases mem_putKeyed member with rfl | old
    · exact valid
    · exact regular.valid file old
  faults := by simpa using regular.faults

/-- A store stays as it was made when some of its files are left out. -/
theorem Regular.filter {store : MemoryStore} (regular : store.Regular)
    (keep : String × ByteArray → Bool) : { store with files := store.files.filter keep }.Regular where
  distinct := regular.distinct.sublist (List.filter_sublist.map _)
  valid file member := regular.valid file (List.mem_filter.mp member).1
  faults := regular.faults

theorem Regular.erase {store : MemoryStore} (regular : store.Regular) (name : String) :
    (store.erase name).Regular := regular.filter _

theorem regular_ofFiles {files : List (String × ByteArray)} {store : MemoryStore}
    (made : ofFiles files = .ok store) : store.Regular := by
  unfold ofFiles at made
  split at made
  · cases made
  next accepted =>
    have valid : ∀ file ∈ files, isValidName file.1 = true := by
      simpa using accepted
    cases made
    exact List.foldlRecOn files _ regular_empty fun store regular file member =>
      regular.put (valid file member) file.2

theorem faults_ofFiles {files : List (String × ByteArray)} {store : MemoryStore}
    (made : ofFiles files = .ok store) : store.faults = [] := by
  unfold ofFiles at made
  split at made
  · cases made
  · cases made
    refine List.foldlRecOn (motive := fun store : MemoryStore => store.faults = []) files _ rfl ?_
    intro store clear file _
    rw [put_faults, clear]

/-- A store stays as it was made when writes of a name are made to fail. -/
theorem Regular.failWritesTo {store : MemoryStore} (regular : store.Regular) (name : String) :
    (store.failWritesTo name).Regular where
  distinct := regular.distinct
  valid := regular.valid
  faults := by
    intro fault member
    simp only [MemoryStore.failWritesTo, addFault, List.mem_cons] at member
    rcases member with rfl | rfl | old
    · exact Or.inr rfl
    · exact Or.inl rfl
    · exact regular.faults fault old

/-! ### Pictures -/

/-- Storing a thumbnail leaves the pictures alone. -/
theorem pictures_put {store : MemoryStore} {name : String}
    (thumbnail : Naming.isThumbnailName name = true) (content : ByteArray) :
    (store.put name content).pictures = store.pictures := by
  unfold put pictures
  split
  -- the entry that is replaced is none of the pictures
  · rw [List.filter_map, List.filter_congr (q := fun file => !Naming.isThumbnailName file.1)]
    · refine (List.map_congr_left fun file member => if_neg ?_).trans (List.map_id _)
      rintro rfl
      simp [thumbnail] at member
    · intro file _
      by_cases here : file.1 = name <;> simp [here, thumbnail]
  · simp [thumbnail]

theorem pictures_erase (store : MemoryStore) (name : String) :
    (store.erase name).pictures = store.pictures.filter fun file => file.1 ≠ name := by
  simp only [erase, pictures, List.filter_filter]
  exact List.filter_congr fun file _ => Bool.and_comm _ _

theorem pictures_erase_thumbnail (store : MemoryStore) {name : String}
    (thumbnail : Naming.isThumbnailName name = true) :
    (store.erase name).pictures = store.pictures := by
  rw [pictures_erase, List.filter_eq_self]
  rintro file member
  rw [decide_eq_true_eq]
  rintro rfl
  simp [pictures, thumbnail] at member

theorem mem_pictures {store : MemoryStore} {file : String × ByteArray} :
    file ∈ store.pictures ↔ file ∈ store.files ∧ Naming.isThumbnailName file.1 = false := by
  simp [pictures]

theorem Regular.distinct_pictures {store : MemoryStore} (regular : store.Regular) :
    (store.pictures.map (·.1)).Nodup :=
  regular.distinct.sublist (List.filter_sublist.map _)

/-- A picture and the other pictures are all pictures. -/
theorem Regular.perm_pictures {store : MemoryStore} (regular : store.Regular)
    {file : String × ByteArray} (member : file ∈ store.pictures) :
    store.pictures.Perm (file :: store.pictures.filter fun other => other.1 ≠ file.1) := by
  have once : store.pictures.Nodup := .of_map _ regular.distinct_pictures
  refine (List.perm_ext_iff_of_nodup once ?_).mpr fun other => ?_
  · exact List.nodup_cons.mpr ⟨by simp, once.filter _⟩
  · rw [List.mem_cons, List.mem_filter]
    constructor
    · intro present
      by_cases same : other.1 = file.1
      -- there is only one file of a name
      · have found := find?_of_mem regular.distinct (mem_pictures.mp present).1
        rw [same, find?_of_mem regular.distinct (mem_pictures.mp member).1] at found
        exact Or.inl (Prod.ext same (Option.some.inj found).symm)
      · exact Or.inr ⟨present, decide_eq_true same⟩
    · rintro (rfl | ⟨present, -⟩)
      · exact member
      · exact present

end MemoryStore

end CameraRoll
