import CameraRoll.Proofs.Disk.Growth
import CameraRoll.Proofs.Store.Directory
import CameraRoll.Store.Quota

/-!
A store in a directory in which anything may stand: files of others, directories and links, under
names of any kind. Main statements: `DirectoryStore.operations_liesIn`, what its calls do there,
`DirectoryStore.make_cases`, that its directory is open once it was made, and
`Store.LiesIn.withQuota`, by which a quota changes nothing about it.
-/

namespace CameraRoll

/-- A name that an entry can have. -/
structure IsEntryName (name : String) : Prop where
  valid : isValidName name = true
  short : name.utf8ByteSize ≤ EntryName.maxLength

namespace FileTree

variable {tree : FileTree} {root path name : String} {place location : TreeLocation}

/-- The entry of a directory that a name belongs to. -/
def entryAt (place : TreeLocation) (name : String) : TreeLocation :=
  place ++ [EntryName.ofText name]

theorem entryAt_ne_nil (place : TreeLocation) (name : String) : entryAt place name ≠ [] := by
  simp [entryAt]

theorem entryAt_inj {other : TreeLocation} {name' : String}
    (same : entryAt place name = entryAt other name') : place = other ∧ name = name' := by
  obtain ⟨sameplace, sameName⟩ := List.append_inj' same rfl
  exact ⟨sameplace, EntryName.ofText_injective (List.singleton_inj.mp sameName)⟩

namespace Opens

theorem locate_entry (opens : tree.Opens root place) (fits : IsEntryName name) {follow : Bool}
    (plain : follow = true → ∀ target, tree.at? (entryAt place name) ≠ some (.link target)) :
    tree.locate follow (Path.join root name) = .ok (entryAt place name) := by
  have short := fits.short
  rw [opens.leads.locate_join opens.nonempty (isName_of_isValidName fits.valid) plain,
    if_neg (by omega), entryAt]

/-- A directory in an open one is open. -/
theorem entry (opens : tree.Opens root place) (fits : IsEntryName name)
    (standing : tree.at? (entryAt place name) = some .directory) :
    tree.Opens (Path.join root name) (entryAt place name) :=
  ⟨opens.locate_entry fits (by simp [standing]), standing⟩

theorem locate_long (opens : tree.Opens root place) (valid : isValidName name = true)
    (long : EntryName.maxLength < name.utf8ByteSize) {follow : Bool}
    (plain : follow = true → ∀ target, tree.at? (entryAt place name) ≠ some (.link target)) :
    tree.locate follow (Path.join root name) = .error (.other "file name too long") := by
  rw [opens.leads.locate_join opens.nonempty (isName_of_isValidName valid) plain, if_pos long]

end Opens

end FileTree

open FileTree

variable {W : Type} {part : Part W FileTree} {root name : String} {place : TreeLocation} {w : W}

/-- What the calls of a store do in a directory. A name that no entry can have is refused, and a
created file can be filled and taken back. -/
structure Store.LiesIn (store : Store (StateM W)) (part : Part W FileTree) (root : String) :
    Prop where
  list : ∀ w place, (part.get w).Opens root place → outcome store.list w =
    (.ok ((DirectoryStore.filesIn (part.get w) place).map fun file => ⟨file.1, file.2.size⟩), w)
  read : ∀ w name, (outcome (store.read name) w).2 = w
  contains : ∀ w place name content, (part.get w).Opens root place →
    (part.get w).at? (entryAt place name) = some (.file content) →
    (∃ e, outcome (store.contains name) w = (.error e, w)) ∨
      outcome (store.contains name) w = (.ok true, w)
  create : ∀ w place name content, (part.get w).Opens root place →
    (∃ e, outcome (store.create name content) w = (.error e, w) ∧
      ((∃ other, e = .alreadyExists other) → (part.get w).at? (entryAt place name) ≠ none)) ∨
    IsEntryName name ∧ (part.get w).at? (entryAt place name) = none ∧
      outcome (store.create name content) w = (.ok ⟨name, content.size⟩,
        part.set ((part.get w).put (entryAt place name) (.file content)) w)
  write : ∀ w place name content old, (part.get w).Opens root place → IsEntryName name →
    (part.get w).at? (entryAt place name) = some (.file old) →
    (∃ e, outcome (store.write name content) w = (.error e, w)) ∨
      outcome (store.write name content) w = (.ok (),
        part.set ((part.get w).put (entryAt place name) (.file content)) w)
  delete : ∀ w place name old, (part.get w).Opens root place →
    (part.get w).at? (entryAt place name) = some (.file old) →
    (∃ e, outcome (store.delete name) w = (.error e, w) ∧ ¬ IsEntryName name) ∨
      outcome (store.delete name) w =
        (.ok (), part.set ((part.get w).erase (entryAt place name)) w)
  stat : ∀ w place name content, (part.get w).Opens root place → IsEntryName name →
    (part.get w).at? (entryAt place name) = some (.file content) →
    outcome (store.stat name) w = (.ok ⟨name, content.size⟩, w)

namespace DirectoryStore

/-- A valid name is that of an entry, or too long for one. -/
theorem fits_or_long (valid : isValidName name = true) :
    IsEntryName name ∨ EntryName.maxLength < name.utf8ByteSize :=
  (Nat.lt_or_ge EntryName.maxLength name.utf8ByteSize).symm.imp_left fun short => ⟨valid, short⟩

theorem noLink_of_file {tree : FileTree} {location : TreeLocation} {content : ByteArray}
    (standing : tree.at? location = some (.file content)) (target : String) :
    tree.at? location ≠ some (.link target) := by simp [standing]

theorem operations_liesIn (part : Part W FileTree) (label root : String) :
    (operations (FileTree.disk part) label root).LiesIn part root where
  list w place opens := outcome_list_at opens.located opens.directory label
  read w name := read_quiet part label root name w
  contains w place name content opens standing := by
    cases valid : isValidName name with
    | false =>
      refine Or.inl ⟨.invalidName name, ?_⟩
      simp only [operations, contains]
      rw [if_neg (by simp [valid])]
      rfl
    | true =>
      rcases fits_or_long valid with fits | long
      · refine Or.inr ?_
        simp only [operations, contains]
        rw [if_pos valid, outcome_bind, outcome_liftM, run_run]
        simp only [disk, outcome_look]
        rw [inspect_of_locate (opens.locate_entry fits fun _ => noLink_of_file standing), standing]
        rfl
      · exact Or.inl ⟨_, outcome_contains_lost valid label
          (opens.locate_long valid long fun _ => noLink_of_file standing)⟩
  create w place name content opens := by
    cases valid : isValidName name with
    | false =>
      refine Or.inl ⟨.invalidName name, ?_, ?_⟩
      · simp only [operations]
        rw [outcome_bind, outcome_onFile_of_invalid valid]
      · rintro ⟨other, same⟩
        cases same
    | true =>
      rcases fits_or_long valid with fits | long
      · rw [outcome_create_at valid (opens.locate_entry fits (by simp)) label content]
        cases standing : (part.get w).at? (entryAt place name) with
        | none => exact Or.inr ⟨fits, rfl, rfl⟩
        | some node => exact Or.inl ⟨_, rfl, fun _ => Option.some_ne_none node⟩
      -- a name that is too long is refused, but not as one that is taken
      · refine Or.inl ⟨_, outcome_create_lost valid label (opens.locate_long valid long (by simp))
          content, ?_⟩
        rintro ⟨other, same⟩
        cases same
  write w place name content old opens fits standing := by
    rw [outcome_write_at fits.valid (opens.locate_entry fits fun _ => noLink_of_file standing)
      label content, standing]
    exact Or.inr rfl
  delete w place name old opens standing := by
    cases valid : isValidName name with
    | false =>
      refine Or.inl ⟨.invalidName name, outcome_onFile_of_invalid valid _, fun fits => ?_⟩
      cases valid.symm.trans fits.valid
    | true =>
      rcases fits_or_long valid with fits | long
      · rw [outcome_delete_at valid (opens.locate_entry fits (by simp)) label, standing]
        exact Or.inr rfl
      · exact Or.inl ⟨_, outcome_delete_lost valid label (opens.locate_long valid long (by simp)),
          fun fits => absurd fits.short (Nat.not_le_of_lt long)⟩
  stat w place name content opens fits standing := by
    rw [outcome_stat_at fits.valid (opens.locate_entry fits fun _ => noLink_of_file standing) label,
      standing]

/-- Where a store is asked for, its directory is open afterwards or there is no store. -/
theorem make_cases (rooted : (part.get w).Rooted) (absolute : Path.isAbsolute root = true)
    (nonempty : root ≠ "") (label : String) :
    (∃ e, outcome (make (FileTree.disk part) label root) w =
      (.error e, part.set ((part.get w).withDirectory root) w)) ∨
    (∃ place, ((part.get w).withDirectory root).Opens root place) ∧
      outcome (make (FileTree.disk part) label root) w =
        (.ok (operations (FileTree.disk part) label root),
          part.set ((part.get w).withDirectory root) w) := by
  rw [make, absolute]
  simp only [Bool.not_true, Bool.false_eq_true, if_false]
  rw [outcome_bind, outcome_liftM, run_isPresent]
  unfold withDirectory
  cases inspected : (part.get w).inspect root with
  -- what is there already is not made again, but it has to be a directory
  | ok standing =>
    dsimp only
    rw [if_pos rfl, outcome_bind, outcome_liftM, run_isDirectory, part.set_get]
    cases directory : (part.get w).isDirectory root with
    | false => exact Or.inl ⟨_, rfl⟩
    | true => exact Or.inr ⟨Opens.of_isDirectory directory, rfl⟩
  | error e =>
    have made : outcome ((FileTree.disk part).makeDirectories root) w =
        (((part.get w).makeDirectories root).1,
          part.set ((part.get w).makeDirectories root).2 w) := rfl
    dsimp only
    rw [if_neg (by simp), outcome_bind, outcome_adapt, made]
    rcases ran : (part.get w).makeDirectories root with ⟨answer, other⟩
    cases answer with
    | error e => exact Or.inl ⟨_, rfl⟩
    | ok done => exact Or.inr ⟨(rooted.opens_of_makeDirectories nonempty ran).2, rfl⟩

end DirectoryStore

namespace Store.LiesIn

variable {store : Store (StateM W)}

private theorem ensureFits_cases (lies : store.LiesIn part root) (quota : Nat) (name : String)
    (size : Nat) (opens : (part.get w).Opens root place) :
    (∃ e, (∀ other, e ≠ .alreadyExists other) ∧
      outcome (Quota.ensureFits store quota name size) w = (.error e, w)) ∨
    outcome (Quota.ensureFits store quota name size) w = (.ok (), w) := by
  unfold Quota.ensureFits
  rw [outcome_bind_ok (lies.list w place opens)]
  split
  next e refused =>
    refine Or.inl ⟨e, fun other same => ?_, rfl⟩
    subst same
    simp only [Quota.refusal?] at refused
    split at refused <;> cases refused
  · exact Or.inr rfl

/-- A store with a quota lies where the store below does. -/
theorem withQuota (lies : store.LiesIn part root) (quota : Nat) :
    (store.withQuota quota).LiesIn part root where
  list := lies.list
  read := lies.read
  contains := lies.contains
  delete := lies.delete
  stat := lies.stat
  create w place name content opens := by
    simp only [Store.withQuota]
    rcases ensureFits_cases lies quota name content.size opens with ⟨e, apart, refused⟩ | fits
    · refine Or.inl ⟨e, outcome_bind_error refused _, ?_⟩
      rintro ⟨other, same⟩
      exact absurd same (apart other)
    · rw [outcome_bind_ok fits]
      exact lies.create w place name content opens
  write w place name content old opens entry standing := by
    simp only [Store.withQuota]
    rcases ensureFits_cases lies quota name content.size opens with ⟨e, -, refused⟩ | fits
    · exact Or.inl ⟨e, outcome_bind_error refused _⟩
    · rw [outcome_bind_ok fits]
      exact lies.write w place name content old opens entry standing

end Store.LiesIn

end CameraRoll
