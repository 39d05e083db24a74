import CameraRoll.Proofs.Store.Held
import CameraRoll.Resolver.Migration
import Mathlib.Logic.Function.Iterate

/-!
Facts about the world that no call of a store breaks, and so no operation of a resolver. Main
statements: `keeps_save` for facts that depend on the names of stored files, and `keeps_migrate`
for all others.
-/

namespace CameraRoll

open CameraRoll.Naming

variable {W : Type} {I : W → Prop} {names : String → Prop}

/-- No call of a store breaks a fact about the world as long as files are stored under certain names
only, and a created file has such a name, too. -/
structure Store.Respects (store : Store (StateM W)) (I : W → Prop) (names : String → Prop) :
    Prop where
  list : Keeps I store.list
  contains : ∀ name, Keeps I (store.contains name)
  read : ∀ name, Keeps I (store.read name)
  write : ∀ name content, names name → Keeps I (store.write name content)
  create : ∀ name content, names name → Keeps I (store.create name content)
  created : ∀ name content w info after, names name → I w →
    outcome (store.create name content) w = (.ok info, after) → names info.name
  delete : ∀ name, Keeps I (store.delete name)
  stat : ∀ name, Keeps I (store.stat name)

/-- A store in memory breaks nothing that does not depend on its part of the world. -/
theorem MemoryStore.operations_respects (part : Part W MemoryStore)
    (apart : ∀ changed w, I w → I (part.set changed w)) (label : String) (url : Option String) :
    (operations part label url).Respects I fun _ => True where
  list _ h := apart _ _ h
  contains _ _ h := apart _ _ h
  read _ _ h := apart _ _ h
  write _ _ _ _ h := apart _ _ h
  create _ _ _ _ h := apart _ _ h
  created _ _ _ _ _ _ _ _ := trivial
  delete _ _ h := apart _ _ h
  stat _ _ h := apart _ _ h

variable {store : Store (StateM W)}

/-- A store that holds its files breaks nothing that outlives the storing of files under such names
and the erasing of files. -/
theorem Store.Holds.respects {part : Part W MemoryStore} (holds : store.Holds part)
    (regular : ∀ w, I w → (part.get w).Regular)
    (stored : ∀ w name content, I w → names name → isValidName name = true →
      I (part.set ((part.get w).put name content) w))
    (erased : ∀ w name, I w → I (part.set ((part.get w).erase name) w)) :
    store.Respects I names where
  list := holds.keeps_list regular
  contains := holds.keeps_contains regular
  read := holds.keeps_read regular
  write name content named := holds.keeps_write regular fun w h valid =>
    stored w name content h named valid
  create name content named w h := by
    rcases holds.create w name content (regular w h) with ⟨e, failed⟩ | ⟨valid, -, done⟩
    · rw [failed]
      exact h
    · rw [done]
      exact stored w name content h named valid
  created name content w info after named h created := by
    rcases holds.create w name content (regular w h) with ⟨e, failed⟩ | ⟨valid, -, done⟩
    · cases created.symm.trans failed
    · cases created.symm.trans done
      exact named
  delete name := holds.keeps_delete regular fun w h => erased w name h
  stat := holds.keeps_stat regular

theorem Store.Respects.ensureFits (kept : store.Respects I names) (quota : Nat) (name : String)
    (size : Nat) : Keeps I (Quota.ensureFits store quota name size) := by
  refine kept.list.bind fun files => ?_
  split
  · exact Keeps.throw _
  · exact Keeps.pure _

theorem Store.Respects.withQuota (kept : store.Respects I names) (quota : Nat) :
    (store.withQuota quota).Respects I names where
  list := kept.list
  contains := kept.contains
  read := kept.read
  delete := kept.delete
  stat := kept.stat
  write name content named := (kept.ensureFits quota name content.size).bind fun _ =>
    kept.write name content named
  create name content named := (kept.ensureFits quota name content.size).bind fun _ =>
    kept.create name content named
  created name content w info after named h done := by
    have fits := kept.ensureFits quota name content.size w h
    simp only [Store.withQuota, outcome_bind] at done
    split at done
    next between reached =>
      rw [reached] at fits
      exact kept.created name content between info after named fits done
    · cases (Prod.mk.inj done).1

namespace Resolver

variable {resolver : Resolver (StateM W)} {location : Location}

/-- A search for a free name among such names breaks nothing, and finds one of them. -/
theorem keeps_createFree (kept : store.Respects I names) (name : String) (attempts : Nat)
    {candidate : String} (named : ∀ n, names (nextName^[n] candidate)) {w : W} (h : I w) :
    I (outcome (createFree store name attempts candidate) w).2 ∧
      ∀ info, (outcome (createFree store name attempts candidate) w).1 = .ok info →
        names info.name := by
  -- refused attempts may change the world, so the induction is for every world
  induction attempts generalizing candidate w with
  | zero => exact ⟨h, fun _ found => by cases found⟩
  | succ attempts ih =>
    have made := kept.created candidate .empty w
    have quiet := kept.create candidate .empty (named 0) w h
    rw [createFree, outcome_bind, outcome_liftM, run_run]
    dsimp only
    cases tried : outcome (store.create candidate .empty) w with
    | mk answer after =>
      rw [tried] at quiet
      cases answer with
      | ok info =>
        refine ⟨quiet, fun found same => ?_⟩
        obtain rfl : info = found := Except.ok.inj same
        exact made info after (named 0) h tried
      | error e =>
        cases e with
        | alreadyExists other => exact ih (fun n => named (n + 1)) quiet
        | _ => exact ⟨quiet, fun _ found => by cases found⟩

theorem keeps_fill (kept : store.Respects I names) {name : String} (named : names name)
    (content : ByteArray) : Keeps I (fill store name content) := by
  refine Keeps.bind (Keeps.liftM fun w h => kept.write name content named w h) fun answer => ?_
  split
  · exact Keeps.pure _
  · exact ((kept.delete name).attempt).bind fun _ => Keeps.throw _

theorem keeps_require {α : Type} {next : Store (StateM W) → ExceptT ResolverError (StateM W) α}
    (kept : ∀ store, resolver.store? location = some store → Keeps I (next store)) :
    Keeps I (resolver.require location >>= next) := by
  unfold require
  split
  next store here =>
    rw [pure_bind]
    exact kept store here
  · exact fun _ h => h

/-- No call of a resolver's stores breaks a fact about the world as long as files are stored in
each location under certain names only. -/
def Respects (resolver : Resolver (StateM W)) (I : W → Prop) (names : Location → String → Prop) :
    Prop :=
  ∀ location store, resolver.store? location = some store → store.Respects I (names location)

variable {names : Location → String → Prop} (kept : resolver.Respects I names)
include kept

/-- Storing a file under a name that stays of its kind when it is counted on. -/
theorem keeps_save {name : String} (named : ∀ n, names location (nextName^[n] name))
    (content : ByteArray) : Keeps I (resolver.save location name content) := by
  refine keeps_require fun store here => ?_
  intro w h
  obtain ⟨quiet, found⟩ := keeps_createFree (kept _ store here) name nameCount named h
  rw [outcome_bind]
  cases created : outcome (createFree store name nameCount name) w with
  | mk answer between =>
    rw [created] at quiet found
    cases answer with
    | error e => exact quiet
    | ok free =>
      have filling := keeps_fill (kept _ store here) (found free rfl) content
      exact (filling.bind fun _ => (((kept _ store here).stat free.name).adapt _).bind fun _ =>
        Keeps.pure _) between quiet

theorem keeps_enumerate (location : Location) :
    Keeps I (resolver.enumerate location) := by
  unfold enumerate
  split
  · exact Keeps.pure _
  next store here => exact ((kept _ store here).list.adapt _).bind fun _ => Keeps.pure _

theorem keeps_read (file : StoredFile) : Keeps I (resolver.read file) :=
  keeps_require fun store here => ((kept _ store here).read file.name).adapt _

theorem keeps_remove (file : StoredFile) : Keeps I (resolver.remove file) :=
  keeps_require fun store here => ((kept _ store here).delete file.name).adapt _

theorem keeps_contains (file : StoredFile) : Keeps I (resolver.contains file) := by
  unfold contains
  split
  next store here => exact ((kept _ store here).contains file.name).adapt _
  · exact Keeps.pure _

omit kept

/-- Copying a file out breaks nothing that reading it and writing elsewhere does not break. -/
theorem keeps_copying {disk : Disk (StateM W)} {file : StoredFile}
    (reads : Keeps I (resolver.read file)) (inspect : ∀ path, Keeps I (disk.inspect path))
    (write : ∀ path content, Keeps I (disk.write path content)) (target : String) :
    Keeps I (resolver.copyOut disk file target) := by
  refine (reads.adapt _).bind fun content => ?_
  refine Keeps.bind (Keeps.liftM fun w h => ?_) fun _ => (write _ content).adapt _
  have looked := inspect target w h
  rw [Disk.isDirectory, StateT.run_bind, run_run]
  generalize outcome (disk.inspect target) w = seen at looked ⊢
  rcases seen with ⟨e | standing, after⟩
  · exact looked
  · cases standing <;> exact looked

/-! ### Moving pictures -/

variable (free : resolver.Respects I fun _ _ => True)
include free

theorem keeps_relocating (file : StoredFile) (name : String) :
    Keeps I (resolver.relocate file name) := by
  refine keeps_require fun store here => ?_
  have kept := free _ store here
  refine ((kept.read file.name).adapt _).bind fun content => ?_
  refine ((kept.write name content trivial).adapt _).bind fun _ => ?_
  refine ((kept.delete file.name).adapt _).bind fun _ => ?_
  exact ((kept.stat name).adapt _).bind fun _ => Keeps.pure _

theorem keeps_migratePicture (thumbnails : List StoredFile) (picture : StoredFile) :
    Keeps I (resolver.migratePicture thumbnails picture) := by
  refine ((keeps_read free picture).adapt _).bind fun content => ?_
  refine ((keeps_save free (fun _ => trivial) content).adapt _).bind fun copied => ?_
  refine Keeps.bind ?_ fun _ => (keeps_remove free picture).attempt
  unfold followThumbnail
  split
  · split
    · exact Keeps.pure _
    · exact (keeps_relocating free _ _).attempt
  · exact Keeps.pure _

/-- Moving all pictures breaks nothing that does not depend on the stores. -/
theorem keeps_migrate : Keeps I resolver.migrate := by
  have all (thumbnails files : List StoredFile) :
      Keeps I (resolver.migrateAll thumbnails files) := by
    induction files with
    | nil => exact Keeps.pure _
    | cons picture rest ih => exact (keeps_migratePicture free thumbnails picture).bind fun _ => ih
  exact ((keeps_enumerate free .internal).adapt _).bind fun files => all _ _

end Resolver

end CameraRoll
