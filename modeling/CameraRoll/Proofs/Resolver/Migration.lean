import CameraRoll.Bench
import CameraRoll.Proofs.Naming.Derived
import CameraRoll.Proofs.Resolver.Save

/-!
Moving pictures between the stores of a bench. Main statements: `migratePicture_cases`, what the
move of one picture does to both stores, and `migrate_cases`, what the move of all of them does,
whether it gets to its end or not.
-/

namespace CameraRoll

open CameraRoll.Naming

namespace Bench

/-- Both stores of a bench are as stores in memory are made. -/
structure Regular (bench : Bench) : Prop where
  internal : bench.internal.Regular
  external : bench.external.Regular

/-- A resolver whose locations are the stores of the bench. -/
structure Serves (resolver : Resolver (StateM Bench)) : Prop where
  internal : resolver.internal.Holds internalPart
  external : ∀ store, resolver.external = some store → store.Holds externalPart

def withStores (bench : Bench) (internal external : MemoryStore) : Bench :=
  { bench with internal := internal, external := external }

/-- What is inside without being a thumbnail, and all that is outside. -/
def holdings (bench : Bench) : List ByteArray :=
  bench.internal.pictures.map (·.2) ++ bench.external.contents

/-- From one moment to another nothing was lost, doubled or changed: the same contents are held,
and every file that was outside is there as it was. -/
structure Conserves (before after : Bench) : Prop where
  holdings : after.holdings.Perm before.holdings
  external : ∀ name content, before.external.find? name = some content →
    after.external.find? name = some content

theorem Conserves.refl (bench : Bench) : Conserves bench bench := ⟨.refl _, fun _ _ h => h⟩

theorem Conserves.trans {first second third : Bench} (h : Conserves first second)
    (h' : Conserves second third) : Conserves first third where
  holdings := h'.holdings.trans h.holdings
  external name content found := h'.external name content (h.external name content found)

/-- A picture that stands outside under a free name and is gone inside is conserved. -/
theorem conserves_of_moved {bench : Bench} (regular : bench.Regular) {internal : MemoryStore}
    {name free : String} {content : ByteArray} (member : (name, content) ∈ bench.internal.pictures)
    (absent : bench.external.find? free = none)
    (left : internal.pictures = bench.internal.pictures.filter fun file => file.1 ≠ name) :
    Conserves bench (bench.withStores internal (bench.external.put free content)) where
  holdings := by
    have outside : (bench.external.put free content).contents =
        bench.external.contents ++ [content] := by
      simp [MemoryStore.contents, MemoryStore.put_of_free absent]
    have inside := (regular.internal.perm_pictures member).map (·.2)
    simp only [holdings, withStores, outside, left]
    -- the content goes from the front of what is inside to the end of what is outside
    refine List.Perm.trans ?_ (inside.symm.append_right _)
    rw [List.map_cons, List.cons_append, ← List.append_assoc]
    exact List.perm_append_singleton _ _
  external other old found := by
    have apart : other ≠ free := by
      rintro rfl
      rw [absent] at found
      cases found
    simp only [withStores, MemoryStore.find?_put, apart, if_false]
    exact found

end Bench

namespace Resolver

open Bench

variable {resolver : Resolver (StateM Bench)}

/-- A file inside is looked for in the store inside. -/
theorem require_inside (resolver : Resolver (StateM Bench)) {file : StoredFile}
    (inside : file.location = .internal) :
    resolver.require file.location = pure resolver.internal := by
  rw [inside]
  rfl

/-! ### Thumbnails -/

/-- The bench has changed inside only, and there by thumbnails only. -/
def OnlyThumbnailsMoved (before after : Bench) : Prop :=
  ∃ internal, after = { before with internal := internal } ∧ internal.Regular ∧
    internal.pictures = before.internal.pictures

/-- Giving a thumbnail the name of another one does nothing but that. -/
theorem keeps_relocate (serves : Serves resolver) (before : Bench) {thumbnail : StoredFile}
    (inside : thumbnail.location = .internal) (isThumbnail : isThumbnailName thumbnail.name = true)
    {target : String} (isTarget : isThumbnailName target = true) :
    Keeps (OnlyThumbnailsMoved before) (resolver.relocate thumbnail target) := by
  have regular : ∀ w, OnlyThumbnailsMoved before w → (internalPart.get w).Regular := by
    rintro w ⟨internal, rfl, regular, -⟩
    exact regular
  unfold relocate
  rw [require_inside resolver inside, pure_bind]
  -- reading, writing, deleting and looking, of which the middle two change the store
  refine Keeps.bind ((serves.internal.keeps_read regular _).adapt _) fun content => ?_
  refine Keeps.bind ((serves.internal.keeps_write regular ?_).adapt _) fun _ => ?_
  · rintro w ⟨internal, rfl, regular, same⟩ valid
    exact ⟨internal.put target content, rfl, regular.put valid content,
      (MemoryStore.pictures_put isTarget content).trans same⟩
  refine Keeps.bind ((serves.internal.keeps_delete regular ?_).adapt _) fun _ => ?_
  · rintro w ⟨internal, rfl, regular, same⟩
    exact ⟨internal.erase thumbnail.name, rfl, regular.erase _,
      (MemoryStore.pictures_erase_thumbnail internal isThumbnail).trans same⟩
  exact Keeps.bind ((serves.internal.keeps_stat regular _).adapt _) fun _ => Keeps.pure _

/-- A thumbnail that follows its picture changes nothing else. -/
theorem keeps_followThumbnail (serves : Serves resolver) (before : Bench)
    (picture copied : StoredFile) {thumbnail : Option StoredFile}
    (isThumbnail : ∀ file ∈ thumbnail, file.location = .internal ∧
      isThumbnailName file.name = true) :
    Keeps (OnlyThumbnailsMoved before) (resolver.followThumbnail picture copied thumbnail) := by
  unfold followThumbnail
  split
  next thumbnail =>
    obtain ⟨inside, named⟩ := isThumbnail thumbnail rfl
    split
    · exact Keeps.pure _
    · exact (keeps_relocate serves before inside named (isThumbnailName_thumbnailName _)).attempt
  · exact Keeps.pure _

private theorem followThumbnail_ok (w : Bench) (picture copied : StoredFile)
    (thumbnail : Option StoredFile) :
    (outcome (resolver.followThumbnail picture copied thumbnail) w).1 = .ok () := by
  unfold followThumbnail
  split
  · split <;> rfl
  · rfl

/-! ### One picture -/

theorem outcome_read (serves : Serves resolver) {w : Bench} (regular : w.Regular)
    {picture : StoredFile} (inside : picture.location = .internal) {content : ByteArray}
    (found : w.internal.find? picture.name = some content) :
    outcome (resolver.read picture) w = (.ok content, w) := by
  unfold Resolver.read
  rw [require_inside resolver inside, pure_bind]
  exact outcome_adapt_ok (serves.internal.read w _ content regular.internal found)
    ResolverError.storage

theorem outcome_remove (serves : Serves resolver) {w : Bench} (regular : w.Regular)
    {picture : StoredFile} (inside : picture.location = .internal) {content : ByteArray}
    (found : w.internal.find? picture.name = some content) :
    outcome (resolver.remove picture) w =
      (.ok (), { w with internal := w.internal.erase picture.name }) := by
  unfold remove
  rw [require_inside resolver inside, pure_bind]
  exact outcome_adapt_ok (serves.internal.delete w _ content regular.internal found)
    ResolverError.storage

section Run

variable {thumbnails : List StoredFile} {w : Bench} {picture : StoredFile} {content : ByteArray}
  (serves : Serves resolver) (regular : w.Regular) (inside : picture.location = .internal)
  (found : w.internal.find? picture.name = some content)
include serves regular inside found

private theorem outcome_opened :
    outcome (migrating (resolver.read picture)) w = (.ok content, w) :=
  outcome_adapt_ok (outcome_read serves regular inside found) ResolverError.migration

/-- A picture that cannot be stored outside stays where it is. -/
theorem migratePicture_of_unsaved {cause : ResolverError}
    (failed : outcome (resolver.save .external (regulateName picture.name resolver.zone) content)
      w = (.error cause, w)) :
    outcome (resolver.migratePicture thumbnails picture) w = (.error (.migration cause), w) := by
  rw [migratePicture, outcome_bind_ok (outcome_opened serves regular inside found)]
  exact outcome_bind_error (outcome_adapt_error failed ResolverError.migration) _

/-- A picture that was stored outside is gone inside as soon as its thumbnail has followed it. -/
theorem migratePicture_of_saved {copied : StoredFile} {between after : Bench}
    (saved : outcome (resolver.save .external (regulateName picture.name resolver.zone) content) w =
      (.ok copied, between))
    (followed : outcome (resolver.followThumbnail picture copied
      (thumbnails.find? (·.name = thumbnailName picture.name))) between = (.ok (), after))
    (regular' : after.Regular) (left : after.internal.find? picture.name = some content) :
    outcome (resolver.migratePicture thumbnails picture) w =
      (.ok (), { after with internal := after.internal.erase picture.name }) := by
  rw [migratePicture, outcome_bind_ok (outcome_opened serves regular inside found), migrating,
    outcome_bind_ok (outcome_adapt_ok saved ResolverError.migration), outcome_bind_ok followed,
    outcome_attempt, outcome_remove serves regular' inside left]

end Run

/-- Thumbnails inside, as they are listed. -/
def AreThumbnails (files : List StoredFile) : Prop :=
  ∀ file ∈ files, file.location = .internal ∧ isThumbnailName file.name = true

/-- The move of a picture fails only if it cannot be stored outside, and then nothing has changed.
Otherwise the picture stands outside under a free name and is gone inside, where nothing else has
changed but thumbnails. -/
theorem migratePicture_cases (serves : Serves resolver) {outside : Store (StateM Bench)}
    (here : resolver.external = some outside) {w : Bench} (regular : w.Regular)
    {thumbnails : List StoredFile} (areThumbnails : AreThumbnails thumbnails)
    {picture : StoredFile} (inside : picture.location = .internal) {content : ByteArray}
    (member : (picture.name, content) ∈ w.internal.pictures) :
    (∃ cause,
      outcome (resolver.save .external (regulateName picture.name resolver.zone) content) w =
        (.error cause, w) ∧
      outcome (resolver.migratePicture thumbnails picture) w = (.error (.migration cause), w)) ∨
    ∃ free internal, isValidName free = true ∧ w.external.find? free = none ∧
      internal.Regular ∧
      internal.pictures = (w.internal.pictures.filter fun file => file.1 ≠ picture.name) ∧
      outcome (resolver.migratePicture thumbnails picture) w =
        (.ok (), w.withStores internal (w.external.put free content)) := by
  have found : w.internal.find? picture.name = some content :=
    MemoryStore.find?_of_mem regular.internal.distinct (MemoryStore.mem_pictures.mp member).1
  have store : resolver.store? .external = some outside := here
  rcases save_cases (serves.external outside here) regular.external store
      (regulateName picture.name resolver.zone) content with
    ⟨cause, failed⟩ | ⟨n, valid, free, done⟩
  · exact Or.inl ⟨cause, failed, migratePicture_of_unsaved serves regular inside found failed⟩
  · let name := nextName^[n] (regulateName picture.name resolver.zone)
    let copied : StoredFile := ⟨.external, name, content.size⟩
    let thumbnail := thumbnails.find? (·.name = thumbnailName picture.name)
    let between : Bench := { w with external := w.external.put name content }
    have isThumbnail : ∀ file ∈ thumbnail, file.location = .internal ∧
        isThumbnailName file.name = true :=
      fun file found => areThumbnails file (List.mem_of_find?_eq_some found)
    -- the picture is still there after its thumbnail has followed, so that it can be removed
    obtain ⟨internal, moved, regular', same⟩ :=
      keeps_followThumbnail serves between picture copied isThumbnail between
        ⟨w.internal, rfl, regular.internal, rfl⟩
    have followed : outcome (resolver.followThumbnail picture copied thumbnail) between =
        (.ok (), { between with internal := internal }) :=
      Prod.ext (followThumbnail_ok between picture copied thumbnail) moved
    have left : internal.find? picture.name = some content :=
      MemoryStore.find?_of_mem regular'.distinct
        (MemoryStore.mem_pictures.mp (same.symm ▸ member)).1
    have regular'' : Bench.Regular { between with internal := internal } :=
      ⟨regular', regular.external.put valid content⟩
    refine Or.inr ⟨name, internal.erase picture.name, valid, free, regular'.erase _, ?_, ?_⟩
    · rw [MemoryStore.pictures_erase, same]
    · exact migratePicture_of_saved serves regular inside found done followed regular'' left

/-! ### All pictures -/

/-- Files inside that are no thumbnails, each once. -/
structure ArePictures (bench : Bench) (files : List StoredFile) : Prop where
  inside : ∀ file ∈ files, file.location = .internal
  present : ∀ file ∈ files, ∃ content, (file.name, content) ∈ bench.internal.pictures
  once : (files.map (·.name)).Nodup

/-- How moving pictures ends: nothing but the stores has changed, and everything is conserved. On
success these pictures are left inside; it fails only if one could not be stored outside. -/
structure Moves (resolver : Resolver (StateM Bench)) (before : Bench)
    (left : List (String × ByteArray)) (run : Except ResolverError Unit × Bench) : Prop where
  stores : run.2 = before.withStores run.2.internal run.2.external
  regular : run.2.Regular
  faults : run.2.external.faults = before.external.faults
  conserves : Conserves before run.2
  success : run.1 = .ok () → run.2.internal.pictures = left
  failure : ∀ e, run.1 = .error e → ∃ cause name content, e = .migration cause ∧
    isValidName name = true ∧
    outcome (resolver.save .external name content) run.2 = (.error cause, run.2)

theorem Moves.settings {before : Bench} {left : List (String × ByteArray)}
    {run : Except ResolverError Unit × Bench} (moves : Moves resolver before left run) :
    run.2.settings = before.settings := congrArg (·.settings) moves.stores

theorem Moves.prompts {before : Bench} {left : List (String × ByteArray)}
    {run : Except ResolverError Unit × Bench} (moves : Moves resolver before left run) :
    run.2.prompts = before.prompts := congrArg (·.prompts) moves.stores

/-- Moving pictures one after another leaves those inside that are not among them. -/
theorem migrateAll_moves (serves : Serves resolver) {outside : Store (StateM Bench)}
    (here : resolver.external = some outside) {thumbnails : List StoredFile}
    (areThumbnails : AreThumbnails thumbnails) (files : List StoredFile) {w : Bench}
    (regular : w.Regular) (arePictures : ArePictures w files) :
    Moves resolver w (w.internal.pictures.filter fun file => file.1 ∉ files.map (·.name))
      (outcome (resolver.migrateAll thumbnails files) w) := by
  -- by induction on the pictures left; each step starts from the bench that the last one left
  induction files generalizing w with
  | nil =>
    have done : outcome (resolver.migrateAll thumbnails []) w = (.ok (), w) := rfl
    rw [done]
    exact ⟨rfl, regular, rfl, .refl w, fun _ => by simp, fun _ failed => by cases failed⟩
  | cons picture rest ih =>
    obtain ⟨content, member⟩ := arePictures.present picture List.mem_cons_self
    have inside := arePictures.inside picture List.mem_cons_self
    obtain ⟨absent, once⟩ := List.nodup_cons.mp arePictures.once
    rcases migratePicture_cases serves here regular areThumbnails inside member with
      ⟨cause, refused, failed⟩ | ⟨free, internal, valid, unused, regular', left, moved⟩
    · rw [migrateAll, outcome_bind_error failed]
      refine ⟨rfl, regular, rfl, .refl w, (fun done => by cases done), fun e same => ?_⟩
      cases same
      have named := regular.internal.valid _ (MemoryStore.mem_pictures.mp member).1
      exact ⟨cause, _, content, rfl, isValidName_regulateName named resolver.zone, refused⟩
    · let next := w.withStores internal (w.external.put free content)
      have regularNext : next.Regular := ⟨regular', regular.external.put valid content⟩
      -- the other pictures are still inside, since their names differ
      have remaining : ArePictures next rest := by
        refine ⟨fun file later => arePictures.inside file (List.mem_cons_of_mem _ later),
          fun file later => ?_, once⟩
        obtain ⟨bytes, present⟩ := arePictures.present file (List.mem_cons_of_mem _ later)
        refine ⟨bytes, ?_⟩
        change _ ∈ internal.pictures
        rw [left, List.mem_filter]
        exact ⟨present, decide_eq_true fun same => absent (List.mem_map.mpr ⟨file, later, same⟩)⟩
      have moves := ih regularNext remaining
      rw [migrateAll, outcome_bind_ok moved]
      refine ⟨moves.stores, moves.regular, moves.faults.trans (MemoryStore.put_faults _ _ _),
        (conserves_of_moved regular member unused left).trans moves.conserves, fun done => ?_,
        moves.failure⟩
      -- what is left after this picture and after the others is left after all of them
      rw [moves.success done]
      change internal.pictures.filter _ = _
      rw [left, List.filter_filter]
      refine List.filter_congr fun file _ => ?_
      rw [← Bool.decide_and]
      refine decide_eq_decide.mpr ?_
      rw [List.map_cons, List.mem_cons, not_or, and_comm]

theorem outcome_enumerate_internal (serves : Serves resolver) {w : Bench}
    (regular : w.Regular) :
    outcome (resolver.enumerate .internal) w =
      (.ok (w.internal.files.map fun file => ⟨.internal, file.1, file.2.size⟩), w) := by
  have listed := serves.internal.list w regular.internal
  change outcome (do return (← storing resolver.internal.list).map (StoredFile.ofInfo .internal)) w
    = _
  rw [storing, outcome_bind_ok (outcome_adapt_ok listed ResolverError.storage)]
  simp [StoredFile.ofInfo, internalPart, Function.comp_def]

theorem outcome_hasInternalPictures (serves : Serves resolver) {w : Bench} (regular : w.Regular) :
    outcome resolver.hasInternalPictures w = (.ok (decide (w.internal.pictures ≠ [])), w) := by
  rw [hasInternalPictures, outcome_bind_ok (outcome_enumerate_internal serves regular),
    outcome_pure, List.any_map]
  have same : (w.internal.files.any fun file => !isThumbnailName file.1) =
      decide (w.internal.pictures ≠ []) := by
    rw [Bool.eq_iff_iff, List.any_eq_true, decide_eq_true_eq, MemoryStore.pictures, Ne,
      List.filter_eq_nil_iff]
    push Not
    rfl
  exact congrArg (fun answer => (Except.ok answer, w)) same

/-- To move all pictures is to move those inside one after the other, with the thumbnails that are
listed there before. -/
theorem outcome_migrate (serves : Serves resolver) {w : Bench} (regular : w.Regular) :
    ∃ thumbnails, AreThumbnails thumbnails ∧
      thumbnails.map (·.name) = (w.internal.files.map (·.1)).filter isThumbnailName ∧
      outcome resolver.migrate w = outcome (resolver.migrateAll thumbnails
        (w.internal.pictures.map fun file => ⟨.internal, file.1, file.2.size⟩)) w := by
  let listed : List StoredFile :=
    w.internal.files.map fun file => ⟨.internal, file.1, file.2.size⟩
  refine ⟨listed.filter (·.isThumbnail), fun file member => ?_, ?_, ?_⟩
  · obtain ⟨among, isThumbnail⟩ := List.mem_filter.mp member
    obtain ⟨stored, -, rfl⟩ := List.mem_map.mp among
    exact ⟨rfl, isThumbnail⟩
  · rw [List.filter_map, List.filter_map, List.map_map]
    rfl
  · have pictures : listed.filter (!·.isThumbnail) =
        w.internal.pictures.map fun file => ⟨.internal, file.1, file.2.size⟩ := by
      rw [List.filter_map]
      rfl
    rw [migrate, migrating, outcome_bind_ok (outcome_adapt_ok
      (outcome_enumerate_internal serves regular) ResolverError.migration), ← pictures]

/-- Moving all pictures leaves none inside. -/
theorem migrate_moves (serves : Serves resolver) {outside : Store (StateM Bench)}
    (here : resolver.external = some outside) {w : Bench} (regular : w.Regular) :
    Moves resolver w [] (outcome resolver.migrate w) := by
  obtain ⟨thumbnails, areThumbnails, -, moved⟩ := outcome_migrate serves regular
  have names : (w.internal.pictures.map fun file =>
      (⟨.internal, file.1, file.2.size⟩ : StoredFile)).map (·.name) =
      w.internal.pictures.map (·.1) := List.map_map
  have arePictures : ArePictures w (w.internal.pictures.map fun file =>
      ⟨.internal, file.1, file.2.size⟩) := by
    refine ⟨fun file member => ?_, fun file member => ?_, ?_⟩
    · obtain ⟨stored, -, rfl⟩ := List.mem_map.mp member
      rfl
    · obtain ⟨stored, present, rfl⟩ := List.mem_map.mp member
      exact ⟨stored.2, present⟩
    · rw [names]
      exact regular.internal.distinct_pictures
  have moves := migrateAll_moves serves here areThumbnails _ regular arePictures
  have none : (w.internal.pictures.filter fun file =>
      file.1 ∉ (w.internal.pictures.map (·.1))) = [] := by
    rw [List.filter_eq_nil_iff]
    intro file member
    simpa using ⟨file.2, member⟩
  rw [names, none] at moves
  rw [moved]
  exact moves

end Resolver

end CameraRoll
