import CameraRoll.Proofs.Resolver.Start
import CameraRoll.Proofs.Resolver.Taken
import CameraRoll.Proofs.Store.Quota

/-!
What becomes of thumbnails when pictures move outside. Main statements: `migrateAll_relocates`, the
exact contents of both stores after the move of all pictures, and `start_thumbnails`, by which a
thumbnail follows its picture unless the renamings of two pictures meet, and is lost exactly if the
picture gets another name whose thumbnail is called the same. `start_thumbnail_lost` is such a case.
-/

namespace CameraRoll

open CameraRoll.Calendar CameraRoll.Naming

/-! ### Thumbnails in a store -/

namespace MemoryStore

/-- The store after the thumbnail of a picture has followed it from one name to another, if it was
listed. -/
def follow (store : MemoryStore) (listed : List String) (old new : String) : MemoryStore :=
  if new = old ∨ thumbnailName old ∉ listed then store
  else match store.find? (thumbnailName old) with
    | some bytes => (store.put (thumbnailName new) bytes).erase (thumbnailName old)
    | none => store

/-- The store after a picture has left it for another name. -/
def leave (store : MemoryStore) (listed : List String) (move : String × String) : MemoryStore :=
  (store.follow listed move.1 move.2).erase move.1

/-- Any thumbnail of a store fits in beside all its files. -/
def HasRoom (store : MemoryStore) (quota : Nat) : Prop :=
  ∀ name bytes, isThumbnailName name = true → store.find? name = some bytes →
    Quota.size store.files + bytes.size ≤ quota

variable {store : MemoryStore} {listed : List String} {old new name : String}

theorem size_erase_le (store : MemoryStore) (name : String) :
    Quota.size (store.erase name).files ≤ Quota.size store.files :=
  Quota.size_beside_le name store.files

/-- A file that is given another name takes no more room than before. -/
theorem size_renamed_le (distinct : (store.files.map (·.1)).Nodup) {source target : String}
    {bytes : ByteArray} (found : store.find? source = some bytes) :
    Quota.size ((store.put target bytes).erase source).files ≤ Quota.size store.files := by
  have stored : (store.put target bytes).files.Perm
      ((target, bytes) :: Quota.beside target store.files) := by
    rw [files_put]
    exact perm_putKeyed distinct target bytes
  change Quota.size (Quota.beside source (store.put target bytes).files) ≤ _
  rw [Quota.beside, Quota.size_perm (stored.filter fun file => file.1 ≠ source)]
  by_cases same : target = source
  · rw [List.filter_cons_of_neg (by simp [same])]
    exact Nat.le_trans (Quota.size_beside_le _ _) (Quota.size_beside_le _ _)
  · rw [List.filter_cons_of_pos (by simp [same]), Quota.size_cons]
    -- the file at the source is still among those beside the target, and is left out twice
    have member : (source, bytes) ∈ Quota.beside target store.files :=
      List.mem_filter.mpr ⟨mem_of_find? found, by simpa using Ne.symm same⟩
    have once : ((Quota.beside target store.files).map (·.1)).Nodup :=
      distinct.sublist (List.filter_sublist.map _)
    have whole := Quota.size_of_mem once member
    have part := Quota.size_beside_le target store.files
    change bytes.size + Quota.size (Quota.beside source (Quota.beside target store.files)) ≤ _
    omega

theorem HasRoom.erase {quota : Nat} (room : store.HasRoom quota) (name : String) :
    (store.erase name).HasRoom quota := by
  intro other bytes thumbnail found
  rw [find?_erase] at found
  split at found
  · cases found
  · exact Nat.le_trans (Nat.add_le_add_right (size_erase_le store name) _)
      (room other bytes thumbnail found)

theorem HasRoom.follow {quota : Nat} (room : store.HasRoom quota)
    (distinct : (store.files.map (·.1)).Nodup) (listed : List String) (old new : String) :
    (store.follow listed old new).HasRoom quota := by
  unfold MemoryStore.follow
  split
  · exact room
  · split
    next bytes found =>
      have within := room _ bytes (isThumbnailName_thumbnailName old) found
      have less : Quota.size ((store.put (thumbnailName new) bytes).erase (thumbnailName old)).files ≤
          Quota.size store.files := size_renamed_le distinct found
      intro other held thumbnail present
      rw [find?_erase] at present
      split at present
      · cases present
      · rw [find?_put] at present
        split at present
        · cases present
          omega
        · exact Nat.le_trans (Nat.add_le_add_right less _) (room other held thumbnail present)
    · exact room

@[simp] theorem follow_faults : (store.follow listed old new).faults = store.faults := by
  unfold follow
  split
  · rfl
  · split
    · rw [erase_faults, put_faults]
    · rfl

theorem Regular.follow (regular : store.Regular) (valid : isValidName new = true) :
    (store.follow listed old new).Regular := by
  unfold MemoryStore.follow
  split
  · exact regular
  · split
    · exact (regular.put (isValidName_thumbnailName valid) _).erase _
    · exact regular

/-- Thumbnails that follow leave everything else alone. -/
theorem find?_follow_of_apart (apart : new ≠ old → thumbnailName old ∈ listed →
    name ≠ thumbnailName old ∧ name ≠ thumbnailName new) :
    (store.follow listed old new).find? name = store.find? name := by
  unfold follow
  split
  · rfl
  next renamed =>
    rw [not_or, not_not] at renamed
    obtain ⟨noSource, noTarget⟩ := apart renamed.1 renamed.2
    split
    · rw [find?_erase, if_neg noSource, find?_put, if_neg noTarget]
    · rfl

theorem find?_follow_picture (picture : isThumbnailName name = false) :
    (store.follow listed old new).find? name = store.find? name := by
  have noThumbnail (other : String) : name ≠ thumbnailName other := by
    rintro rfl
    rw [isThumbnailName_thumbnailName] at picture
    cases picture
  exact find?_follow_of_apart fun _ _ => ⟨noThumbnail old, noThumbnail new⟩

/-- A thumbnail stands under its new name, unless that is the old one: then it is gone. -/
theorem find?_follow {bytes : ByteArray} (present : thumbnailName old ∈ listed)
    (found : store.find? (thumbnailName old) = some bytes) :
    (store.follow listed old new).find? (thumbnailName new) =
      if new ≠ old ∧ thumbnailName new = thumbnailName old then none else some bytes := by
  unfold follow
  by_cases same : new = old
  · rw [if_pos (Or.inl same), if_neg (by simp [same]), same, found]
  · rw [if_neg (by simp [same, present]), found]
    dsimp only
    rw [find?_erase]
    by_cases meets : thumbnailName new = thumbnailName old
    · rw [if_pos meets, if_pos ⟨same, meets⟩]
    · rw [if_neg meets, if_neg (by simp [meets]), find?_put, if_pos rfl]

end MemoryStore

namespace Resolver

open Bench

variable {resolver : Resolver (StateM Bench)} {quota : Nat} {w : Bench}

/-! ### One picture -/

/-- Files are stored inside as long as there is room, and outside under names that are free. -/
structure Unhindered (resolver : Resolver (StateM Bench)) (quota : Nat) : Prop where
  serves : Serves resolver
  write : ∀ w name content, w.internal.Regular → w.internal.faults = [] →
    isValidName name = true → Quota.size w.internal.files + content.size ≤ quota →
    outcome (resolver.internal.write name content) w =
      (.ok (), { w with internal := w.internal.put name content })
  taken : ∀ store, resolver.external = some store → store.TakenByFiles externalPart

theorem unhindered_session (around : Surroundings) (quota : Nat) (zone : Zone) :
    Unhindered (session around quota zone) quota where
  serves := serves_session around quota zone
  write := by
    intro w name content regular clear valid fits
    have listed := (MemoryStore.operations_holds internalPart "internal" around.internalUrl).list w
      regular
    have beside := Quota.size_beside_le name w.internal.files
    have allowed : Quota.refusal? quota name content.size
        (w.internal.files.map fun file => ⟨file.1, file.2.size⟩) = none :=
      Quota.refusal?_eq_none (by omega)
    simp only [session, Store.withQuota, Quota.ensureFits, outcome_bind]
    rw [internalStore, listed]
    simp only [internalPart, allowed, outcome_pure, MemoryStore.operations]
    rw [MemoryStore.outcome_part, MemoryStore.writeCall, MemoryStore.outcome_call_ok
      (MemoryStore.check_eq_ok_of_clear clear valid) rfl]
  taken store here := by
    obtain rfl := Surroundings.eq_of_outside? here
    exact MemoryStore.operations_taken externalPart "external" around.externalUrl

/-- The store inside is as it was made, nothing stands in its way, and there is room in it. -/
structure Roomy (quota : Nat) (w : Bench) : Prop where
  regular : w.Regular
  clear : w.internal.faults = []
  room : w.internal.HasRoom quota

/-- A thumbnail that is given another name is copied there, and then it is gone here. -/
theorem outcome_relocate (unhindered : Unhindered resolver quota) (roomy : Roomy quota w)
    {source target : String} {size : Nat} {bytes : ByteArray}
    (isThumbnail : isThumbnailName source = true)
    (found : w.internal.find? source = some bytes) (valid : isValidName target = true) :
    (outcome (resolver.relocate ⟨.internal, source, size⟩ target) w).2 =
      { w with internal := (w.internal.put target bytes).erase source } := by
  have holds := unhindered.serves.internal
  let between : Bench := { w with internal := w.internal.put target bytes }
  have regular : between.internal.Regular := roomy.regular.internal.put valid bytes
  have read : outcome (storing (resolver.internal.read source)) w = (.ok bytes, w) :=
    outcome_adapt_ok (holds.read w source bytes roomy.regular.internal found) _
  have written : outcome (storing (resolver.internal.write target bytes)) w = (.ok (), between) :=
    outcome_adapt_ok (unhindered.write w target bytes roomy.regular.internal roomy.clear valid
      (roomy.room source bytes isThumbnail found)) _
  -- also a thumbnail that was copied onto itself is still there to be deleted
  have still : ∃ held, between.internal.find? source = some held := by
    by_cases same : source = target
    · exact ⟨bytes, by rw [same]; exact MemoryStore.find?_put_self _ _ _⟩
    · exact ⟨bytes, by rw [MemoryStore.find?_put, if_neg same]; exact found⟩
  obtain ⟨held, present⟩ := still
  have deleted : outcome (storing (resolver.internal.delete source)) between =
      (.ok (), { w with internal := between.internal.erase source }) :=
    outcome_adapt_ok (holds.delete between source held regular present) _
  have looked : Keeps (· = { w with internal := between.internal.erase source })
      (storing (resolver.internal.stat target)) :=
    (holds.keeps_stat (fun v same => by rw [same]; exact regular.erase source) target).adapt _
  unfold relocate
  rw [require_inside resolver rfl, pure_bind, outcome_bind_ok read, outcome_bind_ok written,
    outcome_bind_ok deleted]
  exact (looked.bind fun _ => Keeps.pure _) _ rfl

/-- A thumbnail that is gone cannot be given another name. -/
theorem outcome_relocate_missing (serves : Serves resolver) (regular : w.Regular)
    {source : String} {size : Nat} (gone : w.internal.find? source = none) (target : String) :
    (outcome (resolver.relocate ⟨.internal, source, size⟩ target) w).2 = w := by
  obtain ⟨⟨e, unread⟩, -, -⟩ := serves.internal.missing w source regular.internal gone
  unfold relocate
  rw [require_inside resolver rfl, pure_bind, storing,
    outcome_bind_error (outcome_adapt_error unread _)]

/-- The thumbnails that were listed, as they are passed to the move of a picture. -/
def listedThumbnails (files : List StoredFile) : List String := files.map (·.name)

/-- The thumbnail of a picture follows it. -/
theorem outcome_followThumbnail (unhindered : Unhindered resolver quota) (roomy : Roomy quota w)
    {thumbnails : List StoredFile} (areThumbnails : AreThumbnails thumbnails)
    (picture copied : StoredFile) (valid : isValidName copied.name = true) :
    outcome (resolver.followThumbnail picture copied
        (thumbnails.find? (·.name = thumbnailName picture.name))) w =
      (.ok (), { w with internal :=
        w.internal.follow (listedThumbnails thumbnails) picture.name copied.name }) := by
  have settled : { w with internal := w.internal } = w := rfl
  unfold followThumbnail MemoryStore.follow
  cases listed : thumbnails.find? (·.name = thumbnailName picture.name) with
  | none =>
    have absent : thumbnailName picture.name ∉ listedThumbnails thumbnails := by
      rw [List.find?_eq_none] at listed
      simpa [listedThumbnails] using listed
    rw [if_pos (Or.inr absent)]
    rfl
  | some thumbnail =>
    have named : thumbnail.name = thumbnailName picture.name := by
      simpa using List.find?_some listed
    have member := List.mem_of_find?_eq_some listed
    obtain ⟨inside, isThumbnail⟩ := areThumbnails thumbnail member
    have present : thumbnailName picture.name ∈ listedThumbnails thumbnails :=
      List.mem_map.mpr ⟨thumbnail, member, named⟩
    dsimp only
    by_cases same : copied.name = picture.name
    · rw [if_pos same, if_pos (Or.inl same)]
      rfl
    -- the thumbnail may be gone by now, with that of a picture that shares it
    · rw [if_neg same, if_neg (by simp [same, present]), outcome_attempt]
      obtain ⟨location, source, size⟩ := thumbnail
      obtain rfl : location = .internal := inside
      obtain rfl : source = thumbnailName picture.name := named
      cases found : w.internal.find? (thumbnailName picture.name) with
      | none =>
        rw [outcome_relocate_missing unhindered.serves roomy.regular found]
      | some bytes =>
        rw [outcome_relocate unhindered roomy isThumbnail found (isValidName_thumbnailName valid)]

/-- The names that pictures get outside, one after the other: each the first one from its canonical
name on that is free there. -/
inductive Itinerary (zone : Zone) :
    MemoryStore → List (String × ByteArray) → List (String × String) → MemoryStore → Prop
  | done (store : MemoryStore) : Itinerary zone store [] [] store
  | move {store after : MemoryStore} {name : String} {content : ByteArray}
      {rest : List (String × ByteArray)} {moves : List (String × String)} (n : Nat)
      (taken : ∀ m < n, (store.find? (nextName^[m] (regulateName name zone))).isSome = true)
      (free : store.find? (nextName^[n] (regulateName name zone)) = none)
      (onward : Itinerary zone (store.put (nextName^[n] (regulateName name zone)) content) rest
        moves after) :
      Itinerary zone store ((name, content) :: rest)
        ((name, nextName^[n] (regulateName name zone)) :: moves) after

/-- A picture that can be moved gets the first free name outside, its thumbnail follows it, and it
leaves the store inside. -/
theorem outcome_migratePicture (unhindered : Unhindered resolver quota) (roomy : Roomy quota w)
    (truthful : w.external.Truthful) {outside : Store (StateM Bench)}
    (here : resolver.external = some outside) {thumbnails : List StoredFile}
    (areThumbnails : AreThumbnails thumbnails) (picture : StoredFile)
    (inside : picture.location = .internal) {content : ByteArray}
    (member : (picture.name, content) ∈ w.internal.pictures) :
    (∃ e, outcome (resolver.migratePicture thumbnails picture) w = (.error e, w)) ∨
    ∃ n, (∀ m < n, (w.external.find?
        (nextName^[m] (regulateName picture.name resolver.zone))).isSome = true) ∧
      w.external.find? (nextName^[n] (regulateName picture.name resolver.zone)) = none ∧
      isValidName (nextName^[n] (regulateName picture.name resolver.zone)) = true ∧
      outcome (resolver.migratePicture thumbnails picture) w =
        (.ok (), w.withStores
          (w.internal.leave (listedThumbnails thumbnails)
            (picture.name, nextName^[n] (regulateName picture.name resolver.zone)))
          (w.external.put (nextName^[n] (regulateName picture.name resolver.zone)) content)) := by
  have serves := unhindered.serves
  have found : w.internal.find? picture.name = some content :=
    MemoryStore.find?_of_mem roomy.regular.internal.distinct (MemoryStore.mem_pictures.mp member).1
  have store : resolver.store? .external = some outside := here
  rcases save_searched (serves.external outside here) roomy.regular.external store
      (regulateName picture.name resolver.zone) content with
    ⟨e, failed⟩ | ⟨n, earlier, valid, free, stored⟩
  · exact Or.inl ⟨.migration e,
      migratePicture_of_unsaved serves roomy.regular inside found failed⟩
  · let name := nextName^[n] (regulateName picture.name resolver.zone)
    let copied : StoredFile := ⟨.external, name, content.size⟩
    let between : Bench := { w with external := w.external.put name content }
    have roomy' : Roomy quota between :=
      ⟨⟨roomy.regular.internal, roomy.regular.external.put valid content⟩, roomy.clear, roomy.room⟩
    have followed := outcome_followThumbnail unhindered roomy' areThumbnails picture copied valid
    -- no thumbnail has the name of the picture, which is still there to be removed
    have isPicture : isThumbnailName picture.name = false := (MemoryStore.mem_pictures.mp member).2
    let internal := w.internal.follow (listedThumbnails thumbnails) picture.name name
    have left : internal.find? picture.name = some content := by
      rw [MemoryStore.find?_follow_picture isPicture, found]
    have regular' : Bench.Regular { between with internal := internal } :=
      ⟨roomy.regular.internal.follow valid, roomy'.regular.external⟩
    refine Or.inr ⟨n, ?_, free, valid, ?_⟩
    · intro m few
      obtain ⟨other, refused⟩ := earlier m few
      exact unhindered.taken outside here w _ _ other roomy.regular.external truthful
        (congrArg Prod.fst refused)
    · exact migratePicture_of_saved serves roomy.regular inside found stored followed regular'
        left

theorem Roomy.leave (roomy : Roomy quota w) {listed : List String} {old new : String}
    (valid : isValidName new = true) (content : ByteArray) :
    Roomy quota (w.withStores (w.internal.leave listed (old, new))
      (w.external.put new content)) where
  regular := ⟨(roomy.regular.internal.follow valid).erase old,
    roomy.regular.external.put valid content⟩
  clear := (MemoryStore.follow_faults).trans roomy.clear
  room := (roomy.room.follow roomy.regular.internal.distinct listed old new).erase old

/-! ### All pictures -/

/-- If all pictures could be moved, each got the first free name outside, and inside they have left
one after the other. -/
theorem migrateAll_relocates (unhindered : Unhindered resolver quota)
    {outside : Store (StateM Bench)} (here : resolver.external = some outside)
    {thumbnails : List StoredFile} (areThumbnails : AreThumbnails thumbnails)
    {pictures : List (String × ByteArray)} {files : List StoredFile}
    (listed : files = pictures.map fun file => ⟨.internal, file.1, file.2.size⟩)
    (once : (pictures.map (·.1)).Nodup) (roomy : Roomy quota w) (truthful : w.external.Truthful)
    (present : ∀ file ∈ pictures, file ∈ w.internal.pictures) {after : Bench}
    (done : outcome (resolver.migrateAll thumbnails files) w = (.ok (), after)) :
    ∃ moves, Itinerary resolver.zone w.external pictures moves after.external ∧
      after.internal = moves.foldl (·.leave (listedThumbnails thumbnails)) w.internal := by
  -- by induction on the pictures left; each step starts from the bench that the last one left
  induction pictures generalizing w files with
  | nil =>
    subst listed
    obtain rfl : w = after := (Prod.mk.inj done).2
    exact ⟨[], .done _, rfl⟩
  | cons picture rest ih =>
    obtain ⟨name, content⟩ := picture
    subst listed
    obtain ⟨absent, once⟩ := List.nodup_cons.mp once
    rw [List.map_cons, migrateAll] at done
    have member := present _ List.mem_cons_self
    rcases outcome_migratePicture unhindered roomy truthful here areThumbnails
        ⟨.internal, name, content.size⟩ rfl member with
      ⟨e, failed⟩ | ⟨n, taken, free, valid, moved⟩
    · rw [outcome_bind_error failed] at done
      cases (Prod.mk.inj done).1
    · rw [outcome_bind_ok moved] at done
      have truthful' : (w.external.put (nextName^[n] (regulateName name resolver.zone))
          content).Truthful := by
        intro fault
        rw [MemoryStore.put_faults]
        exact truthful fault
      -- the other pictures are still inside: neither a thumbnail nor the one that left is among them
      have remaining : ∀ file ∈ rest, file ∈ (w.internal.leave (listedThumbnails thumbnails)
          (name, nextName^[n] (regulateName name resolver.zone))).pictures := by
        rintro ⟨other, bytes⟩ later
        have isPicture := MemoryStore.mem_pictures.mp (present _ (List.mem_cons_of_mem _ later))
        have apart : other ≠ name := by
          rintro rfl
          exact absent (List.mem_map.mpr ⟨_, later, rfl⟩)
        refine MemoryStore.mem_pictures.mpr ⟨MemoryStore.mem_of_find? ?_, isPicture.2⟩
        rw [MemoryStore.leave, MemoryStore.find?_erase, if_neg apart,
          MemoryStore.find?_follow_picture isPicture.2]
        exact MemoryStore.find?_of_mem roomy.regular.internal.distinct isPicture.1
      obtain ⟨moves, onward, left⟩ := ih rfl once (roomy.leave valid content) truthful' remaining
        done
      exact ⟨_ :: moves, .move n taken free onward, left⟩

/-- What stands under a name stays there while pictures leave that have nothing to do with it. -/
theorem find?_foldl_leave {listed : List String} {moves : List (String × String)} {name : String}
    (isThumbnail : isThumbnailName name = true)
    (pictures : ∀ move ∈ moves, isThumbnailName move.1 = false)
    (apart : ∀ move ∈ moves, move.2 ≠ move.1 → thumbnailName move.1 ∈ listed →
      name ≠ thumbnailName move.1 ∧ name ≠ thumbnailName move.2) (store : MemoryStore) :
    (moves.foldl (·.leave listed) store).find? name = store.find? name := by
  induction moves generalizing store with
  | nil => rfl
  | cons move rest ih =>
    have noPicture : name ≠ move.1 := by
      rintro rfl
      rw [pictures move List.mem_cons_self] at isThumbnail
      cases isThumbnail
    rw [List.foldl_cons, ih (fun other later => pictures other (List.mem_cons_of_mem _ later))
        fun other later => apart other (List.mem_cons_of_mem _ later),
      MemoryStore.leave, MemoryStore.find?_erase, if_neg noPicture,
      MemoryStore.find?_follow_of_apart (apart move List.mem_cons_self)]

theorem Itinerary.names {zone : Zone} {store after : MemoryStore}
    {pictures : List (String × ByteArray)} {moves : List (String × String)}
    (itinerary : Itinerary zone store pictures moves after) :
    moves.map (·.1) = pictures.map (·.1) := by
  induction itinerary with
  | done store => rfl
  | move n taken free onward ih => rw [List.map_cons, List.map_cons, ih]

/-- Only pictures are moved. -/
theorem Itinerary.isPicture {zone : Zone} {internal store after : MemoryStore}
    {moves : List (String × String)}
    (itinerary : Itinerary zone store internal.pictures moves after) {move : String × String}
    (member : move ∈ moves) : ∃ content, (move.1, content) ∈ internal.pictures := by
  have named : move.1 ∈ internal.pictures.map (·.1) :=
    itinerary.names ▸ List.mem_map_of_mem (f := (·.1)) member
  obtain ⟨⟨name, content⟩, isPicture, rfl⟩ := List.mem_map.mp named
  exact ⟨content, isPicture⟩

/-- No picture is moved twice. -/
theorem Itinerary.others {zone : Zone} {internal store after : MemoryStore}
    (regular : internal.Regular) {front back : List (String × String)} {move : String × String}
    (itinerary : Itinerary zone store internal.pictures (front ++ move :: back) after) :
    ∀ other ∈ front ++ back, other.1 ≠ move.1 := by
  have once := regular.distinct_pictures
  rw [← itinerary.names, List.map_append, List.map_cons, List.nodup_middle, List.nodup_cons,
    ← List.map_append] at once
  exact fun other stands same => once.1 (List.mem_map.mpr ⟨other, stands, same⟩)

/-- The renaming of the thumbnail of another picture, if it has one and gets another name, does not
meet that of this picture's: neither is put where the other one was or is put. -/
structure KeepsClear (internal : MemoryStore) (move other : String × String) : Prop where
  source : other.2 ≠ other.1 → (internal.find? (thumbnailName other.1)).isSome = true →
    thumbnailName other.1 ≠ thumbnailName move.2
  target : other.2 ≠ other.1 → (internal.find? (thumbnailName other.1)).isSome = true →
    thumbnailName other.2 ≠ thumbnailName move.1 ∧ thumbnailName other.2 ≠ thumbnailName move.2

/-- The thumbnails of a store, as they are listed before pictures are moved. -/
def thumbnailNames (store : MemoryStore) : List String :=
  (store.files.map (·.1)).filter isThumbnailName

theorem isSome_of_mem_thumbnailNames {store : MemoryStore} (regular : store.Regular) {name : String}
    (listed : name ∈ thumbnailNames store) : (store.find? name).isSome = true := by
  obtain ⟨file, stored, rfl⟩ := List.mem_map.mp (List.mem_filter.mp listed).1
  rw [MemoryStore.find?_of_mem regular.distinct stored]
  rfl

theorem mem_thumbnailNames {store : MemoryStore} {name : String} {bytes : ByteArray}
    (isThumbnail : isThumbnailName name = true) (found : store.find? name = some bytes) :
    name ∈ thumbnailNames store :=
  List.mem_filter.mpr ⟨List.mem_map.mpr ⟨_, MemoryStore.mem_of_find? found, rfl⟩, isThumbnail⟩

/-- After all pictures have left, a thumbnail whose renaming meets no other one stands under its new
name, unless that is the old one. -/
theorem find?_left {zone : Zone} {internal outside outside' : MemoryStore}
    {moves : List (String × String)} (regular : internal.Regular)
    (itinerary : Itinerary zone outside internal.pictures moves outside')
    (unshared : ∀ file ∈ internal.pictures, ∀ other ∈ internal.pictures,
      thumbnailName file.1 = thumbnailName other.1 → file.1 = other.1)
    {move : String × String} (member : move ∈ moves) {bytes : ByteArray}
    (found : internal.find? (thumbnailName move.1) = some bytes)
    (clear : ∀ other ∈ moves, other.1 ≠ move.1 → KeepsClear internal move other) :
    (moves.foldl (·.leave (thumbnailNames internal)) internal).find? (thumbnailName move.2) =
      if move.2 ≠ move.1 ∧ thumbnailName move.2 = thumbnailName move.1 then none
      else some bytes := by
  have isPicture {other : String × String} (stands : other ∈ moves) :
      isThumbnailName other.1 = false := by
    obtain ⟨content, stored⟩ := itinerary.isPicture stands
    exact (MemoryStore.mem_pictures.mp stored).2
  obtain ⟨front, back, rfl⟩ := List.append_of_mem member
  have others : ∀ other ∈ front ++ back, other ∈ front ++ move :: back ∧ other.1 ≠ move.1 := by
    intro other stands
    refine ⟨?_, itinerary.others regular other stands⟩
    simp only [List.mem_append, List.mem_cons] at stands ⊢
    exact stands.imp_right Or.inr
  -- before its own turn nothing happens to the thumbnail, and after it nothing at its new name
  have before : (front.foldl (·.leave (thumbnailNames internal)) internal).find?
      (thumbnailName move.1) = some bytes := by
    rw [find?_foldl_leave (isThumbnailName_thumbnailName _), found]
    · exact fun other stands => isPicture (others other (List.mem_append_left _ stands)).1
    · intro other stands renamed isListed
      obtain ⟨among, apart⟩ := others other (List.mem_append_left _ stands)
      have there := isSome_of_mem_thumbnailNames regular isListed
      refine ⟨fun same => ?_, Ne.symm ((clear other among apart).target renamed there).1⟩
      obtain ⟨content, stored⟩ := itinerary.isPicture among
      obtain ⟨content', stored'⟩ := itinerary.isPicture member
      exact apart (unshared _ stored _ stored' same.symm)
  have noPicture : thumbnailName move.2 ≠ move.1 := by
    intro same
    have thumbnail := isThumbnailName_thumbnailName move.2
    rw [same, isPicture member] at thumbnail
    cases thumbnail
  have listed := mem_thumbnailNames (isThumbnailName_thumbnailName move.1) found
  rw [List.foldl_append, List.foldl_cons, find?_foldl_leave (isThumbnailName_thumbnailName _),
    MemoryStore.leave, MemoryStore.find?_erase, if_neg noPicture,
    MemoryStore.find?_follow listed before]
  · exact fun other stands => isPicture (others other (List.mem_append_right _ stands)).1
  · intro other stands renamed isListed
    obtain ⟨among, apart⟩ := others other (List.mem_append_right _ stands)
    have there := isSome_of_mem_thumbnailNames regular isListed
    have keeps := clear other among apart
    exact ⟨Ne.symm (keeps.source renamed there), Ne.symm (keeps.target renamed there).2⟩

/-- A move of all pictures that gets to its end, as it takes place in both stores. -/
theorem migrate_relocates (unhindered : Unhindered resolver quota)
    {outside : Store (StateM Bench)} (here : resolver.external = some outside)
    (roomy : Roomy quota w) (truthful : w.external.Truthful) {after : Bench}
    (done : outcome resolver.migrate w = (.ok (), after)) :
    ∃ moves, Itinerary resolver.zone w.external w.internal.pictures moves after.external ∧
      after.internal = moves.foldl (·.leave (thumbnailNames w.internal)) w.internal := by
  obtain ⟨thumbnails, areThumbnails, names, moved⟩ :=
    outcome_migrate unhindered.serves roomy.regular
  have listed : listedThumbnails thumbnails = thumbnailNames w.internal := names
  rw [moved] at done
  rw [← listed]
  exact migrateAll_relocates unhindered here areThumbnails rfl
    roomy.regular.internal.distinct_pictures roomy truthful (fun _ member => member) done

end Resolver

namespace Bench

open Resolver

/-- When the start of a session moves the pictures outside, with nothing in the way of writes and
room for a thumbnail inside, each gets the first name outside that is free from its canonical one
on. A thumbnail whose renaming meets that of no other then stands inside under the name that goes
with the new name of its picture, with the same bytes; but if the picture has got another name and
its thumbnail is still to be called the same, then it is gone. -/
theorem start_thumbnails (around : Surroundings) (quota : Nat) (zone : Zone) (answer : Bool)
    {bench after : Bench} {resolver : Resolver (StateM Bench)} (regular : bench.Regular)
    (clearInside : bench.internal.faults = []) (clearOutside : bench.external.faults = [])
    (room : bench.internal.HasRoom quota)
    (unshared : ∀ file ∈ bench.internal.pictures, ∀ other ∈ bench.internal.pictures,
      thumbnailName file.1 = thumbnailName other.1 → file.1 = other.1)
    (outside : around.outside?.isSome = true)
    (due : bench.settings.sees Settings.consolidatedKey = false)
    (pictures : bench.internal.pictures ≠ [])
    (started : outcome (start around quota zone answer) bench = (.ok (.ready resolver), after)) :
    ∃ moves, Itinerary zone bench.external bench.internal.pictures moves after.external ∧
      ∀ move ∈ moves, ∀ bytes, bench.internal.find? (thumbnailName move.1) = some bytes →
        (∀ other ∈ moves, other.1 ≠ move.1 → KeepsClear bench.internal move other) →
        after.internal.find? (thumbnailName move.2) =
          if move.2 ≠ move.1 ∧ thumbnailName move.2 = thumbnailName move.1 then none
          else some bytes := by
  have serves := serves_session around quota zone
  obtain ⟨store, here⟩ := Option.isSome_iff_exists.mp outside
  have available : around.internalAvailable = true := by
    by_contra gone
    rw [start_unavailable _ _ _ _ (by simpa using gone)] at started
    cases (Prod.mk.inj started).1
  have course := start_course around quota zone answer available bench
  rw [started] at course
  -- only one course ends like this where there is an outside and something to move
  have course' : ∃ v v', Agreed answer (bench.probed around) v ∧
      outcome (session around quota zone).migrate v = (.ok (), v') ∧
      after.internal = v'.internal ∧ after.external = v'.external := by
    generalize ended : (Except.ok (.ready resolver) :
      Except ResolverError (Initialization (StateM Bench))) = result at course
    cases course with
    | alone absent _ =>
      have none : around.outside? = none := absent
      rw [here] at none
      cases none
    | consolidated _ recorded =>
      rw [probed_settings, due] at recorded
      cases recorded
    | empty nothing =>
      have found := nothing.pictures serves (regular.probed around)
      rw [probed_internal] at found
      exact absurd found.symm (by simpa using pictures)
    | @moved _ v v' agreed done => exact ⟨v, v', agreed, done, rfl, rfl⟩
    | inconsistent | unlisted | unwritten | declined | stuck | unmarked => cases ended
  obtain ⟨v, v', agreed, done, internal, external⟩ := course'
  have inside : v.internal = bench.internal := agreed.internal.trans (probed_internal _ _)
  have outer : v.external = bench.external := agreed.external.trans (probed_external _ _)
  have roomy : Roomy quota v :=
    ⟨⟨inside ▸ regular.internal, outer ▸ regular.external⟩, inside ▸ clearInside, inside ▸ room⟩
  have truthful : v.external.Truthful := by
    intro fault member
    rw [outer, clearOutside] at member
    cases member
  obtain ⟨moves, itinerary, left⟩ := migrate_relocates (unhindered_session around quota zone) here
    roomy truthful done
  rw [inside, outer, ← external] at itinerary
  refine ⟨moves, itinerary, fun move member bytes found clear => ?_⟩
  rw [internal, left, inside]
  exact find?_left regular.internal itinerary unshared member found clear

/-- A picture whose name is taken outside: its thumbnail follows it. -/
theorem start_thumbnails_taken :
    let bench : Bench :=
      { internal := { files := [("IMG_20240102_030405.jpg", ⟨#[1]⟩),
          ("thumb-IMG_20240102_030405.jpg", ⟨#[2]⟩)] }
        external := { files := [("IMG_20240102_030405.jpg", ⟨#[3]⟩)] } }
    let run := outcome (start { external := .present } 9 .system true) bench
    run.2.internal.files = [("thumb-IMG_20240102_030405 (1).jpg", ⟨#[2]⟩)] ∧
      ∃ moves, Itinerary .system bench.external bench.internal.pictures moves run.2.external ∧
        ∀ move ∈ moves, ∀ bytes, bench.internal.find? (thumbnailName move.1) = some bytes →
          (∀ other ∈ moves, other.1 ≠ move.1 → KeepsClear bench.internal move other) →
          run.2.internal.find? (thumbnailName move.2) =
            if move.2 ≠ move.1 ∧ thumbnailName move.2 = thumbnailName move.1 then none
            else some bytes := by
  intro bench run
  have regular : bench.Regular :=
    ⟨⟨by decide, by decide, by simp [bench]⟩, by decide, by decide, by simp [bench]⟩
  have room : bench.internal.HasRoom 9 := by
    intro name bytes _ found
    have stored := MemoryStore.mem_of_find? found
    simp only [bench, List.mem_cons, Prod.mk.injEq, List.not_mem_nil, or_false] at stored
    rcases stored with ⟨-, rfl⟩ | ⟨-, rfl⟩ <;> decide
  have unshared : ∀ file ∈ bench.internal.pictures, ∀ other ∈ bench.internal.pictures,
      thumbnailName file.1 = thumbnailName other.1 → file.1 = other.1 := by decide +kernel
  obtain ⟨resolver, ready, -⟩ := exists_ready run.1 (by decide +kernel)
  exact ⟨by decide +kernel, start_thumbnails { external := .present } 9 .system true regular rfl rfl
    room unshared rfl (by decide +kernel) (by decide +kernel) (Prod.ext ready rfl)⟩

/-- A recording under a name of the older scheme, with its thumbnail: only the extension changes, and
the thumbnail is written onto itself and then deleted. Of two pictures one of which gets the name
that the other one has to give up, one loses its thumbnail to the other. -/
theorem start_thumbnail_lost :
    let around : Surroundings := { external := .present }
    let recording : Bench :=
      { internal := { files := [("VID_20240101_120000.webm", ⟨#[1]⟩),
          ("thumb-VID_20240101_120000.jpg", ⟨#[2]⟩)] } }
    let pair : Bench :=
      { internal := { files := [("IMG_20240101_120000_2.jpg", ⟨#[1]⟩),
          ("IMG_20240101_120000 (2).jpg", ⟨#[2]⟩), ("thumb-IMG_20240101_120000_2.jpg", ⟨#[3]⟩),
          ("thumb-IMG_20240101_120000 (2).jpg", ⟨#[4]⟩)] } }
    let moved := outcome (start around 99 .system true) recording
    let moved' := outcome (start around 99 .system true) pair
    (recording.Regular ∧ recording.internal.faults = [] ∧ recording.external.faults = [] ∧
      (∃ resolver, moved.1 = .ok (.ready resolver)) ∧
      moved.2.external.files = [("VID_20240101_120000.mkv", ⟨#[1]⟩)] ∧
      thumbnailName "VID_20240101_120000.mkv" = "thumb-VID_20240101_120000.jpg" ∧
      moved.2.internal.find? "thumb-VID_20240101_120000.jpg" = none) ∧
    pair.Regular ∧ pair.internal.faults = [] ∧ pair.external.faults = [] ∧
      (∀ file ∈ pair.internal.pictures, ∀ other ∈ pair.internal.pictures,
        thumbnailName file.1 = thumbnailName other.1 → file.1 = other.1) ∧
      (∃ resolver, moved'.1 = .ok (.ready resolver)) ∧
      moved'.2.external.files = [("IMG_20240101_120000 (2).jpg", ⟨#[1]⟩),
        ("IMG_20240101_120000 (3).jpg", ⟨#[2]⟩)] ∧
      moved'.2.internal.files = [("thumb-IMG_20240101_120000 (3).jpg", ⟨#[3]⟩)] := by
  intro around recording pair moved moved'
  have regular : recording.Regular :=
    ⟨⟨by decide, by decide, by simp [recording]⟩, MemoryStore.regular_empty⟩
  have regular' : pair.Regular :=
    ⟨⟨by decide, by decide, by simp [pair]⟩, MemoryStore.regular_empty⟩
  obtain ⟨outside, inside⟩ : moved.2.external.files = [("VID_20240101_120000.mkv", ⟨#[1]⟩)] ∧
      moved.2.internal.find? "thumb-VID_20240101_120000.jpg" = none := by decide +kernel
  obtain ⟨outside', inside'⟩ : moved'.2.external.files =
        [("IMG_20240101_120000 (2).jpg", ⟨#[1]⟩), ("IMG_20240101_120000 (3).jpg", ⟨#[2]⟩)] ∧
      moved'.2.internal.files = [("thumb-IMG_20240101_120000 (3).jpg", ⟨#[3]⟩)] := by decide +kernel
  obtain ⟨resolver, ready, -⟩ := exists_ready moved.1 (by decide +kernel)
  obtain ⟨resolver', ready', -⟩ := exists_ready moved'.1 (by decide +kernel)
  exact ⟨⟨regular, rfl, rfl, ⟨resolver, ready⟩, outside, by decide +kernel, inside⟩, regular', rfl,
    rfl, by decide +kernel, ⟨resolver', ready'⟩, outside', inside'⟩

end Bench

end CameraRoll
