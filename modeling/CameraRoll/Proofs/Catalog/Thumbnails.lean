import CameraRoll.Proofs.Catalog.Wrapping

/-!
Where thumbnails come from. One that is made is stored under a free name, and one that is found goes
by the stem of the picture's name. Main statement: `thumbnails_of_loadPictures`, that two pictures
of a list that was just made have the same thumbnail only if it was found for both.
-/

namespace CameraRoll

open CameraRoll.Naming

open Bench Library

/-! ### Files that stay -/

namespace Bench

/-- Files may have been added, but none has gone. -/
def Grows (before after : Bench) : Prop :=
  ∀ location name, (((partAt location).get before).find? name).isSome = true →
    (((partAt location).get after).find? name).isSome = true

namespace Grows

theorem trans {first second third : Bench} (h : Grows first second) (h' : Grows second third) :
    Grows first third :=
  fun location name present => h' location name (h location name present)

/-- What is free in the end was free in the beginning. -/
theorem free {before after : Bench} (grows : Grows before after) (location : Location)
    {name : String} (free : ((partAt location).get after).find? name = none) :
    ((partAt location).get before).find? name = none := by
  by_contra taken
  have present := grows location name (Option.isSome_iff_ne_none.mpr taken)
  rw [free] at present
  cases present

theorem of_files {before after : Bench} (internal : after.internal.files = before.internal.files)
    (external : after.external.files = before.external.files) : Grows before after := by
  intro location name present
  have same : ((partAt location).get after).files = ((partAt location).get before).files := by
    cases location with
    | internal => exact internal
    | external => exact external
  rw [MemoryStore.find?, same]
  exact present

theorem put (bench : Bench) (location : Location) (name : String) (content : ByteArray) :
    Grows bench ((partAt location).set (((partAt location).get bench).put name content) bench) := by
  intro other file present
  by_cases same : other = location
  · subst same
    rw [Part.get_set, MemoryStore.find?_put]
    split
    · rfl
    · exact present
  · rw [get_set_of_ne same]
    exact present

end Grows

theorem ThumbnailsAdded.grows {before after : Bench} (added : ThumbnailsAdded before after) :
    Grows before after := by
  intro location name present
  cases location with
  | internal =>
    obtain ⟨more, files, -⟩ := added.files
    obtain ⟨content, found⟩ := Option.isSome_iff_exists.mp present
    have first : before.internal.files.lookup name = some content := found
    change (after.internal.find? name).isSome = true
    rw [MemoryStore.find?, files, List.lookup_append, first]
    rfl
  | external =>
    change (after.external.find? name).isSome = true
    rw [added.external]
    exact present

end Bench

/-! ### Thumbnails of pictures -/

/-- A thumbnail inside that was stored between two moments, under a name that was free. -/
structure StoredFile.IsFresh (file : StoredFile) (before after : Bench) : Prop where
  inside : file.IsThumbnailInside
  free : before.internal.find? file.name = none
  stored : (after.internal.find? file.name).isSome = true

/-- A thumbnail that was listed under the name that goes with the picture's. -/
structure StoredFile.IsFoundFor (file : StoredFile) (thumbnails : List StoredFile)
    (picture : Picture) : Prop where
  listed : file ∈ thumbnails
  name : file.name = thumbnailName picture.file.name

namespace Library

variable {library : Library (StateM Bench)} {w after : Bench}

/-- A thumbnail that is answered has just been stored. -/
theorem fresh_of_obtainThumbnail (serves : Serves library.resolver) (regular : w.Regular)
    {file : StoredFile} {content : Option ByteArray} {obtained : Option StoredFile}
    (ran : outcome (library.obtainThumbnail file content) w = (.ok obtained, after)) :
    ∀ own ∈ obtained, own.IsFresh w after := by
  rw [outcome_obtainThumbnail] at ran
  split at ran
  · rcases makeThumbnail_cases serves regular file content with
      ⟨e, failed, -⟩ | ⟨media, bytes, n, -, -, valid, free, done⟩
    · rw [failed] at ran
      cases e <;> cases ran
      all_goals exact fun own isOwn => by cases isOwn
    · rw [done] at ran
      cases ran
      rintro _ ⟨⟩
      have named := isThumbnailName_iterate_nextName (isThumbnailName_thumbnailName file.name) n
      refine ⟨⟨rfl, named⟩, free, ?_⟩
      change ((MemoryStore.put _ _ _).find? _).isSome = true
      rw [MemoryStore.find?_put_self]
      rfl
  · cases ran
    exact fun own isOwn => by cases isOwn

/-- A picture has the thumbnail that was found for it, or a fresh one, or none. -/
theorem thumbnail_of_wrap (serves : Serves library.resolver) (regular : w.Regular)
    {file : StoredFile} {thumbnail : Option StoredFile} {content : Option ByteArray}
    {picture : Picture}
    (wrapped : outcome (library.wrap file thumbnail content) w = (.ok picture, after)) :
    ∀ own ∈ picture.thumbnail, own ∈ thumbnail ∨ own.IsFresh w after := by
  obtain ⟨obtained, ran, made⟩ := exists_of_wrap wrapped
  obtain ⟨-, same, -⟩ := Picture.ofFile_eq_some made
  rw [same]
  intro own isOwn
  cases thumbnail with
  | some found =>
    cases ran
    exact Or.inl isOwn
  | none => exact Or.inr (fresh_of_obtainThumbnail serves regular ran own isOwn)

/-- Of the pictures that are made one after the other, each has the thumbnail that was found for it
or a fresh one, and two of them have the same only if it was found for both. -/
theorem thumbnails_of_wrapAll (serves : Serves library.resolver) (regular : w.Regular)
    {thumbnails : List StoredFile} (inside : ∀ file ∈ thumbnails, file.IsThumbnailInside)
    (present : ∀ file ∈ thumbnails, (w.internal.find? file.name).isSome = true)
    {files : List StoredFile} {pictures : List Picture}
    (wrapped : outcome (library.wrapAll thumbnails files) w = (.ok pictures, after)) :
    (∀ picture ∈ pictures, ∀ own ∈ picture.thumbnail,
      own.IsFoundFor thumbnails picture ∨ own.IsFresh w after) ∧
    pictures.Pairwise fun a b => ∀ own ∈ a.thumbnail, ∀ other ∈ b.thumbnail,
      own.name = other.name → own.IsFoundFor thumbnails a ∧ other.IsFoundFor thumbnails b := by
  induction files generalizing w after pictures with
  | nil =>
    cases wrapped
    exact ⟨fun _ member => (by cases member), .nil⟩
  | cons file rest ih =>
    obtain ⟨picture, others, between, rfl, first, remaining⟩ := exists_of_wrapAll wrapped
    have added := (wrap_adds serves regular file (find?_inside inside file.name) none).1
    rw [first] at added
    have regular' := added.regular_bench regular
    have added' := (wrapAll_adds serves inside rest regular').1
    rw [remaining] at added'
    obtain ⟨same, -⟩ := file_of_wrap first
    have present' : ∀ file ∈ thumbnails, (between.internal.find? file.name).isSome = true :=
      fun file member => added.grows .internal file.name (present file member)
    obtain ⟨origins, apart⟩ := ih regular' present' remaining
    -- the first picture's thumbnail is there, whether it was found or made
    have own : ∀ own ∈ picture.thumbnail,
        own.IsFoundFor thumbnails picture ∨ own.IsFresh w between := by
      intro own isOwn
      rcases thumbnail_of_wrap serves regular first own isOwn with isFound | fresh
      · refine Or.inl ⟨List.mem_of_find?_eq_some isFound, ?_⟩
        rw [same]
        simpa using List.find?_some isFound
      · exact Or.inr fresh
    have there : ∀ own ∈ picture.thumbnail,
        (between.internal.find? own.name).isSome = true := by
      intro own' isOwn
      rcases own own' isOwn with isFound | fresh
      · exact added.grows .internal own'.name (present own' isFound.listed)
      · exact fresh.stored
    constructor
    · intro other member own' isOwn
      rcases List.mem_cons.mp member with rfl | later
      · exact (own own' isOwn).imp_right fun fresh =>
          ⟨fresh.inside, fresh.free, added'.grows .internal own'.name fresh.stored⟩
      · exact (origins other later own' isOwn).imp_right fun fresh =>
          ⟨fresh.inside, added.grows.free .internal fresh.free, fresh.stored⟩
    · refine List.Pairwise.cons (fun other later own' isOwn other' isOther same => ?_) apart
      -- a later picture's fresh thumbnail is not one that was there before
      rcases origins other later other' isOther with isFound | fresh
      · refine ⟨?_, isFound⟩
        rcases own own' isOwn with isFound' | fresh'
        · exact isFound'
        · have already := present other' isFound.listed
          rw [← same, fresh'.free] at already
          cases already
      · have already := there own' isOwn
        rw [same, fresh.free] at already
        cases already

/-- Two pictures of a list that was just made have the same thumbnail only if it was stored before
and goes by its name with both. -/
theorem thumbnails_of_loadPictures (serves : Serves library.resolver) (regular : w.Regular)
    {pictures : List Picture} (made : outcome library.loadPictures w = (.ok pictures, after)) :
    (∀ picture ∈ pictures, ∀ own ∈ picture.thumbnail,
      own.IsThumbnailInside ∧ (after.internal.find? own.name).isSome = true) ∧
    pictures.Pairwise fun a b => ∀ own ∈ a.thumbnail, ∀ other ∈ b.thumbnail,
      own.name = other.name → (w.internal.find? own.name).isSome = true ∧
        own.name = thumbnailName a.file.name ∧ own.name = thumbnailName b.file.name := by
  have grows := (loadPictures_adds serves regular).1.grows
  rw [made] at grows
  obtain ⟨entries, between, unsorted, enumerated, wrapped, rfl⟩ := eq_of_loadPictures made
  cases enumerated.symm.trans (Resolver.outcome_entries serves regular)
  have sorted := Picture.perm_sortByTime unsorted
  have inside : ∀ file ∈ (w.filesAt .internal).filter (·.isThumbnail), file.IsThumbnailInside ∧
      (w.internal.find? file.name).isSome = true := by
    intro file member
    obtain ⟨among, isThumbnail⟩ := List.mem_filter.mp member
    obtain ⟨file, isStored, rfl⟩ := List.mem_map.mp among
    refine ⟨⟨rfl, isThumbnail⟩, Option.isSome_iff_exists.mpr ⟨file.2, ?_⟩⟩
    exact MemoryStore.find?_of_mem regular.internal.distinct isStored
  obtain ⟨origins, apart⟩ := thumbnails_of_wrapAll serves regular
    (fun file member => (inside file member).1) (fun file member => (inside file member).2) wrapped
  constructor
  · intro picture member own isOwn
    rcases origins picture (sorted.mem_iff.mp member) own isOwn with isFound | fresh
    · obtain ⟨isThumbnail, stored⟩ := inside own isFound.listed
      exact ⟨isThumbnail, grows .internal own.name stored⟩
    · exact ⟨fresh.inside, fresh.stored⟩
  -- the order in which two pictures are listed does not matter
  · refine (sorted.pairwise_iff ?_).mpr (apart.imp fun both own isOwn other isOther same => ?_)
    · intro a b both own isOwn other isOther same
      obtain ⟨stored, here, there⟩ := both other isOther own isOwn same.symm
      rw [← same] at stored here there
      exact ⟨stored, there, here⟩
    · obtain ⟨found, found'⟩ := both own isOwn other isOther same
      exact ⟨(inside own found.listed).2, found.name, same.trans found'.name⟩

end Library

end CameraRoll
