import CameraRoll.Proofs.Catalog.Loading
import CameraRoll.Proofs.Resolver.Frame
import CameraRoll.Proofs.Resolver.Primaries

/-!
What the making of pictures does to a bench. Main statements: `wrap_adds` for one picture and
`loadPictures_adds` for the list: thumbnails are stored beside the files inside, nothing else
changes, and where the codec answers only a file without a time can be in the way.
-/

namespace CameraRoll

open CameraRoll.Naming

/-! ### Thumbnails that are added -/

namespace Bench

/-- Inside, thumbnails were stored beside the files, and nothing else has changed. -/
structure ThumbnailsAdded (before after : Bench) : Prop where
  elsewhere : after = { before with internal := after.internal }
  files : ∃ added, after.internal.files = before.internal.files ++ added ∧
    ∀ file ∈ added, isThumbnailName file.1 = true
  faults : after.internal.faults = before.internal.faults
  regular : before.internal.Regular → after.internal.Regular

namespace ThumbnailsAdded

variable {first second third : Bench}

theorem refl (bench : Bench) : ThumbnailsAdded bench bench where
  elsewhere := rfl
  files := ⟨[], (List.append_nil _).symm, fun _ member => by cases member⟩
  faults := rfl
  regular := id

theorem trans (h : ThumbnailsAdded first second) (h' : ThumbnailsAdded second third) :
    ThumbnailsAdded first third where
  elsewhere := by rw [h'.elsewhere, h.elsewhere]
  files := by
    obtain ⟨added, files, thumbnails⟩ := h.files
    obtain ⟨more, files', thumbnails'⟩ := h'.files
    refine ⟨added ++ more, by rw [files', files, List.append_assoc], fun file member => ?_⟩
    exact (List.mem_append.mp member).elim (thumbnails file) (thumbnails' file)
  faults := h'.faults.trans h.faults
  regular := h'.regular ∘ h.regular

theorem put (bench : Bench) {name : String} (valid : isValidName name = true)
    (free : bench.internal.find? name = none) (thumbnail : isThumbnailName name = true)
    (content : ByteArray) :
    ThumbnailsAdded bench (internalPart.set (bench.internal.put name content) bench) where
  elsewhere := rfl
  files := by
    refine ⟨[(name, content)], ?_, fun file member => ?_⟩
    · exact congrArg MemoryStore.files (MemoryStore.put_of_free free content)
    · rw [List.mem_singleton.mp member]
      exact thumbnail
  faults := MemoryStore.put_faults _ _ _
  regular regular := regular.put valid content

variable {before after : Bench} (added : ThumbnailsAdded before after)
include added

theorem external : after.external = before.external := by rw [added.elsewhere]

/-- Files that are no thumbnails are found as before. -/
theorem find?_eq (location : Location) {name : String}
    (noThumbnail : isThumbnailName name = false) :
    ((partAt location).get after).find? name = ((partAt location).get before).find? name := by
  cases location with
  | external => exact congrArg (MemoryStore.find? · name) added.external
  | internal =>
    obtain ⟨more, files, thumbnails⟩ := added.files
    have other : more.lookup name = none := by
      refine List.lookup_eq_none_iff.mpr fun file member => ?_
      rw [bne_iff_ne]
      rintro rfl
      exact absurd (thumbnails file member) (by simp [noThumbnail])
    change after.internal.files.lookup name = before.internal.files.lookup name
    rw [files, List.lookup_append, other, Option.or_none]

theorem pictures : after.internal.pictures = before.internal.pictures := by
  obtain ⟨more, files, thumbnails⟩ := added.files
  have none : (more.filter fun file => !isThumbnailName file.1) = [] := by
    simpa using thumbnails
  rw [MemoryStore.pictures, files, List.filter_append, none, List.append_nil]
  rfl

theorem primaries (resolver : Resolver (StateM Bench)) :
    resolver.primaries after = resolver.primaries before :=
  Resolver.primaries_eq (congrArg MemoryStore.files added.external) added.pictures

theorem regular_bench (regular : before.Regular) : after.Regular :=
  ⟨added.regular regular.internal, by rw [added.external]; exact regular.external⟩

end ThumbnailsAdded

end Bench

open Bench

/-- A file inside with the name of a thumbnail. -/
def StoredFile.IsThumbnailInside (file : StoredFile) : Prop :=
  file.location = .internal ∧ isThumbnailName file.name = true

theorem find?_inside {thumbnails : List StoredFile}
    (inside : ∀ file ∈ thumbnails, file.IsThumbnailInside) (name : String) :
    ∀ own ∈ thumbnails.find? (·.name = thumbnailName name), own.IsThumbnailInside :=
  fun own isFound => inside own (List.mem_of_find?_eq_some isFound)

theorem Bench.thumbnails_inside (bench : Bench) :
    ∀ file ∈ (bench.filesAt .internal).filter (·.isThumbnail), file.IsThumbnailInside := by
  intro file member
  obtain ⟨listed, isThumbnail⟩ := List.mem_filter.mp member
  obtain ⟨file, -, rfl⟩ := List.mem_map.mp listed
  exact ⟨rfl, isThumbnail⟩

namespace Library

variable {library : Library (StateM Bench)} (serves : Serves library.resolver) {w : Bench}

/-- A codec answers if it crashes on no media, at the width that a library asks for. -/
def Answers (library : Library (StateM Bench)) : Prop :=
  ∀ media kind, library.codec.thumbnail media kind library.width ≠ .crashed

/-! ### One thumbnail -/

/-- Errors on the way to a thumbnail are left out, but for a crash. -/
theorem outcome_obtainThumbnail (library : Library (StateM Bench)) (file : StoredFile)
    (content : Option ByteArray) (bench : Bench) :
    outcome (library.obtainThumbnail file content) bench =
      if library.codec.supports file.kind.mediaKind then
        match outcome (library.makeThumbnail file content) bench with
        | (.ok thumbnail, after) => (.ok (some thumbnail), after)
        | (.error .interrupted, after) => (.error .interrupted, after)
        | (.error _, after) => (.ok none, after)
      else (.ok none, bench) := by
  unfold obtainThumbnail
  split
  · rcases made : outcome (library.makeThumbnail file content) bench with ⟨e | thumbnail, after⟩
    · rw [outcome_bind, outcome_lift made]
      cases e <;> rfl
    · rw [outcome_bind, outcome_lift made]
      rfl
  · rfl

include serves

theorem contentOf_quiet (regular : w.Regular) (file : StoredFile) (content : Option ByteArray) :
    (outcome (library.contentOf file content) w).2 = w ∧
      (outcome (library.contentOf file content) w).1 ≠ .error .interrupted := by
  cases content with
  | some content => exact ⟨rfl, fun failed => by cases failed⟩
  | none =>
    -- a read leaves the bench as it is, and its error says that the storage failed
    have quiet : Keeps (· = w) (library.resolver.read file) := by
      refine Resolver.keeps_require fun store here => ?_
      have regularThen : ∀ v, v = w → ((partAt file.location).get v).Regular := by
        rintro _ rfl
        exact regular.at _
      exact ((serves.holds here).keeps_read regularThen file.name).adapt _
    have adapted : outcome (library.contentOf file none) w =
        ((outcome (library.resolver.read file) w).1.mapError .storage,
          (outcome (library.resolver.read file) w).2) := rfl
    rw [adapted]
    refine ⟨quiet w rfl, fun failed => ?_⟩
    cases answer : (outcome (library.resolver.read file) w).1 with
    | error e =>
      rw [answer] at failed
      cases failed
    | ok content =>
      rw [answer] at failed
      cases failed

/-- A thumbnail is made and stored inside under a name that was free, or nothing changes. -/
theorem makeThumbnail_cases (regular : w.Regular) (file : StoredFile)
    (content : Option ByteArray) :
    (∃ e, outcome (library.makeThumbnail file content) w = (.error e, w) ∧
      (e = .interrupted → ¬library.Answers)) ∨
    ∃ media thumbnail n, outcome (library.contentOf file content) w = (.ok media, w) ∧
      library.codec.thumbnail media file.kind.mediaKind library.width = .made thumbnail ∧
      isValidName (nextName^[n] (thumbnailName file.name)) = true ∧
      w.internal.find? (nextName^[n] (thumbnailName file.name)) = none ∧
      outcome (library.makeThumbnail file content) w =
        (.ok ⟨.internal, nextName^[n] (thumbnailName file.name), thumbnail.size⟩,
          internalPart.set (w.internal.put (nextName^[n] (thumbnailName file.name)) thumbnail) w) := by
  obtain ⟨quiet, storage⟩ := contentOf_quiet serves regular file content
  rw [makeThumbnail, outcome_bind]
  rcases got : outcome (library.contentOf file content) w with ⟨e | media, after⟩
  · rw [got] at quiet storage
    dsimp only at quiet storage
    subst quiet
    exact Or.inl ⟨e, rfl, fun same => absurd (congrArg _ same) storage⟩
  · rw [got] at quiet
    dsimp only at quiet
    subst quiet
    dsimp only
    cases answer : library.codec.thumbnail media file.kind.mediaKind library.width with
    | refused e => exact Or.inl ⟨.media e, rfl, fun same => by cases same⟩
    | crashed => exact Or.inl ⟨.interrupted, rfl, fun _ answers => answers _ _ answer⟩
    | made thumbnail =>
      have inside : library.resolver.store? .internal = some library.resolver.internal := rfl
      rcases Resolver.save_cases serves.internal regular.internal inside
        (thumbnailName file.name) thumbnail with ⟨e, failed⟩ | ⟨n, valid, free, done⟩
      · exact Or.inl ⟨.storage e, outcome_adapt_error failed _, fun same => by cases same⟩
      · exact Or.inr ⟨media, thumbnail, n, rfl, answer, valid, free, outcome_adapt_ok done _⟩

/-- Getting a thumbnail adds at most that, and fails only if the codec crashes. -/
theorem obtainThumbnail_adds (regular : w.Regular) (file : StoredFile)
    (content : Option ByteArray) :
    ThumbnailsAdded w (outcome (library.obtainThumbnail file content) w).2 ∧
      match (outcome (library.obtainThumbnail file content) w).1 with
      | .ok thumbnail => ∀ file ∈ thumbnail, file.IsThumbnailInside
      | .error _ => ¬library.Answers := by
  rw [outcome_obtainThumbnail]
  split
  · rcases makeThumbnail_cases serves regular file content with
      ⟨e, failed, crashed⟩ | ⟨media, thumbnail, n, -, -, valid, free, done⟩
    · rw [failed]
      -- it goes without one, except after a crash
      cases e with
      | interrupted => exact ⟨.refl w, crashed rfl⟩
      | _ => exact ⟨.refl w, fun _ member => by cases member⟩
    · have isThumbnail := isThumbnailName_iterate_nextName
        (isThumbnailName_thumbnailName file.name) n
      rw [done]
      refine ⟨.put w valid free isThumbnail thumbnail, ?_⟩
      rintro _ ⟨⟩
      exact ⟨rfl, isThumbnail⟩
  · exact ⟨.refl w, fun _ member => by cases member⟩

theorem thumbnailFor_adds (regular : w.Regular) (file : StoredFile)
    {thumbnail : Option StoredFile} (isThumbnail : ∀ file ∈ thumbnail, file.IsThumbnailInside)
    (content : Option ByteArray) :
    ThumbnailsAdded w (outcome (library.thumbnailFor file thumbnail content) w).2 ∧
      match (outcome (library.thumbnailFor file thumbnail content) w).1 with
      | .ok thumbnail => ∀ file ∈ thumbnail, file.IsThumbnailInside
      | .error _ => ¬library.Answers := by
  cases thumbnail with
  | some thumbnail => exact ⟨.refl w, isThumbnail⟩
  | none => exact obtainThumbnail_adds serves regular file content

/-! ### Pictures -/

/-- Making a picture adds at most its thumbnail. -/
theorem wrap_adds (regular : w.Regular) (file : StoredFile) {thumbnail : Option StoredFile}
    (isThumbnail : ∀ file ∈ thumbnail, file.IsThumbnailInside) (content : Option ByteArray) :
    ThumbnailsAdded w (outcome (library.wrap file thumbnail content) w).2 ∧
      match (outcome (library.wrap file thumbnail content) w).1 with
      | .ok picture => ∀ file ∈ picture.thumbnail, file.IsThumbnailInside
      | .error _ => library.Answers →
        captureTime file.name library.resolver.zone = none := by
  have obtained := thumbnailFor_adds serves regular file isThumbnail content
  rw [wrap_eq, outcome_bind]
  rcases run : outcome (library.thumbnailFor file thumbnail content) w with ⟨e | thumbnail, after⟩
  · rw [run] at obtained
    exact ⟨obtained.1, fun answers => absurd answers obtained.2⟩
  · rw [run] at obtained
    dsimp only
    cases made : Picture.ofFile file thumbnail library.resolver.zone with
    | none => exact ⟨obtained.1, fun _ => Option.map_eq_none_iff.mp made⟩
    | some picture =>
      obtain ⟨-, same, -⟩ := Picture.ofFile_eq_some made
      refine ⟨obtained.1, ?_⟩
      change ∀ file ∈ picture.thumbnail, file.IsThumbnailInside
      rw [same]
      exact obtained.2

/-- Making the picture of a file that was just stored. -/
theorem wrap_new (regular : w.Regular) (file : StoredFile) (content : Option ByteArray) :
    ThumbnailsAdded w (outcome (library.wrap file none content) w).2 ∧
      match (outcome (library.wrap file none content) w).1 with
      | .ok picture => picture.file = file ∧
          captureTime file.name library.resolver.zone = some picture.time ∧
          ∀ own ∈ picture.thumbnail, own.IsThumbnailInside
      | .error _ => library.Answers →
        captureTime file.name library.resolver.zone = none := by
  have none : ∀ own ∈ (none : Option StoredFile), own.IsThumbnailInside :=
    fun _ member => by cases member
  have adds := wrap_adds serves regular file none content
  rcases made : outcome (library.wrap file .none content) w with ⟨e | picture, after⟩
  · rw [made] at adds
    exact adds
  · rw [made] at adds
    obtain ⟨same, time⟩ := file_of_wrap made
    exact ⟨adds.1, same, time, adds.2⟩

theorem wrapAll_adds {thumbnails : List StoredFile}
    (areThumbnails : ∀ file ∈ thumbnails, file.IsThumbnailInside) (files : List StoredFile)
    (regular : w.Regular) :
    ThumbnailsAdded w (outcome (library.wrapAll thumbnails files) w).2 ∧
      match (outcome (library.wrapAll thumbnails files) w).1 with
      | .ok pictures => ∀ picture ∈ pictures, ∀ file ∈ picture.thumbnail, file.IsThumbnailInside
      | .error _ => library.Answers →
        ∃ file ∈ files, captureTime file.name library.resolver.zone = none := by
  -- by induction on the files, each starting in the bench that the one before has left
  induction files generalizing w with
  | nil => exact ⟨.refl w, fun _ member => by cases member⟩
  | cons file rest ih =>
    have first := wrap_adds serves regular file (find?_inside areThumbnails file.name) none
    rw [wrapAll, outcome_bind]
    rcases wrapped : outcome (library.wrap file (thumbnails.find? (·.name = thumbnailName file.name))
      none) w with ⟨e | picture, between⟩
    · rw [wrapped] at first
      exact ⟨first.1, fun answers => ⟨file, List.mem_cons_self, first.2 answers⟩⟩
    · rw [wrapped] at first
      have others := ih (first.1.regular_bench regular)
      dsimp only
      rw [outcome_bind]
      rcases remaining : outcome (library.wrapAll thumbnails rest) between with ⟨e | pictures, after⟩
      · rw [remaining] at others
        refine ⟨first.1.trans others.1, fun answers => ?_⟩
        obtain ⟨other, member, unknown⟩ := others.2 answers
        exact ⟨other, List.mem_cons_of_mem _ member, unknown⟩
      · rw [remaining] at others
        refine ⟨first.1.trans others.1, fun other member => ?_⟩
        rcases List.mem_cons.mp member with rfl | later
        · exact first.2
        · exact others.2 other later

/-- The list is made of the primary files, with the thumbnails that are there at the beginning. -/
theorem outcome_loadPictures (regular : w.Regular) :
    outcome library.loadPictures w =
      let wrapped := outcome (library.wrapAll ((w.filesAt .internal).filter (·.isThumbnail))
        (library.resolver.primaries w)) w
      (wrapped.1.map Picture.sortByTime, wrapped.2) := by
  have entries := Resolver.outcome_entries serves regular
  rw [loadPictures, storing, outcome_bind_ok (outcome_adapt_ok entries _), outcome_bind_pure]

/-- Making the list adds at most thumbnails, and gives one picture for each primary file. -/
theorem loadPictures_adds (regular : w.Regular) :
    ThumbnailsAdded w (outcome library.loadPictures w).2 ∧
      match (outcome library.loadPictures w).1 with
      | .ok pictures =>
        (pictures.map (·.file)).Perm (library.resolver.primaries w) ∧
          ∀ picture ∈ pictures,
            captureTime picture.file.name library.resolver.zone = some picture.time ∧
            ∀ file ∈ picture.thumbnail, file.IsThumbnailInside
      | .error _ => library.Answers →
        ∃ file ∈ library.resolver.primaries w,
          captureTime file.name library.resolver.zone = none := by
  have wrapped := wrapAll_adds serves w.thumbnails_inside (library.resolver.primaries w) regular
  rw [outcome_loadPictures serves regular]
  rcases run : outcome (library.wrapAll ((w.filesAt .internal).filter (·.isThumbnail))
    (library.resolver.primaries w)) w with ⟨e | unsorted, after⟩
  · rw [run] at wrapped
    exact wrapped
  · rw [run] at wrapped
    obtain ⟨files, times⟩ := files_of_wrapAll run
    have sorted := Picture.perm_sortByTime unsorted
    refine ⟨wrapped.1, ?_, fun picture member => ?_⟩
    · rw [← files]
      exact sorted.map _
    · have among := sorted.mem_iff.mp member
      exact ⟨times picture among, wrapped.2 picture among⟩

end Library

end CameraRoll
