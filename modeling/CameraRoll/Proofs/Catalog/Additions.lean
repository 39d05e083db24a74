import CameraRoll.Proofs.Catalog.Thumbnails
import CameraRoll.Proofs.Resolver.Fresh

/-!
The files that come to a bench when the picture of a file is made. Main statement: `wrap_exact`, that
it gets a thumbnail, which is all that is stored, or that there is a reason why it has none.
-/

namespace CameraRoll

open CameraRoll.Naming

open Bench Library

/-! ### Files that are added -/

namespace Bench

/-- The bench with more files in a location, behind those that are there. -/
def adding (location : Location) (files : List (String × ByteArray)) (bench : Bench) : Bench :=
  let store := (partAt location).get bench
  (partAt location).set { store with files := store.files ++ files } bench

/-- A name is the first one free in a location among those that are tried for `name`. -/
def IsFirstFree (bench : Bench) (location : Location) (name free : String) : Prop :=
  ∃ n, free = nextName^[n] name ∧ ¬bench.Has location free ∧
    ∀ k < n, bench.Has location (nextName^[k] name)

variable {bench : Bench} {location elsewhere : Location} {name : String} {content : ByteArray}
  {files : List (String × ByteArray)}

@[simp] theorem adding_nil : bench.adding location [] = bench := by
  rw [adding, List.append_nil]
  exact (partAt location).set_get bench

theorem adding_adding (more : List (String × ByteArray)) :
    (bench.adding location files).adding location more = bench.adding location (files ++ more) := by
  simp only [adding, Part.get_set, Part.set_set, List.append_assoc]

theorem put_eq_adding (location : Location) (content : ByteArray)
    (free : ((partAt location).get bench).find? name = none) :
    (partAt location).set (((partAt location).get bench).put name content) bench =
      bench.adding location [(name, content)] := by
  rw [MemoryStore.put_of_free free, adding]

/-- What is there is not touched by what is added. -/
theorem find?_adding
    (found : ((partAt elsewhere).get bench).find? name = some content) :
    ((partAt elsewhere).get (bench.adding location files)).find? name = some content := by
  by_cases same : elsewhere = location
  · subst same
    have first : ((partAt elsewhere).get bench).files.lookup name = some content := found
    rw [adding, Part.get_set, MemoryStore.find?, List.lookup_append, first]
    rfl
  · rw [adding, get_set_of_ne same]
    exact found

theorem Has.adding (present : bench.Has elsewhere name) (location : Location)
    (files : List (String × ByteArray)) : (bench.adding location files).Has elsewhere name := by
  obtain ⟨content, found⟩ := Option.isSome_iff_exists.mp present
  exact Option.isSome_iff_exists.mpr ⟨content, find?_adding found⟩

theorem finds_adding {resolver : Resolver (StateM Bench)} {file : StoredFile}
    (found : resolver.Finds bench file) (location : Location) (files : List (String × ByteArray)) :
    resolver.Finds (bench.adding location files) file :=
  ⟨found.1, found.2.adding location files⟩

theorem find?_of_adding (elsewhere : Location)
    (free : ((partAt elsewhere).get (bench.adding location files)).find? name = none) :
    ((partAt elsewhere).get bench).find? name = none := by
  cases found : ((partAt elsewhere).get bench).find? name with
  | none => rfl
  | some content => cases (find?_adding found).symm.trans free

theorem ThumbnailsAdded.exists_adding {after : Bench} (added : ThumbnailsAdded bench after) :
    ∃ more, after = bench.adding .internal more := by
  obtain ⟨more, files, -⟩ := added.files
  have inside : after.internal = { bench.internal with files := bench.internal.files ++ more } := by
    rw [← files]
    exact congrArg (MemoryStore.mk after.internal.files) added.faults
  refine ⟨more, ?_⟩
  rw [added.elsewhere, inside]
  rfl

theorem primaries_adding (resolver : Resolver (StateM Bench))
    (thumbnails : ∀ file ∈ files, isThumbnailName file.1 = true) :
    resolver.primaries (bench.adding .internal files) = resolver.primaries bench := by
  -- inside only what is no thumbnail can be primary
  have others : (files.filter fun file => !isThumbnailName file.1) = [] := by
    simpa using thumbnails
  refine Resolver.primaries_eq rfl ?_
  change (bench.internal.files ++ files).filter _ = bench.internal.files.filter _
  rw [List.filter_append, others, List.append_nil]

/-- A search that was refused only names that are taken has found the first one free. -/
theorem isFirstFree_of_search {resolver : Resolver (StateM Bench)} (backs : Backs resolver)
    (sound : bench.Sound) {store : Store (StateM Bench)}
    (here : resolver.store? location = some store) {n : Nat}
    (earlier : ∀ k < n, ∃ other, outcome (store.create (nextName^[k] name) .empty) bench =
      (.error (.alreadyExists other), bench))
    (free : ((partAt location).get bench).find? (nextName^[n] name) = none) :
    bench.IsFirstFree location name (nextName^[n] name) := by
  refine ⟨n, rfl, by simp [Has, free], fun k few => ?_⟩
  obtain ⟨other, refused⟩ := earlier k few
  exact backs.taken here bench _ _ other (sound.regular.at location) (sound.truthful location)
    (congrArg Prod.fst refused)

end Bench

/-! ### Thumbnails that are asked for -/

/-- What comes of asking for a thumbnail of media that goes by a name: none, if such media is not
supported, the codec refuses it or the thumbnail cannot be stored, or else the codec's thumbnail
under the first free name. -/
inductive Library.Thumbnailed (library : Library (StateM Bench)) (before : Bench) (name : String)
    (media : ByteArray) (kind : MediaKind) :
    Option StoredFile → List (String × ByteArray) → Prop
  | unsupported (not : library.codec.supports kind = false) :
      Thumbnailed library before name media kind none []
  | refused {e : MediaError} (not : library.codec.thumbnail media kind library.width = .refused e) :
      Thumbnailed library before name media kind none []
  | unstored {thumbnail : ByteArray} {e : ResolverError}
      (made : library.codec.thumbnail media kind library.width = .made thumbnail)
      (not : outcome (library.resolver.save .internal (thumbnailName name) thumbnail) before =
        (.error e, before)) :
      Thumbnailed library before name media kind none []
  | stored {thumbnail : ByteArray} {free : String} (supported : library.codec.supports kind = true)
      (made : library.codec.thumbnail media kind library.width = .made thumbnail)
      (isFree : before.IsFirstFree .internal (thumbnailName name) free)
      (done : outcome (library.resolver.save .internal (thumbnailName name) thumbnail) before =
        (.ok ⟨.internal, free, thumbnail.size⟩, before.adding .internal [(free, thumbnail)])) :
      Thumbnailed library before name media kind (some ⟨.internal, free, thumbnail.size⟩)
        [(free, thumbnail)]

namespace Library.Thumbnailed

variable {library : Library (StateM Bench)} {before : Bench} {name : String} {media : ByteArray}
  {kind : MediaKind} {thumbnail : Option StoredFile} {files : List (String × ByteArray)}
  (thumbnailed : library.Thumbnailed before name media kind thumbnail files)
include thumbnailed

theorem isThumbnailName : ∀ file ∈ files, isThumbnailName file.1 = true := by
  cases thumbnailed with
  | stored supported made isFree done =>
    intro file member
    obtain ⟨n, rfl, -, -⟩ := isFree
    rw [List.mem_singleton.mp member]
    exact isThumbnailName_iterate_nextName (isThumbnailName_thumbnailName name) n
  | _ =>
    intro file member
    cases member

theorem inside : ∀ own ∈ thumbnail, own.IsThumbnailInside := by
  have named := thumbnailed.isThumbnailName
  cases thumbnailed with
  | stored supported made isFree done =>
    rintro _ ⟨⟩
    exact ⟨rfl, named _ (List.mem_singleton_self _)⟩
  | _ =>
    intro own isOwn
    cases isOwn

end Library.Thumbnailed

namespace Library

variable {library : Library (StateM Bench)} {bench : Bench} {file : StoredFile}
  {content : Option ByteArray} {media : ByteArray}

section Asking

variable (got : outcome (library.contentOf file content) bench = (.ok media, bench))
include got

theorem outcome_makeThumbnail :
    outcome (library.makeThumbnail file content) bench =
      match library.codec.thumbnail media file.kind.mediaKind library.width with
      | .made thumbnail =>
        outcome (storing (library.resolver.save .internal (thumbnailName file.name) thumbnail))
          bench
      | .refused e => (.error (.media e), bench)
      | .crashed => (.error .interrupted, bench) := by
  rw [makeThumbnail, outcome_bind_ok got]
  cases library.codec.thumbnail media file.kind.mediaKind library.width <;> rfl

theorem obtainThumbnail_crashed (supported : library.codec.supports file.kind.mediaKind = true)
    (crashed : library.codec.thumbnail media file.kind.mediaKind library.width = .crashed) :
    outcome (library.obtainThumbnail file content) bench = (.error .interrupted, bench) := by
  rw [outcome_obtainThumbnail, if_pos supported, outcome_makeThumbnail got, crashed]

variable (backs : Backs library.resolver) (sound : bench.Sound)
  (returns : library.codec.supports file.kind.mediaKind = true →
    library.codec.thumbnail media file.kind.mediaKind library.width ≠ .crashed)
include backs sound returns

theorem obtainThumbnail_exact :
    ∃ thumbnail files,
      outcome (library.obtainThumbnail file content) bench =
        (.ok thumbnail, bench.adding .internal files) ∧
      library.Thumbnailed bench file.name media file.kind.mediaKind thumbnail files := by
  rw [outcome_obtainThumbnail]
  split
  next supported =>
    rw [outcome_makeThumbnail got]
    -- by the codec's answer, and then the store's
    cases answer : library.codec.thumbnail media file.kind.mediaKind library.width with
    | crashed => exact absurd answer (returns supported)
    | refused e => exact ⟨none, [], by rw [adding_nil], .refused answer⟩
    | made thumbnail =>
      have inside : library.resolver.store? .internal = some library.resolver.internal := rfl
      dsimp only
      rcases Resolver.save_searched backs.internal sound.regular.internal inside
        (thumbnailName file.name) thumbnail with ⟨e, failed⟩ | ⟨n, earlier, -, free, done⟩
      · refine ⟨none, [], ?_, .unstored answer failed⟩
        rw [storing, outcome_adapt_error failed, adding_nil]
      · have isFree := isFirstFree_of_search backs sound inside earlier free
        have put := put_eq_adding .internal thumbnail free
        refine ⟨_, _, ?_, .stored supported answer isFree (done.trans (congrArg _ put))⟩
        rw [storing, outcome_adapt_ok done]
        exact congrArg (Prod.mk _) put
  next unsupported =>
    exact ⟨none, [], by rw [adding_nil], .unsupported (Bool.eq_false_iff.mpr unsupported)⟩

/-- The picture of a file whose name has a time: as long as the codec does not crash it is made, and
nothing is stored but its thumbnail. -/
theorem wrap_exact {time : Calendar.ZonedTime}
    (known : captureTime file.name library.resolver.zone = some time) :
    ∃ thumbnail files,
      outcome (library.wrap file none content) bench =
        (.ok ⟨file, thumbnail, file.kind.mediaKind, time⟩, bench.adding .internal files) ∧
      library.Thumbnailed bench file.name media file.kind.mediaKind thumbnail files := by
  obtain ⟨thumbnail, files, obtained, thumbnailed⟩ :=
    obtainThumbnail_exact got backs sound returns
  refine ⟨thumbnail, files, ?_, thumbnailed⟩
  have asked : outcome (library.thumbnailFor file none content) bench = _ := obtained
  rw [wrap_eq, outcome_bind_ok asked, Picture.ofFile_of_time known]
  rfl

end Asking

end Library

end CameraRoll
