import CameraRoll.Proofs.Catalog.Order
import CameraRoll.Proofs.Outcome
import CameraRoll.Catalog.Basic

/-!
Making pictures of files, whatever the stores and the codec answer. Main statements: `file_of_wrap`,
that a picture has the file and the time of its name, `inOrder_loadPictures`, that a list is made
in order, and `filter_loadPictures`, that files of one time stay as they were listed.
-/

namespace CameraRoll

open CameraRoll.Naming

variable {W : Type}

theorem Picture.ofFile_eq_some {file : StoredFile} {thumbnail : Option StoredFile}
    {zone : Calendar.Zone} {picture : Picture}
    (made : Picture.ofFile file thumbnail zone = some picture) :
    picture.file = file ∧ picture.thumbnail = thumbnail ∧
      captureTime file.name zone = some picture.time := by
  obtain ⟨time, known, rfl⟩ := Option.map_eq_some_iff.mp made
  exact ⟨rfl, rfl, known⟩

theorem Picture.ofFile_of_time {file : StoredFile} {zone : Calendar.Zone}
    {time : Calendar.ZonedTime} (known : captureTime file.name zone = some time)
    (thumbnail : Option StoredFile) :
    Picture.ofFile file thumbnail zone = some ⟨file, thumbnail, file.kind.mediaKind, time⟩ := by
  rw [Picture.ofFile, known]
  rfl

namespace Library

variable {library : Library (StateM W)} {w after : W}

/-- The thumbnail at hand, or else one that is made. -/
def thumbnailFor (library : Library (StateM W)) (file : StoredFile)
    (thumbnail : Option StoredFile) (content : Option ByteArray) :
    ExceptT CatalogError (StateM W) (Option StoredFile) :=
  match thumbnail with
  | some thumbnail => pure (some thumbnail)
  | none => library.obtainThumbnail file content

theorem wrap_eq (file : StoredFile) (thumbnail : Option StoredFile) (content : Option ByteArray) :
    library.wrap file thumbnail content =
      library.thumbnailFor file thumbnail content >>= fun thumbnail =>
        match Picture.ofFile file thumbnail library.resolver.zone with
        | some picture => pure picture
        | none => throw .interrupted := by
  unfold wrap thumbnailFor
  cases thumbnail <;> rfl

/-- A picture that was made is that of its file and of the thumbnail that was got for it. -/
theorem exists_of_wrap {file : StoredFile} {thumbnail : Option StoredFile}
    {content : Option ByteArray} {picture : Picture}
    (wrapped : outcome (library.wrap file thumbnail content) w = (.ok picture, after)) :
    ∃ obtained,
      outcome (library.thumbnailFor file thumbnail content) w = (.ok obtained, after) ∧
      Picture.ofFile file obtained library.resolver.zone = some picture := by
  rw [wrap_eq, outcome_bind] at wrapped
  split at wrapped
  next obtained between ran =>
    cases made : Picture.ofFile file obtained library.resolver.zone with
    | none =>
      rw [made] at wrapped
      cases wrapped
    | some picture =>
      rw [made] at wrapped
      cases wrapped
      exact ⟨obtained, ran, made⟩
  · cases wrapped

/-- The picture of a file, whatever becomes of its thumbnail. -/
theorem file_of_wrap {file : StoredFile} {thumbnail : Option StoredFile}
    {content : Option ByteArray} {picture : Picture}
    (wrapped : outcome (library.wrap file thumbnail content) w = (.ok picture, after)) :
    picture.file = file ∧ captureTime file.name library.resolver.zone = some picture.time := by
  obtain ⟨obtained, -, made⟩ := exists_of_wrap wrapped
  obtain ⟨same, -, known⟩ := Picture.ofFile_eq_some made
  exact ⟨same, known⟩

/-- Of several files, the others are turned to in the bench that the first one has left. -/
theorem exists_of_wrapAll {thumbnails rest : List StoredFile} {file : StoredFile}
    {pictures : List Picture}
    (wrapped : outcome (library.wrapAll thumbnails (file :: rest)) w = (.ok pictures, after)) :
    ∃ picture others between, pictures = picture :: others ∧
      outcome (library.wrap file (thumbnails.find? (·.name = thumbnailName file.name)) none) w =
        (.ok picture, between) ∧
      outcome (library.wrapAll thumbnails rest) between = (.ok others, after) := by
  rw [wrapAll, outcome_bind] at wrapped
  split at wrapped
  next picture between first =>
    rw [outcome_bind] at wrapped
    split at wrapped
    next others last remaining =>
      cases wrapped
      exact ⟨picture, others, between, rfl, first, remaining⟩
    · cases wrapped
  · cases wrapped

theorem files_of_wrapAll {thumbnails files : List StoredFile} {pictures : List Picture}
    (wrapped : outcome (library.wrapAll thumbnails files) w = (.ok pictures, after)) :
    pictures.map (·.file) = files ∧
      ∀ picture ∈ pictures,
        captureTime picture.file.name library.resolver.zone = some picture.time := by
  -- by induction on the files: each picture is made where the making of the one before has left off
  induction files generalizing w after pictures with
  | nil =>
    cases wrapped
    exact ⟨rfl, fun _ member => by cases member⟩
  | cons file rest ih =>
    obtain ⟨picture, others, between, rfl, first, remaining⟩ := exists_of_wrapAll wrapped
    obtain ⟨same, known⟩ := file_of_wrap first
    obtain ⟨files, times⟩ := ih remaining
    refine ⟨by rw [List.map_cons, same, files], fun other member => ?_⟩
    rcases List.mem_cons.mp member with rfl | among
    · rw [same]
      exact known
    · exact times other among

theorem eq_of_loadPictures {pictures : List Picture}
    (loaded : outcome library.loadPictures w = (.ok pictures, after)) :
    ∃ entries between unsorted,
      outcome library.resolver.entries w = (.ok entries, between) ∧
      outcome (library.wrapAll entries.thumbnails entries.pictures) between =
        (.ok unsorted, after) ∧
      pictures = Picture.sortByTime unsorted := by
  rw [loadPictures, storing, outcome_bind, outcome_adapt] at loaded
  rcases enumerated : outcome library.resolver.entries w with ⟨_ | entries, between⟩
  · rw [enumerated] at loaded
    cases loaded
  · rw [enumerated] at loaded
    dsimp only [Except.mapError] at loaded
    rw [outcome_bind] at loaded
    split at loaded
    next unsorted _ wrapped =>
      cases loaded
      exact ⟨entries, between, unsorted, rfl, wrapped, rfl⟩
    · cases loaded

theorem inOrder_loadPictures {pictures : List Picture}
    (loaded : outcome library.loadPictures w = (.ok pictures, after)) : InOrder pictures := by
  obtain ⟨-, -, unsorted, -, -, rfl⟩ := eq_of_loadPictures loaded
  exact Picture.inOrder_sortByTime unsorted

/-- A list that was just made has the files of the entries, each dated by its name. -/
theorem perm_loadPictures {pictures : List Picture}
    (loaded : outcome library.loadPictures w = (.ok pictures, after)) :
    ∃ entries between, outcome library.resolver.entries w = (.ok entries, between) ∧
      (pictures.map (·.file)).Perm entries.pictures ∧
      ∀ picture ∈ pictures,
        captureTime picture.file.name library.resolver.zone = some picture.time := by
  obtain ⟨entries, between, unsorted, enumerated, wrapped, rfl⟩ := eq_of_loadPictures loaded
  obtain ⟨files, times⟩ := files_of_wrapAll wrapped
  have sorted := Picture.perm_sortByTime unsorted
  exact ⟨entries, between, enumerated, (sorted.map _).trans (.of_eq files),
    fun picture member => times picture (sorted.mem_iff.mp member)⟩

/-- In a list that was just made, files of one time stand in the order of the entries. -/
theorem filter_loadPictures {pictures : List Picture}
    (loaded : outcome library.loadPictures w = (.ok pictures, after)) :
    ∃ entries between, outcome library.resolver.entries w = (.ok entries, between) ∧
      ∀ time, (pictures.filter (·.instant = time)).map (·.file) =
        entries.pictures.filter fun file =>
          (captureTime file.name library.resolver.zone).map (·.instant.nanos) = some time := by
  obtain ⟨entries, between, unsorted, enumerated, wrapped, rfl⟩ := eq_of_loadPictures loaded
  obtain ⟨files, times⟩ := files_of_wrapAll wrapped
  refine ⟨entries, between, enumerated, fun time => ?_⟩
  rw [Picture.filter_sortByTime, ← files, List.filter_map]
  refine congrArg _ (List.filter_congr fun picture member => ?_)
  -- the pictures' times are those of their names
  simp [times picture member, Picture.instant]
  rfl

end Library

end CameraRoll
