import CameraRoll.Proofs.Catalog.Additions
import CameraRoll.Proofs.Catalog.Steps

/-!
What the making of the list leaves behind. Main statement: `load_whole`, that every primary file gets
its picture, nothing is stored but thumbnails that were missing, and the codec is asked only for
those.
-/

namespace CameraRoll

open CameraRoll.Naming

open Bench Library

/-- A file is the codec's thumbnail of a picture as it is stored, under a name that is tried for it,
and the picture's thumbnail. -/
structure Library.MadeFor (library : Library (StateM Bench)) (bench : Bench) (picture : Picture)
    (file : String × ByteArray) : Prop where
  supported : library.codec.supports picture.file.kind.mediaKind = true
  made : ∃ media,
    ((partAt picture.file.location).get bench).find? picture.name = some media ∧
    library.codec.thumbnail media picture.file.kind.mediaKind library.width = .made file.2
  name : ∃ n, file.1 = nextName^[n] (thumbnailName picture.name)
  own : picture.thumbnail = some ⟨.internal, file.1, file.2.size⟩

namespace Library

variable {library : Library (StateM Bench)} {bench after : Bench} {file : StoredFile}

theorem contentOf_stored (serves : Serves library.resolver) (regular : bench.Regular)
    (stored : library.resolver.Finds bench file) :
    ∃ media, ((partAt file.location).get bench).find? file.name = some media ∧
      outcome (library.contentOf file none) bench = (.ok media, bench) := by
  obtain ⟨here, there⟩ := stored
  obtain ⟨store, here⟩ := Option.isSome_iff_exists.mp here
  obtain ⟨media, found⟩ := Option.isSome_iff_exists.mp there
  have read := (serves.holds here).read bench file.name media (regular.at file.location) found
  have got : outcome (library.resolver.read file) bench = (.ok media, bench) := by
    rw [Resolver.read, outcome_bind_ok (Resolver.outcome_require here bench)]
    exact outcome_adapt_ok read _
  exact ⟨media, found, outcome_adapt_ok got _⟩

/-! ### One picture after the other -/

/-- The picture of a stored file has the thumbnail at hand, and otherwise the one that is all that
was stored, if there is one. -/
theorem wrap_stored (backs : Backs library.resolver) (sound : bench.Sound)
    (stored : library.resolver.Finds bench file) {thumbnail : Option StoredFile} {picture : Picture}
    (wrapped : outcome (library.wrap file thumbnail none) bench = (.ok picture, after)) :
    (∀ own ∈ thumbnail, picture.thumbnail = some own) ∧
    ∃ added, after = bench.adding .internal added ∧
      ∀ new ∈ added, bench.internal.find? new.1 = none ∧ library.MadeFor bench picture new := by
  obtain ⟨time, known⟩ : ∃ time, captureTime file.name library.resolver.zone = some time :=
    ⟨_, (file_of_wrap wrapped).2⟩
  cases thumbnail with
  | some own =>
    obtain ⟨_, ran, made⟩ := exists_of_wrap wrapped
    cases ran
    obtain ⟨-, thumbnail, -⟩ := Picture.ofFile_eq_some made
    refine ⟨?_, [], adding_nil.symm, fun _ member => by cases member⟩
    rintro _ ⟨⟩
    exact thumbnail
  | none =>
    obtain ⟨media, found, got⟩ := contentOf_stored backs.toServes sound.regular stored
    -- a crash would have broken off the work
    have returns : library.codec.supports file.kind.mediaKind = true →
        library.codec.thumbnail media file.kind.mediaKind library.width ≠ .crashed := by
      intro supported crashed
      obtain ⟨_, ran, -⟩ := exists_of_wrap wrapped
      have failed : outcome (library.thumbnailFor file none none) bench = _ :=
        obtainThumbnail_crashed got supported crashed
      cases failed.symm.trans ran
    obtain ⟨thumbnail, added, made, thumbnailed⟩ := wrap_exact got backs sound returns known
    rw [made] at wrapped
    cases wrapped
    refine ⟨fun _ isOwn => (by cases isOwn), added, rfl, fun new member => ?_⟩
    cases thumbnailed with
    | stored supported answer isFree done =>
      cases List.mem_singleton.mp member
      obtain ⟨n, named, free, -⟩ := isFree
      exact ⟨Option.not_isSome_iff_eq_none.mp free, supported, ⟨media, found, answer⟩, ⟨n, named⟩,
        rfl⟩
    | _ => cases member

/-- A thumbnail that was made for a picture later is one that was made for it. -/
theorem MadeFor.earlier {picture : Picture} {file : String × ByteArray}
    {more : List (String × ByteArray)}
    (made : library.MadeFor (bench.adding .internal more) picture file)
    (stored : bench.Has picture.file.location picture.file.name) :
    library.MadeFor bench picture file where
  supported := made.supported
  made := by
    obtain ⟨media, found, thumbnail⟩ := made.made
    obtain ⟨content, first⟩ := Option.isSome_iff_exists.mp stored
    cases (find?_adding first).symm.trans found
    exact ⟨_, first, thumbnail⟩
  name := made.name
  own := made.own

/-- The pictures of stored files have the thumbnails that were listed under their names, and what was
stored are thumbnails of others among them. -/
theorem wrapAll_stored (backs : Backs library.resolver) {thumbnails files : List StoredFile}
    (inside : ∀ file ∈ thumbnails, file.IsThumbnailInside) (sound : bench.Sound)
    (stored : ∀ file ∈ files, library.resolver.Finds bench file)
    {pictures : List Picture}
    (wrapped : outcome (library.wrapAll thumbnails files) bench = (.ok pictures, after)) :
    (∀ picture ∈ pictures, ∀ own ∈ thumbnails.find? (·.name = thumbnailName picture.name),
      picture.thumbnail = some own) ∧
    ∃ added, after = bench.adding .internal added ∧
      ∀ new ∈ added, bench.internal.find? new.1 = none ∧
        ∃ picture ∈ pictures, library.MadeFor bench picture new := by
  -- by induction on the files, each starting in the bench that the one before has left
  induction files generalizing bench pictures with
  | nil =>
    cases wrapped
    refine ⟨?_, [], adding_nil.symm, ?_⟩
    · intro _ member
      cases member
    · intro _ member
      cases member
  | cons file rest ih =>
    obtain ⟨picture, others, between, rfl, first, remaining⟩ := exists_of_wrapAll wrapped
    obtain ⟨there, later⟩ := List.forall_mem_cons.mp stored
    obtain ⟨same, -⟩ := file_of_wrap first
    have sound' : between.Sound := by
      have adds := (wrap_adds backs.toServes sound.regular file (find?_inside inside file.name) none).1
      rw [first] at adds
      exact sound.added adds
    obtain ⟨own, added, rfl, news⟩ := wrap_stored backs sound there first
    obtain ⟨owns, more, rfl, news'⟩ := ih sound'
      (fun other member => finds_adding (later other member) .internal added) remaining
    refine ⟨List.forall_mem_cons.mpr ⟨?_, owns⟩, added ++ more, adding_adding more, ?_⟩
    · rw [Picture.name, same]
      exact own
    · intro new member
      rcases List.mem_append.mp member with early | late
      · obtain ⟨free, made⟩ := news new early
        exact ⟨free, picture, List.mem_cons_self, made⟩
      · obtain ⟨free, other, among, made⟩ := news' new late
        obtain ⟨files, -⟩ := files_of_wrapAll remaining
        have listed : other.file ∈ rest := files ▸ List.mem_map_of_mem among
        have free' : ((partAt .internal).get (bench.adding .internal added)).find? new.1 = none :=
          free
        exact ⟨find?_of_adding .internal free', other, List.mem_cons_of_mem _ among,
          made.earlier (later other.file listed).2⟩

end Library

/-! ### Codecs that are not asked -/

/-- Two codecs give the same answers about a file as it is stored. -/
structure Codec.AgreesOn (codec other : Codec) (width : Nat) (bench : Bench) (file : StoredFile) :
    Prop where
  supports : other.supports file.kind.mediaKind = codec.supports file.kind.mediaKind
  thumbnail : ∀ media, ((partAt file.location).get bench).find? file.name = some media →
    other.thumbnail media file.kind.mediaKind width =
      codec.thumbnail media file.kind.mediaKind width

namespace Bench

variable {bench : Bench}

/-- The thumbnails inside are found by their names. -/
theorem find?_thumbnails (regular : bench.Regular) {name : String} {content : ByteArray}
    (isThumbnail : isThumbnailName name = true) (found : bench.internal.find? name = some content) :
    ((bench.filesAt .internal).filter (·.isThumbnail)).find? (·.name = name) =
      some ⟨.internal, name, content.size⟩ := by
  have listed : (⟨.internal, name, content.size⟩ : StoredFile) ∈
      (bench.filesAt .internal).filter (·.isThumbnail) :=
    List.mem_filter.mpr ⟨List.mem_map.mpr ⟨_, MemoryStore.mem_of_find? found, rfl⟩, isThumbnail⟩
  cases first : ((bench.filesAt .internal).filter (·.isThumbnail)).find? (·.name = name) with
  | none => simpa using List.find?_eq_none.mp first _ listed
  | some own =>
    -- there is only one file of this name
    obtain ⟨file, member, rfl⟩ :=
      List.mem_map.mp (List.mem_filter.mp (List.mem_of_find?_eq_some first)).1
    have same : file.1 = name := by simpa using List.find?_some first
    have only := MemoryStore.find?_of_mem regular.internal.distinct member
    rw [same] at only
    cases only.symm.trans found
    rw [same]

end Bench

namespace Library

variable {resolver : Resolver (StateM Bench)} (serves : Serves resolver) {codec other : Codec}
  {width : Nat} {bench : Bench}
include serves

theorem wrap_alike (regular : bench.Regular) {file : StoredFile} {thumbnail : Option StoredFile}
    (stored : resolver.Finds bench file)
    (agree : thumbnail = none → codec.AgreesOn other width bench file) :
    outcome ((Bench.library resolver other width).wrap file thumbnail none) bench =
      outcome ((Bench.library resolver codec width).wrap file thumbnail none) bench := by
  rw [wrap_eq, wrap_eq, outcome_bind, outcome_bind]
  suffices same : outcome ((Bench.library resolver other width).thumbnailFor file thumbnail none)
      bench = outcome ((Bench.library resolver codec width).thumbnailFor file thumbnail none)
        bench by
    rw [same]
    rfl
  -- a codec is asked only for a thumbnail that was not found
  cases thumbnail with
  | some own => rfl
  | none =>
    have agree := agree rfl
    have serves' : Serves (Bench.library resolver codec width).resolver := serves
    obtain ⟨media, found, got⟩ := contentOf_stored serves' regular stored
    have got' : outcome ((Bench.library resolver other width).contentOf file none) bench =
      (.ok media, bench) := got
    let asked := Bench.library resolver codec width
    let asked' := Bench.library resolver other width
    have supports : asked'.codec.supports file.kind.mediaKind =
        asked.codec.supports file.kind.mediaKind := agree.supports
    have thumbnail : asked'.codec.thumbnail media file.kind.mediaKind asked'.width =
        asked.codec.thumbnail media file.kind.mediaKind asked.width := agree.thumbnail media found
    have made : outcome (asked'.makeThumbnail file none) bench =
        outcome (asked.makeThumbnail file none) bench := by
      rw [outcome_makeThumbnail got', outcome_makeThumbnail got, thumbnail]
      rfl
    change outcome (asked'.obtainThumbnail file none) bench =
      outcome (asked.obtainThumbnail file none) bench
    rw [outcome_obtainThumbnail, outcome_obtainThumbnail, supports, made]

theorem wrapAll_alike (regular : bench.Regular) {thumbnails files : List StoredFile}
    (inside : ∀ file ∈ thumbnails, file.IsThumbnailInside)
    (stored : ∀ file ∈ files, resolver.Finds bench file)
    (agree : ∀ file ∈ files, thumbnails.find? (·.name = thumbnailName file.name) = none →
      codec.AgreesOn other width bench file) :
    outcome ((Bench.library resolver other width).wrapAll thumbnails files) bench =
      outcome ((Bench.library resolver codec width).wrapAll thumbnails files) bench := by
  -- by induction on the files; those of the rest are stored then as they are now
  induction files generalizing bench with
  | nil => rfl
  | cons file rest ih =>
    obtain ⟨there, later⟩ := List.forall_mem_cons.mp stored
    obtain ⟨first, others⟩ := List.forall_mem_cons.mp agree
    have serves' : Serves (Bench.library resolver codec width).resolver := serves
    have adds := (wrap_adds serves' regular file (find?_inside inside file.name) none).1
    rw [wrapAll, wrapAll, outcome_bind, outcome_bind, wrap_alike serves regular there first]
    rcases wrapped : outcome ((Bench.library resolver codec width).wrap file
      (thumbnails.find? (·.name = thumbnailName file.name)) none) bench with ⟨e | picture, between⟩
    · rfl
    · rw [wrapped] at adds
      obtain ⟨more, rfl⟩ := adds.exists_adding
      have regular' : (bench.adding .internal more).Regular := adds.regular_bench regular
      have remaining : outcome ((Bench.library resolver other width).wrapAll thumbnails rest)
          (bench.adding .internal more) =
            outcome ((Bench.library resolver codec width).wrapAll thumbnails rest)
              (bench.adding .internal more) := by
        apply ih regular'
        · exact fun file member => finds_adding (later file member) .internal more
        · intro file member missing
          refine ⟨(others file member missing).supports, fun media found => ?_⟩
          obtain ⟨content, first⟩ := Option.isSome_iff_exists.mp (later file member).2
          cases (find?_adding first).symm.trans found
          exact (others file member missing).thumbnail _ first
      dsimp only
      rw [outcome_bind, outcome_bind, remaining]

/-- Codecs that differ only on files that have a thumbnail inside make the same list. -/
theorem loadPictures_alike (regular : bench.Regular)
    (agree : ∀ file ∈ resolver.primaries bench,
      bench.internal.find? (thumbnailName file.name) = none →
      codec.AgreesOn other width bench file) :
    outcome (Bench.library resolver other width).loadPictures bench =
      outcome (Bench.library resolver codec width).loadPictures bench := by
  have same := wrapAll_alike serves regular bench.thumbnails_inside
    (fun file => Resolver.finds_of_primary regular) fun file member missing =>
      agree file member <| by
        -- if there were one, it would have been listed
        cases found : bench.internal.find? (thumbnailName file.name) with
        | none => rfl
        | some content =>
          have named := isThumbnailName_thumbnailName file.name
          cases missing.symm.trans (find?_thumbnails regular named found)
  have serves' (codec : Codec) : Serves (Bench.library resolver codec width).resolver := serves
  rw [outcome_loadPictures (serves' other) regular, outcome_loadPictures (serves' codec) regular]
  exact congrArg (fun wrapped => (wrapped.1.map Picture.sortByTime, wrapped.2)) same

end Library

/-- If the list can be made, it has one picture for each primary file. Nothing is stored but
thumbnails that the codec made of pictures without one, under names that were free; a file that goes
by the name of a picture's thumbnail is its thumbnail, and what the codec says of that picture does
not matter. -/
theorem load_whole (internal : Setup) (external : Option Setup) (zone : Calendar.Zone)
    (codec : Codec) (width : Nat) {bench : Bench} (sound : bench.Sound) {catalog : Catalog}
    (unloaded : catalog.listing = .unloaded) :
    let resolver := Bench.resolver internal external zone
    let library := Bench.library resolver codec width
    let run := performed library.load catalog bench
    (∃ thumbnails,
      outcome resolver.entries bench = (.ok ⟨resolver.primaries bench, thumbnails⟩, bench)) ∧
    (run.1.1 = .ok () → ∃ pictures added,
      run.1.2.listing = .loaded pictures ∧
      (pictures.map (·.file)).Perm (resolver.primaries bench) ∧
      run.2 = bench.adding .internal added ∧
      (∀ location name content, ((partAt location).get bench).find? name = some content →
        ((partAt location).get run.2).find? name = some content) ∧
      (∀ new ∈ added, bench.internal.find? new.1 = none ∧
        ∃ picture ∈ pictures, library.MadeFor bench picture new) ∧
      (∀ picture ∈ pictures, ∀ content,
        bench.internal.find? (thumbnailName picture.name) = some content →
        picture.thumbnail = some ⟨.internal, thumbnailName picture.name, content.size⟩)) ∧
    ∀ other : Codec,
      (∀ file ∈ resolver.primaries bench, bench.internal.find? (thumbnailName file.name) = none →
        codec.AgreesOn other width bench file) →
      performed (Bench.library resolver other width).load catalog bench = run := by
  intro resolver library run
  have backs : Backs resolver := Bench.backs_resolver internal external zone
  have entries := Resolver.outcome_entries backs.toServes sound.regular
  have inside := bench.thumbnails_inside
  have stored : ∀ file ∈ resolver.primaries bench, resolver.Finds bench file :=
    fun file => Resolver.finds_of_primary sound.regular
  refine ⟨⟨_, entries⟩, fun answered => ?_, fun other agree => ?_⟩
  -- from the list that was made back to the pictures as they were made, in the order of the files
  · have ran : run = _ := performed_load_of_unloaded library unloaded bench
    rcases made : outcome library.loadPictures bench with ⟨e | pictures, after⟩
    · rw [made] at ran
      rw [ran] at answered
      cases answered
    · rw [made] at ran
      dsimp only at ran
      obtain ⟨entries', between, unsorted, enumerated, wrapped, rfl⟩ := eq_of_loadPictures made
      cases enumerated.symm.trans entries
      obtain ⟨owns, added, rfl, news⟩ := wrapAll_stored backs inside sound stored wrapped
      have sorted := Picture.perm_sortByTime unsorted
      obtain ⟨files, -⟩ := files_of_wrapAll wrapped
      rw [ran]
      dsimp only
      refine ⟨_, added, rfl, ?_, rfl, fun _ _ _ => find?_adding, fun new member => ?_, ?_⟩
      · exact (sorted.map _).trans (.of_eq files)
      · obtain ⟨free, picture, among, made⟩ := news new member
        exact ⟨free, picture, sorted.mem_iff.mpr among, made⟩
      · intro picture member content found
        have named := isThumbnailName_thumbnailName picture.name
        exact owns picture (sorted.mem_iff.mp member) _
          (find?_thumbnails sound.regular named found)
  · have alike := loadPictures_alike backs.toServes sound.regular agree
    have ran : run = _ := performed_load_of_unloaded library unloaded bench
    rw [performed_load_of_unloaded _ unloaded, alike, ran]

/-- Of two pictures one has a thumbnail already, so that a codec that would crash on it makes the same
list: the other picture's thumbnail is all that is stored. -/
theorem load_whole_calm :
    let bench : Bench := { internal := { files := [("IMG_20200101_000000.jpg", ⟨#[1]⟩),
      ("thumb-IMG_20200101_000000.jpg", ⟨#[9]⟩), ("IMG_20200102_000000.jpg", ⟨#[2]⟩)] } }
    let resolver := Bench.resolver {} none (.fixed 0)
    let codec := markingCodec false
    let crashing : Codec := { codec with
      thumbnail := fun media kind width =>
        if media.data.toList = [1] then .crashed else codec.thumbnail media kind width }
    let run (codec : Codec) :=
      performed (Bench.library resolver codec 64).load ⟨.unloaded, [{}]⟩ bench
    (∃ pictures added, (run codec).1.2.listing = .loaded pictures ∧
      (pictures.map (·.file)).Perm (resolver.primaries bench) ∧
      (run codec).2 = bench.adding .internal added ∧
      added.map (·.1) = ["thumb-IMG_20200102_000000.jpg"]) ∧
    run crashing = run codec := by
  intro bench resolver codec crashing run
  have sound : bench.Sound :=
    { regular := ⟨⟨by simp [bench], by decide, by simp [bench]⟩, MemoryStore.regular_empty⟩
      internal := fun _ member => by cases member
      external := MemoryStore.truthful_empty }
  have unloaded : (⟨.unloaded, [{}]⟩ : Catalog).listing = .unloaded := rfl
  obtain ⟨-, loads, alike⟩ := load_whole {} none (.fixed 0) codec 64 sound unloaded
  constructor
  · have done : (run codec).1.1.isOk = true := by decide +kernel
    have answered : (run codec).1.1 = .ok () := by
      cases answer : (run codec).1.1 with
      | error e =>
        rw [answer] at done
        cases done
      | ok _ => rfl
    obtain ⟨pictures, added, listed, files, after, -⟩ := loads answered
    refine ⟨pictures, added, listed, files, after, ?_⟩
    have names : (run codec).2.internal.files.map (·.1) =
        bench.internal.files.map (·.1) ++ ["thumb-IMG_20200102_000000.jpg"] := by decide +kernel
    have stored : (run codec).2.internal.files = bench.internal.files ++ added :=
      congrArg (·.internal.files) after
    rw [stored, List.map_append] at names
    exact List.append_cancel_left names
  · refine alike crashing fun file member missing => ?_
    have primaries : resolver.primaries bench =
        [⟨.internal, "IMG_20200101_000000.jpg", 1⟩, ⟨.internal, "IMG_20200102_000000.jpg", 1⟩] := by
      decide +kernel
    rw [primaries, List.mem_pair] at member
    rcases member with rfl | rfl
    · exact absurd missing (by decide +kernel)
    · refine ⟨rfl, fun media found => ?_⟩
      have stored : bench.internal.find? "IMG_20200102_000000.jpg" = some ⟨#[2]⟩ := by decide
      cases stored.symm.trans found
      dsimp only [crashing]
      rw [if_neg (by decide)]

end CameraRoll
