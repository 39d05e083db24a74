import CameraRoll.Proofs.Catalog.Additions
import CameraRoll.Proofs.Catalog.Replay

/-!
What a save of new media leaves behind. Main statement: `save_whole`, that the picture, its files and
the notice of it come together or not at all.
-/

namespace CameraRoll

open CameraRoll.Calendar CameraRoll.Naming

open Bench Library

variable {bench after : Bench} {kind : MediaKind} {media : ByteArray}

/-- The bytes that are stored for new media: an image the right way up, if the codec can turn it, and
everything else as it came. -/
inductive Codec.Stores (codec : Codec) (content : ByteArray) : MediaKind → ByteArray → Prop
  | upright {image : ByteArray} (turned : codec.orient content = .ok image) :
      Stores codec content .image image
  | unturned {e : MediaError} (failed : codec.orient content = .error e) :
      Stores codec content .image content
  | video : Stores codec content .video content

theorem Codec.stores_iff {codec : Codec} {content : ByteArray} :
    codec.Stores content kind media ↔ media = oriented codec content kind := by
  constructor
  · intro stores
    cases stores with
    | upright turned => rw [oriented, turned]
    | unturned failed => rw [oriented, failed]
    | video => rfl
  · rintro rfl
    cases kind with
    | video => exact .video
    | image =>
      unfold oriented
      cases turned : codec.orient content with
      | ok image => exact .upright turned
      | error e => exact .unturned turned

/-- A picture is new: its file was stored under the first name of the present time that was free, and
if a thumbnail of it was, too, it has that one. Nothing else was stored. -/
structure Picture.IsNew (library : Library (StateM Bench)) (before : Bench) (kind : MediaKind)
    (media : ByteArray) (thumbnails : List (String × ByteArray)) (after : Bench)
    (picture : Picture) : Prop where
  file : picture.file = ⟨library.resolver.authoritative, picture.name, media.size⟩
  name : before.IsFirstFree library.resolver.authoritative
    (canonicalName kind before.now library.resolver.zone) picture.name
  time : captureTime picture.name library.resolver.zone = some picture.time
  thumbnail : library.Thumbnailed
    (before.adding library.resolver.authoritative [(picture.name, media)]) picture.name media kind
    picture.thumbnail thumbnails
  after : after = (before.adding library.resolver.authoritative [(picture.name, media)]).adding
    .internal thumbnails
  kind : picture.kind = kind

namespace Picture.IsNew

variable {library : Library (StateM Bench)} {thumbnails : List (String × ByteArray)}
  {picture : Picture} (new : picture.IsNew library bench kind media thumbnails after)
include new

theorem kept {location : Location} {name : String} {content : ByteArray}
    (found : ((partAt location).get bench).find? name = some content) :
    ((partAt location).get after).find? name = some content := by
  rw [new.after]
  exact find?_adding (find?_adding found)

theorem noThumbnail : isThumbnailName picture.name = false := by
  obtain ⟨n, named, -, -⟩ := new.name
  rw [named]
  exact not_thumbnail_iterate kind bench.now library.resolver.zone n

variable (early : (namingClock bench.now library.resolver.zone).date.year < 9000)
  (listed : 0 ≤ (namingClock bench.now library.resolver.zone).date.year ∨
    library.resolver.external = none)
include early listed

/-- The picture's file is one that catalogs are made from. A year below 0 stands in the way outside,
where only names with a time count. -/
theorem isPrimary : library.resolver.isPrimary picture.file = true := by
  have noThumbnail := new.noThumbnail
  obtain ⟨n, named, -, -⟩ := new.name
  rw [named] at noThumbnail
  rw [new.file, named]
  rcases listed with first | alone
  · exact library.resolver.isPrimary_iterate _ kind ⟨first, by omega⟩ n media.size
  · rw [isThumbnailName] at noThumbnail
    rw [Resolver.isPrimary, Resolver.hasExternal, alone, StoredFile.isThumbnail, StoredFile.kind,
      noThumbnail]
    rfl

theorem primaries :
    library.resolver.primaries after = library.resolver.primaries bench ++ [picture.file] := by
  have primary := new.isPrimary early listed
  rw [new.file] at primary ⊢
  obtain ⟨n, named, free, -⟩ := new.name
  have free : ((partAt library.resolver.authoritative).get bench).find? picture.name = none := by
    simpa [Has] using free
  rw [new.after, primaries_adding _ new.thumbnail.isThumbnailName, ← put_eq_adding _ _ free,
    Resolver.primaries_put free primary]

end Picture.IsNew

/-- New media is stored and gets a picture, or nothing changes. -/
theorem Library.store_exact {resolver : Resolver (StateM Bench)} (backs : Backs resolver)
    (sound : bench.Sound) (early : (namingClock bench.now resolver.zone).date.year < 9000)
    (few : ∀ location, ((partAt location).get bench).files.length < 10 ^ 12) {codec : Codec}
    {width : Nat} (returns : codec.supports kind = true →
      codec.thumbnail media kind width ≠ .crashed) :
    let library := Bench.library resolver codec width
    (∃ e, outcome (library.store media kind) bench = (.error e, bench)) ∨
    ∃ picture thumbnails after, outcome (library.store media kind) bench = (.ok picture, after) ∧
      picture.IsNew library bench kind media thumbnails after := by
  intro library
  rcases store_placed backs sound early few codec width media kind with
    failed | ⟨n, earlier, valid, free, ⟨time, known⟩, done⟩
  · exact Or.inl failed
  · let file : StoredFile :=
      ⟨resolver.authoritative, nextName^[n] (canonicalName kind bench.now resolver.zone), media.size⟩
    have got (between : Bench) :
        outcome (library.contentOf file (some media)) between = (.ok media, between) := rfl
    have isKind : file.kind.mediaKind = kind := by
      rw [StoredFile.kind, kindOf_iterate_canonicalName]
      cases kind <;> rfl
    -- the picture is made on the bench on which its file is stored already
    have stored := sound.put resolver.authoritative valid media
    rw [put_eq_adding _ _ free] at stored done
    obtain ⟨thumbnail, thumbnails, made, thumbnailed⟩ :=
      wrap_exact (got _) backs stored (by rwa [isKind]) known
    rw [isKind] at made thumbnailed
    refine Or.inr ⟨_, thumbnails, _, done.trans made, ?_⟩
    have isFree : bench.IsFirstFree resolver.authoritative
        (canonicalName kind bench.now resolver.zone) file.name :=
      ⟨n, rfl, by simp [Has, free, file], earlier⟩
    exact ⟨rfl, isFree, known, thumbnailed, rfl, rfl⟩

/-- A save that fails has changed nothing. One that is done has stored the media under the first
name of the present time that was free and, if the codec made one and it could be stored, a
thumbnail; every other file is as before, and the new picture was put into the list and told to
every observer once. The file is one that a list is made of, unless the year is below 0 and the
file outside. -/
theorem save_whole (internal : Setup) (external : Option Setup) (zone : Zone) (codec : Codec)
    (width : Nat) (sound : bench.Sound) (early : (namingClock bench.now zone).date.year < 9000)
    (room : bench.internal.files.length + bench.external.files.length < 10 ^ 12)
    {catalog : Catalog} {pictures : List Picture} (loaded : catalog.listing = .loaded pictures)
    (content : ByteArray) (kind : MediaKind)
    (returns : ∀ media, codec.Stores content kind media → codec.supports kind = true →
      codec.thumbnail media kind width ≠ .crashed) :
    let resolver := Bench.resolver internal external zone
    let library := Bench.library resolver codec width
    let run := performed (library.save content kind) catalog bench
    (∀ e, run.1.1 = .error e → run.1.2 = catalog ∧ run.2 = bench) ∧
    ∀ picture, run.1.1 = .ok picture →
      (∃ media thumbnails, codec.Stores content kind media ∧
        picture.IsNew library bench kind media thumbnails run.2) ∧
      isThumbnailName picture.name = false ∧
      (∀ own ∈ picture.thumbnail, own.IsThumbnailInside) ∧
      (∀ location name bytes, ((partAt location).get bench).find? name = some bytes →
        ((partAt location).get run.2).find? name = some bytes) ∧
      (0 ≤ (namingClock bench.now zone).date.year ∨ external = none →
        resolver.primaries run.2 = resolver.primaries bench ++ [picture.file]) ∧
      (∃ earlier later, pictures = earlier ++ later ∧
        run.1.2.listing = .loaded (earlier ++ picture :: later)) ∧
      run.1.2.observers = catalog.observers.map (Observer.hear [.added picture]) := by
  intro resolver library run
  have backs : Backs resolver := Bench.backs_resolver internal external zone
  have stores : codec.Stores content kind (oriented codec content kind) := Codec.stores_iff.mpr rfl
  have few (location : Location) : ((partAt location).get bench).files.length < 10 ^ 12 := by
    cases location with
    | internal => exact (Nat.le_add_right _ _).trans_lt room
    | external => exact (Nat.le_add_left _ _).trans_lt room
  rcases store_exact backs sound early few (returns _ stores) with
    ⟨e, failed⟩ | ⟨picture, thumbnails, after, done, new⟩
  -- nothing was stored, so the list was not turned to either
  · have asked : outcome (library.store (oriented library.codec content kind) kind) bench = _ :=
      failed
    have ran : run = ((.error e, catalog), bench) := by
      rw [show run = _ from performed_save_of_loaded loaded content kind bench, asked]
    rw [ran]
    refine ⟨fun _ _ => ⟨rfl, rfl⟩, fun picture answered => ?_⟩
    cases answered
  -- the files are there, and the picture goes into the list
  · have asked : outcome (library.store (oriented library.codec content kind) kind) bench = _ :=
      done
    have ran : run = ((.ok picture, catalog.add picture), after) := by
      rw [show run = _ from performed_save_of_loaded loaded content kind bench, asked]
    rw [ran, Catalog.add_of_loaded loaded]
    constructor
    · intro e answered
      cases answered
    · rintro _ ⟨⟩
      refine ⟨⟨_, thumbnails, stores, new⟩, new.noThumbnail, new.thumbnail.inside,
        fun _ _ _ => new.kept, fun listed => ?_, ⟨pictures.rdropWhile picture.isEarlier,
          pictures.rtakeWhile picture.isEarlier, ?_, ?_⟩, rfl⟩
      · refine new.primaries early (listed.imp_right fun alone => ?_)
        change external.map _ = none
        rw [alone]
        rfl
      · rw [List.rdropWhile_append_rtakeWhile]
      · rw [Picture.insert_eq]

/-- Under a quota that has room for the picture but not for its thumbnail, the picture gets the
second name of its second and no thumbnail. -/
theorem save_whole_tight :
    let bench : Bench := { internal := { files := [("IMG_19700101_000000.jpg", ⟨#[1]⟩)] } }
    let resolver := Bench.resolver { quota := some 15 } none (.fixed 0)
    let library := Bench.library resolver (markingCodec false) 64
    let run := performed (library.save ⟨#[2]⟩ .image) ⟨.loaded [], [{}]⟩ bench
    ∃ picture, run.1.1 = .ok picture ∧ picture.name = "IMG_19700101_000000 (1).jpg" ∧
      picture.thumbnail = none ∧
      resolver.primaries run.2 = resolver.primaries bench ++ [picture.file] ∧
      run.1.2.observers = [⟨[.added picture]⟩] := by
  intro bench resolver library run
  have sound : bench.Sound :=
    { regular := ⟨⟨by simp [bench], by decide, by simp [bench]⟩, MemoryStore.regular_empty⟩
      internal := fun _ member => by cases member
      external := MemoryStore.truthful_empty }
  have loaded : (⟨.loaded [], [{}]⟩ : Catalog).listing = .loaded [] := rfl
  have returns : ∀ media, (markingCodec false).Stores ⟨#[2]⟩ .image media →
      (markingCodec false).supports .image = true →
      (markingCodec false).thumbnail media .image 64 ≠ .crashed := by
    intro media stores _ crashed
    obtain rfl := Codec.stores_iff.mp stores
    have calm : ((markingCodec false).thumbnail (oriented (markingCodec false) ⟨#[2]⟩ .image)
      .image 64 matches .crashed) = false := by decide +kernel
    rw [crashed] at calm
    cases calm
  obtain ⟨-, saved⟩ := save_whole { quota := some 15 } none (.fixed 0) (markingCodec false) 64 sound
    (by decide +kernel) (by decide) loaded ⟨#[2]⟩ .image returns
  have answer : run.1.1.toOption.map (fun picture => (picture.name, picture.thumbnail)) =
      some ("IMG_19700101_000000 (1).jpg", none) := by decide +kernel
  have isRun : performed ((Bench.library (Bench.resolver { quota := some 15 } none (.fixed 0))
      (markingCodec false) 64).save ⟨#[2]⟩ .image) ⟨.loaded [], [{}]⟩ bench = run := rfl
  rw [isRun] at saved
  clear_value run
  cases ran : run.1.1 with
  | error e =>
    rw [ran] at answer
    cases answer
  | ok picture =>
    rw [ran] at answer
    obtain ⟨named, none⟩ := Prod.mk.inj (Option.some.inj answer)
    obtain ⟨-, -, -, -, primaries, -, observers⟩ := saved picture ran
    exact ⟨picture, rfl, named, none, primaries (Or.inr rfl), observers⟩

end CameraRoll
