import CameraRoll.Proofs.Catalog.Replay
import CameraRoll.Proofs.Catalog.Service
import Mathlib.Data.List.DropRight

/-!
The check for the last picture. Main statement: `Service.prunes`, what becomes of the list, the
observers and the files.
-/

namespace CameraRoll

open CameraRoll.Calendar CameraRoll.Naming

open Bench Library

variable {resolver : Resolver (StateM Bench)} {bench : Bench} {catalog : Catalog}

/-! ### Files that go -/

/-- Whether the picture's thumbnail has this name. -/
def Picture.owns (picture : Picture) (name : String) : Bool :=
  picture.thumbnail.any fun own => own.name = name

/-- The bench without the thumbnails of pictures. -/
def Bench.withoutThumbnails (bench : Bench) (pictures : List Picture) : Bench :=
  { bench with internal := { bench.internal with
      files := bench.internal.files.filter fun file => !pictures.any (·.owns file.1) } }

/-- Whether a picture's file is gone. -/
def Bench.lacks (bench : Bench) (picture : Picture) : Bool :=
  (((partAt picture.file.location).get bench).find? picture.name).isNone

theorem Resolver.remove_inside (serves : Serves resolver) (regular : bench.Regular)
    {file : StoredFile} (inside : file.location = .internal) :
    (outcome (resolver.remove file) bench).2 =
      internalPart.set (bench.internal.erase file.name) bench := by
  have here : resolver.store? file.location = some resolver.internal := by
    rw [inside]
    rfl
  -- to remove a file that is not there fails, and to erase it changes nothing
  cases found : bench.internal.find? file.name with
  | none =>
    have missing : ((partAt file.location).get bench).find? file.name = none := by
      rw [inside]
      exact found
    obtain ⟨e, failed⟩ := Resolver.remove_missing serves regular missing
    rw [failed, MemoryStore.erase_of_free found]
    rfl
  | some content =>
    have deleted := serves.internal.delete bench file.name content regular.internal found
    rw [remove, outcome_bind_ok (outcome_require here bench), storing,
      outcome_adapt_ok deleted ResolverError.storage]
    rfl

namespace Bench

@[simp] theorem withoutThumbnails_nil (bench : Bench) : bench.withoutThumbnails [] = bench := by
  simp [withoutThumbnails]

theorem withoutThumbnails_append (bench : Bench) (first second : List Picture) :
    bench.withoutThumbnails (first ++ second) =
      (bench.withoutThumbnails second).withoutThumbnails first := by
  simp [withoutThumbnails, List.filter_filter]

theorem Regular.withoutThumbnails (regular : bench.Regular) (pictures : List Picture) :
    (bench.withoutThumbnails pictures).Regular :=
  ⟨regular.internal.filter _, regular.external⟩

/-- Without thumbnails, all other files are as before. -/
theorem pictures_withoutThumbnails (bench : Bench) {pictures : List Picture}
    (thumbnails : ∀ picture ∈ pictures, ∀ own ∈ picture.thumbnail, own.IsThumbnailInside) :
    (bench.withoutThumbnails pictures).internal.pictures = bench.internal.pictures := by
  rw [withoutThumbnails, MemoryStore.pictures, List.filter_filter]
  -- a file that goes has the name of a thumbnail, so that it is none of the others anyway
  refine List.filter_congr fun file _ => ?_
  cases isThumbnail : isThumbnailName file.1 with
  | true => rfl
  | false =>
    have others : pictures.any (·.owns file.1) = false := by
      refine List.any_eq_false.mpr fun picture member owns => ?_
      obtain ⟨own, isOwn, named⟩ := (Option.any_eq_true _ _).mp owns
      have inside := (thumbnails picture member own isOwn).2
      rw [of_decide_eq_true named, isThumbnail] at inside
      cases inside
    rw [others]
    rfl

end Bench

/-- What becomes of the files when a picture is dropped. -/
theorem removed_thumbnail (serves : Serves resolver) (regular : bench.Regular) {picture : Picture}
    (inside : ∀ own ∈ picture.thumbnail, own.IsThumbnailInside) :
    (match picture.thumbnail with
      | none => bench
      | some own => (outcome (resolver.remove own) bench).2) =
      bench.withoutThumbnails [picture] := by
  cases thumbnail : picture.thumbnail with
  | none => simp [withoutThumbnails, Picture.owns, thumbnail]
  | some own =>
    dsimp only
    rw [Resolver.remove_inside serves regular (inside own thumbnail).1]
    simp [withoutThumbnails, Picture.owns, thumbnail, internalPart, MemoryStore.erase, eq_comm]

/-! ### The end of the list -/

/-- A picture that differs from all in front of it is the one that is dropped. -/
theorem drop_last {front : List Picture} {last : Picture}
    (loaded : catalog.listing = .loaded (front ++ [last]))
    (apart : ∀ other ∈ front, other.isSame last = false) :
    catalog.drop last = ⟨.loaded front, catalog.observers.map (Observer.hear [.deleted last])⟩ := by
  have same : last.isSame last = true := StoredFile.isSame_iff.mpr ⟨rfl, rfl⟩
  have front_eq : last.erase (front ++ [last]) = front := by
    rw [Picture.erase, List.eraseP_append_right _ fun other member => by simp [apart other member]]
    simp [same]
  rw [Catalog.drop, loaded]
  dsimp only
  rw [front_eq]
  rfl

section Outside

variable {library : Library (StateM Bench)} (serves : Serves library.resolver)
  (outside : library.resolver.hasExternal = true)
include outside

/-- Pictures outside are there as before when thumbnails inside were removed. -/
theorem lacks_withoutThumbnails {picture : Picture} (entry : picture.IsEntry library.resolver)
    (others : List Picture) :
    (bench.withoutThumbnails others).lacks picture = bench.lacks picture := by
  have location : picture.file.location = .external := by
    rw [entry.location, Resolver.authoritative, if_pos outside]
  rw [lacks, lacks, location]
  rfl

include serves

/-- A round looks for the file of the last picture. -/
theorem performed_checkRound_entry (regular : bench.Regular) {front : List Picture}
    {last : Picture} (entry : last.IsEntry library.resolver)
    (loaded : catalog.listing = .loaded (front ++ [last])) :
    performed library.checkRound catalog bench =
      if bench.lacks last then
        ((.ok none, catalog.drop last), bench.withoutThumbnails [last])
      else ((.ok (some (some last)), catalog), bench) := by
  have looked : outcome (library.resolver.contains last.file) bench =
      (.ok (!bench.lacks last), bench) := by
    rw [Resolver.contains_valid serves regular entry.location entry.valid, lacks,
      Option.not_isNone]
    rfl
  rw [performed_checkRound loaded, List.getLast?_concat]
  dsimp only
  rw [if_pos outside, looked]
  cases bench.lacks last with
  | true =>
    rw [← removed_thumbnail serves regular entry.thumbnail]
    rfl
  | false => rfl

/-- All rounds together drop the longest end of the list whose files are gone, the last picture
first, and remove their thumbnails. -/
theorem rounds_pruned {pictures : List Picture} (loaded : catalog.listing = .loaded pictures)
    (entries : ∀ picture ∈ pictures, picture.IsEntry library.resolver)
    (apart : pictures.Pairwise fun a b => a.isSame b = false) (regular : bench.Regular)
    {gone : Picture → Bool} (known : ∀ picture ∈ pictures, bench.lacks picture = gone picture) :
    Rounds library catalog bench (.ok (pictures.rdropWhile gone).getLast?)
      ⟨.loaded (pictures.rdropWhile gone), catalog.observers.map
        (Observer.hear ((pictures.rtakeWhile gone).reverse.map .deleted))⟩
      (bench.withoutThumbnails (pictures.rtakeWhile gone)) := by
  have same {pictures : List Picture} {catalog : Catalog}
      (loaded : catalog.listing = .loaded pictures) :
      ⟨.loaded pictures, catalog.observers.map (Observer.hear [])⟩ = catalog := by
    rw [Observer.hear_nil, List.map_id, ← loaded]
  -- by induction on the list from its end
  induction pictures using List.reverseRecOn generalizing catalog bench with
  | nil =>
    rw [List.rdropWhile_nil, List.rtakeWhile_nil, withoutThumbnails_nil, List.reverse_nil,
      List.map_nil, same loaded]
    exact .answered (performed_checkRound loaded bench)
  | append_singleton front last ih =>
    have round := performed_checkRound_entry serves outside regular (entries last (by simp)) loaded
    rw [known last (by simp)] at round
    cases missing : gone last with
    -- the other rounds start from the front of the list, for which the same files are gone
    | true =>
      obtain ⟨front_apart, -, last_apart⟩ := List.pairwise_append.mp apart
      have front_entries picture (member : picture ∈ front) :=
        entries picture (List.mem_append_left [last] member)
      let listed : Catalog :=
        ⟨.loaded front, catalog.observers.map (Observer.hear [.deleted last])⟩
      have drop : catalog.drop last = listed :=
        drop_last loaded fun other member => last_apart other member last (by simp)
      have front_loaded : listed.listing = .loaded front := rfl
      have front_known : ∀ picture ∈ front,
          (bench.withoutThumbnails [last]).lacks picture = gone picture := by
        intro picture member
        rw [lacks_withoutThumbnails outside (front_entries picture member)]
        exact known picture (List.mem_append_left _ member)
      have rest := ih front_loaded front_entries front_apart (regular.withoutThumbnails [last])
        front_known
      rw [List.map_map, Observer.hear_comp_hear] at rest
      rw [if_pos missing, drop] at round
      rw [List.rdropWhile_concat_pos _ _ _ missing, List.rtakeWhile_concat_pos _ _ _ missing,
        withoutThumbnails_append, List.reverse_concat, List.map_cons]
      exact .again round rest
    -- this round is the last one, and nothing was dropped
    | false =>
      have there : ¬gone last = true := by simp [missing]
      rw [if_neg there] at round
      rw [List.rdropWhile_concat_neg _ _ _ there, List.rtakeWhile_concat_neg _ _ _ there,
        withoutThumbnails_nil, List.reverse_nil, List.map_nil, same loaded, List.getLast?_concat]
      exact .answered round

end Outside

/-- With a location outside, a list of different pictures loses its longest end of pictures whose
files are gone. The answer is the last picture that is left; everyone is told of each that is
dropped, the last one first, and their thumbnails are removed, but no other file. A second check
finds nothing to do. Without a location outside, nothing happens at all. -/
theorem Service.prunes {around : Surroundings} {quota : Nat} {zone : Zone}
    (service : Service (session around quota zone) catalog) {pictures : List Picture}
    (loaded : catalog.listing = .loaded pictures) (regular : bench.Regular) (codec : Codec)
    (width : Nat) :
    let library := Bench.library (session around quota zone) codec width
    let run := performed library.checkLast catalog bench
    (library.resolver.hasExternal = true → (pictures.Pairwise fun a b => a.isSame b = false) →
      let kept := pictures.rdropWhile bench.lacks
      let dropped := pictures.rtakeWhile bench.lacks
      Rounds library catalog bench (.ok kept.getLast?) run.1.2 run.2 ∧
      run.1.1 = .ok kept.getLast? ∧ run.1.2.listing = .loaded kept ∧
      run.1.2.observers = catalog.observers.map (Observer.hear (dropped.reverse.map .deleted)) ∧
      run.2 = bench.withoutThumbnails dropped ∧ run.2.external = bench.external ∧
      run.2.internal.pictures = bench.internal.pictures ∧
      performed library.checkLast run.1.2 run.2 = run) ∧
    (library.resolver.hasExternal = false → run = ((.ok pictures.getLast?, catalog), bench)) := by
  intro library run
  have serves : Serves library.resolver := serves_session around quota zone
  have entries : ∀ picture ∈ pictures, picture.IsEntry library.resolver :=
    (hasEntries_of_loaded loaded).mp (service.hasEntries serves)
  constructor
  · intro outside apart kept dropped
    have rounds : Rounds library catalog bench (.ok kept.getLast?)
        ⟨.loaded kept, catalog.observers.map (Observer.hear (dropped.reverse.map .deleted))⟩
        (bench.withoutThumbnails dropped) :=
      rounds_pruned serves outside loaded entries apart regular fun _ _ => rfl
    have ran : run = _ := (rounds_iff loaded).mp rounds
    have dropped_entry : ∀ picture ∈ dropped, picture.IsEntry library.resolver :=
      fun picture member => entries picture ((List.rtakeWhile_suffix _ _).mem member)
    have others := bench.pictures_withoutThumbnails fun picture member =>
      (dropped_entry picture member).thumbnail
    rw [ran]
    refine ⟨rounds, rfl, rfl, rfl, rfl, rfl, others, ?_⟩
    refine performed_checkLast rfl fun _ last isLast => ?_
    -- the last picture that is left is still there, so that a second check ends at once
    obtain ⟨some, rfl⟩ := List.mem_getLast?_eq_getLast isLast
    have entry := entries _ ((List.rdropWhile_prefix _ _).mem (List.getLast_mem some))
    have there := List.rdropWhile_last_not bench.lacks pictures some
    rw [← lacks_withoutThumbnails outside entry dropped, lacks, Bool.not_eq_true,
      Option.isNone_eq_false_iff] at there
    exact Resolver.contains_stored serves (regular.withoutThumbnails dropped) entry.location there
  · intro inside
    exact performed_checkLast loaded fun outside => absurd (inside.symm.trans outside) (by decide)

/-- Four images that were saved a second after each other, of which only the second one is still
there and the first one has no thumbnail any more, and an image inside whose file is gone. -/
theorem Service.prunes_tail :
    let outside := session { external := .present } 1000 (.fixed 0)
    let inside := session {} 1000 (.fixed 0)
    let image (location : Location) (name : String) (seconds : Int) : Picture :=
      ⟨⟨location, "IMG_" ++ name ++ ".jpg", 10⟩,
        some ⟨.internal, "thumb-IMG_" ++ name ++ ".jpg", 11⟩, .image,
        ⟨⟨(1704110400 + seconds) * Calendar.second⟩, 0⟩⟩
    let first := image .external "20240101_120000" 0
    let second := image .external "20240101_120001" 1
    let third := image .external "20240101_120002" 2
    let fourth := image .external "20240101_120003" 3
    let left : Bench :=
      { internal := { files := [("thumb-IMG_20240101_120001.jpg", ⟨#[1]⟩),
          ("thumb-IMG_20240101_120002.jpg", ⟨#[2]⟩), ("thumb-IMG_20240101_120003.jpg", ⟨#[3]⟩)] }
        external := { files := [("IMG_20240101_120001.jpg", ⟨#[4]⟩)] } }
    let check (resolver : Resolver (StateM Bench)) (catalog : Catalog) (bench : Bench) :=
      performed (Bench.library resolver (markingCodec true) 64).checkLast catalog bench
    (∃ catalog, Service outside catalog ∧
      catalog.listing = .loaded [first, second, third, fourth] ∧
      let run := check outside catalog left
      run.1.1 = .ok (some second) ∧ run.1.2.listing = .loaded [first, second] ∧
      run.1.2.observers =
        catalog.observers.map (Observer.hear [.deleted fourth, .deleted third]) ∧
      run.2.internal.files.map (·.1) = ["thumb-IMG_20240101_120001.jpg"] ∧
      run.2.external.files.map (·.1) = ["IMG_20240101_120001.jpg"]) ∧
    ∃ catalog, Service inside catalog ∧
      let picture := image .internal "20240101_120000" 0
      catalog.listing = .loaded [picture] ∧
      check inside catalog {} = ((.ok (some picture), catalog), {}) := by
  intro outside inside image first second third fourth left check
  -- the stores are emptied before each save
  let save (resolver : Resolver (StateM Bench)) (catalog : Catalog) (seconds : Int) : Catalog :=
    (performed (Command.perform (Bench.library resolver (markingCodec true) 64)
      (.save ⟨#[1]⟩ .image)) catalog { now := ⟨(1704110400 + seconds) * Calendar.second⟩ }).1.2
  have saved {resolver : Resolver (StateM Bench)} {catalog : Catalog}
      (past : Service resolver catalog) (seconds : Int) :
      Service resolver (save resolver catalog seconds) :=
    past.command ⟨MemoryStore.regular_empty, MemoryStore.regular_empty⟩ (markingCodec true) 64
      (.save ⟨#[1]⟩ .image) rfl
  have listing {catalog : Catalog} {pictures : List Picture}
      (loaded : catalog.pictures? = some pictures) : catalog.listing = .loaded pictures := by
    rcases catalog with ⟨_ | listed | _, observers⟩
    · cases loaded
    · cases loaded
      rfl
    · cases loaded
  constructor
  · have begun : Service outside { observers := [{}] } := .beginning rfl
    obtain ⟨catalog, service, shown⟩ : ∃ catalog, Service outside catalog ∧
        catalog.pictures? = some [first, second, third, fourth] :=
      ⟨_, saved (saved (saved (saved begun 0) 1) 2) 3, by decide +kernel⟩
    have loaded := listing shown
    have regular : left.Regular := by
      refine ⟨⟨by decide, by decide, ?_⟩, ⟨by decide, by decide, ?_⟩⟩ <;> simp [left]
    obtain ⟨-, answer, isListed, told, files, -⟩ :=
      (service.prunes loaded regular (markingCodec true) 64).1 rfl (by decide +kernel)
    have kept : [first, second, third, fourth].rdropWhile left.lacks = [first, second] := by
      decide +kernel
    have dropped : [first, second, third, fourth].rtakeWhile left.lacks = [third, fourth] := by
      decide +kernel
    rw [kept] at answer isListed
    rw [dropped] at told files
    have inside := congrArg (fun bench : Bench => bench.internal.files.map (·.1)) files
    have beside := congrArg (fun bench : Bench => bench.external.files.map (·.1)) files
    exact ⟨catalog, service, loaded, answer, isListed, told, inside.trans (by decide +kernel),
      beside.trans (by decide +kernel)⟩
  · have begun : Service inside {} := .beginning rfl
    obtain ⟨catalog, service, shown⟩ : ∃ catalog, Service inside catalog ∧
        catalog.pictures? = some [image .internal "20240101_120000" 0] :=
      ⟨_, saved begun 0, by decide +kernel⟩
    have loaded := listing shown
    have regular : ({} : Bench).Regular := ⟨MemoryStore.regular_empty, MemoryStore.regular_empty⟩
    exact ⟨catalog, service, loaded, (service.prunes loaded regular (markingCodec true) 64).2 rfl⟩

end CameraRoll
