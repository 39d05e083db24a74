import CameraRoll.Proofs.Catalog.NewPictures
import CameraRoll.Proofs.Catalog.Steps

/-!
A catalog agrees with its stores. Main statement: `Tended.agreement`, that after any operations the
list has the primary files that are stored, each once, as long as nothing else changes the files.
-/

namespace CameraRoll

open CameraRoll.Calendar CameraRoll.Naming

open Bench Library

variable {resolver : Resolver (StateM Bench)} {bench : Bench}

/-! ### The list and the stores -/

/-- What is known of every picture that a catalog has ever listed. -/
structure Picture.IsHandle (resolver : Resolver (StateM Bench)) (picture : Picture) : Prop where
  location : picture.file.location = resolver.authoritative
  time : captureTime picture.file.name resolver.zone = some picture.time
  thumbnail : ∀ file ∈ picture.thumbnail, file.IsThumbnailInside

/-- The list of a catalog has the primary files of a bench, each once. -/
def Lists (resolver : Resolver (StateM Bench)) (bench : Bench) (catalog : Catalog) : Prop :=
  ∃ pictures, catalog.listing = .loaded pictures ∧
    (pictures.map (·.file)).Perm (resolver.primaries bench) ∧
    ∀ picture ∈ pictures, picture.IsHandle resolver

/-- Pictures in a list that has the primary files are told apart. -/
theorem pairwise_of_perm (regular : bench.Regular) {pictures : List Picture}
    (same : (pictures.map (·.file)).Perm (resolver.primaries bench)) :
    pictures.Pairwise fun a b => a.isSame b = false := by
  have symmetric {a b : StoredFile} (different : a.isSame b = false) : b.isSame a = false :=
    (StoredFile.isSame_comm b a).trans different
  exact List.pairwise_map.mp ((same.pairwise_iff symmetric).mpr
    (Resolver.primaries_apart regular))

namespace Lists

variable {catalog : Catalog} {picture : Picture} (lists : Lists resolver bench catalog)
include lists

theorem of_primaries {after : Bench} (same : resolver.primaries after = resolver.primaries bench) :
    Lists resolver after catalog := by
  rw [Lists, same]
  exact lists

theorem isHandle_of_shown : ∀ picture ∈ catalog.pictures?.getD [], picture.IsHandle resolver := by
  obtain ⟨pictures, loaded, -, handles⟩ := lists
  rw [Catalog.pictures?, loaded]
  exact handles

/-- A picture that is listed when its file is new. -/
theorem add {after : Bench} (handle : picture.IsHandle resolver)
    (new : resolver.primaries after = resolver.primaries bench ++ [picture.file]) :
    Lists resolver after (catalog.add picture) := by
  obtain ⟨pictures, loaded, same, handles⟩ := lists
  have placed := picture.perm_insert pictures
  refine ⟨picture.insert pictures, by rw [Catalog.add, loaded]; rfl, ?_, fun other member => ?_⟩
  · rw [new]
    refine (placed.map _).trans (List.Perm.trans ?_ (List.perm_append_singleton _ _).symm)
    exact same.cons picture.file
  · rcases List.mem_cons.mp (placed.mem_iff.mp member) with rfl | old
    · exact handle
    · exact handles other old

/-- A picture that is dropped when its file was erased. -/
theorem drop (regular : bench.Regular) (location : picture.file.location = resolver.authoritative) :
    Lists resolver ((partAt resolver.authoritative).set
      (((partAt resolver.authoritative).get bench).erase picture.file.name) bench)
      (catalog.drop picture) := by
  obtain ⟨pictures, loaded, same, handles⟩ := lists
  refine ⟨picture.erase pictures, by rw [Catalog.drop, loaded]; rfl, ?_, fun other member =>
    handles other (List.mem_of_mem_eraseP member)⟩
  rw [Picture.map_file_erase picture (pairwise_of_perm regular same), Resolver.primaries_erase]
  -- all files of the list are in the picture's location, so that their names tell them apart
  have byName : ∀ file ∈ pictures.map (·.file),
      (!file.isSame picture.file) = decide (file.name ≠ picture.file.name) := by
    intro file member
    obtain ⟨other, isListed, rfl⟩ := List.mem_map.mp member
    have here := (handles other isListed).location.trans location.symm
    simp [StoredFile.isSame, here]
  rw [List.filter_congr byName]
  exact same.filter _

end Lists

/-- Removing a thumbnail leaves the primary files. -/
theorem remove_thumbnail (serves : Serves resolver) (sound : bench.Sound) {thumbnail : StoredFile}
    (inside : thumbnail.IsThumbnailInside) :
    (outcome (resolver.remove thumbnail) bench).2.Sound ∧
      resolver.primaries (outcome (resolver.remove thumbnail) bench).2 =
        resolver.primaries bench := by
  obtain ⟨location, isThumbnail⟩ := inside
  rcases Resolver.remove_cases serves sound.regular thumbnail with ⟨e, failed⟩ | done
  · rw [failed]
    exact ⟨sound, rfl⟩
  · rw [done, location]
    constructor
    · exact sound.erase .internal thumbnail.name
    · apply Resolver.primaries_eq
      · rfl
      · exact MemoryStore.pictures_erase_thumbnail bench.internal isThumbnail

/-- A new picture is stored as one more primary file, or nothing changes. -/
theorem store_agrees (backs : Backs resolver) (sound : bench.Sound)
    (bounds : bench.InBounds resolver.zone) {codec : Codec} {width : Nat}
    (answers : (Bench.library resolver codec width).Answers) (content : ByteArray)
    (kind : MediaKind) :
    let run := outcome ((Bench.library resolver codec width).store content kind) bench
    (∃ e, run = (.error e, bench)) ∨
    ∃ picture after, run = (.ok picture, after) ∧ after.Sound ∧ picture.IsHandle resolver ∧
      resolver.primaries after = resolver.primaries bench ++ [picture.file] := by
  have serves : Serves (Bench.library resolver codec width).resolver := backs.toServes
  rcases store_cases backs sound bounds codec width content kind with
    ⟨e, failed⟩ | ⟨name, valid, free, primary, dated, done⟩
  · exact Or.inl ⟨e, failed⟩
  · have stored := sound.put resolver.authoritative valid content
    have wrapped := wrap_new serves stored.regular ⟨resolver.authoritative, name, content.size⟩
      (some content)
    rw [done]
    rcases made : outcome ((Bench.library resolver codec width).wrap
      ⟨resolver.authoritative, name, content.size⟩ none (some content)) _ with
      ⟨e | picture, after⟩
    -- the codec answers and the file has a time, so that nothing is left to go wrong
    · rw [made] at wrapped
      exact absurd (wrapped.2 answers) dated
    · rw [made] at wrapped
      obtain ⟨added, file, time, inside⟩ := wrapped
      refine Or.inr ⟨picture, after, rfl, stored.added added, ?_, ?_⟩
      · constructor
        · rw [file]
        · rw [file]
          exact time
        · exact inside
      · rw [added.primaries, Resolver.primaries_put free primary, file]

/-- A catalog that is loaded lists the primary files and adds no more than thumbnails. Only a file
without a time is in the way where the codec answers. -/
theorem list_unloaded (serves : Serves resolver) (regular : bench.Regular) (codec : Codec)
    (width : Nat) {catalog : Catalog} (unloaded : catalog.listing = .unloaded) :
    let run := performed (Bench.library resolver codec width).list catalog bench
    ThumbnailsAdded bench run.2 ∧
      match run.1.1 with
      | .ok pictures => (pictures.map (·.file)).Perm (resolver.primaries bench) ∧
          ∀ picture ∈ pictures, picture.IsHandle resolver
      | .error _ => (Bench.library resolver codec width).Answers →
        ∃ file ∈ resolver.primaries bench, captureTime file.name resolver.zone = none := by
  have serves : Serves (Bench.library resolver codec width).resolver := serves
  have made := loadPictures_adds serves regular
  rw [performed_list, unloaded]
  dsimp only
  rcases run : outcome (Bench.library resolver codec width).loadPictures bench with
    ⟨e | pictures, after⟩
  · rw [run] at made
    exact made
  · rw [run] at made
    obtain ⟨added, same, sound⟩ := made
    refine ⟨added, same, fun picture member => ?_⟩
    have isFile := same.mem_iff.mp (List.mem_map_of_mem member)
    exact ⟨Resolver.primaries_location isFile, (sound picture member).1, (sound picture member).2⟩

/-! ### Operations -/

/-- A catalog agrees with a bench, and with the pictures that it has handed out. -/
structure Agrees (resolver : Resolver (StateM Bench)) (bench : Bench) (catalog : Catalog)
    (known : List Picture) : Prop where
  sound : bench.Sound
  lists : Lists resolver bench catalog
  known : ∀ picture ∈ known, picture.IsHandle resolver

theorem agrees_of_load (serves : Serves resolver) (sound : bench.Sound) {codec : Codec}
    {width : Nat} {catalog listed : Catalog} {after : Bench} (unloaded : catalog.listing = .unloaded)
    (done : performed (Bench.library resolver codec width).load catalog bench =
      ((.ok (), listed), after)) :
    Agrees resolver after listed [] := by
  have made := list_unloaded serves sound.regular codec width unloaded
  rw [load, performed_bind] at done
  split at done
  next pictures listed after answered =>
    cases done
    rw [answered] at made
    obtain ⟨added, same, handles⟩ := made
    have loaded := listing_of_performed_list answered
    rw [← added.primaries] at same
    exact ⟨sound.added added, ⟨pictures, loaded, same, handles⟩, fun _ member => by cases member⟩
  · cases done

namespace Agrees

variable {catalog : Catalog} {known : List Picture}
  (agrees : Agrees resolver bench catalog known)
include agrees

/-- Pictures in the list are handed out. -/
theorem hand : Agrees resolver bench catalog (known ++ catalog.pictures?.getD []) where
  sound := agrees.sound
  lists := agrees.lists
  known := by
    intro picture member
    rcases List.mem_append.mp member with old | shown
    · exact agrees.known picture old
    · exact agrees.lists.isHandle_of_shown picture shown

theorem save (backs : Backs resolver) (bounds : bench.InBounds resolver.zone) {codec : Codec}
    {width : Nat} (answers : (Bench.library resolver codec width).Answers) (content : ByteArray)
    (kind : MediaKind) :
    let run := performed ((Bench.library resolver codec width).save content kind) catalog bench
    Agrees resolver run.2 run.1.2 known := by
  obtain ⟨pictures, loaded, -⟩ := agrees.lists
  rw [performed_save, performed_list_of_loaded loaded]
  dsimp only
  rcases store_agrees backs agrees.sound bounds answers
    (oriented (Bench.library resolver codec width).codec content kind) kind with
    ⟨e, failed⟩ | ⟨picture, after, done, sound, handle, new⟩
  · rw [failed]
    exact agrees
  · rw [done]
    exact ⟨sound, agrees.lists.add handle new, agrees.known⟩

theorem delete (backs : Backs resolver) (codec : Codec) (width : Nat) {picture : Picture}
    (isKnown : picture ∈ known) :
    let run := performed ((Bench.library resolver codec width).delete picture false) catalog bench
    Agrees resolver run.2 run.1.2 known := by
  have serves : Serves (Bench.library resolver codec width).resolver := backs.toServes
  have handle := agrees.known picture isKnown
  obtain ⟨pictures, loaded, -⟩ := agrees.lists
  rw [performed_delete loaded]
  rcases Resolver.remove_cases serves agrees.sound.regular picture.file with ⟨e, failed⟩ | done
  · rw [failed]
    exact agrees
  · rw [done, handle.location]
    have erased := agrees.sound.erase resolver.authoritative picture.file.name
    have dropped := agrees.lists.drop agrees.sound.regular handle.location
    dsimp only
    -- the thumbnail goes after that, and takes no primary file with it
    cases own : picture.thumbnail with
    | none => exact ⟨erased, dropped, agrees.known⟩
    | some thumbnail =>
      obtain ⟨sound, same⟩ := remove_thumbnail serves erased (handle.thumbnail thumbnail own)
      exact ⟨sound, dropped.of_primaries same, agrees.known⟩

theorem checkLast (backs : Backs resolver) (codec : Codec) (width : Nat) :
    let run := performed (Bench.library resolver codec width).checkLast catalog bench
    Agrees resolver run.2 run.1.2 known := by
  obtain ⟨pictures, loaded, same, -⟩ := agrees.lists
  -- every listed file is there, the last one, too, so that nothing happens
  have there : ∀ last ∈ pictures.getLast?,
      outcome (resolver.contains last.file) bench = (.ok true, bench) := by
    intro last isLast
    have listed := List.mem_map_of_mem (f := fun picture : Picture => picture.file)
      (List.mem_of_getLast? isLast)
    exact Resolver.contains_primary backs.toServes agrees.sound.regular (same.mem_iff.mp listed)
  rw [performed_checkLast loaded fun _ => there]
  exact agrees

theorem meanwhile {after : Bench} (sound : after.Sound)
    (internal : after.internal.files = bench.internal.files)
    (external : after.external.files = bench.external.files) :
    Agrees resolver after catalog known where
  sound := sound
  lists := by
    apply agrees.lists.of_primaries
    exact Resolver.primaries_eq external (congrArg (List.filter _) internal)
  known := agrees.known

end Agrees

/-! ### Histories -/

/-- The states of a bench and of a catalog between operations, with the pictures that were listed so
far: from the load of the catalog on, it saves, deletes pictures that it has listed, and checks for
the last picture, with any codec and width. Nothing else changes the files; the time and the failures
in the way may change. -/
inductive Tended (resolver : Resolver (StateM Bench)) : Bench → Catalog → List Picture → Prop
  | load {bench after : Bench} {catalog listed : Catalog} (sound : bench.Sound)
      (unloaded : catalog.listing = .unloaded) (codec : Codec) (width : Nat)
      (run : performed (Bench.library resolver codec width).load catalog bench =
        ((.ok (), listed), after)) :
      Tended resolver after listed (listed.pictures?.getD [])
  | save {bench after : Bench} {catalog listed : Catalog} {known : List Picture}
      (past : Tended resolver bench catalog known) (bounds : bench.InBounds resolver.zone)
      (codec : Codec) (width : Nat) (answers : (Bench.library resolver codec width).Answers)
      (content : ByteArray) (kind : MediaKind) {answer : Except CatalogError Picture}
      (run : performed ((Bench.library resolver codec width).save content kind) catalog bench =
        ((answer, listed), after)) :
      Tended resolver after listed (known ++ listed.pictures?.getD [])
  | delete {bench after : Bench} {catalog listed : Catalog} {known : List Picture}
      (past : Tended resolver bench catalog known) (codec : Codec) (width : Nat)
      {picture : Picture} (isKnown : picture ∈ known) {answer : Except CatalogError Unit}
      (run : performed ((Bench.library resolver codec width).delete picture false) catalog bench =
        ((answer, listed), after)) :
      Tended resolver after listed (known ++ listed.pictures?.getD [])
  | checkLast {bench after : Bench} {catalog listed : Catalog} {known : List Picture}
      (past : Tended resolver bench catalog known) (codec : Codec) (width : Nat)
      {answer : Except CatalogError (Option Picture)}
      (run : performed (Bench.library resolver codec width).checkLast catalog bench =
        ((answer, listed), after)) :
      Tended resolver after listed (known ++ listed.pictures?.getD [])
  | meanwhile {bench after : Bench} {catalog : Catalog} {known : List Picture}
      (past : Tended resolver bench catalog known) (sound : after.Sound)
      (internal : after.internal.files = bench.internal.files)
      (external : after.external.files = bench.external.files) :
      Tended resolver after catalog known

theorem Tended.agrees (backs : Backs resolver) {catalog : Catalog} {known : List Picture}
    (tended : Tended resolver bench catalog known) : Agrees resolver bench catalog known := by
  -- every operation keeps the agreement, and what is listed after it is handed out
  induction tended with
  | load sound unloaded codec width run =>
    exact (agrees_of_load backs.toServes sound unloaded run).hand
  | save past bounds codec width answers content kind run ih =>
    have kept := ih.save backs bounds answers content kind
    rw [run] at kept
    exact kept.hand
  | delete past codec width isKnown run ih =>
    have kept := ih.delete backs codec width isKnown
    rw [run] at kept
    exact kept.hand
  | checkLast past codec width run ih =>
    have kept := ih.checkLast backs codec width
    rw [run] at kept
    exact kept.hand
  | meanwhile past sound internal external ih => exact ih.meanwhile sound internal external

/-- After any operations, no two pictures of the list are the same file, all of them are in the
authoritative location, and their files are the primary files that the resolver finds. A catalog
that is loaded at that moment lists the same files, and it can be loaded if the codec answers. -/
theorem Tended.agreement {around : Surroundings} {quota : Nat} {zone : Zone} {catalog : Catalog}
    {known : List Picture} (tended : Tended (session around quota zone) bench catalog known) :
    ∃ pictures entries, catalog.listing = .loaded pictures ∧
      outcome (session around quota zone).entries bench = (.ok entries, bench) ∧
      (pictures.Pairwise fun a b => a.isSame b = false) ∧
      (∀ picture ∈ pictures,
        picture.file.location = (session around quota zone).authoritative) ∧
      (∀ file, (∃ picture ∈ pictures, picture.file = file) ↔ file ∈ entries.pictures) ∧
      ∀ codec width (fresh : Catalog), fresh.listing = .unloaded →
        match (performed (Bench.library (session around quota zone) codec width).list fresh
          bench).1.1 with
        | .ok listed => (listed.map (·.file)).Perm (pictures.map (·.file))
        | .error _ => ¬(Bench.library (session around quota zone) codec width).Answers := by
  have backs := backs_session around quota zone
  obtain ⟨sound, ⟨pictures, loaded, same, handles⟩, -⟩ := tended.agrees backs
  refine ⟨pictures, _, loaded, Resolver.outcome_entries backs.toServes sound.regular,
    pairwise_of_perm sound.regular same, fun picture member => (handles picture member).location,
    fun file => ?_, fun codec width fresh unloaded => ?_⟩
  · rw [← same.mem_iff, List.mem_map]
  · obtain ⟨-, afresh⟩ := list_unloaded backs.toServes sound.regular codec width unloaded
    split at afresh
    next listed => exact afresh.1.trans same.symm
    -- a primary file without a time would not be listed
    next e _ =>
      intro answers
      obtain ⟨file, isPrimary, unknown⟩ := afresh answers
      obtain ⟨picture, isListed, rfl⟩ := List.mem_map.mp (same.mem_iff.mpr isPrimary)
      cases unknown.symm.trans (handles picture isListed).time

/-- A stored recording is listed, though its thumbnail cannot be stored, a new one is put in front
of it by a clock that is far behind, and then the first one is deleted. -/
theorem Tended.agreement_replacement :
    let around : Surroundings := { external := .present }
    ∃ bench catalog known, Tended (session around 9 (.fixed 0)) bench catalog known ∧
      bench.external.files.map (·.1) = ["VID_00000101_000000.mkv"] ∧
      bench.internal.files.map (·.1) = ["thumb-VID_00000101_000000.jpg"] ∧
      ∃ pictures entries, catalog.listing = .loaded pictures ∧
        outcome (session around 9 (.fixed 0)).entries bench = (.ok entries, bench) ∧
        ∀ file, (∃ picture ∈ pictures, picture.file = file) ↔ file ∈ entries.pictures := by
  intro around
  let codec : Codec := { markingCodec true with thumbnail := fun media _ _ => .made media }
  let library := Bench.library (session around 9 (.fixed 0)) codec 64
  let name := "VID_20200101_000000.mp4"
  let first : Bench :=
    { internal := ({} : MemoryStore).failWritesTo "thumb-VID_20200101_000000.jpg"
      external := { files := [(name, ⟨#[1]⟩)] }
      now := ⟨-62167219200 * Calendar.second⟩ }
  have sound : first.Sound :=
    { regular := ⟨MemoryStore.regular_empty.failWritesTo _, by decide, by decide, by simp [first]⟩
      internal := MemoryStore.truthful_empty.failWritesTo _
      external := MemoryStore.truthful_empty }
  have answers : library.Answers := fun _ _ crashed => by cases crashed
  have parts {α β γ : Type} (run : (α × β) × γ) : run = ((run.1.1, run.1.2), run.2) := rfl
  have ok (answer : Except CatalogError Unit) (done : answer.isOk = true) : answer = .ok () := by
    cases answer with
    | ok _ => rfl
    | error _ => cases done
  have new : (({} : Catalog).listing) = .unloaded := rfl
  have loaded := Tended.load sound new codec 64
    (Prod.ext (Prod.ext (ok (performed library.load {} first).1.1 (by decide +kernel)) rfl) rfl)
  have saved := loaded.save ⟨by decide +kernel, by decide +kernel⟩ codec 64 answers ⟨#[2]⟩ .video
    (parts _)
  have isKnown : (⟨⟨.external, name, 1⟩, none, .video, ⟨⟨1577836800 * Calendar.second⟩, 0⟩⟩ :
      Picture) ∈ (performed library.load {} first).1.2.pictures?.getD [] := by decide +kernel
  have deleted := saved.delete codec 64 (List.mem_append_left _ isKnown) (parts _)
  obtain ⟨pictures, entries, listing, found, -, -, same, -⟩ := deleted.agreement
  exact ⟨_, _, _, deleted, by decide +kernel, by decide +kernel, pictures, entries, listing, found,
    same⟩

end CameraRoll
