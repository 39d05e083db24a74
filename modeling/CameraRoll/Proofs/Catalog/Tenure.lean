import CameraRoll.Proofs.Catalog.Agreement
import CameraRoll.Proofs.Catalog.Thumbnails
import CameraRoll.Proofs.Resolver.Entries
import Mathlib.Data.List.Pairwise

/-!
Pictures do not share thumbnails. Main statement: `Tenure.unshared`, for every state of a catalog
from its load on; `shared_thumbnails` has the two ways in which pictures come to share, of which one
is there at the load and the other begins with a picture that is out of date.
-/

namespace CameraRoll

open CameraRoll.Calendar CameraRoll.Naming

open Bench Library

/-! ### Pictures of a list -/

variable {resolver : Resolver (StateM Bench)} {exempt : String → Prop} {bench after : Bench}

/-- What is known of a picture as long as it is listed: its file is stored and no thumbnail inside,
and its thumbnail is stored inside unless it is an exempt one. -/
structure Picture.IsHeld (resolver : Resolver (StateM Bench)) (exempt : String → Prop)
    (bench : Bench) (picture : Picture) : Prop where
  location : picture.file.location = resolver.authoritative
  stored : (((partAt picture.file.location).get bench).find? picture.file.name).isSome = true
  noThumbnail : ¬picture.file.IsThumbnailInside
  inside : ∀ own ∈ picture.thumbnail, own.IsThumbnailInside
  present : ∀ own ∈ picture.thumbnail, exempt own.name ∨
    (bench.internal.find? own.name).isSome = true

/-- Two pictures with different files and, unless it is an exempt one, no thumbnail in common. -/
structure Picture.IsApart (exempt : String → Prop) (a b : Picture) : Prop where
  file : a.isSame b = false
  thumbnail : ∀ own ∈ a.thumbnail, ∀ other ∈ b.thumbnail, own.name = other.name → exempt own.name

theorem Picture.IsApart.symm {a b : Picture} (apart : a.IsApart exempt b) : b.IsApart exempt a where
  file := (StoredFile.isSame_comm _ _).trans apart.file
  thumbnail own isOwn other isOther same :=
    same ▸ apart.thumbnail other isOther own isOwn same.symm

/-- A list whose pictures are held and do not share thumbnails but exempt ones. -/
structure Unshared (resolver : Resolver (StateM Bench)) (exempt : String → Prop) (bench : Bench)
    (catalog : Catalog) : Prop where
  regular : bench.Regular
  listed : ∃ pictures, catalog.listing = .loaded pictures ∧
    (∀ picture ∈ pictures, picture.IsHeld resolver exempt bench) ∧
    pictures.Pairwise (Picture.IsApart exempt)

theorem Picture.IsHeld.grow {picture : Picture} (held : picture.IsHeld resolver exempt bench)
    (grows : Grows bench after) : picture.IsHeld resolver exempt after where
  location := held.location
  stored := grows _ _ held.stored
  noThumbnail := held.noThumbnail
  inside := held.inside
  present own isOwn := (held.present own isOwn).imp_right (grows .internal own.name)

namespace Unshared

variable {catalog : Catalog} (unshared : Unshared resolver exempt bench catalog)
include unshared

theorem grow (regular : after.Regular) (grows : Grows bench after) :
    Unshared resolver exempt after catalog where
  regular := regular
  listed := by
    obtain ⟨pictures, loaded, held, apart⟩ := unshared.listed
    exact ⟨pictures, loaded, fun picture member => (held picture member).grow grows, apart⟩

/-- A picture that is listed after its file was stored under a free name, with a fresh thumbnail if
any. -/
theorem add {picture : Picture} (regular : after.Regular) (grows : Grows bench after)
    (held : picture.IsHeld resolver exempt after)
    (free : ((partAt picture.file.location).get bench).find? picture.file.name = none)
    (fresh : ∀ own ∈ picture.thumbnail, bench.internal.find? own.name = none) :
    Unshared resolver exempt after (catalog.add picture) where
  regular := regular
  listed := by
    obtain ⟨pictures, loaded, others, apart⟩ := unshared.listed
    have placed := picture.perm_insert pictures
    refine ⟨picture.insert pictures, by rw [Catalog.add, loaded]; rfl, ?_, ?_⟩
    · intro other member
      rcases List.mem_cons.mp (placed.mem_iff.mp member) with rfl | old
      · exact held
      · exact (others other old).grow grows
    · refine (placed.pairwise_iff Picture.IsApart.symm).mpr (.cons (fun other old => ?_) apart)
      have kept := others other old
      constructor
      -- the files and thumbnails of the others were there when those of the new picture were not
      · rw [Picture.isSame, StoredFile.isSame, Bool.and_eq_false_iff]
        refine Or.inr (decide_eq_false fun same => ?_)
        have present := kept.stored
        rw [kept.location, ← held.location, ← same, free] at present
        cases present
      · intro own isOwn other' isOther same
        rcases kept.present other' isOther with isExempt | present
        · exact same ▸ isExempt
        · rw [← same, fresh own isOwn] at present
          cases present

end Unshared

/-! ### What a deletion takes away -/

/-- Of all stored files, only a picture's file and its thumbnail may have gone or changed. -/
structure Picture.IsTaken (picture : Picture) (before after : Bench) : Prop where
  regular : after.Regular
  others : ∀ file : StoredFile, file.isSame picture.file = false →
    (∀ own ∈ picture.thumbnail, file.isSame own = false) →
    ((partAt file.location).get after).find? file.name =
      ((partAt file.location).get before).find? file.name

theorem Bench.find?_erase (bench : Bench) {file other : StoredFile}
    (apart : other.isSame file = false) :
    ((partAt other.location).get ((partAt file.location).set
        (((partAt file.location).get bench).erase file.name) bench)).find? other.name =
      ((partAt other.location).get bench).find? other.name := by
  by_cases same : other.location = file.location
  · rw [← same, Part.get_set, MemoryStore.find?_erase, if_neg fun named => ?_]
    rw [StoredFile.isSame_iff.mpr ⟨same, named⟩] at apart
    cases apart
  · rw [get_set_of_ne same]

theorem Resolver.remove_others (serves : Serves resolver) (regular : bench.Regular)
    (file : StoredFile) :
    (outcome (resolver.remove file) bench).2.Regular ∧
    ∀ other : StoredFile, other.isSame file = false →
      ((partAt other.location).get (outcome (resolver.remove file) bench).2).find? other.name =
        ((partAt other.location).get bench).find? other.name := by
  rcases Resolver.remove_cases serves regular file with ⟨e, failed⟩ | done
  · rw [failed]
    exact ⟨regular, fun _ _ => rfl⟩
  · rw [done]
    exact ⟨regular.set ((regular.at _).erase file.name), fun other apart => find?_erase bench apart⟩

theorem Resolver.remove_missing (serves : Serves resolver) (regular : bench.Regular)
    {file : StoredFile} (missing : ((partAt file.location).get bench).find? file.name = none) :
    ∃ e, outcome (resolver.remove file) bench = (.error e, bench) := by
  unfold remove require
  split
  next store here =>
    rw [pure_bind]
    obtain ⟨-, ⟨e, failed⟩, -⟩ := (serves.holds here).missing bench file.name (regular.at _) missing
    exact ⟨_, outcome_adapt_error failed _⟩
  · exact ⟨_, rfl⟩

namespace Library

variable {library : Library (StateM Bench)} {catalog : Catalog} {pictures : List Picture}

private theorem takes_thumbnail (serves : Serves library.resolver) {picture : Picture}
    {between : Bench} (regular : between.Regular)
    (others : ∀ file : StoredFile, file.isSame picture.file = false →
      ((partAt file.location).get between).find? file.name =
        ((partAt file.location).get bench).find? file.name) :
    picture.IsTaken bench (match picture.thumbnail with
      | none => between
      | some own => (outcome (library.resolver.remove own) between).2) := by
  cases isOwn : picture.thumbnail with
  | none => exact ⟨regular, fun file apart _ => others file apart⟩
  | some own =>
    obtain ⟨regular', others'⟩ := Resolver.remove_others serves regular own
    refine ⟨regular', fun file apart apart' => ?_⟩
    exact (others' file (apart' own isOwn)).trans (others file apart)

/-- A picture is dropped, and its files are taken away, or nothing changes. -/
theorem delete_takes (serves : Serves library.resolver) (regular : bench.Regular)
    (loaded : catalog.listing = .loaded pictures) (picture : Picture) (gone : Bool) :
    let run := performed (library.delete picture gone) catalog bench
    picture.IsTaken bench run.2 ∧
      (run.1.2 = catalog.drop picture ∨ run.1.2 = catalog ∧ run.2 = bench) := by
  cases gone with
  | false =>
    rw [performed_delete loaded]
    obtain ⟨regular', others⟩ := Resolver.remove_others serves regular picture.file
    rcases Resolver.remove_cases serves regular picture.file with ⟨e, failed⟩ | done
    · rw [failed]
      exact ⟨⟨regular, fun _ _ _ => rfl⟩, Or.inr ⟨rfl, rfl⟩⟩
    · rw [done] at regular' others ⊢
      exact ⟨takes_thumbnail serves regular' others, Or.inl rfl⟩
  | true =>
    rw [performed_delete_gone loaded]
    exact ⟨takes_thumbnail serves regular fun _ _ => rfl, Or.inl rfl⟩

end Library

/-- The file of a new picture is stored under a free name that is no thumbnail's, or nothing
changes. -/
theorem Library.store_starts (serves : Serves resolver) (regular : bench.Regular) (codec : Codec)
    (width : Nat) (content : ByteArray) (kind : MediaKind) :
    let library := Bench.library resolver codec width
    let home := resolver.authoritative
    (∃ e, outcome (library.store content kind) bench = (.error e, bench)) ∨
    ∃ name, isValidName name = true ∧ ((partAt home).get bench).find? name = none ∧
      isThumbnailName name = false ∧
      outcome (library.store content kind) bench =
        outcome (library.wrap ⟨home, name, content.size⟩ none (some content))
          ((partAt home).set (((partAt home).get bench).put name content) bench) := by
  intro library home
  rcases store_searched serves regular codec width content kind with
    failed | ⟨-, n, -, -, valid, free, done⟩
  · exact Or.inl failed
  · exact Or.inr ⟨_, valid, free, not_thumbnail_iterate kind bench.now resolver.zone n, done⟩

namespace Unshared

variable {catalog : Catalog} (unshared : Unshared resolver exempt bench catalog)
include unshared

/-- Taking away a listed picture leaves every other file that the list is about, exempt thumbnails
apart. -/
theorem kept {pictures : List Picture} (loaded : catalog.listing = .loaded pictures)
    {picture other : Picture} (member : picture ∈ pictures) (among : other ∈ pictures)
    (apart : other.isSame picture = false) (taken : picture.IsTaken bench after) :
    ((partAt other.file.location).get after).find? other.file.name =
        ((partAt other.file.location).get bench).find? other.file.name ∧
      ∀ own ∈ other.thumbnail, exempt own.name ∨
        after.internal.find? own.name = bench.internal.find? own.name := by
  obtain ⟨pictures', loaded', held, pairwise⟩ := unshared.listed
  obtain rfl : pictures' = pictures := Listing.loaded.inj (loaded'.symm.trans loaded)
  have held' := held picture member
  -- no primary file of the list is the thumbnail of a picture of the list
  have different {a b : Picture} (isHeld : a.IsHeld resolver exempt bench)
      (isHeld' : b.IsHeld resolver exempt bench) : ∀ own ∈ a.thumbnail,
        own.isSame b.file = false := by
    intro own isOwn
    rw [Bool.eq_false_iff]
    intro same
    obtain ⟨location, name⟩ := StoredFile.isSame_iff.mp same
    obtain ⟨inside, isThumbnail⟩ := isHeld.inside own isOwn
    exact isHeld'.noThumbnail ⟨location ▸ inside, name ▸ isThumbnail⟩
  constructor
  · refine taken.others other.file apart fun own isOwn => ?_
    exact (StoredFile.isSame_comm _ _).trans (different held' (held other among) own isOwn)
  · intro own isOwn
    by_cases isExempt : exempt own.name
    · exact Or.inl isExempt
    · obtain ⟨inside, -⟩ := (held other among).inside own isOwn
      have distinct : other ≠ picture := by
        rintro rfl
        rw [Picture.isSame, StoredFile.isSame_iff.mpr ⟨rfl, rfl⟩] at apart
        cases apart
      have symmetric : Std.Symm (Picture.IsApart exempt) := ⟨fun _ _ => Picture.IsApart.symm⟩
      have between := pairwise.forall among member distinct
      have still := taken.others own (different (held other among) held' own isOwn)
      rw [inside] at still
      refine Or.inr (still fun own' isOwn' => Bool.eq_false_iff.mpr fun same => isExempt ?_)
      exact between.thumbnail own isOwn own' isOwn' (StoredFile.isSame_iff.mp same).2

theorem delete (serves : Serves resolver) (codec : Codec) (width : Nat) {picture : Picture}
    {gone : Bool} (current : picture ∈ catalog.pictures?.getD [] ∨ gone = false ∧
      ((partAt picture.file.location).get bench).find? picture.file.name = none) :
    let run := performed ((Bench.library resolver codec width).delete picture gone) catalog bench
    Unshared resolver exempt run.2 run.1.2 := by
  have serves' : Serves (Bench.library resolver codec width).resolver := serves
  obtain ⟨pictures, loaded, held, pairwise⟩ := unshared.listed
  rcases current with member | ⟨rfl, missing⟩
  · rw [Catalog.pictures?, loaded] at member
    obtain ⟨taken, dropped | ⟨same, still⟩⟩ := delete_takes serves' unshared.regular loaded picture
      gone
    · intro run
      rw [dropped]
      refine ⟨taken.regular, picture.erase pictures, by rw [Catalog.drop, loaded]; rfl, ?_, ?_⟩
      · intro other left
        -- what is left of the list is not the picture, so that nothing of it was taken
        have among : other ∈ pictures := List.mem_of_mem_eraseP left
        have apart : other.isSame picture = false := by
          have files := Picture.map_file_erase picture (pairwise.imp fun apart => apart.file)
          have leftFile := List.mem_map_of_mem (f := fun other : Picture => other.file) left
          rw [files] at leftFile
          exact (Bool.not_eq_true' _).mp (List.mem_filter.mp leftFile).2
        obtain ⟨file, thumbnails⟩ := unshared.kept loaded member among apart taken
        have before := held other among
        refine ⟨before.location, ?_, before.noThumbnail, before.inside, fun own isOwn => ?_⟩
        · rw [file]
          exact before.stored
        · rcases thumbnails own isOwn with isExempt | same
          · exact Or.inl isExempt
          · rw [same]
            exact before.present own isOwn
      · exact pairwise.sublist List.eraseP_sublist
    · intro run
      rw [same, still]
      exact unshared
  -- without the file, there is nothing that is done
  · obtain ⟨e, failed⟩ := Resolver.remove_missing serves unshared.regular missing
    rw [performed_delete loaded]
    have failed' : outcome ((Bench.library resolver codec width).resolver.remove picture.file)
      bench = (.error e, bench) := failed
    rw [failed']
    exact unshared

theorem save (serves : Serves resolver) (codec : Codec) (width : Nat) (content : ByteArray)
    (kind : MediaKind) :
    let run := performed ((Bench.library resolver codec width).save content kind) catalog bench
    Unshared resolver exempt run.2 run.1.2 := by
  have serves' : Serves (Bench.library resolver codec width).resolver := serves
  obtain ⟨pictures, loaded, -⟩ := unshared.listed
  rw [performed_save, performed_list_of_loaded loaded]
  dsimp only
  generalize oriented (Bench.library resolver codec width).codec content kind = upright
  rcases store_starts serves unshared.regular codec width upright kind with
    ⟨e, failed⟩ | ⟨name, valid, free, noThumbnail, done⟩
  · rw [failed]
    exact unshared
  · rw [done]
    have regular : Regular ((partAt resolver.authoritative).set
        (((partAt resolver.authoritative).get bench).put name upright) bench) :=
      unshared.regular.set ((unshared.regular.at resolver.authoritative).put valid upright)
    have stored := Grows.put bench resolver.authoritative name upright
    have wrapped := wrap_new serves' regular ⟨resolver.authoritative, name, upright.size⟩
      (some upright)
    rcases made : outcome ((Bench.library resolver codec width).wrap
      ⟨resolver.authoritative, name, upright.size⟩ none (some upright)) _ with
      ⟨e | picture, after⟩
    -- the file may have been left behind without a picture
    · rw [made] at wrapped
      exact unshared.grow (wrapped.1.regular_bench regular) (stored.trans wrapped.1.grows)
    · rw [made] at wrapped
      obtain ⟨added, file, -, inside⟩ := wrapped
      have fresh : ∀ own ∈ picture.thumbnail, own.IsFresh ((partAt resolver.authoritative).set
          (((partAt resolver.authoritative).get bench).put name upright) bench) after := by
        intro own isOwn
        rcases thumbnail_of_wrap serves' regular made own isOwn with found | fresh
        · cases found
        · exact fresh
      refine unshared.add (added.regular_bench regular) (stored.trans added.grows) ?_ ?_ ?_
      · constructor
        · rw [file]
        · rw [file]
          refine added.grows _ _ ?_
          rw [Part.get_set, MemoryStore.find?_put_self]
          rfl
        · rw [file]
          rintro ⟨-, isThumbnail⟩
          cases isThumbnail.symm.trans noThumbnail
        · exact inside
        · exact fun own isOwn => Or.inr (fresh own isOwn).stored
      · rw [file]
        exact free
      · exact fun own isOwn => stored.free .internal (fresh own isOwn).free

theorem checkLast (serves : Serves resolver) (codec : Codec) (width : Nat) :
    let run := performed (Bench.library resolver codec width).checkLast catalog bench
    Unshared resolver exempt run.2 run.1.2 := by
  obtain ⟨pictures, loaded, held, -⟩ := unshared.listed
  -- the file of the last picture is there, so that the search ends at once
  have there : ∀ last ∈ pictures.getLast?,
      outcome (resolver.contains last.file) bench = (.ok true, bench) := by
    intro last isLast
    have isHeld := held last (List.mem_of_getLast? isLast)
    exact Resolver.contains_stored serves unshared.regular isHeld.location isHeld.stored
  rw [performed_checkLast loaded fun _ => there]
  exact unshared

theorem copyOut (serves : Serves resolver) (codec : Codec) (width : Nat) (picture : Picture)
    (target : String) :
    let run := performed ((Bench.library resolver codec width).copyOut picture target) catalog bench
    Unshared resolver exempt run.2 run.1.2 := by
  obtain ⟨pictures, loaded, -⟩ := unshared.listed
  rw [Library.copyOut, performed_bind, performed_list_of_loaded loaded]
  dsimp only
  rw [performed_outside]
  -- reading changes nothing, and what is written is written elsewhere
  have elsewhere (exports : FileTree) (w : Bench) (kept : Unshared resolver exempt w catalog) :
      Unshared resolver exempt (exportsPart.set exports w) catalog := by
    refine kept.grow ⟨kept.regular.internal, kept.regular.external⟩ fun location name present => ?_
    cases location <;> exact present
  have reads : Keeps (fun w => Unshared resolver exempt w catalog)
      (resolver.read picture.file) := by
    refine Resolver.keeps_require fun store here => Keeps.adapt _ ?_
    exact (serves.holds here).keeps_read (fun w kept => kept.regular.at _) picture.file.name
  have looks (path : String) : Keeps (fun w => Unshared resolver exempt w catalog)
      (exportDisk.inspect path) := fun w kept => elsewhere _ w kept
  have writes (path : String) (content : ByteArray) :
      Keeps (fun w => Unshared resolver exempt w catalog) (exportDisk.write path content) :=
    fun w kept => elsewhere _ w kept
  exact Resolver.keeps_copying reads looks writes target bench unshared

end Unshared

/-! ### From the load on -/

/-- A thumbnail that was stored at the load and goes by its name with two pictures. -/
def Exempt (resolver : Resolver (StateM Bench)) (loaded : Bench) (name : String) : Prop :=
  (loaded.internal.find? name).isSome = true ∧
    ∃ a ∈ resolver.primaries loaded, ∃ b ∈ resolver.primaries loaded,
      a.name ≠ b.name ∧ thumbnailName a.name = name ∧ thumbnailName b.name = name

theorem Resolver.not_thumbnail_of_primary {file : StoredFile}
    (member : file ∈ resolver.primaries bench) : ¬file.IsThumbnailInside := by
  rintro ⟨-, isThumbnail⟩
  have primary := isThumbnail_of_isPrimary (List.mem_filter.mp member).2
  cases isThumbnail.symm.trans primary

theorem unshared_of_list (serves : Serves resolver) (regular : bench.Regular) {codec : Codec}
    {width : Nat} {catalog listed : Catalog} {pictures : List Picture}
    (unloaded : catalog.listing = .unloaded)
    (run : performed (Bench.library resolver codec width).list catalog bench =
      ((.ok pictures, listed), after)) :
    Unshared resolver (Exempt resolver bench) after listed := by
  obtain ⟨added, sameFiles, -⟩ : ThumbnailsAdded bench after ∧
      (pictures.map (·.file)).Perm (resolver.primaries bench) ∧
        ∀ picture ∈ pictures, picture.IsHandle resolver := by
    have made := list_unloaded serves regular codec width unloaded
    rw [run] at made
    exact made
  have loaded := listing_of_performed_list run
  rw [performed_list, unloaded] at run
  dsimp only at run
  split at run
  next made =>
    cases run
    have serves' : Serves (Bench.library resolver codec width).resolver := serves
    obtain ⟨stored, apart⟩ := thumbnails_of_loadPictures serves' regular made
    have primary : ∀ picture ∈ pictures, picture.file ∈ resolver.primaries bench :=
      fun picture member => sameFiles.mem_iff.mp (List.mem_map_of_mem member)
    refine ⟨added.regular_bench regular, pictures, loaded, fun picture member => ?_, ?_⟩
    · have isPrimary := primary picture member
      constructor
      · exact Resolver.primaries_location isPrimary
      · exact added.grows _ _ (Resolver.stored_of_primary regular isPrimary)
      · exact Resolver.not_thumbnail_of_primary isPrimary
      · exact fun own isOwn => (stored picture member own isOwn).1
      · exact fun own isOwn => Or.inr (stored picture member own isOwn).2
    · have different := pairwise_of_perm regular sameFiles
      refine (different.and apart).imp_of_mem fun {a b} memberA memberB both => ⟨both.1, ?_⟩
      intro own isOwn other isOther same
      obtain ⟨before, here, there⟩ := both.2 own isOwn other isOther same
      refine ⟨before, a.file, primary a memberA, b.file, primary b memberB, fun named => ?_,
        here.symm, there.symm⟩
      -- primary files with one name would be one file
      have location := (Resolver.primaries_location (primary a memberA)).trans
        (Resolver.primaries_location (primary b memberB)).symm
      cases (StoredFile.isSame_iff.mpr ⟨location, named⟩).symm.trans both.1
  · cases run

/-- A picture that a command deletes is one that is listed at that moment, or one whose file is
gone, which fails. -/
def Command.IsCurrent (bench : Bench) (catalog : Catalog) : Command → Prop
  | .delete picture gone => picture ∈ catalog.pictures?.getD [] ∨ gone = false ∧
      ((partAt picture.file.location).get bench).find? picture.file.name = none
  | _ => True

theorem Unshared.command {catalog : Catalog} (unshared : Unshared resolver exempt bench catalog)
    (serves : Serves resolver) (codec : Codec) (width : Nat) {command : Command}
    (current : command.IsCurrent bench catalog) :
    let run := performed (command.perform (Bench.library resolver codec width)) catalog bench
    Unshared resolver exempt run.2 run.1.2 := by
  -- commands leave out what an operation answers, which does not matter here
  have silent {α : Type} {act : Action (StateM Bench) α}
      (kept : Unshared resolver exempt (performed act catalog bench).2
        (performed act catalog bench).1.2) :
      Unshared resolver exempt (performed (do let _ ← act) catalog bench).2
        (performed (do let _ ← act) catalog bench).1.2 := by
    rw [performed_ignore]
    exact kept
  cases command with
  | load =>
    obtain ⟨pictures, loaded, -⟩ := unshared.listed
    refine silent ?_
    rw [performed_list_of_loaded loaded]
    exact unshared
  | save content kind => exact silent (unshared.save serves codec width content kind)
  | delete picture gone => exact unshared.delete serves codec width current
  | checkLast => exact silent (unshared.checkLast serves codec width)
  | copyOut picture target => exact unshared.copyOut serves codec width picture target

/-- The states of a bench and of a catalog between operations, from the load of the catalog on, with
any codec and width. Nothing else changes the files; the time and the failures in the way may
change. -/
inductive Tenure (resolver : Resolver (StateM Bench)) (loaded : Bench) : Bench → Catalog → Prop
  | load {after : Bench} {catalog listed : Catalog} (regular : loaded.Regular)
      (unloaded : catalog.listing = .unloaded) (codec : Codec) (width : Nat)
      (run : performed (Bench.library resolver codec width).load catalog loaded =
        ((.ok (), listed), after)) :
      Tenure resolver loaded after listed
  | command {bench after : Bench} {catalog listed : Catalog}
      (past : Tenure resolver loaded bench catalog) (codec : Codec) (width : Nat)
      (command : Command) (current : command.IsCurrent bench catalog)
      {answer : Except CatalogError Unit}
      (run : performed (command.perform (Bench.library resolver codec width)) catalog bench =
        ((answer, listed), after)) :
      Tenure resolver loaded after listed
  | meanwhile {bench after : Bench} {catalog : Catalog}
      (past : Tenure resolver loaded bench catalog)
      (regular : after.Regular) (internal : after.internal.files = bench.internal.files)
      (external : after.external.files = bench.external.files) :
      Tenure resolver loaded after catalog

theorem Tenure.keeps (serves : Serves resolver) {loaded : Bench} {catalog : Catalog}
    (tenure : Tenure resolver loaded bench catalog) :
    Unshared resolver (Exempt resolver loaded) bench catalog := by
  induction tenure with
  | load regular unloaded codec width run =>
    rw [Library.load, performed_bind] at run
    split at run
    next listed =>
      cases run
      exact unshared_of_list serves regular unloaded listed
    · cases run
  | command past codec width command current run ih =>
    have kept := ih.command serves codec width current
    rw [run] at kept
    exact kept
  | meanwhile past regular internal external ih =>
    exact ih.grow regular (.of_files internal external)

/-- In every state from the load on, the listed pictures are different files, and no two of them
have the same thumbnail, so that deleting one of them leaves the thumbnails of all others as they
are. Only a thumbnail that was there at the load and goes by its name with two pictures may be
shared. -/
theorem Tenure.unshared {around : Surroundings} {quota : Nat} {zone : Zone} {loaded : Bench}
    {catalog : Catalog} (tenure : Tenure (session around quota zone) loaded bench catalog) :
    ∃ pictures, catalog.listing = .loaded pictures ∧
      (pictures.Pairwise fun a b => a.isSame b = false ∧
        ∀ own ∈ a.thumbnail, ∀ other ∈ b.thumbnail, own.isSame other = true →
          Exempt (session around quota zone) loaded own.name) ∧
      ∀ picture ∈ pictures, ∀ codec width gone,
        let run := performed ((Bench.library (session around quota zone) codec width).delete picture
          gone) catalog bench
        ∀ other ∈ pictures, other.isSame picture = false → ∀ own ∈ other.thumbnail,
          ¬Exempt (session around quota zone) loaded own.name →
          ∃ content, ((partAt own.location).get bench).find? own.name = some content ∧
            ((partAt own.location).get run.2).find? own.name = some content := by
  have serves := serves_session around quota zone
  have kept := tenure.keeps serves
  obtain ⟨pictures, listed, held, apart⟩ := kept.listed
  refine ⟨pictures, listed, ?_, ?_⟩
  · refine apart.imp fun {a b} between => ⟨between.file, fun own isOwn other isOther same => ?_⟩
    exact between.thumbnail own isOwn other isOther (StoredFile.isSame_iff.mp same).2
  · intro picture member codec width gone run other among different own isOwn notExempt
    have serves' : Serves (Bench.library (session around quota zone) codec width).resolver := serves
    obtain ⟨taken, -⟩ := delete_takes serves' kept.regular listed picture gone
    obtain ⟨inside, -⟩ := (held other among).inside own isOwn
    have untouched := (kept.kept listed member among different taken).2 own isOwn
    have still := untouched.resolve_left notExempt
    obtain ⟨content, found⟩ := Option.isSome_iff_exists.mp
      (((held other among).present own isOwn).resolve_left notExempt)
    rw [inside]
    exact ⟨content, found, still.trans found⟩

/-- A picture is listed beside an orphaned thumbnail that goes with no picture yet. The next one
that is saved would give its thumbnail that name. -/
theorem Tenure.unshared_orphan :
    ∃ loaded bench catalog, Tenure (session {} 1000 (.fixed 0)) loaded bench catalog ∧
      loaded.internal.files.map (·.1) =
        ["IMG_20240101_120000.jpg", "thumb-IMG_20240101_120000 (1).jpg"] ∧
      (catalog.pictures?.getD []).map (fun picture => picture.thumbnail.map (·.name)) =
        [some "thumb-IMG_20240101_120000.jpg", some "thumb-IMG_20240101_120000 (2).jpg"] ∧
      ∃ pictures, catalog.listing = .loaded pictures ∧
        pictures.Pairwise fun a b => a.isSame b = false ∧
          ∀ own ∈ a.thumbnail, ∀ other ∈ b.thumbnail, own.isSame other = true →
            Exempt (session {} 1000 (.fixed 0)) loaded own.name := by
  let library := Bench.library (session {} 1000 (.fixed 0)) (markingCodec true) 64
  let stored : Bench :=
    { internal := { files := [("IMG_20240101_120000.jpg", ⟨#[1]⟩),
        ("thumb-IMG_20240101_120000 (1).jpg", ⟨#[2]⟩)] }
      now := ⟨1704110400 * Calendar.second⟩ }
  have regular : stored.Regular :=
    ⟨⟨by decide, by decide, by simp [stored]⟩, MemoryStore.regular_empty⟩
  have ended {α β γ : Type} (run : (α × β) × γ) {answer : α} (same : run.1.1 = answer) :
      run = ((answer, run.1.2), run.2) := by rw [← same]
  have done : (performed library.load {} stored).1.1 = .ok () := by
    cases answered : (performed library.load {} stored).1.1 with
    | ok _ => rfl
    | error e =>
      have succeeded : (performed library.load {} stored).1.1.isOk = true := by decide +kernel
      rw [answered] at succeeded
      cases succeeded
  have ran := ended (performed library.load {} stored) done
  have loaded := @Tenure.load library.resolver stored _ {} _ regular rfl (markingCodec true) 64 ran
  have saved := loaded.command (markingCodec true) 64 (.save ⟨#[3]⟩ .image) trivial (ended _ rfl)
  obtain ⟨pictures, listed, apart, -⟩ := saved.unshared
  exact ⟨_, _, _, saved, by decide +kernel, by decide +kernel, pictures, listed, apart⟩

/-- How pictures come to share a thumbnail. An image and another with the same stem find the same
one when they are listed, and deleting the first takes it from the second. And a picture that was
deleted, and whose name another one has since, takes with it the thumbnail of a third when it is
deleted once more, so that the next picture is given that one again. -/
theorem shared_thumbnails :
    let library := Bench.library (session {} 1000 (.fixed 0)) (markingCodec true) 64
    let noon : ZonedTime := ⟨⟨1704110400 * Calendar.second⟩, 0⟩
    let thumbnail : StoredFile := ⟨.internal, "thumb-IMG_20240101_120000.jpg", 1⟩
    let image : Picture :=
      ⟨⟨.internal, "IMG_20240101_120000.jpg", 1⟩, some thumbnail, .image, noon⟩
    let drawing : Picture :=
      ⟨⟨.internal, "IMG_20240101_120000.png", 1⟩, some thumbnail, .image, noon⟩
    let stored : Bench :=
      { internal := { files := [("IMG_20240101_120000.jpg", ⟨#[1]⟩),
          ("IMG_20240101_120000.png", ⟨#[2]⟩), ("thumb-IMG_20240101_120000.jpg", ⟨#[3]⟩)] } }
    let loaded := performed library.load {} stored
    let deleted := performed (library.delete image false) loaded.1.2 loaded.2
    (loaded.1.2.pictures? = some [image, drawing] ∧
      deleted.1.2.pictures? = some [drawing] ∧
      deleted.2.internal.files.map (·.1) = ["IMG_20240101_120000.png"]) ∧
    let orphaned : Bench :=
      { internal := { files := [("thumb-IMG_20240101_120000.jpg", ⟨#[3]⟩)] }
        now := ⟨1704110400 * Calendar.second⟩ }
    let first := performed (library.save ⟨#[1]⟩ .image) {} orphaned
    let picture : Picture := ⟨⟨.internal, "IMG_20240101_120000.jpg", 10⟩,
      some ⟨.internal, "thumb-IMG_20240101_120000 (1).jpg", 11⟩, .image, noon⟩
    let gone := performed (library.delete picture false) first.1.2 first.2
    let second := performed (library.save "bad".toUTF8 .image) gone.1.2 gone.2
    let third := performed (library.save ⟨#[2]⟩ .image) second.1.2 second.2
    let stale := performed (library.delete picture false) third.1.2 third.2
    let last := performed (library.save ⟨#[4]⟩ .image) stale.1.2 stale.2
    first.1.2.pictures? = some [picture] ∧
      (last.1.2.pictures?.getD []).map (fun picture =>
        (picture.file.name, picture.thumbnail.map (·.name))) =
          [("IMG_20240101_120000.jpg", some "thumb-IMG_20240101_120000 (1).jpg"),
            ("IMG_20240101_120000 (1).jpg", some "thumb-IMG_20240101_120000 (1).jpg")] := by
  intro library noon thumbnail image drawing stored loaded deleted
  constructor
  · have regular : stored.Regular :=
      ⟨⟨by decide, by decide, by simp [stored]⟩, MemoryStore.regular_empty⟩
    have serves : Serves library.resolver := serves_session {} 1000 (.fixed 0)
    have wrap {file : StoredFile} {picture : Picture}
        (made : Picture.ofFile file (some thumbnail) (.fixed 0) = some picture) :
        outcome (library.wrap file (some thumbnail) none) stored = (.ok picture, stored) := by
      have zoned : library.resolver.zone = .fixed 0 := rfl
      rw [wrap_eq, thumbnailFor, pure_bind, zoned, made]
      rfl
    have wrapped : outcome (library.wrapAll [thumbnail] [image.file, drawing.file]) stored =
        (.ok [image, drawing], stored) := by
      have found : [thumbnail].find? (·.name = thumbnailName image.file.name) = some thumbnail := by
        decide +kernel
      have found' : [thumbnail].find? (·.name = thumbnailName drawing.file.name) =
          some thumbnail := by decide +kernel
      have first : Picture.ofFile image.file (some thumbnail) (.fixed 0) = some image := by
        decide +kernel
      have second : Picture.ofFile drawing.file (some thumbnail) (.fixed 0) = some drawing := by
        decide +kernel
      rw [wrapAll, found, outcome_bind_ok (wrap first), wrapAll, found',
        outcome_bind_ok (outcome_bind_ok (wrap second) _)]
      rfl
    have entries : outcome library.resolver.entries stored =
        (.ok ⟨[image.file, drawing.file], [thumbnail]⟩, stored) := by
      have primary : library.resolver.primaries stored = [image.file, drawing.file] := by
        decide +kernel
      have listed : (stored.filesAt .internal).filter (·.isThumbnail) = [thumbnail] := by
        decide +kernel
      rw [Resolver.outcome_entries serves regular, primary, listed]
    -- both were taken at one time, so that sorting leaves them where they are
    have sorted : Picture.sortByTime [image, drawing] = [image, drawing] :=
      List.mergeSort_of_pairwise (by decide +kernel)
    have made : outcome library.loadPictures stored = (.ok [image, drawing], stored) := by
      rw [loadPictures, storing, outcome_bind_ok (outcome_adapt_ok entries _),
        outcome_bind_ok wrapped, sorted]
      rfl
    have ran : loaded = ((.ok (), Catalog.made [image, drawing] {}), stored) := by
      change performed library.load {} stored = _
      rw [load, performed_bind, performed_list]
      dsimp only
      rw [made]
      rfl
    have removed : deleted =
        performed (library.delete image false) (Catalog.made [image, drawing] {}) stored := by
      change performed (library.delete image false) loaded.1.2 loaded.2 = _
      rw [ran]
    rw [removed, ran]
    decide +kernel
  · decide +kernel

end CameraRoll
