import CameraRoll.Proofs.Catalog.Rounds
import CameraRoll.Proofs.Catalog.Tenure

/-!
Catalogs among stores in which anything may happen. Main statements: `Service.shows`, by which a fact
about pictures that come into the list holds of all listed pictures, even when their files are gone,
and `Service.hasEntries`, what is known of all of them.
-/

namespace CameraRoll

open CameraRoll.Naming

open Bench Library

variable {resolver : Resolver (StateM Bench)} {bench : Bench} {catalog : Catalog}

/-! ### Catalogs in service -/

/-- What is known of every picture that a catalog lists, whatever became of its file. -/
structure Picture.IsEntry (resolver : Resolver (StateM Bench)) (picture : Picture) : Prop
    extends picture.IsHandle resolver where
  valid : isValidName picture.name = true

/-- All pictures that a catalog lists are entries. -/
def HasEntries (resolver : Resolver (StateM Bench)) (catalog : Catalog) : Prop :=
  ∀ picture ∈ catalog.pictures?.getD [], picture.IsEntry resolver

/-- The states of a catalog, from before its load on, after any operations at any benches, so that
whatever else happens to the files happens between two of them. -/
inductive Service (resolver : Resolver (StateM Bench)) : Catalog → Prop
  | beginning {catalog : Catalog} (unloaded : catalog.listing = .unloaded) :
      Service resolver catalog
  | command {catalog listed : Catalog} (past : Service resolver catalog) {bench after : Bench}
      (regular : bench.Regular) (codec : Codec) (width : Nat) (command : Command)
      {answer : Except CatalogError Unit}
      (run : performed (command.perform (Bench.library resolver codec width)) catalog bench =
        ((answer, listed), after)) :
      Service resolver listed

/-! ### Facts about listed pictures -/

/-- A fact holds of all pictures that a catalog lists. -/
def Shows (fact : Picture → Prop) (catalog : Catalog) : Prop :=
  ∀ picture ∈ catalog.pictures?.getD [], fact picture

/-- A fact holds of every picture that is made of a primary file, and of every picture whose file
was just stored. -/
structure Resolver.Ensures (resolver : Resolver (StateM Bench)) (fact : Picture → Prop) :
    Prop where
  listed : ∀ {bench : Bench}, bench.Regular → ∀ {picture : Picture},
    picture.file ∈ resolver.primaries bench → picture.IsHandle resolver → fact picture
  stored : ∀ {bench : Bench}, bench.Regular → ∀ {codec : Codec} {width : Nat}
    {content : ByteArray} {kind : MediaKind} {picture : Picture} {after : Bench},
    outcome ((Bench.library resolver codec width).store content kind) bench =
      (.ok picture, after) → fact picture

variable {fact : Picture → Prop}

theorem shows_of_loaded {pictures : List Picture} (loaded : catalog.listing = .loaded pictures) :
    Shows fact catalog ↔ ∀ picture ∈ pictures, fact picture := by
  rw [Shows, Catalog.pictures?, loaded]
  rfl

theorem shows_of_unloaded (unloaded : catalog.listing = .unloaded) : Shows fact catalog := by
  rw [Shows, Catalog.pictures?, unloaded]
  exact fun _ member => by cases member

namespace Shows

section Catalog

variable (shows : Shows fact catalog)
include shows

theorem add {picture : Picture} (holds : fact picture) : Shows fact (catalog.add picture) := by
  rw [Catalog.add]
  split
  next pictures loaded =>
    intro other member
    rcases List.mem_cons.mp ((picture.perm_insert pictures).mem_iff.mp member) with rfl | old
    · exact holds
    · exact (shows_of_loaded loaded).mp shows other old
  · exact shows

theorem drop (picture : Picture) : Shows fact (catalog.drop picture) := by
  rw [Catalog.drop]
  split
  next pictures loaded =>
    intro other member
    exact (shows_of_loaded loaded).mp shows other (List.mem_of_mem_eraseP member)
  · exact shows

theorem rounds {library : Library (StateM Bench)} {pictures : List Picture}
    (loaded : catalog.listing = .loaded pictures)
    {answer : Except CatalogError (Option Picture)} {after : Catalog} {bench' : Bench}
    (rounds : Rounds library catalog bench answer after bench') : Shows fact after := by
  induction rounds generalizing pictures with
  | failed round | answered round =>
    rcases checkRound_cases loaded round with ⟨-, rfl⟩ | ⟨more, -⟩
    · exact shows
    · cases more
  | again round rest ih =>
    rcases checkRound_cases loaded round with ⟨more, -⟩ | ⟨-, last, -, rfl⟩
    · exact absurd rfl more
    · exact ih (shows.drop last) (listing_drop loaded last)

end Catalog

section Command

variable (ensures : resolver.Ensures fact) (serves : Serves resolver) (regular : bench.Regular)
  (shows : Shows fact catalog)
include ensures serves regular shows

/-- Making the list. -/
theorem list (codec : Codec) (width : Nat) :
    let run := performed (Bench.library resolver codec width).list catalog bench
    run.2.Regular ∧ Shows fact run.1.2 := by
  cases listing : catalog.listing with
  | loaded pictures =>
    rw [performed_list_of_loaded listing]
    exact ⟨regular, shows⟩
  | failed =>
    rw [performed_list, listing]
    exact ⟨regular, shows⟩
  | unloaded =>
    have made := list_unloaded serves regular codec width listing
    rcases run : performed (Bench.library resolver codec width).list catalog bench with
      ⟨⟨e | pictures, listed⟩, after⟩
    -- a list that could not be made shows no pictures
    · rw [run] at made
      refine ⟨made.1.regular_bench regular, ?_⟩
      rw [performed_list, listing] at run
      dsimp only at run
      split at run
      · cases run
      · cases run
        exact fun _ member => by cases member
    · rw [run] at made
      obtain ⟨added, files, handles⟩ := made
      refine ⟨added.regular_bench regular, ?_⟩
      refine (shows_of_loaded (listing_of_performed_list run)).mpr fun picture member => ?_
      have primary := files.mem_iff.mp (List.mem_map_of_mem member)
      exact ensures.listed regular primary (handles picture member)

/-- What begins by asking for the list goes on from there. -/
theorem of_list {codec : Codec} {width : Nat} {α : Type}
    {next : List Picture → Action (StateM Bench) α}
    (kept : ∀ pictures listed between, listed.listing = .loaded pictures → between.Regular →
      Shows fact listed → Shows fact
        (performed ((Bench.library resolver codec width).list >>= next) listed between).1.2) :
    Shows fact
      (performed ((Bench.library resolver codec width).list >>= next) catalog bench).1.2 := by
  obtain ⟨regular', shows'⟩ := shows.list ensures serves regular codec width
  rcases run : performed (Bench.library resolver codec width).list catalog bench with
    ⟨⟨e | pictures, listed⟩, between⟩
  · rw [run] at shows'
    rw [performed_bind, run]
    exact shows'
  · rw [run] at regular' shows'
    have loaded := listing_of_performed_list run
    have goesOn := kept pictures listed between loaded regular' shows'
    rw [performed_bind, performed_list_of_loaded loaded] at goesOn
    rw [performed_bind, run]
    exact goesOn

theorem command (codec : Codec) (width : Nat) (command : Command) :
    Shows fact
      (performed (command.perform (Bench.library resolver codec width)) catalog bench).1.2 := by
  have serves' : Serves (Bench.library resolver codec width).resolver := serves
  -- only a save puts a picture into a list that is there
  cases command with
  | load =>
    rw [Command.perform, load, performed_ignore]
    exact (shows.list ensures serves regular codec width).2
  | save content kind =>
    obtain ⟨regular', shows'⟩ := shows.list ensures serves regular codec width
    rw [Command.perform, performed_ignore, performed_save]
    split
    next run =>
      rw [run] at regular' shows'
      split
      next stored => exact shows'.add (ensures.stored regular' stored)
      · exact shows'
    next run =>
      rw [run] at shows'
      exact shows'
  | delete picture gone =>
    refine shows.of_list ensures serves regular
      fun pictures listed between loaded regular shows => ?_
    obtain ⟨-, dropped | ⟨same, -⟩⟩ := delete_takes serves' regular loaded picture gone
    · exact (congrArg (Shows fact) dropped).mpr (shows.drop picture)
    · exact (congrArg (Shows fact) same).mpr shows
  | checkLast =>
    rw [Command.perform, performed_ignore]
    refine shows.of_list ensures serves regular
      fun pictures listed between loaded regular shows => ?_
    exact shows.rounds loaded ((rounds_iff loaded).mpr rfl)
  | copyOut picture target =>
    refine shows.of_list ensures serves regular
      fun pictures listed between loaded regular shows => ?_
    rw [performed_bind, performed_list_of_loaded loaded]
    dsimp only
    rw [performed_outside]
    exact shows

end Command

end Shows

/-- What is ensured of pictures that come into the list holds of all that are listed, whatever
became of their files. -/
theorem Service.shows (ensures : resolver.Ensures fact) (serves : Serves resolver)
    (service : Service resolver catalog) : Shows fact catalog := by
  -- by induction on the operations; what the stores hold does not matter to what is known
  induction service with
  | beginning unloaded => exact shows_of_unloaded unloaded
  | command past regular codec width command run ih =>
    have kept := ih.command ensures serves regular codec width command
    rw [run] at kept
    exact kept

/-! ### Entries -/

theorem hasEntries_of_loaded {pictures : List Picture}
    (loaded : catalog.listing = .loaded pictures) :
    HasEntries resolver catalog ↔ ∀ picture ∈ pictures, picture.IsEntry resolver :=
  shows_of_loaded loaded

/-- The picture of a file that was stored is an entry, and the file is no thumbnail. -/
theorem isEntry_of_store (serves : Serves resolver) (regular : bench.Regular) {codec : Codec}
    {width : Nat} {content : ByteArray} {kind : MediaKind} {picture : Picture} {after : Bench}
    (run : outcome ((Bench.library resolver codec width).store content kind) bench =
      (.ok picture, after)) :
    picture.IsEntry resolver ∧ isThumbnailName picture.name = false := by
  have serves' : Serves (Bench.library resolver codec width).resolver := serves
  rcases store_starts serves regular codec width content kind with
    ⟨e, failed⟩ | ⟨name, valid, -, noThumbnail, done⟩
  · rw [failed] at run
    cases run
  · rw [done] at run
    have stored : ((partAt resolver.authoritative).set
        (((partAt resolver.authoritative).get bench).put name content) bench).Regular :=
      regular.set ((regular.at _).put valid content)
    have wrapped := wrap_new serves' stored ⟨resolver.authoritative, name, content.size⟩
      (some content)
    rw [run] at wrapped
    obtain ⟨-, file, time, inside⟩ := wrapped
    rw [Picture.name, file]
    refine ⟨⟨⟨?_, ?_, inside⟩, ?_⟩, noThumbnail⟩
    · rw [file]
    · rw [file]
      exact time
    · rw [Picture.name, file]
      exact valid

theorem ensures_isEntry (serves : Serves resolver) :
    resolver.Ensures (Picture.IsEntry resolver) where
  listed {bench} regular {picture} primary handle := by
    obtain ⟨content, found⟩ :=
      Option.isSome_iff_exists.mp (Resolver.stored_of_primary regular primary)
    exact ⟨handle, (regular.at _).isValidName_of_find? found⟩
  stored regular _ _ _ _ _ _ run := (isEntry_of_store serves regular run).1

theorem Service.hasEntries (serves : Serves resolver) (service : Service resolver catalog) :
    HasEntries resolver catalog :=
  service.shows (ensures_isEntry serves) serves

end CameraRoll
