import CameraRoll.Proofs.Catalog.Agreement
import CameraRoll.Proofs.Naming.Rollover
import CameraRoll.Proofs.Resolver.Search

/-!
Pictures that are saved one after another at one instant. Main statement: `Burst.countsUp`, that
their names count up, that each is dated a millisecond after the one before, and that they are
listed as they were saved.
-/

namespace CameraRoll

open CameraRoll.Calendar CameraRoll.Naming CameraRoll.Text

open Bench Library

variable {resolver : Resolver (StateM Bench)} {kind : MediaKind} {now : Instant} {bench : Bench}

/-! ### Bursts -/

/-- What all names of a kind at an instant start with. -/
def sharedBase (kind : MediaKind) (now : Instant) (zone : Zone) : List Char :=
  writtenBase kind (namingClock now zone)

/-- Pictures of one kind saved one after another at one instant, with the bench and the catalog
after them. At first no file has a name that starts like theirs. Each is saved with any content,
codec and width; in between, the time and the failures in the way may change, but no file. -/
inductive Burst (resolver : Resolver (StateM Bench)) (kind : MediaKind) (now : Instant) :
    List Picture → Bench → Catalog → Prop
  | beginning {bench : Bench} (sound : bench.Sound)
      (new : ∀ file ∈ ((partAt resolver.authoritative).get bench).files,
        ¬ sharedBase kind now resolver.zone <+: file.1.toList) (catalog : Catalog) :
      Burst resolver kind now [] bench catalog
  | save {saved : List Picture} {bench after : Bench} {catalog listed : Catalog}
      (past : Burst resolver kind now saved bench catalog) (clock : bench.now = now)
      (codec : Codec) (width : Nat) (content : ByteArray) {picture : Picture}
      (run : performed ((Bench.library resolver codec width).save content kind) catalog bench =
        ((.ok picture, listed), after)) :
      Burst resolver kind now (saved ++ [picture]) after listed
  | meanwhile {saved : List Picture} {bench after : Bench} {catalog : Catalog}
      (past : Burst resolver kind now saved bench catalog) (sound : after.Sound)
      (internal : after.internal.files = bench.internal.files)
      (external : after.external.files = bench.external.files) :
      Burst resolver kind now saved after catalog

/-- A save that succeeds makes the burst longer by its picture. -/
theorem Burst.exists_save {saved : List Picture} {catalog : Catalog}
    (past : Burst resolver kind now saved bench catalog) (clock : bench.now = now) (codec : Codec)
    (width : Nat) (content : ByteArray)
    (done : (performed ((Bench.library resolver codec width).save content kind) catalog
      bench).1.1.isOk = true) :
    let run := performed ((Bench.library resolver codec width).save content kind) catalog bench
    ∃ picture, Burst resolver kind now (saved ++ [picture]) run.2 run.1.2 := by
  intro run
  rcases same : run with ⟨⟨e | picture, listed⟩, after⟩
  · rw [show performed _ catalog bench = _ from same] at done
    cases done
  · exact ⟨picture, past.save clock codec width content same⟩

/-- A burst has counted up to here: its pictures have the first names, no other file has a name that
starts like theirs, and they are listed as they were saved. -/
structure CountedUp (resolver : Resolver (StateM Bench)) (kind : MediaKind) (now : Instant)
    (saved : List Picture) (bench : Bench) (catalog : Catalog) : Prop where
  sound : bench.Sound
  few : saved.length ≤ 10 ^ 15
  names : saved.map (·.name) =
    (List.range saved.length).map fun n => nextName^[n] (canonicalName kind now resolver.zone)
  stored : ∀ name, sharedBase kind now resolver.zone <+: name.toList →
    (bench.Has resolver.authoritative name ↔ name ∈ saved.map (·.name))
  dated : ∀ picture ∈ saved, captureTime picture.name resolver.zone = some picture.time
  listed : saved.Sublist (catalog.pictures?.getD [])

/-! ### Names of a burst -/

theorem sharedBase_no_thumbnail {zone : Zone} {name : String}
    (starts : sharedBase kind now zone <+: name.toList) : isThumbnailName name = false := by
  -- what a name is shows in its first characters, which the base has
  obtain ⟨rest, whole⟩ := starts
  rw [isThumbnailName, kindOf, ← whole, sharedBase, writtenBase, List.append_assoc,
    kindOfChars_append]
  cases kind <;> rfl

section Named

variable {zone : Zone} (years : InFourDigitYears (namingClock now zone))
include years

theorem sharedBase_begins {n : Nat} (small : n ≤ maxWord64) :
    sharedBase kind now zone <+: (nextName^[n] (canonicalName kind now zone)).toList := by
  rw [toList_iterate_named years small, duplicateChars_eq, List.append_assoc]
  exact List.prefix_append _ _

/-- A name of a burst that has a time tells how many milliseconds it is behind the clock's second,
and they are fewer than the calendar has. -/
theorem index_lt_of_dated {n : Nat} (few : n ≤ 10 ^ 15) {time : ZonedTime}
    (dated : captureTime (nextName^[n] (canonicalName kind now zone)) zone = some time) :
    n < 10 ^ 15 ∧ time.instant.nanos =
      (namingClock now zone).nanos / second * second
        - zone.offsetOf ⟨(namingClock now zone).nanos / second * second⟩ * second + n * 1000000 := by
  have small : n ≤ maxSigned64 := few.trans (by decide)
  rw [captureTime_iterate_named years small] at dated
  dsimp only at dated
  split at dated
  next inRange =>
    cases dated
    -- a larger index leads out of the calendar from any day in it
    have begun := ((namingClock now zone).nanos_of_years years).1
    have ended := (WallClock.inRange_iff _).mp inRange
    have first : -800000 < yearStart 0 := by decide
    have last : yearStart 10000 < 3000000 := by decide
    simp only [WallClock.later, ZonedTime.instant, dayLength, second] at *
    omega
  · cases dated

end Named

/-! ### One more picture -/

namespace CountedUp

variable {saved : List Picture} {catalog : Catalog}

theorem beginning (sound : bench.Sound)
    (new : ∀ file ∈ ((partAt resolver.authoritative).get bench).files,
      ¬ sharedBase kind now resolver.zone <+: file.1.toList) (catalog : Catalog) :
    CountedUp resolver kind now [] bench catalog where
  sound := sound
  few := Nat.zero_le _
  names := rfl
  stored := by
    refine fun name starts => ⟨fun has => ?_, fun member => by cases member⟩
    obtain ⟨content, found⟩ := Option.isSome_iff_exists.mp has
    exact absurd starts (new _ (MemoryStore.mem_of_find? found))
  dated := fun _ member => by cases member
  listed := List.nil_sublist _

variable (counted : CountedUp resolver kind now saved bench catalog)
include counted

theorem meanwhile {after : Bench} (sound : after.Sound)
    (internal : after.internal.files = bench.internal.files)
    (external : after.external.files = bench.external.files) :
    CountedUp resolver kind now saved after catalog where
  sound := sound
  few := counted.few
  names := counted.names
  stored := by
    have same (location : Location) (name : String) :
        after.Has location name ↔ bench.Has location name := by
      cases location with
      | internal =>
        change (after.internal.files.lookup name).isSome = true ↔ _
        rw [internal]
        rfl
      | external =>
        change (after.external.files.lookup name).isSome = true ↔ _
        rw [external]
        rfl
    exact fun name starts => (same _ name).trans (counted.stored name starts)
  dated := counted.dated
  listed := counted.listed

/-- Making the list adds no more than thumbnails. -/
theorem list (serves : Serves resolver) (codec : Codec) (width : Nat) {pictures : List Picture}
    {listed : Catalog} {between : Bench}
    (run : performed (Bench.library resolver codec width).list catalog bench =
      ((.ok pictures, listed), between)) :
    CountedUp resolver kind now saved between listed ∧ between.now = bench.now := by
  cases listing : catalog.listing with
  | loaded pictures =>
    rw [performed_list_of_loaded listing] at run
    cases run
    exact ⟨counted, rfl⟩
  | failed =>
    rw [performed_list, listing] at run
    cases run
  | unloaded =>
    have made := list_unloaded serves counted.sound.regular codec width listing
    rw [run] at made
    obtain ⟨added, -⟩ := made
    -- no picture was saved yet
    have none : saved = [] := by
      have nothing := counted.listed
      rw [Catalog.pictures?, listing] at nothing
      exact List.sublist_nil.mp nothing
    subst none
    have still : between.now = _ := congrArg Bench.now added.elsewhere
    refine ⟨⟨counted.sound.added added, counted.few, counted.names, fun name starts => ?_,
      counted.dated, List.nil_sublist _⟩, still⟩
    rw [← counted.stored name starts, Has, Has, added.find?_eq _ (sharedBase_no_thumbnail starts)]

variable (years : InFourDigitYears (namingClock now resolver.zone))
include years

/-- The names that are taken are those of the burst so far. -/
theorem mem_iff {n : Nat} (small : n ≤ maxWord64) :
    bench.Has resolver.authoritative (nextName^[n] (canonicalName kind now resolver.zone)) ↔
      n < saved.length := by
  rw [counted.stored _ (sharedBase_begins years small), counted.names, List.mem_map]
  -- different indices give different names
  constructor
  · rintro ⟨k, member, same⟩
    rw [List.mem_range] at member
    have few := counted.few
    have large : 10 ^ 15 ≤ maxWord64 := by decide
    rwa [iterate_named_inj years small (by omega) same.symm]
  · exact fun less => ⟨n, List.mem_range.mpr less, rfl⟩

/-- So the first free name is the next one. -/
theorem index_eq {n : Nat}
    (earlier : ∀ k < n,
      bench.Has resolver.authoritative (nextName^[k] (canonicalName kind now resolver.zone)))
    (free : ¬ bench.Has resolver.authoritative
      (nextName^[n] (canonicalName kind now resolver.zone))) : n = saved.length := by
  have large : saved.length ≤ maxWord64 := counted.few.trans (by decide)
  rcases Nat.lt_trichotomy n saved.length with less | same | more
  · exact absurd ((counted.mem_iff years (by omega)).mpr less) free
  · exact same
  · exact absurd ((counted.mem_iff years large).mp (earlier _ more)) (Nat.lt_irrefl _)

/-- Pictures that were saved before have earlier times. -/
theorem instant_le {picture : Picture}
    (name : picture.name = nextName^[saved.length] (canonicalName kind now resolver.zone))
    (dated : captureTime picture.name resolver.zone = some picture.time) :
    ∀ other ∈ saved, other.instant ≤ picture.instant := by
  intro other member
  have among : other.name ∈ saved.map (·.name) := List.mem_map_of_mem member
  rw [counted.names, List.mem_map] at among
  obtain ⟨k, less, named⟩ := among
  rw [List.mem_range] at less
  have known := counted.dated other member
  rw [← named] at known
  rw [name] at dated
  have few : k ≤ 10 ^ 15 := less.le.trans counted.few
  have earlier := (index_lt_of_dated years few known).2
  have later := (index_lt_of_dated years counted.few dated).2
  rw [Picture.instant, Picture.instant, earlier, later]
  omega

/-- One more picture under the next name, beside thumbnails. -/
theorem append {picture : Picture}
    (name : picture.name = nextName^[saved.length] (canonicalName kind now resolver.zone))
    (dated : captureTime picture.name resolver.zone = some picture.time)
    (valid : isValidName picture.name = true) (content : ByteArray) {after : Bench}
    (added : ThumbnailsAdded ((partAt resolver.authoritative).set
      (((partAt resolver.authoritative).get bench).put picture.name content) bench) after)
    {pictures : List Picture} (loaded : catalog.listing = .loaded pictures) :
    CountedUp resolver kind now (saved ++ [picture]) after (catalog.add picture) where
  sound := (counted.sound.put resolver.authoritative valid content).added added
  few := by
    -- a name that has a time has an index below the bound
    rw [name] at dated
    have less := (index_lt_of_dated years counted.few dated).1
    rw [List.length_append, List.length_singleton]
    omega
  names := by
    rw [List.map_append, counted.names, List.length_append, List.length_singleton,
      List.range_succ, List.map_append]
    simp [name]
  stored := by
    intro other starts
    rw [Has, added.find?_eq _ (sharedBase_no_thumbnail starts), Part.get_set,
      MemoryStore.find?_put, List.map_append, List.mem_append, ← counted.stored other starts]
    -- a thumbnail has no name that begins like those of the burst
    by_cases same : other = picture.name
    · simp [same]
    · simp [same, Has]
  dated := by
    intro other member
    rcases List.mem_append.mp member with old | new
    · exact counted.dated other old
    · rwa [List.mem_singleton.mp new]
  listed := by
    have listed := counted.listed
    rw [Catalog.pictures?, loaded] at listed
    rw [Catalog.add, loaded]
    exact picture.sublist_insert listed (counted.instant_le years name dated)

/-- A picture that is saved has the next name. -/
theorem save (backs : Backs resolver) (clock : bench.now = now) (codec : Codec) (width : Nat)
    (content : ByteArray) {picture : Picture} {listed : Catalog} {after : Bench}
    (run : performed ((Bench.library resolver codec width).save content kind) catalog bench =
      ((.ok picture, listed), after)) :
    CountedUp resolver kind now (saved ++ [picture]) after listed := by
  have serves : Serves (Bench.library resolver codec width).resolver := backs.toServes
  rw [performed_save] at run
  split at run
  next pictures listed between listing =>
    obtain ⟨counted, still⟩ := counted.list backs.toServes codec width listing
    have loaded := listing_of_performed_list listing
    obtain rfl : between.now = now := still.trans clock
    generalize oriented (Bench.library resolver codec width).codec content kind = upright at run
    rcases store_searched backs.toServes counted.sound.regular codec width upright kind with
      ⟨e, failed⟩ | ⟨store, n, here, earlier, valid, free, done⟩
    · rw [failed] at run
      cases run
    · have taken : ∀ k < n, between.Has resolver.authoritative
          (nextName^[k] (canonicalName kind between.now resolver.zone)) := by
        intro k less
        obtain ⟨other, refused⟩ := earlier k less
        exact backs.taken here between _ _ other (counted.sound.regular.at _)
          (counted.sound.truthful _) (congrArg Prod.fst refused)
      -- the search stops at the first free name, and the names before that are the burst's
      obtain rfl := counted.index_eq years taken (by simp [Has, free])
      rw [done] at run
      split at run
      next picture between' made =>
        cases run
        have stored := counted.sound.put resolver.authoritative valid upright
        have wrapped := wrap_new serves stored.regular ⟨resolver.authoritative,
          nextName^[saved.length] (canonicalName kind between.now resolver.zone), upright.size⟩
          (some upright)
        rw [made] at wrapped
        obtain ⟨added, file, dated, -⟩ := wrapped
        have name : picture.name = _ := congrArg StoredFile.name file
        refine counted.append years name ?_ ?_ upright ?_ loaded
        · rw [name]
          exact dated
        · rw [name]
          exact valid
        · rw [name]
          exact added
      · cases run
  · cases run

end CountedUp

theorem Burst.countedUp (backs : Backs resolver) (years : InFourDigitYears
    (namingClock now resolver.zone)) {saved : List Picture} {catalog : Catalog}
    (burst : Burst resolver kind now saved bench catalog) :
    CountedUp resolver kind now saved bench catalog := by
  -- one lemma for each way in which a burst goes on
  induction burst with
  | beginning sound new catalog => exact .beginning sound new catalog
  | save past clock codec width content run ih =>
    exact ih.save years backs clock codec width content run
  | meanwhile past sound internal external ih => exact ih.meanwhile sound internal external

/-- The names after one without an index have an index each, and their times are so many
milliseconds after that one's. -/
theorem Naming.iterate_countsUp {date time : List Char} (digits : StampDigits date time)
    (kind : MediaKind) {extension : List Char} (plain : IsPlainExtension extension) (zone : Zone) {k : Nat}
    (one : 1 ≤ k) (small : k < 2 ^ 63) :
    let name := String.ofList (datedBase kind date time ++ extension)
    nextName^[k] name =
      String.ofList (datedBase kind date time ++ (' ' :: '(' :: numeral k ++ [')']) ++ extension) ∧
    ∀ first wall, (stampedFields date time).RollsOver first wall → InCalendar first.year →
      InCalendar wall.date.year → InCalendar (wall.later k).date.year →
      ∃ read, captureTime name zone = some read ∧
        captureTime (nextName^[k] name) zone = some ⟨read.wall.later k, read.offset⟩ := by
  intro name
  have fits : k ≤ maxWord64 := (Nat.le_of_lt small).trans (by decide)
  constructor
  · obtain ⟨n, rfl⟩ := Nat.exists_eq_add_of_le' one
    exact iterate_nextName_dated digits kind plain fits
  · intro first wall rolled month inYears later
    have read := captureTime_iterate_dated digits kind plain zone rolled month inYears
      (Nat.two_pow_pos 63) (by rwa [WallClock.later_zero])
    rw [WallClock.later_zero] at read
    exact ⟨_, read,
      captureTime_iterate_dated digits kind plain zone rolled month inYears small later⟩

theorem Burst.names_eq {around : Surroundings} {quota : Nat} {zone : Zone}
    (years : InFourDigitYears (namingClock now zone)) {saved : List Picture} {catalog : Catalog}
    (burst : Burst (session around quota zone) kind now saved bench catalog) :
    saved.map (·.name) = (List.range saved.length).map (fun k => String.ofList
        (sharedBase kind now zone ++ countedIndex k ++ (extensionOf kind).toList)) ∧
      saved.Sublist (catalog.pictures?.getD []) := by
  have counted := burst.countedUp (backs_session around quota zone) years
  refine ⟨counted.names.trans (List.map_congr_left fun k member => ?_), counted.listed⟩
  rw [List.mem_range] at member
  have fits : k ≤ maxWord64 := member.le.trans (counted.few.trans (by decide))
  rw [← String.toList_inj, String.toList_ofList]
  exact (toList_iterate_named years fits).trans (duplicateChars_eq _ _ _)

/-- The names after a picture's name count up, and each is dated a millisecond after the one before.
So the pictures of a burst have the name of their instant, then that name with the index 1, and so
on, and they are listed in the order in which they were saved. -/
theorem Burst.countsUp :
    (∀ kind date time extension zone k, StampDigits date time → IsPlainExtension extension →
      1 ≤ k → k < 2 ^ 63 →
      let name := String.ofList (datedBase kind date time ++ extension)
      nextName^[k] name = String.ofList
        (datedBase kind date time ++ (' ' :: '(' :: numeral k ++ [')']) ++ extension) ∧
      ∀ first wall, (stampedFields date time).RollsOver first wall → InCalendar first.year →
        InCalendar wall.date.year → InCalendar (wall.later k).date.year →
        ∃ read, captureTime name zone = some read ∧
          captureTime (nextName^[k] name) zone = some ⟨read.wall.later k, read.offset⟩) ∧
    ∀ around quota zone kind now, InFourDigitYears (namingClock now zone) →
      ∀ saved bench catalog, Burst (session around quota zone) kind now saved bench catalog →
      saved.map (·.name) = (List.range saved.length).map (fun k => String.ofList
        (sharedBase kind now zone ++ countedIndex k ++ (extensionOf kind).toList)) ∧
      saved.Sublist (catalog.pictures?.getD []) :=
  ⟨fun kind _ _ _ zone _ digits plain one small =>
      iterate_countsUp digits kind plain zone one small,
    fun _ _ _ _ _ years _ _ _ burst => burst.names_eq years⟩

/-- The twelfth name after that of a video whose stamp has a month 0, and two images of one
second. -/
theorem Burst.countsUp_twice :
    (nextName^[12] "VID_20240001_120000" = "VID_20240001_120000 (12)" ∧
      ∃ read, captureTime "VID_20240001_120000" (.fixed 3600) = some read ∧
        captureTime "VID_20240001_120000 (12)" (.fixed 3600) =
          some ⟨read.wall.later 12, read.offset⟩) ∧
    ∃ saved bench catalog,
      Burst (session {} 1000 (.fixed 0)) .image ⟨1704110400 * second⟩ saved bench catalog ∧
      saved.map (·.name) = ["IMG_20240101_120000.jpg", "IMG_20240101_120000 (1).jpg"] ∧
      saved.Sublist (catalog.pictures?.getD []) := by
  obtain ⟨names, bursts⟩ := Burst.countsUp
  constructor
  · have digits : StampDigits ['2', '0', '2', '4', '0', '0', '0', '1']
        ['1', '2', '0', '0', '0', '0'] :=
      ⟨by decide, by decide, List.all_eq_true.mp (by decide)⟩
    obtain ⟨named, dated⟩ :=
      names .video _ _ [] (.fixed 3600) 12 digits trivial (by decide) (by decide)
    have times := dated _ _ (StampFields.rollsOver _) (by decide +kernel) (by decide +kernel)
      (by decide +kernel)
    have name : String.ofList (datedBase .video ['2', '0', '2', '4', '0', '0', '0', '1']
        ['1', '2', '0', '0', '0', '0'] ++ []) = "VID_20240001_120000" := by decide +kernel
    have twelfth : String.ofList (datedBase .video ['2', '0', '2', '4', '0', '0', '0', '1']
        ['1', '2', '0', '0', '0', '0'] ++ (' ' :: '(' :: numeral 12 ++ [')']) ++ []) =
          "VID_20240001_120000 (12)" := by decide +kernel
    rw [named, twelfth, name] at times
    rw [twelfth, name] at named
    exact ⟨named, times⟩
  · let stored : Bench := { now := ⟨1704110400 * second⟩ }
    have sound : stored.Sound :=
      ⟨⟨MemoryStore.regular_empty, MemoryStore.regular_empty⟩, MemoryStore.truthful_empty,
        MemoryStore.truthful_empty⟩
    have begun : Burst (session {} 1000 (.fixed 0)) .image ⟨1704110400 * second⟩ [] stored {} :=
      .beginning sound (fun _ member => by cases member) {}
    obtain ⟨picture, one⟩ := begun.exists_save rfl (markingCodec true) 64 ⟨#[1]⟩ (by decide +kernel)
    obtain ⟨picture', two⟩ := one.exists_save (by decide +kernel) (markingCodec true) 64 ⟨#[2]⟩
      (by decide +kernel)
    obtain ⟨same, listed⟩ := bursts {} 1000 (.fixed 0) .image _
      ⟨by decide +kernel, by decide +kernel⟩ _ _ _ two
    have length : ([] ++ [picture] ++ [picture']).length = 2 := rfl
    rw [length] at same
    exact ⟨_, _, _, two, same.trans (by decide +kernel), listed⟩

end CameraRoll
