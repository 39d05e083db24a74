import CameraRoll.Proofs.Catalog.Pruning
import CameraRoll.Proofs.Resolver.Fresh

/-!
What a deletion takes away. Main statement: `delete_exact`, that the picture and its files go and
nothing else does, or that nothing has changed at all.
-/

namespace CameraRoll

open Bench Library

variable {resolver : Resolver (StateM Bench)} {bench : Bench} {catalog : Catalog}

/-! ### Files that are removed -/

/-- The bench without certain files. -/
def Bench.without (bench : Bench) (lost : Location → String → Bool) : Bench :=
  bench.withStores
    { bench.internal with files := bench.internal.files.filter fun file => !lost .internal file.1 }
    { bench.external with files := bench.external.files.filter fun file => !lost .external file.1 }

/-- Whether the file stands at a place that the resolver reaches. -/
def Resolver.reaches (resolver : Resolver (StateM Bench)) (file : StoredFile) (location : Location)
    (name : String) : Bool :=
  (resolver.store? location).isSome && file.location = location && file.name = name

namespace Bench

theorem without_without (bench : Bench) (lost more : Location → String → Bool) :
    (bench.without lost).without more =
      bench.without fun location name => lost location name || more location name := by
  simp only [without, withStores, List.filter_filter, Bool.not_or, Bool.and_comm]

theorem Regular.without (regular : bench.Regular) (lost : Location → String → Bool) :
    (bench.without lost).Regular :=
  ⟨regular.internal.filter _, regular.external.filter _⟩

theorem without_none (bench : Bench) : (bench.without fun _ _ => false) = bench := by
  simp [without, withStores]

theorem without_reaches {file : StoredFile}
    (here : (resolver.store? file.location).isSome = true) :
    bench.without (resolver.reaches file) =
      (partAt file.location).set (((partAt file.location).get bench).erase file.name) bench := by
  rcases file with ⟨location, name, size⟩
  have everything (files : List (String × ByteArray)) : (files.filter fun _ => true) = files :=
    List.filter_eq_self.mpr fun _ _ => rfl
  cases location with
  | internal =>
    simp [without, withStores, Resolver.reaches, Resolver.store?, MemoryStore.erase, partAt,
      internalPart, everything, eq_comm]
  | external =>
    have outside : resolver.external.isSome = true := here
    simp [without, withStores, Resolver.reaches, Resolver.store?, MemoryStore.erase, partAt,
      externalPart, everything, outside, eq_comm]

theorem without_missing {file : StoredFile} (missing : ¬resolver.Finds bench file) :
    bench.without (resolver.reaches file) = bench := by
  by_cases here : (resolver.store? file.location).isSome = true
  · have free : ((partAt file.location).get bench).find? file.name = none := by
      simpa [Resolver.Finds, Has, here] using missing
    rw [without_reaches here, MemoryStore.erase_of_free free, Part.set_get]
  -- a file of a location that is not there stands nowhere
  · have nowhere : resolver.reaches file = fun _ _ => false := by
      funext location name
      by_cases same : file.location = location
      · subst same
        simp [Resolver.reaches, here]
      · simp [Resolver.reaches, same]
    rw [nowhere, without_none]

end Bench

namespace Resolver

theorem remove_found (serves : Serves resolver) (regular : bench.Regular) {file : StoredFile}
    (found : resolver.Finds bench file) :
    outcome (resolver.remove file) bench = (.ok (), bench.without (resolver.reaches file)) := by
  obtain ⟨here, stored⟩ := found
  obtain ⟨store, isStore⟩ := Option.isSome_iff_exists.mp here
  obtain ⟨content, found⟩ := Option.isSome_iff_exists.mp stored
  have deleted := (serves.holds isStore).delete bench file.name content (regular.at _) found
  rw [remove, outcome_bind_ok (outcome_require isStore bench), storing,
    outcome_adapt_ok deleted ResolverError.storage, without_reaches here]

theorem remove_unfound (serves : Serves resolver) (regular : bench.Regular) {file : StoredFile}
    (missing : ¬resolver.Finds bench file) :
    ∃ e, outcome (resolver.remove file) bench = (.error e, bench) := by
  cases here : resolver.store? file.location with
  | some store =>
    apply Resolver.remove_missing serves regular
    simpa [Finds, Has, here] using missing
  | none =>
    refine ⟨.absent file.location, ?_⟩
    rw [remove, require, here]
    rfl

/-- Whether it was there or not, a file is not there after it was removed, and nothing else is
missing. -/
theorem after_remove (serves : Serves resolver) (regular : bench.Regular) (file : StoredFile) :
    (outcome (resolver.remove file) bench).2 = bench.without (resolver.reaches file) := by
  by_cases found : resolver.Finds bench file
  · rw [remove_found serves regular found]
  · obtain ⟨e, failed⟩ := remove_unfound serves regular found
    rw [failed, without_missing found]

end Resolver

/-! ### Pictures that are deleted -/

/-- The files that go with a picture: its primary file, unless that is gone already, and its
thumbnail. -/
def Picture.takes (resolver : Resolver (StateM Bench)) (gone : Bool) (picture : Picture)
    (location : Location) (name : String) : Bool :=
  !gone && resolver.reaches picture.file location name ||
    picture.thumbnail.any fun own => resolver.reaches own location name

/-- A list without the first of its pictures that is the same as another one, if there is one. -/
inductive Picture.Struck (picture : Picture) : List Picture → List Picture → Prop
  | listed {front : List Picture} {first : Picture} {back : List Picture}
      (before : ∀ other ∈ front, other.isSame picture = false)
      (same : first.isSame picture = true) : Struck picture (front ++ first :: back) (front ++ back)
  | unlisted {pictures : List Picture} (apart : ∀ other ∈ pictures, other.isSame picture = false) :
      Struck picture pictures pictures

theorem Picture.struck_iff {picture : Picture} {pictures left : List Picture} :
    picture.Struck pictures left ↔ left = picture.erase pictures := by
  constructor
  · intro struck
    cases struck with
    | @listed front first back before same =>
      have passed : ∀ other ∈ front, ¬other.isSame picture = true := fun other member =>
        Bool.eq_false_iff.mp (before other member)
      have met : (first :: back).eraseP (·.isSame picture) = back := List.eraseP_cons_of_pos same
      rw [erase, List.eraseP_append_right _ passed, met]
    | unlisted apart =>
      exact (List.eraseP_of_forall_not fun other member =>
        Bool.eq_false_iff.mp (apart other member)).symm
  -- erasing finds the first picture that is the same, if there is one
  · rintro rfl
    rcases List.exists_or_eq_self_of_eraseP (·.isSame picture) pictures with
      unchanged | ⟨first, front, back, before, same, whole, rest⟩
    · rw [erase, unchanged]
      refine .unlisted fun other member => ?_
      exact Bool.eq_false_iff.mpr (List.eraseP_eq_self_iff.mp unchanged other member)
    · rw [erase, rest, whole]
      exact .listed (fun other member => Bool.eq_false_iff.mpr (before other member)) same

section Delete

variable {library : Library (StateM Bench)} {pictures : List Picture}
  (serves : Serves library.resolver) (regular : bench.Regular)
  (loaded : catalog.listing = .loaded pictures) (picture : Picture)
include serves regular

private theorem without_thumbnail {between : Bench} {gone : Bool}
    (before : between = bench.without fun location name =>
      !gone && library.resolver.reaches picture.file location name) :
    (match picture.thumbnail with
      | none => between
      | some own => (outcome (library.resolver.remove own) between).2) =
      bench.without (picture.takes library.resolver gone) := by
  subst before
  unfold Picture.takes
  cases picture.thumbnail with
  | none => simp only [Option.any_none, Bool.or_false]
  | some own =>
    dsimp only
    rw [Resolver.after_remove serves (regular.without _) own, without_without]
    simp only [Option.any_some]

include loaded

theorem Library.delete_done {gone : Bool}
    (there : gone = true ∨ library.resolver.Finds bench picture.file) :
    performed (library.delete picture gone) catalog bench =
      ((.ok (), catalog.drop picture), bench.without (picture.takes library.resolver gone)) := by
  -- a primary file that is gone already is as good as removed
  cases gone with
  | true =>
    have nothing : bench = bench.without fun _ _ => false := (without_none bench).symm
    rw [performed_delete_gone loaded]
    exact Prod.ext rfl (without_thumbnail serves regular picture nothing)
  | false =>
    have found := there.resolve_left Bool.false_ne_true
    rw [performed_delete loaded, Resolver.remove_found serves regular found]
    exact Prod.ext rfl (without_thumbnail serves regular picture rfl)

theorem Library.delete_refused (missing : ¬library.resolver.Finds bench picture.file) :
    ∃ e, performed (library.delete picture false) catalog bench = ((.error e, catalog), bench) := by
  obtain ⟨e, failed⟩ := Resolver.remove_unfound serves regular missing
  refine ⟨.storage e, ?_⟩
  rw [performed_delete loaded, failed]

end Delete

/-- A deletion fails just if the picture's file should be removed and is not there; then everything
is as before. Otherwise just the picture's files go, the first picture of the list that is the same
goes, and every observer hears of it once. -/
theorem delete_exact (internal : Setup) (external : Option Setup) (zone : Calendar.Zone)
    (codec : Codec) (width : Nat) (regular : bench.Regular) {pictures : List Picture}
    (loaded : catalog.listing = .loaded pictures) (picture : Picture) (gone : Bool) :
    let resolver := Bench.resolver internal external zone
    let run := performed ((Bench.library resolver codec width).delete picture gone) catalog bench
    ((∃ e, run.1.1 = .error e) ↔ gone = false ∧ ¬resolver.Finds bench picture.file) ∧
    (∀ e, run.1.1 = .error e → run.1.2 = catalog ∧ run.2 = bench) ∧
    (run.1.1 = .ok () →
      run.2 = bench.without (picture.takes resolver gone) ∧
      (∃ left, run.1.2.listing = .loaded left ∧ picture.Struck pictures left) ∧
      run.1.2.observers = catalog.observers.map (Observer.hear [.deleted picture])) := by
  intro resolver run
  have serves : Serves (Bench.library resolver codec width).resolver :=
    (Bench.backs_resolver internal external zone).toServes
  by_cases failing : gone = false ∧ ¬resolver.Finds bench picture.file
  · obtain ⟨rfl, missing⟩ := failing
    obtain ⟨e, failed⟩ := delete_refused serves regular loaded picture missing
    have refused : run = ((.error e, catalog), bench) := failed
    rw [refused]
    refine ⟨⟨fun _ => ⟨rfl, missing⟩, fun _ => ⟨e, rfl⟩⟩, fun _ _ => ⟨rfl, rfl⟩, fun done => ?_⟩
    cases done
  · have there : gone = true ∨ resolver.Finds bench picture.file := by
      cases gone with
      | true => exact Or.inl rfl
      | false => exact Or.inr (not_not.mp fun missing => failing ⟨rfl, missing⟩)
    have done : run = ((.ok (), catalog.drop picture), bench.without (picture.takes resolver gone)) :=
      delete_done serves regular loaded picture there
    rw [done, Catalog.drop_of_loaded loaded]
    refine ⟨⟨?_, fun failed => absurd failed failing⟩, ?_, ?_⟩
    · rintro ⟨e, failed⟩
      cases failed
    · intro e failed
      cases failed
    · exact fun _ => ⟨rfl, ⟨_, rfl, Picture.struck_iff.mpr rfl⟩, rfl⟩

/-- Of two pictures with the same file the first goes, with its thumbnail, and then the other one
cannot be deleted. -/
theorem delete_exact_twice :
    let picture : Picture := ⟨⟨.external, "IMG_20200101_000000.jpg", 1⟩,
      some ⟨.internal, "thumb-IMG_20200101_000000.jpg", 1⟩, .image, .epoch⟩
    let again : Picture := { picture with thumbnail := none }
    let bench : Bench :=
      { internal := { files := [("thumb-IMG_20200101_000000.jpg", ⟨#[1]⟩), ("a.jpg", ⟨#[2]⟩)] }
        external := { files := [("IMG_20200101_000000.jpg", ⟨#[3]⟩)] } }
    let library := Bench.library (Bench.resolver {} (some {}) (.fixed 0)) (markingCodec false) 64
    let first := performed (library.delete picture false) ⟨.loaded [picture, again], [{}]⟩ bench
    let second := performed (library.delete again false) first.1.2 first.2
    (first.1.1 = .ok () ∧ first.2.internal.files = [("a.jpg", ⟨#[2]⟩)] ∧
      first.2.external.files = [] ∧ first.1.2.listing = .loaded [again] ∧
      first.1.2.observers = [⟨[.deleted picture]⟩]) ∧
    (∃ e, second.1.1 = .error e) ∧ second.1.2 = first.1.2 ∧ second.2 = first.2 := by
  intro picture again bench library first second
  let resolver := Bench.resolver {} (some {}) (.fixed 0)
  have regular : bench.Regular :=
    ⟨⟨by simp [bench], by decide, by simp [bench]⟩, ⟨by simp [bench], by decide, by simp [bench]⟩⟩
  let catalog : Catalog := ⟨.loaded [picture, again], [{}]⟩
  have loaded : catalog.listing = .loaded [picture, again] := rfl
  obtain ⟨fails, -, deletes⟩ := delete_exact {} (some {}) (.fixed 0) (markingCodec false) 64 regular
    loaded picture false
  have found : resolver.Finds bench picture.file := ⟨by decide, by unfold Has; decide⟩
  have done : first.1.1 = .ok () := by
    cases answer : first.1.1 with
    | error e => exact absurd found (fails.mp ⟨e, answer⟩).2
    | ok _ => rfl
  obtain ⟨after, ⟨left, listed, struck⟩, observers⟩ := deletes done
  change first.2 = _ at after
  change first.1.2.listing = _ at listed
  have files : first.2.internal.files = [("a.jpg", ⟨#[2]⟩)] ∧ first.2.external.files = [] := by
    rw [after]
    exact ⟨by decide +kernel, by decide +kernel⟩
  have left_eq : left = [again] := Picture.struck_iff.mp struck
  subst left_eq
  refine ⟨⟨done, files.1, files.2, listed, observers⟩, ?_⟩
  have still : first.2.Regular := by
    rw [after]
    exact regular.without _
  obtain ⟨fails, refused, -⟩ := delete_exact {} (some {}) (.fixed 0) (markingCodec false) 64 still
    listed again false
  have missing : ¬resolver.Finds first.2 again.file := by
    rintro ⟨-, there⟩
    have nothing : first.2.external.find? again.file.name = none := by
      rw [MemoryStore.find?, files.2]
      rfl
    rw [Has, partAt] at there
    exact Bool.eq_false_iff.mp (congrArg Option.isSome nothing) there
  obtain ⟨e, failed⟩ := fails.mpr ⟨rfl, missing⟩
  exact ⟨⟨e, failed⟩, refused e failed⟩

end CameraRoll
