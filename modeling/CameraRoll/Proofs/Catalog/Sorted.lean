import CameraRoll.Proofs.Catalog.Steps

/-!
Catalogs are sorted by time. Main statement: `Life.sorted`, for the list at any moment, for lists
just made and for pictures just saved.
-/

namespace CameraRoll

open CameraRoll.Naming

variable {W : Type}

namespace Catalog

theorem Step.inOrder {catalog after : Catalog} (step : Step catalog after)
    (before : ∀ pictures, catalog.listing = .loaded pictures → InOrder pictures) :
    ∀ pictures, after.listing = .loaded pictures → InOrder pictures := by
  cases step with
  | make unloaded inOrder =>
    rintro _ ⟨⟩
    exact inOrder
  | giveUp unloaded => rintro _ ⟨⟩
  | add picture =>
    rw [Catalog.add]
    split
    next listed =>
      rintro _ ⟨⟩
      exact (before _ listed).insert picture
    · exact before
  | drop picture =>
    rw [Catalog.drop]
    split
    next listed =>
      rintro _ ⟨⟩
      exact (before _ listed).erase picture
    · exact before

end Catalog

open Library

variable {first catalog after : Catalog} {w w' : W} {library : Library (StateM W)}

/-! ### The list at any moment -/

theorem Life.inOrder (life : Life first catalog w) {pictures : List Picture}
    (answered : performed library.list catalog w = ((.ok pictures, after), w')) :
    InOrder pictures := by
  obtain ⟨unloaded, steps⟩ := life.steps
  -- asking for the list is one more part of the catalog's life
  have still : Catalog.Steps first after := by
    have asked := Advances.list library catalog w
    rw [answered] at asked
    exact steps.trans asked
  apply still.keep (fun _ _ step before => step.inOrder before)
  · intro pictures loaded
    cases unloaded.symm.trans loaded
  · exact listing_of_performed_list answered

/-- The first time, the list is made from the entries of the resolver. -/
theorem filter_performed_list (unloaded : catalog.listing = .unloaded) {pictures : List Picture}
    (answered : performed library.list catalog w = ((.ok pictures, after), w')) :
    ∃ entries between, outcome library.resolver.entries w = (.ok entries, between) ∧
      ∀ time, (pictures.filter (·.instant = time)).map (·.file) =
        entries.pictures.filter fun file =>
          (captureTime file.name library.resolver.zone).map (·.instant.nanos) = some time := by
  rw [performed_list, unloaded] at answered
  dsimp only at answered
  split at answered
  next loaded =>
    cases answered
    exact filter_loadPictures loaded
  · cases answered

/-- A picture that was saved is put into the list that was there, and into nothing else. -/
theorem insert_of_performed_save {content : ByteArray} {kind : MediaKind} {picture : Picture}
    (saved : performed (library.save content kind) catalog w = ((.ok picture, after), w')) :
    ∃ pictures between w'', performed library.list catalog w = ((.ok pictures, between), w'') ∧
      after.listing = .loaded (picture.insert pictures) := by
  rw [performed_save] at saved
  split at saved
  next pictures between w'' answered =>
    split at saved
    next =>
      cases saved
      refine ⟨pictures, between, w'', answered, ?_⟩
      rw [Catalog.add, listing_of_performed_list answered]
      rfl
    · cases saved
  · cases saved

/-- At every moment the list that a catalog gives is sorted by time. Right after it was made,
pictures of one time are in the order in which their files were listed, and a picture just saved is
between those taken at its time or before and those taken later. -/
theorem Life.sorted (life : Life first catalog w) (library : Library (StateM W)) :
    (∀ pictures after w', performed library.list catalog w = ((.ok pictures, after), w') →
      InOrder pictures) ∧
    (∀ pictures after w', performed library.list catalog w = ((.ok pictures, after), w') →
      catalog.listing = .unloaded →
      ∃ entries between, outcome library.resolver.entries w = (.ok entries, between) ∧
        ∀ time, (pictures.filter (·.instant = time)).map (·.file) =
          entries.pictures.filter fun file =>
            (captureTime file.name library.resolver.zone).map (·.instant.nanos) = some time) ∧
    (∀ content kind picture after w',
      performed (library.save content kind) catalog w = ((.ok picture, after), w') →
      ∃ earlier later between w'',
        performed library.list catalog w = ((.ok (earlier ++ later), between), w'') ∧
        after.listing = .loaded (earlier ++ picture :: later) ∧
        (∀ other ∈ earlier, other.instant ≤ picture.instant) ∧
        ∀ other ∈ later, picture.instant < other.instant) := by
  refine ⟨fun pictures after w' answered => life.inOrder answered, ?_, ?_⟩
  · intro pictures after w' answered unloaded
    exact filter_performed_list unloaded answered
  · intro content kind picture after w' saved
    obtain ⟨pictures, between, w'', answered, listing⟩ := insert_of_performed_save saved
    -- the list that was there is cut behind the last picture that is not later
    refine ⟨pictures.rdropWhile picture.isEarlier, pictures.rtakeWhile picture.isEarlier, between,
      w'', ?_, ?_, (life.inOrder answered).le_of_mem_rdropWhile picture, ?_⟩
    · rw [List.rdropWhile_append_rtakeWhile]
      exact answered
    · rw [← Picture.insert_eq]
      exact listing
    · intro other member
      simpa [Picture.isEarlier] using List.mem_rtakeWhile_imp member

/-- Between two recordings, someone takes the first away and sets the clock back by a second. -/
theorem Life.sorted_clockSetBack :
    let library := Bench.library (Bench.session {} 9 (.fixed 0)) (Bench.markingCodec false) 64
    ∃ (catalog : Catalog) (bench : Bench), Life {} catalog bench ∧
      catalog.pictures?.map (·.map (·.name)) =
        some ["VID_00000101_000001.mkv", "VID_20200101_000000.mp4"] ∧
      ∃ picture earlier later,
        (performed (library.save ⟨#[3]⟩ .video) catalog bench).1.2.listing =
          .loaded (earlier ++ picture :: later) ∧
        picture.name = "VID_00000101_000000.mkv" ∧
        (∀ other ∈ earlier, other.instant ≤ picture.instant) ∧
        ∀ other ∈ later, picture.instant < other.instant := by
  intro library
  let before : Bench :=
    { internal := { files := [("VID_20200101_000000.mp4", ⟨#[1]⟩)] }
      now := ⟨-62167219199 * Calendar.second⟩ }
  let after : Bench := { now := ⟨-62167219200 * Calendar.second⟩ }
  have new : Life {} {} before := .beginning rfl before
  have life := (new.command library (.save ⟨#[2]⟩ .video)).meanwhile after
  refine ⟨_, _, life, by decide +kernel, ?_⟩
  obtain ⟨-, -, saved⟩ := life.sorted library
  have saved := saved ⟨#[3]⟩ .video
  have done : (performed (library.save ⟨#[3]⟩ .video) (performed (Command.perform library
      (.save ⟨#[2]⟩ .video)) {} before).1.2 after).1.1.toOption.map (·.name) =
      some "VID_00000101_000000.mkv" := by decide +kernel
  revert saved done
  rcases performed (library.save ⟨#[3]⟩ .video) _ _ with ⟨⟨_ | picture, changed⟩, w⟩
  · intro _ done
    cases done
  · intro saved done
    obtain ⟨earlier, later, -, -, -, listing, before, behind⟩ := saved _ _ _ rfl
    exact ⟨picture, earlier, later, listing, Option.some.inj done, before, behind⟩

end CameraRoll
