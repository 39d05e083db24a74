import CameraRoll.Proofs.Catalog.Steps

/-!
What observers of a catalog hear. Main statement: `Life.heard`, that the list can be rebuilt from
the notices at any moment, and that a catalog whose list could not be made stays silent and refuses
everything.
-/

namespace CameraRoll

variable {W α : Type}

/-! ### Rebuilding the list -/

/-- A list after a notice: a new picture goes behind the last one taken at its time or before, and
of the pictures that are the same as a deleted one the first goes away. -/
def Notice.apply (pictures : List Picture) : Notice → List Picture
  | .added picture =>
    pictures.rdropWhile (fun other => picture.instant < other.instant) ++
      picture :: pictures.rtakeWhile (fun other => picture.instant < other.instant)
  | .deleted picture => pictures.eraseP fun other => other.isSame picture

/-- The list that someone who starts with none makes of notices. -/
def replay (notices : List Notice) : List Picture := notices.foldl Notice.apply []

theorem replay_concat (notices : List Notice) (notice : Notice) :
    replay (notices ++ [notice]) = notice.apply (replay notices) := by
  simp only [replay, List.foldl_append, List.foldl_cons, List.foldl_nil]

theorem apply_added (picture : Picture) (pictures : List Picture) :
    (Notice.added picture).apply pictures = picture.insert pictures :=
  (picture.insert_eq pictures).symm

theorem apply_deleted (picture : Picture) (pictures : List Picture) :
    (Notice.deleted picture).apply pictures = picture.erase pictures := rfl

theorem apply_added_of_le {pictures : List Picture} {picture : Picture}
    (last : ∀ other ∈ pictures, other.instant ≤ picture.instant) :
    (Notice.added picture).apply pictures = pictures ++ [picture] := by
  have front : pictures.rdropWhile (fun other => picture.instant < other.instant) = pictures := by
    refine List.rdropWhile_eq_self_iff.mpr fun some => ?_
    simpa using last _ (List.getLast_mem some)
  have back : pictures.rtakeWhile (fun other => picture.instant < other.instant) = [] := by
    refine List.rtakeWhile_eq_nil_iff.mpr fun some => ?_
    simpa using last _ (List.getLast_mem some)
  rw [Notice.apply, front, back]

/-- The notices about a list in order give the list. -/
theorem replay_added {pictures : List Picture} (inOrder : InOrder pictures) :
    replay (pictures.map .added) = pictures := by
  induction pictures using List.reverseRecOn with
  | nil => rfl
  | append_singleton pictures picture ih =>
    obtain ⟨front, -, across⟩ := List.pairwise_append.mp inOrder
    -- the last one is not earlier than any other, so that it goes to the end
    rw [List.map_append, List.map_singleton, replay_concat, ih front]
    exact apply_added_of_le fun other member => across other member _ (List.mem_singleton_self _)

/-! ### Observers -/

def Observer.hear (notices : List Notice) (observer : Observer) : Observer :=
  { observer with heard := observer.heard ++ notices }

theorem Observer.hear_nil : Observer.hear [] = id := by
  funext observer
  simp [hear]

theorem Observer.hear_comp_hear (notices more : List Notice) :
    hear more ∘ hear notices = hear (notices ++ more) := by
  funext observer
  simp [hear]

namespace Catalog

/-- The observers of a catalog have all heard the same since it was another one, and its list is
what the notices make up. -/
structure Told (first : Catalog) (notices : List Notice) (catalog : Catalog) : Prop where
  observers : catalog.observers = first.observers.map (Observer.hear notices)
  listing : match catalog.listing with
    | .loaded pictures => replay notices = pictures
    | _ => notices = []

theorem observers_notifyAll (notices : List Notice) (catalog : Catalog) :
    (catalog.notifyAll notices).observers = catalog.observers.map (Observer.hear notices) := by
  -- by induction on the notices, each of them told to observers who have heard the ones before
  induction notices generalizing catalog with
  | nil => rw [Observer.hear_nil, List.map_id, notifyAll, List.foldl_nil]
  | cons notice rest ih =>
    have first : (catalog.notify notice).observers =
        catalog.observers.map (Observer.hear [notice]) := rfl
    rw [notifyAll, List.foldl_cons, ← notifyAll, ih, first, List.map_map, Observer.hear_comp_hear]
    rfl

section Loaded

variable {catalog : Catalog} {pictures : List Picture} (loaded : catalog.listing = .loaded pictures)
  (picture : Picture)
include loaded

theorem add_of_loaded :
    catalog.add picture =
      ⟨.loaded (picture.insert pictures), catalog.observers.map (Observer.hear [.added picture])⟩ := by
  rw [add, loaded]
  rfl

theorem drop_of_loaded :
    catalog.drop picture =
      ⟨.loaded (picture.erase pictures), catalog.observers.map (Observer.hear [.deleted picture])⟩ := by
  rw [drop, loaded]
  rfl

end Loaded

namespace Told

variable {first catalog after : Catalog} {notices : List Notice}

theorem refl (unloaded : first.listing = .unloaded) : Told first [] first where
  observers := by rw [Observer.hear_nil, List.map_id]
  listing := by rw [unloaded]

theorem notify (told : Told first notices catalog) {pictures : List Picture}
    (listed : catalog.listing = .loaded pictures) (notice : Notice) :
    Told first (notices ++ [notice])
      ((catalog.withPictures (notice.apply pictures)).notify notice) where
  observers := by
    change catalog.observers.map (Observer.hear [notice]) = _
    rw [told.observers, List.map_map, Observer.hear_comp_hear]
  listing := by
    have before := told.listing
    rw [listed] at before
    change replay (notices ++ [notice]) = notice.apply pictures
    rw [replay_concat, before]

/-- Each step tells all observers the same, and no more than what it does to the list. -/
theorem step (told : Told first notices catalog) (step : Step catalog after) :
    ∃ more, Told first (notices ++ more) after := by
  have before := told.listing
  cases step with
  | @make unloaded pictures inOrder =>
    -- nothing was told before there was a list
    rw [unloaded] at before
    subst before
    refine ⟨pictures.map .added, ?_, replay_added inOrder⟩
    change (catalog.notifyAll _).observers = _
    rw [observers_notifyAll, told.observers, List.map_map, Observer.hear_comp_hear]
  | giveUp unloaded =>
    rw [unloaded] at before
    subst before
    exact ⟨[], told.observers, rfl⟩
  | add picture =>
    rw [Catalog.add]
    split
    next pictures listed =>
      rw [← apply_added]
      exact ⟨_, told.notify listed _⟩
    · exact ⟨[], by simpa using told⟩
  | drop picture =>
    rw [Catalog.drop]
    split
    next pictures listed =>
      rw [← apply_deleted]
      exact ⟨_, told.notify listed _⟩
    · exact ⟨[], by simpa using told⟩

end Told

theorem Steps.told {first catalog : Catalog} (unloaded : first.listing = .unloaded)
    (steps : Steps first catalog) : ∃ notices, Told first notices catalog := by
  have kept : ∀ catalog after, Step catalog after → (∃ notices, Told first notices catalog) →
      ∃ notices, Told first notices after := by
    rintro catalog after step ⟨notices, told⟩
    obtain ⟨more, told⟩ := told.step step
    exact ⟨notices ++ more, told⟩
  exact Steps.keep kept steps ⟨[], .refl unloaded⟩

end Catalog

/-! ### A list that could not be made -/

namespace Library

/-- An operation of a catalog whose list could not be made is refused, and nothing happens. -/
def Refused (act : Action (StateM W) α) (catalog : Catalog) (w : W) : Prop :=
  performed act catalog w = ((.error .loadFailed, catalog), w)

/-- Whatever begins by asking for the list is refused. -/
theorem refused_of_failed {catalog : Catalog} (failed : catalog.listing = .failed)
    (library : Library (StateM W)) (w : W) (next : List Picture → Action (StateM W) α) :
    Refused (library.list >>= next) catalog w := by
  have list : performed library.list catalog w = ((.error .loadFailed, catalog), w) := by
    rw [performed_list, failed]
  rw [Refused, performed_bind, list]

/-- A catalog that does not load gives up. -/
theorem failed_of_performed_load {library : Library (StateM W)} {catalog after : Catalog}
    {w w' : W} {e : CatalogError}
    (refused : performed library.load catalog w = ((.error e, after), w')) :
    e = .loadFailed ∧ after.listing = .failed := by
  -- a load only asks for the list
  have asked : performed library.list catalog w = ((.error e, after), w') := by
    rw [load, performed_bind] at refused
    split at refused
    · cases refused
    next failed =>
      cases refused
      exact failed
  rw [performed_list] at asked
  split at asked
  · cases asked
  next failed =>
    cases asked
    exact ⟨rfl, failed⟩
  · split at asked
    · cases asked
    · cases asked
      exact ⟨rfl, rfl⟩

end Library

open Library

/-- At every moment all observers have heard the same notices since the beginning, and the notices
make up the list. Where no list can be made, they hear nothing, and from then on every operation is
refused and leaves the world as it is. -/
theorem Life.heard {first catalog : Catalog} {w : W} (life : Life first catalog w) :
    (∃ notices, catalog.observers = first.observers.map (Observer.hear notices) ∧
      match catalog.listing with
      | .loaded pictures => replay notices = pictures
      | _ => notices = []) ∧
    (∀ (library : Library (StateM W)) e after w',
      performed library.load catalog w = ((.error e, after), w') →
      e = .loadFailed ∧ after.listing = .failed ∧ after.observers = first.observers) ∧
    (catalog.listing = .failed → ∀ library : Library (StateM W),
      Refused library.load catalog w ∧ Refused library.list catalog w ∧
      Refused library.last catalog w ∧ (∀ name, Refused (library.find? name) catalog w) ∧
      (∀ content kind, Refused (library.save content kind) catalog w) ∧
      (∀ picture gone, Refused (library.delete picture gone) catalog w) ∧
      (∀ picture target, Refused (library.copyOut picture target) catalog w) ∧
      Refused library.checkLast catalog w) := by
  obtain ⟨unloaded, steps⟩ := life.steps
  obtain ⟨notices, told⟩ := steps.told unloaded
  refine ⟨⟨notices, told.observers, told.listing⟩, ?_, ?_⟩
  · intro library e after w' refused
    obtain ⟨error, failed⟩ := failed_of_performed_load refused
    -- the failed load is a part of the catalog's life, in which nothing was told then
    obtain ⟨notices, told⟩ := (life.command library .load).steps.2.told unloaded
    change Catalog.Told first notices (performed library.load catalog w).1.2 at told
    rw [refused] at told
    have silent := told.listing
    rw [failed] at silent
    subst silent
    refine ⟨error, failed, told.observers.trans ?_⟩
    rw [Observer.hear_nil, List.map_id]
  · intro failed library
    have refused {α : Type} (next : List Picture → Action (StateM W) α) :=
      refused_of_failed failed library w next
    have list : Refused library.list catalog w := by
      rw [Refused, performed_list, failed]
    exact ⟨refused _, list, refused _, fun _ => refused _, fun _ _ => refused _,
      fun _ _ => refused _, fun _ _ => refused _, refused _⟩

/-- Two observers of a catalog that is asked to delete a picture that it does not list, and of one
whose list cannot be made, as the index of a duplicate leads out of the calendar. -/
theorem Life.heard_ghost :
    let ghost : Picture := ⟨⟨.internal, "IMG_1.jpg", 0⟩, none, .image, .epoch⟩
    (∃ (catalog : Catalog) (bench : Bench), Life ⟨.unloaded, [{}, {}]⟩ catalog bench ∧
      ∃ notices, catalog.observers = [⟨notices⟩, ⟨notices⟩] ∧
        (replay notices).map (·.name) = ["VID_20200101_000000.mp4"]) ∧
    ∃ (catalog : Catalog) (bench : Bench), Life ⟨.unloaded, [{}, {}]⟩ catalog bench ∧
      catalog.observers = [{}, {}] ∧
      ∀ library : Library (StateM Bench), Refused (library.delete ghost true) catalog bench := by
  intro ghost
  let library := Bench.library (Bench.session {} 9 (.fixed 0)) (Bench.markingCodec false) 64
  have beginning (bench : Bench) : Life ⟨.unloaded, [{}, {}]⟩ ⟨.unloaded, [{}, {}]⟩ bench :=
    .beginning rfl bench
  have told {names : List String} {catalog : Catalog} {bench : Bench}
      (life : Life ⟨.unloaded, [{}, {}]⟩ catalog bench)
      (listed : catalog.pictures?.map (·.map (·.name)) = some names) :
      ∃ notices, catalog.observers = [⟨notices⟩, ⟨notices⟩] ∧
        (replay notices).map (·.name) = names := by
    obtain ⟨⟨notices, observers, listing⟩, -⟩ := life.heard
    refine ⟨notices, observers, ?_⟩
    cases state : catalog.listing with
    | loaded pictures =>
      rw [state] at listing
      rw [Catalog.pictures?, state] at listed
      rw [listing]
      exact Option.some.inj listed
    | _ =>
      rw [Catalog.pictures?, state] at listed
      cases listed
  have silent {catalog : Catalog} {bench : Bench}
      (life : Life ⟨.unloaded, [{}, {}]⟩ catalog bench)
      (failed : (catalog.listing matches .failed) = true) :
      catalog.observers = [{}, {}] ∧
        ∀ library : Library (StateM Bench), Refused (library.delete ghost true) catalog bench := by
    have failed : catalog.listing = .failed := by
      cases state : catalog.listing with
      | failed => rfl
      | _ =>
        rw [state] at failed
        cases failed
    obtain ⟨⟨notices, observers, listing⟩, -, refused⟩ := life.heard
    rw [failed] at listing
    subst listing
    exact ⟨observers, fun library => (refused failed library).2.2.2.2.2.1 ghost true⟩
  constructor
  · have life := (beginning { internal := { files :=
      [("VID_20200101_000000.mp4", ⟨#[1]⟩)] } }).command library (.delete ghost true)
    exact ⟨_, _, life, told life (by decide +kernel)⟩
  · have life := (beginning { internal := { files :=
      [("IMG_20200101_000000_9223372036854775807.jpg", ⟨#[1]⟩)] } }).command library .load
    exact ⟨_, _, life, silent life (by decide +kernel)⟩

end CameraRoll
