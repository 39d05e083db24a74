import CameraRoll.Proofs.Catalog.History
import CameraRoll.Proofs.Catalog.Loading
import Mathlib.Logic.Relation

/-!
What operations do to a catalog, whatever the stores, the codec and the clock answer. Main
statements: `Command.perform_advances`, that every operation takes a catalog through steps of four
kinds, and `Life.steps`, that so does everything that happens to it.
-/

namespace CameraRoll

variable {W α β ε : Type}

/-! ### Steps of a catalog -/

namespace Catalog

/-- The catalog after its list was made. Everyone is told of all pictures. -/
def made (pictures : List Picture) (catalog : Catalog) : Catalog :=
  (catalog.notifyAll (pictures.map .added)).withPictures pictures

/-- The catalog after its list could not be made. -/
def broken (catalog : Catalog) : Catalog := { catalog with listing := .failed }

/-- What can happen to a catalog at a time. -/
inductive Step : Catalog → Catalog → Prop
  | make {catalog : Catalog} (unloaded : catalog.listing = .unloaded) {pictures : List Picture}
      (inOrder : InOrder pictures) : Step catalog (catalog.made pictures)
  | giveUp {catalog : Catalog} (unloaded : catalog.listing = .unloaded) :
      Step catalog catalog.broken
  | add (catalog : Catalog) (picture : Picture) : Step catalog (catalog.add picture)
  | drop (catalog : Catalog) (picture : Picture) : Step catalog (catalog.drop picture)

/-- What can happen to a catalog in the course of time. -/
def Steps : Catalog → Catalog → Prop := Relation.ReflTransGen Step

/-- A fact about catalogs that outlives every step outlives all of them. -/
theorem Steps.keep {fact : Catalog → Prop}
    (kept : ∀ catalog after, Step catalog after → fact catalog → fact after)
    {catalog after : Catalog} (steps : Steps catalog after) (before : fact catalog) :
    fact after := by
  induction steps with
  | refl => exact before
  | tail _ step ih => exact kept _ _ step ih

end Catalog

namespace Library

open Catalog

/-! ### The list -/

theorem performed_list (library : Library (StateM W)) (catalog : Catalog) (w : W) :
    performed library.list catalog w =
      match catalog.listing with
      | .loaded pictures => ((.ok pictures, catalog), w)
      | .failed => ((.error .loadFailed, catalog), w)
      | .unloaded =>
        match outcome library.loadPictures w with
        | (.ok pictures, after) => ((.ok pictures, catalog.made pictures), after)
        | (.error _, after) => ((.error .loadFailed, catalog.broken), after) := by
  have got : performed (ExceptT.lift (MonadState.get : StateT Catalog (StateM W) Catalog))
      catalog w = ((.ok catalog, catalog), w) := rfl
  rw [list, performed_bind, got]
  dsimp only
  cases catalog.listing with
  | loaded pictures => rfl
  | failed => rfl
  | unloaded =>
    have loaded : performed (ExceptT.lift (StateT.lift library.loadPictures.run) :
        Action (StateM W) _) catalog w =
        ((.ok (outcome library.loadPictures w).1, catalog), (outcome library.loadPictures w).2) :=
      rfl
    dsimp only
    rw [performed_bind, loaded]
    rcases outcome library.loadPictures w with ⟨answer, after⟩
    cases answer <;> rfl

theorem performed_load_of_unloaded (library : Library (StateM W)) {catalog : Catalog}
    (unloaded : catalog.listing = .unloaded) (w : W) :
    performed library.load catalog w =
      match outcome library.loadPictures w with
      | (.ok pictures, after) => ((.ok (), catalog.made pictures), after)
      | (.error _, after) => ((.error .loadFailed, catalog.broken), after) := by
  rw [load, performed_ignore, performed_list, unloaded]
  rcases outcome library.loadPictures w with ⟨_ | _, after⟩ <;> rfl

theorem listing_of_performed_list {library : Library (StateM W)} {catalog after : Catalog}
    {w w' : W} {pictures : List Picture}
    (answered : performed library.list catalog w = ((.ok pictures, after), w')) :
    after.listing = .loaded pictures := by
  rw [performed_list] at answered
  split at answered
  -- a list that was there before is answered as it is, and a new one is kept
  next loaded =>
    cases answered
    exact loaded
  · cases answered
  · split at answered
    · cases answered
      rfl
    · cases answered

/-! ### Operations -/

theorem performed_change (f : Catalog → Catalog) (catalog : Catalog) (w : W) :
    performed (change f : Action (StateM W) Unit) catalog w = ((.ok (), f catalog), w) := rfl

theorem performed_save (library : Library (StateM W)) (content : ByteArray) (kind : MediaKind)
    (catalog : Catalog) (w : W) :
    performed (library.save content kind) catalog w =
      match performed library.list catalog w with
      | ((.ok _, listed), between) =>
        match outcome (library.store (oriented library.codec content kind) kind) between with
        | (.ok picture, after) => ((.ok picture, listed.add picture), after)
        | (.error e, after) => ((.error e, listed), after)
      | ((.error e, listed), between) => ((.error e, listed), between) := by
  rw [save, performed_bind]
  rcases performed library.list catalog w with ⟨⟨_ | _, listed⟩, between⟩
  · rfl
  · dsimp only
    rw [performed_bind, performed_outside]
    rcases outcome (library.store (oriented library.codec content kind) kind) between with
      ⟨_ | _, after⟩ <;> rfl

section Listed

variable {library : Library (StateM W)} {catalog : Catalog} {pictures : List Picture}
  (loaded : catalog.listing = .loaded pictures)
include loaded

theorem performed_list_of_loaded (w : W) :
    performed library.list catalog w = ((.ok pictures, catalog), w) := by
  rw [performed_list, loaded]

theorem performed_save_of_loaded (content : ByteArray) (kind : MediaKind) (w : W) :
    performed (library.save content kind) catalog w =
      match outcome (library.store (oriented library.codec content kind) kind) w with
      | (.ok picture, after) => ((.ok picture, catalog.add picture), after)
      | (.error e, after) => ((.error e, catalog), after) := by
  rw [performed_save, performed_list_of_loaded loaded]

theorem performed_delete (picture : Picture) (w : W) :
    performed (library.delete picture false) catalog w =
      match outcome (library.resolver.remove picture.file) w with
      | (.error e, after) => ((.error (.storage e), catalog), after)
      | (.ok _, between) =>
        ((.ok (), catalog.drop picture),
          match picture.thumbnail with
          | none => between
          | some thumbnail => (outcome (library.resolver.remove thumbnail) between).2) := by
  rw [delete, performed_bind, performed_list_of_loaded loaded]
  dsimp only
  -- the file comes first, and only if it went the list is touched
  rw [if_neg Bool.false_ne_true, performed_bind, performed_outside]
  rcases outcome (library.resolver.remove picture.file) w with ⟨e | _, between⟩
  · rfl
  · dsimp only [Except.mapError]
    rw [performed_bind, performed_change]
    dsimp only
    cases picture.thumbnail with
    | none => rfl
    | some thumbnail =>
      dsimp only
      rw [performed_outside, outcome_attempt]
      rfl

theorem performed_delete_gone (picture : Picture) (w : W) :
    performed (library.delete picture true) catalog w =
      ((.ok (), catalog.drop picture),
        match picture.thumbnail with
        | none => w
        | some thumbnail => (outcome (library.resolver.remove thumbnail) w).2) := by
  rw [delete, performed_bind, performed_list_of_loaded loaded]
  dsimp only
  rw [if_pos rfl, performed_bind, performed_change]
  dsimp only
  cases picture.thumbnail with
  | none => rfl
  | some thumbnail =>
    dsimp only
    rw [performed_outside, outcome_attempt]
    rfl

theorem performed_last (w : W) :
    performed library.last catalog w = ((.ok pictures.getLast?, catalog), w) := by
  rw [last, performed_bind, performed_list_of_loaded loaded]
  rfl

theorem performed_checkLast {w : W}
    (there : library.resolver.hasExternal = true → ∀ last ∈ pictures.getLast?,
      outcome (library.resolver.contains last.file) w = (.ok true, w)) :
    performed library.checkLast catalog w = ((.ok pictures.getLast?, catalog), w) := by
  rw [checkLast, performed_bind, performed_list_of_loaded loaded]
  dsimp only
  -- the search ends where it begins, so that the number of pictures does not matter
  cases pictures.length with
  | zero => exact performed_last loaded w
  | succ count =>
    rw [prune, performed_bind, performed_last loaded]
    dsimp only
    cases last : pictures.getLast? with
    | none => rfl
    | some picture =>
      dsimp only
      split
      next outside =>
        rw [performed_bind, performed_outside, there outside picture last]
        rfl
      · rfl

end Listed

/-- An operation does nothing to a catalog but take it through steps. -/
def Advances (act : Action (StateM W) α) : Prop :=
  ∀ catalog w, Steps catalog (performed act catalog w).1.2

namespace Advances

theorem pure (a : α) : Advances (pure a : Action (StateM W) α) := fun _ _ => .refl

theorem bind {act : Action (StateM W) α} {next : α → Action (StateM W) β} (first : Advances act)
    (second : ∀ a, Advances (next a)) : Advances (act >>= next) := by
  intro catalog w
  have before := first catalog w
  rw [performed_bind]
  split
  next a between w' reached =>
    rw [reached] at before
    exact before.trans (second a between w')
  next e between w' reached =>
    rw [reached] at before
    exact before

theorem outside (act : ExceptT ε (StateM W) α) (wrapping : ε → CatalogError) :
    Advances (outside act wrapping) := by
  intro catalog w
  rw [performed_outside]
  exact .refl

theorem change {f : Catalog → Catalog} (step : ∀ catalog, Step catalog (f catalog)) :
    Advances (change f : Action (StateM W) Unit) :=
  fun catalog _ => .single (step catalog)

theorem list (library : Library (StateM W)) : Advances library.list := by
  intro catalog w
  rw [performed_list]
  split
  · exact .refl
  · exact .refl
  next unloaded =>
    split
    next loaded => exact .single (.make unloaded (inOrder_loadPictures loaded))
    · exact .single (.giveUp unloaded)

variable (library : Library (StateM W))

theorem save (content : ByteArray) (kind : MediaKind) : Advances (library.save content kind) :=
  (list library).bind fun _ => (outside _ _).bind fun picture =>
    (change fun catalog => .add catalog picture).bind fun _ => pure _

theorem delete (picture : Picture) (gone : Bool) : Advances (library.delete picture gone) := by
  have dropped : Advances (Library.change (·.drop picture) : Action (StateM W) Unit) :=
    change fun catalog => .drop catalog picture
  refine (list library).bind fun _ => ?_
  dsimp only
  -- by whether the file is gone already
  split
  · refine dropped.bind fun _ => ?_
    split
    · exact outside _ _
    · exact pure _
  · refine (outside _ _).bind fun _ => dropped.bind fun _ => ?_
    split
    · exact outside _ _
    · exact pure _

theorem last : Advances library.last := (list library).bind fun _ => pure _

theorem prune (count : Nat) : Advances (library.prune count) := by
  -- by induction on the pictures that may still be taken away
  induction count with
  | zero => exact last library
  | succ count ih =>
    refine (last library).bind fun last => ?_
    split
    · exact pure _
    · split
      · refine (outside _ _).bind fun there => ?_
        split
        · exact pure _
        · exact (delete library _ true).bind fun _ => ih
      · exact pure _

theorem checkLast : Advances library.checkLast :=
  (list library).bind fun pictures => prune library pictures.length

end Advances

end Library

theorem Command.perform_advances (library : Library (StateM W)) (command : Command) :
    Library.Advances (command.perform library) := by
  cases command with
  | load => exact (Library.Advances.list library).bind fun _ => .pure _
  | save content kind => exact (Library.Advances.save library content kind).bind fun _ => .pure _
  | delete picture gone => exact Library.Advances.delete library picture gone
  | checkLast => exact (Library.Advances.checkLast library).bind fun _ => .pure _
  | copyOut picture target => exact (Library.Advances.list library).bind fun _ => .outside _ _

/-! ### Lives of a catalog -/

/-- The states of a catalog and of the world between operations. In the beginning the list was not
made yet. The world may change in any way in between, and each operation may find another resolver,
codec and clock. -/
inductive Life (first : Catalog) : Catalog → W → Prop
  | beginning (unloaded : first.listing = .unloaded) (w : W) : Life first first w
  | command {catalog : Catalog} {w : W} (past : Life first catalog w)
      (library : Library (StateM W)) (command : Command) :
      Life first (Library.performed (command.perform library) catalog w).1.2
        (Library.performed (command.perform library) catalog w).2
  | meanwhile {catalog : Catalog} {w : W} (past : Life first catalog w) (after : W) :
      Life first catalog after

theorem Life.steps {first catalog : Catalog} {w : W} (life : Life first catalog w) :
    first.listing = .unloaded ∧ Catalog.Steps first catalog := by
  induction life with
  | beginning unloaded => exact ⟨unloaded, .refl⟩
  | command past library command ih =>
    exact ⟨ih.1, ih.2.trans (Command.perform_advances library command _ _)⟩
  | meanwhile past after ih => exact ih

end CameraRoll
