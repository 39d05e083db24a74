import CameraRoll.Catalog.Basic
import CameraRoll.Proofs.Resolver.Frame

/-!
Facts about the world that no operation of a catalog breaks. Main statements: `keeps_load`,
`keeps_save`, `keeps_delete`, `keeps_checkLast` and `keeps_copyOut`, for facts that may depend on
the names under which files are stored in each location.
-/

namespace CameraRoll.Library

open CameraRoll.Calendar CameraRoll.Naming

variable {W α β ε : Type} {I : W → Prop}

/-! ### Steps of a catalog -/

/-- The answer of an operation of a catalog, the catalog after it and the world after it. -/
def performed (act : Action (StateM W) α) (catalog : Catalog) (w : W) :
    (Except CatalogError α × Catalog) × W :=
  (act.run.run catalog).run w

/-- An operation followed by another: the second one starts where the first one ended, and is left
out if the first one failed. -/
theorem performed_bind (act : Action (StateM W) α) (next : α → Action (StateM W) β)
    (catalog : Catalog) (w : W) :
    performed (act >>= next) catalog w =
      match performed act catalog w with
      | ((.ok a, between), w) => performed (next a) between w
      | ((.error e, between), w) => ((.error e, between), w) := by
  simp only [performed, Bind.bind, ExceptT.bind, ExceptT.run, ExceptT.mk, ExceptT.bindCont,
    StateT.run, StateT.bind]
  rcases act catalog w with ⟨⟨answer, between⟩, w⟩
  cases answer <;> rfl

/-- An operation whose answer is left out. -/
theorem performed_ignore (act : Action (StateM W) α) (catalog : Catalog) (w : W) :
    performed (do let _ ← act) catalog w =
      (((performed act catalog w).1.1.map fun _ => (), (performed act catalog w).1.2),
        (performed act catalog w).2) := by
  rw [performed_bind]
  rcases performed act catalog w with ⟨⟨_ | _, after⟩, w'⟩ <;> rfl

/-- A step outside the catalog. -/
theorem performed_outside (act : ExceptT ε (StateM W) α) (wrapping : ε → CatalogError)
    (catalog : Catalog) (w : W) :
    performed (outside act wrapping) catalog w =
      (((outcome act w).1.mapError wrapping, catalog), (outcome act w).2) := by
  simp only [performed, outside, outcome, Bind.bind, ExceptT.run, ExceptT.mk, StateT.run,
    StateT.bind, StateT.lift]
  rcases act w with ⟨answer, w⟩
  cases answer <;> rfl

/-- An operation breaks no fact about the world, whatever the catalog is. -/
def Spares (I : W → Prop) (act : Action (StateM W) α) : Prop :=
  ∀ catalog w, I w → I (performed act catalog w).2

namespace Spares

theorem pure (a : α) : Spares I (pure a : Action (StateM W) α) := fun _ _ h => h

theorem throw (e : CatalogError) : Spares I (throw e : Action (StateM W) α) := fun _ _ h => h

theorem bind {act : Action (StateM W) α} {next : α → Action (StateM W) β} (first : Spares I act)
    (second : ∀ a, Spares I (next a)) : Spares I (act >>= next) := by
  intro catalog w h
  have kept := first catalog w h
  rw [performed_bind]
  split
  next a between w' reached =>
    rw [reached] at kept
    exact second a between w' kept
  next e between w' reached =>
    rw [reached] at kept
    exact kept

/-- A step outside the catalog. -/
theorem outside {act : ExceptT ε (StateM W) α} (kept : Keeps I act)
    (wrapping : ε → CatalogError) : Spares I (outside act wrapping) := by
  intro catalog w h
  rw [performed_outside]
  exact kept w h

theorem lift {act : ExceptT ε (StateM W) α} (kept : Keeps I act) :
    Spares I (ExceptT.lift (StateT.lift act.run) : Action (StateM W) (Except ε α)) :=
  fun _ w h => kept w h

theorem change (f : Catalog → Catalog) : Spares I (change f : Action (StateM W) Unit) :=
  fun _ _ h => h

theorem get : Spares I (ExceptT.lift (MonadState.get : StateT Catalog (StateM W) Catalog)) :=
  fun _ _ h => h

end Spares

/-! ### The operations -/

/-- Nothing that a catalog works with breaks a fact about the world, as long as files are stored in
each location under certain names only; thumbnails have such names inside, and every name is one in
the authoritative location. -/
structure Respects (library : Library (StateM W)) (I : W → Prop)
    (names : Location → String → Prop) : Prop where
  resolver : library.resolver.Respects I names
  thumbnails : ∀ name n, names .internal (nextName^[n] (thumbnailName name))
  pictures : ∀ name, names library.resolver.authoritative name
  clock : ∀ w, I w → I (library.clock.run w).2
  inspect : ∀ path, Keeps I (library.disk.inspect path)
  write : ∀ path content, Keeps I (library.disk.write path content)

section Operations

variable {library : Library (StateM W)} {names : Location → String → Prop}
  (respects : library.Respects I names)
include respects

theorem keeps_contentOf (file : StoredFile) (content : Option ByteArray) :
    Keeps I (library.contentOf file content) := by
  unfold contentOf
  split
  · exact Keeps.pure _
  · exact (Resolver.keeps_read respects.resolver file).adapt _

theorem keeps_makeThumbnail (file : StoredFile) (content : Option ByteArray) :
    Keeps I (library.makeThumbnail file content) := by
  refine (keeps_contentOf respects file content).bind fun bytes => ?_
  split
  · exact (Resolver.keeps_save respects.resolver (respects.thumbnails file.name) _).adapt _
  · exact Keeps.throw _
  · exact Keeps.throw _

theorem keeps_obtainThumbnail (file : StoredFile) (content : Option ByteArray) :
    Keeps I (library.obtainThumbnail file content) := by
  unfold obtainThumbnail
  split
  · refine Keeps.bind (fun w h => keeps_makeThumbnail respects file content w h) fun made => ?_
    split
    · exact Keeps.pure _
    · exact Keeps.throw _
    · exact Keeps.pure _
  · exact Keeps.pure _

theorem keeps_wrap (file : StoredFile) (thumbnail : Option StoredFile)
    (content : Option ByteArray) : Keeps I (library.wrap file thumbnail content) := by
  unfold wrap
  dsimp only
  split
  · refine (Keeps.pure _).bind fun thumbnail => ?_
    split
    · exact Keeps.pure _
    · exact Keeps.throw _
  · refine (keeps_obtainThumbnail respects file content).bind fun thumbnail => ?_
    split
    · exact Keeps.pure _
    · exact Keeps.throw _

theorem keeps_wrapAll (thumbnails files : List StoredFile) :
    Keeps I (library.wrapAll thumbnails files) := by
  induction files with
  | nil => exact Keeps.pure _
  | cons file rest ih =>
    exact (keeps_wrap respects file _ none).bind fun _ => ih.bind fun _ => Keeps.pure _

theorem keeps_loadPictures : Keeps I library.loadPictures := by
  have enumerate := Resolver.keeps_enumerate respects.resolver
  have entries : Keeps I library.resolver.entries :=
    (enumerate .internal).bind fun _ => (enumerate .external).bind fun _ => Keeps.pure _
  exact (entries.adapt _).bind fun _ => (keeps_wrapAll respects _ _).bind fun _ => Keeps.pure _

theorem keeps_list : Spares I library.list := by
  refine Spares.get.bind fun catalog => ?_
  split
  · exact Spares.pure _
  · exact Spares.throw _
  · refine (Spares.lift (keeps_loadPictures respects)).bind fun answer => ?_
    split
    · exact (Spares.change _).bind fun _ => Spares.pure _
    · exact (Spares.change _).bind fun _ => Spares.throw _

theorem keeps_load : Spares I library.load := (keeps_list respects).bind fun _ => Spares.pure _

theorem keeps_store (content : ByteArray) (kind : MediaKind) :
    Keeps I (library.store content kind) := by
  refine Keeps.bind (Keeps.liftM respects.clock) fun now => ?_
  refine Keeps.bind ?_ fun file => keeps_wrap respects file none _
  exact (Resolver.keeps_save respects.resolver (fun _ => respects.pictures _) content).adapt _

theorem keeps_save (content : ByteArray) (kind : MediaKind) :
    Spares I (library.save content kind) :=
  (keeps_list respects).bind fun _ =>
    (Spares.outside (keeps_store respects _ kind) _).bind fun _ =>
      (Spares.change _).bind fun _ => Spares.pure _

theorem keeps_delete (picture : Picture) (gone : Bool) :
    Spares I (library.delete picture gone) := by
  have remove (file : StoredFile) := Resolver.keeps_remove respects.resolver file
  refine (keeps_list respects).bind fun _ => ?_
  dsimp only
  split
  · refine (Spares.change _).bind fun _ => ?_
    split
    · exact Spares.outside (remove _).attempt _
    · exact Spares.pure _
  · refine (Spares.outside (remove picture.file) _).bind fun _ => (Spares.change _).bind fun _ => ?_
    split
    · exact Spares.outside (remove _).attempt _
    · exact Spares.pure _

theorem keeps_copyOut (picture : Picture) (target : String) :
    Spares I (library.copyOut picture target) :=
  (keeps_list respects).bind fun _ => Spares.outside
    (Resolver.keeps_copying (Resolver.keeps_read respects.resolver picture.file) respects.inspect
      respects.write target) _

theorem keeps_last : Spares I library.last := (keeps_list respects).bind fun _ => Spares.pure _

theorem keeps_prune (count : Nat) : Spares I (library.prune count) := by
  -- by induction on the pictures that may still be taken away
  induction count with
  | zero => exact keeps_last respects
  | succ count ih =>
    refine (keeps_last respects).bind fun last => ?_
    split
    · exact Spares.pure _
    · split
      · refine (Spares.outside (Resolver.keeps_contains respects.resolver _) _).bind fun there => ?_
        split
        · exact Spares.pure _
        · exact (keeps_delete respects _ true).bind fun _ => ih
      · exact Spares.pure _

theorem keeps_checkLast : Spares I library.checkLast :=
  (keeps_list respects).bind fun pictures => keeps_prune respects pictures.length

end Operations

end CameraRoll.Library
