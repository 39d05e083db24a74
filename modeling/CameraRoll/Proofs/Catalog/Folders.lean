import CameraRoll.Proofs.Catalog.Steps
import CameraRoll.Proofs.Naming.Derived
import CameraRoll.Proofs.Resolver.Entries
import CameraRoll.Proofs.Resolver.Folders

/-!
The making of pictures from the files of directories. Main statements: `wrap_lodged` for one picture
and `loadPictures_lodged` for the list, by which the tree gains thumbnails inside and nothing else
changes, and `wrap_ok`, that only a file without a time can be in the way of a picture.
-/

namespace CameraRoll

open CameraRoll.Calendar CameraRoll.Naming FileTree

variable {W : Type} {part : Part W FileTree} {allowed : TreeLocation → Prop} {w first second third : W}

/-! ### Files that are added -/

/-- Files were added to a tree in places of a certain kind, and nothing else has changed in the
world. -/
structure FilesAdded (part : Part W FileTree) (allowed : TreeLocation → Prop) (before after : W) :
    Prop where
  elsewhere : after = part.set (part.get after) before
  gains : (part.get before).Gains allowed (part.get after)

namespace FilesAdded

theorem refl (part : Part W FileTree) (allowed : TreeLocation → Prop) (w : W) :
    FilesAdded part allowed w w :=
  ⟨(part.set_get w).symm, .refl _ _⟩

theorem trans (h : FilesAdded part allowed first second)
    (h' : FilesAdded part allowed second third) : FilesAdded part allowed first third where
  elsewhere := by
    have before := h.elsewhere
    have after := h'.elsewhere
    rw [before, part.set_set] at after
    exact after
  gains := h.gains.trans h'.gains

theorem put {location : TreeLocation} (nothing : (part.get w).at? location = none)
    (allows : allowed location) (content : ByteArray) :
    FilesAdded part allowed w (part.set ((part.get w).put location (.file content)) w) where
  elsewhere := by rw [part.get_set]
  gains := by
    rw [part.get_set]
    exact .put nothing allows content

end FilesAdded

/-- A step adds files to a tree in places of a certain kind and does nothing else, and what it
answers is good in the tree after it. -/
def Adds {ε α : Type} (part : Part W FileTree) (allowed : TreeLocation → Prop)
    (act : ExceptT ε (StateM W) α) (good : α → FileTree → Prop) (w : W) : Prop :=
  FilesAdded part allowed w (outcome act w).2 ∧
    ∀ a, (outcome act w).1 = .ok a → good a (part.get (outcome act w).2)

namespace Adds

variable {ε δ α β : Type} {act : ExceptT ε (StateM W) α} {good : α → FileTree → Prop}

theorem of_outcome {answer : Except ε α} {after : W} (ran : outcome act w = (answer, after))
    (added : FilesAdded part allowed w after)
    (answered : ∀ a, answer = .ok a → good a (part.get after)) : Adds part allowed act good w := by
  rw [Adds, ran]
  exact ⟨added, answered⟩

/-- A step that leaves the world as it is. -/
theorem quiet (same : (outcome act w).2 = w)
    (answered : ∀ a, (outcome act w).1 = .ok a → good a (part.get w)) :
    Adds part allowed act good w := by
  rw [Adds, same]
  exact ⟨.refl part allowed w, answered⟩

theorem pure {a : α} (answered : good a (part.get w)) :
    Adds part allowed (pure a : ExceptT ε (StateM W) α) good w :=
  quiet rfl fun _ same => Except.ok.inj same ▸ answered

theorem throw (e : ε) : Adds part allowed (throw e : ExceptT ε (StateM W) α) good w :=
  quiet rfl fun _ same => by cases same

theorem bind {between : β → FileTree → Prop} {first : ExceptT ε (StateM W) β}
    {next : β → ExceptT ε (StateM W) α} (h : Adds part allowed first between w)
    (h' : ∀ b middle, FilesAdded part allowed w middle → between b (part.get middle) →
      Adds part allowed (next b) good middle) : Adds part allowed (first >>= next) good w := by
  obtain ⟨added, answered⟩ := h
  rcases ran : outcome first w with ⟨e | b, middle⟩
  · rw [ran] at added
    exact of_outcome (outcome_bind_error ran next) added fun _ same => by cases same
  · rw [ran] at added answered
    obtain ⟨added', answered'⟩ := h' b middle added (answered b rfl)
    rw [Adds, outcome_bind_ok ran]
    exact ⟨added.trans added', answered'⟩

theorem adapt (h : Adds part allowed act good w) (wrap : ε → δ) :
    Adds part allowed (act.adapt wrap) good w := by
  refine ⟨h.1, fun a answered => h.2 a ?_⟩
  rw [outcome_adapt] at answered
  cases first : (outcome act w).1 with
  | ok b =>
    rw [first] at answered
    exact congrArg Except.ok (Except.ok.inj answered)
  | error e =>
    rw [first] at answered
    cases answered

/-- A step whose failure is looked at. -/
theorem run (h : Adds part allowed act good w) :
    Adds part allowed (ExceptT.lift act.run : ExceptT δ (StateM W) (Except ε α))
      (fun answer tree => ∀ a, answer = .ok a → good a tree) w := by
  refine of_outcome (outcome_lift rfl) h.1 fun answer same a answered => ?_
  cases same
  exact h.2 a answered

end Adds

variable {place : Location → TreeLocation}

/-- A place of a thumbnail: inside, under a name that says so. -/
def IsThumbnailPlace (place : Location → TreeLocation) (location : TreeLocation) : Prop :=
  ∃ name, isThumbnailName name = true ∧ location = entryAt (place .internal) name

/-- A thumbnail that stands inside. -/
structure StoredFile.IsThumbnailIn (file : StoredFile) (place : Location → TreeLocation)
    (tree : FileTree) : Prop where
  inside : file.location = .internal
  named : file.isThumbnail = true
  stands : Resolver.Stands place tree file

theorem Resolver.Stands.gain {file : StoredFile} {tree other : FileTree}
    (stands : Resolver.Stands place tree file) (gains : tree.Gains allowed other) :
    Resolver.Stands place other file := by
  obtain ⟨content, standing⟩ := stands
  exact ⟨content, gains.kept _ _ standing⟩

theorem StoredFile.IsThumbnailIn.gain {file : StoredFile} {tree other : FileTree}
    (own : file.IsThumbnailIn place tree) (gains : tree.Gains allowed other) :
    file.IsThumbnailIn place other :=
  ⟨own.inside, own.named, own.stands.gain gains⟩

/-- The codec breaks down on nothing. -/
def Codec.Answers (codec : Codec) : Prop :=
  ∀ media kind width, codec.thumbnail media kind width ≠ .crashed

namespace Library

variable {library : Library (StateM W)}

/-! ### One picture -/

section Lodged

variable (lodges : library.resolver.LodgesIn part place (part.get w))
include lodges

theorem contentOf_lodged (file : StoredFile) (content : Option ByteArray) :
    Adds part allowed (library.contentOf file content) (fun _ _ => True) w := by
  cases content with
  | some content => exact .pure trivial
  | none => exact .quiet (Resolver.read_from lodges file) fun _ _ => trivial

theorem makeThumbnail_lodged (file : StoredFile) (content : Option ByteArray) :
    Adds part (IsThumbnailPlace place) (library.makeThumbnail file content)
      (fun made tree => made.IsThumbnailIn place tree) w := by
  refine (contentOf_lodged lodges file content).bind fun media between added _ => ?_
  split
  next bytes _ =>
    refine Adds.adapt ?_ _
    rcases Resolver.save_into (lodges.keep added.gains.sameWays.1) .internal
      (thumbnailName file.name) bytes with ⟨e, failed⟩ | ⟨n, -, nothing, done⟩
    · exact .of_outcome failed (.refl _ _ _) fun _ same => by cases same
    -- a thumbnail is stored under a name that says so, whatever its index
    · have named := isThumbnailName_iterate_nextName (isThumbnailName_thumbnailName file.name) n
      refine .of_outcome done (.put nothing ⟨_, named, rfl⟩ bytes) fun made isMade => ?_
      cases isMade
      refine ⟨rfl, named, bytes, ?_⟩
      rw [part.get_set, at?_put _ (entryAt_ne_nil _ _), if_pos rfl]
  · exact .throw _
  · exact .throw _

theorem obtainThumbnail_lodged (file : StoredFile) (content : Option ByteArray) :
    Adds part (IsThumbnailPlace place) (library.obtainThumbnail file content)
      (fun made tree => ∀ own ∈ made, own.IsThumbnailIn place tree) w := by
  unfold obtainThumbnail
  split
  · refine (makeThumbnail_lodged lodges file content).run.bind fun answer between _ made => ?_
    split
    next thumbnail =>
      refine .pure fun own isOwn => ?_
      cases isOwn
      exact made thumbnail rfl
    · exact .throw _
    · exact .pure fun own isOwn => by cases isOwn
  · exact .pure fun own isOwn => by cases isOwn

/-- The picture of a file has the thumbnail that was found for it, or one that was added, or
none. -/
theorem wrap_lodged (file : StoredFile) {thumbnail : Option StoredFile}
    (found : ∀ own ∈ thumbnail, own.IsThumbnailIn place (part.get w))
    (content : Option ByteArray) :
    Adds part (IsThumbnailPlace place) (library.wrap file thumbnail content)
      (fun picture tree => picture.file = file ∧
        ∀ own ∈ picture.thumbnail, own.IsThumbnailIn place tree) w := by
  have obtained : Adds part (IsThumbnailPlace place) (library.thumbnailFor file thumbnail content)
      (fun made tree => ∀ own ∈ made, own.IsThumbnailIn place tree) w := by
    cases thumbnail with
    | some thumbnail => exact .pure found
    | none => exact obtainThumbnail_lodged lodges file content
  rw [wrap_eq]
  refine obtained.bind fun made between _ areThumbnails => ?_
  cases pictured : Picture.ofFile file made library.resolver.zone with
  | none => exact .throw _
  | some picture =>
    obtain ⟨same, own, -⟩ := Picture.ofFile_eq_some pictured
    exact .pure ⟨same, own ▸ areThumbnails⟩

end Lodged

/-! ### All pictures -/

theorem wrapAll_lodged (lodges : library.resolver.LodgesIn part place (part.get w))
    {thumbnails : List StoredFile}
    (found : ∀ file ∈ thumbnails, file.IsThumbnailIn place (part.get w)) (files : List StoredFile) :
    Adds part (IsThumbnailPlace place) (library.wrapAll thumbnails files)
      (fun pictures tree => ∀ picture ∈ pictures, picture.file ∈ files ∧
        ∀ own ∈ picture.thumbnail, own.IsThumbnailIn place tree) w := by
  -- by induction on the files: each picture is made in the tree that the one before has left
  induction files generalizing w with
  | nil => exact .pure fun picture member => by cases member
  | cons file rest ih =>
    have foundFirst : ∀ own ∈ thumbnails.find? (·.name = thumbnailName file.name),
        own.IsThumbnailIn place (part.get w) :=
      fun own isFound => found own (List.mem_of_find?_eq_some isFound)
    refine (wrap_lodged lodges file foundFirst none).bind fun picture between added own => ?_
    have later := ih (lodges.keep added.gains.sameWays.1)
      fun own member => (found own member).gain added.gains
    refine later.bind fun others after added' owns => .pure fun other member => ?_
    rcases List.mem_cons.mp member with rfl | isLater
    · exact ⟨own.1 ▸ List.mem_cons_self, fun thumbnail isOwn =>
        (own.2 thumbnail isOwn).gain added'.gains⟩
    · exact ⟨List.mem_cons_of_mem _ (owns other isLater).1, (owns other isLater).2⟩

/-- A picture of a primary file that stood in the authoritative location, and whose thumbnail
stands inside. -/
structure IsListed (library : Library (StateM W)) (place : Location → TreeLocation)
    (before after : FileTree) (picture : Picture) : Prop where
  location : picture.file.location = library.resolver.authoritative
  primary : library.resolver.isPrimary picture.file = true
  stood : Resolver.Stands place before picture.file
  thumbnail : ∀ own ∈ picture.thumbnail, own.IsThumbnailIn place after

/-- The list is made from the primary files that stand there, and thumbnails are added. -/
theorem loadPictures_lodged (lodges : library.resolver.LodgesIn part place (part.get w))
    (distinct : (part.get w).Distinct) :
    Adds part (IsThumbnailPlace place) library.loadPictures
      (fun pictures tree => ∀ picture ∈ pictures,
        library.IsListed place (part.get w) tree picture) w := by
  obtain ⟨entries, listed, primaries, thumbnails⟩ := Resolver.entries_from lodges distinct
  have found : ∀ file ∈ entries.thumbnails, file.IsThumbnailIn place (part.get w) :=
    fun file member => ⟨(thumbnails file member).1, (thumbnails file member).2.1,
      (thumbnails file member).2.2⟩
  have first : Adds part (IsThumbnailPlace place) library.resolver.entries
      (fun found _ => found = entries) w :=
    .of_outcome listed (.refl _ _ _) fun _ same => (Except.ok.inj same).symm
  refine (first.adapt _).bind fun same between added isSame => ?_
  subst isSame
  have wrapped := wrapAll_lodged (lodges.keep added.gains.sameWays.1)
    (fun own member => (found own member).gain added.gains) same.pictures
  refine wrapped.bind fun unsorted after _ made => .pure fun picture member => ?_
  obtain ⟨among, own⟩ := made picture ((Picture.perm_sortByTime unsorted).mem_iff.mp member)
  obtain ⟨location, primary, stood⟩ := primaries _ among
  exact ⟨location, primary, stood, own⟩

/-! ### What is in the way of a picture -/

theorem makeThumbnail_ne_interrupted (calm : library.codec.Answers) (file : StoredFile)
    (content : Option ByteArray) :
    (outcome (library.makeThumbnail file content) w).1 ≠ .error .interrupted := by
  intro broken
  rw [makeThumbnail, outcome_bind] at broken
  split at broken
  -- failures of the storage are passed on as such, and the codec does not crash
  next media between _ =>
    split at broken
    · rw [storing, outcome_adapt] at broken
      cases saved : (outcome (library.resolver.save .internal (thumbnailName file.name) _)
        between).1 with
      | ok _ => rw [saved] at broken; cases broken
      | error _ => rw [saved] at broken; cases broken
    · cases broken
    next crashed => exact calm _ _ _ crashed
  next e between failed =>
    cases content with
    | some content => cases failed
    | none =>
      rw [contentOf, storing, outcome_adapt] at failed
      cases read : (outcome (library.resolver.read file) w).1 with
      | ok _ => rw [read] at failed; cases failed
      | error _ =>
        rw [read] at failed
        cases failed
        cases broken

/-- Where the codec answers, only a file without a time can be in the way of its picture. -/
theorem wrap_ok (calm : library.codec.Answers) {file : StoredFile}
    (dated : ∃ time, captureTime file.name library.resolver.zone = some time)
    (content : Option ByteArray) :
    ∃ picture, (outcome (library.wrap file none content) w).1 = .ok picture := by
  -- a thumbnail that cannot be made is left out
  have obtained : ∃ made, (outcome (library.obtainThumbnail file content) w).1 = .ok made := by
    unfold obtainThumbnail
    split
    · have unbroken := makeThumbnail_ne_interrupted (w := w) calm file content
      rcases ran : outcome (library.makeThumbnail file content) w with ⟨answer, after⟩
      rw [ran] at unbroken
      rw [outcome_bind_ok (outcome_lift ran)]
      cases answer with
      | ok thumbnail => exact ⟨_, rfl⟩
      | error e =>
        cases e with
        | interrupted => exact absurd rfl unbroken
        | _ => exact ⟨_, rfl⟩
    · exact ⟨_, rfl⟩
  obtain ⟨made, obtained⟩ := obtained
  obtain ⟨time, known⟩ := dated
  rw [wrap_eq, outcome_bind]
  rcases ran : outcome (library.thumbnailFor file none content) w with ⟨answer, after⟩
  obtain rfl : answer = .ok made := by
    rw [← obtained]
    exact (congrArg Prod.fst ran).symm
  dsimp only
  rw [Picture.ofFile_of_time known]
  exact ⟨_, rfl⟩

/-! ### Operations -/

section Operations

variable {catalog : Catalog} {pictures : List Picture} {picture : Picture}

theorem list_lodged (lodges : library.resolver.LodgesIn part place (part.get w))
    (distinct : (part.get w).Distinct) (unloaded : catalog.listing = .unloaded) :
    (∃ e listed after, performed library.list catalog w = ((.error e, listed), after) ∧
      FilesAdded part (IsThumbnailPlace place) w after) ∨
    ∃ pictures listed after, performed library.list catalog w = ((.ok pictures, listed), after) ∧
      FilesAdded part (IsThumbnailPlace place) w after ∧ listed.listing = .loaded pictures ∧
      ∀ picture ∈ pictures, library.IsListed place (part.get w) (part.get after) picture := by
  obtain ⟨added, areListed⟩ := loadPictures_lodged lodges distinct
  rw [performed_list, unloaded]
  dsimp only
  rcases ran : outcome library.loadPictures w with ⟨e | pictures, after⟩ <;>
    rw [ran] at added areListed
  · exact Or.inl ⟨_, _, _, rfl, added⟩
  · exact Or.inr ⟨pictures, _, after, rfl, added, rfl, areListed pictures rfl⟩

/-- New media take a place in the authoritative location where nothing stood and become a picture
there, or nothing changes. -/
theorem store_lodged (lodges : library.resolver.LodgesIn part place (part.get w))
    (calm : library.codec.Answers) {now : Instant} (tells : library.clock.run w = (now, w))
    (content : ByteArray) (kind : MediaKind) {name : String}
    (isName : canonicalName kind now library.resolver.zone = name)
    (dated : ∀ n, (∀ m < n, (part.get w).at? (entryAt (place library.resolver.authoritative)
        (nextName^[m] name)) ≠ none) →
      ∃ time, captureTime (nextName^[n] name) library.resolver.zone = some time) :
    (∃ e, outcome (library.store content kind) w = (.error e, w)) ∨
    ∃ n picture after, outcome (library.store content kind) w = (.ok picture, after) ∧
      (part.get w).at? (entryAt (place library.resolver.authoritative) (nextName^[n] name)) = none ∧
      FilesAdded part (IsThumbnailPlace place) (part.set ((part.get w).put
        (entryAt (place library.resolver.authoritative) (nextName^[n] name)) (.file content)) w)
        after := by
  have told : outcome (liftM library.clock : ExceptT CatalogError (StateM W) Instant) w =
      (.ok now, w) := by rw [outcome_liftM, tells]
  rw [store, outcome_bind_ok told, isName]
  dsimp only
  rcases Resolver.save_into lodges library.resolver.authoritative name content with
    ⟨e, failed⟩ | ⟨n, taken, nothing, done⟩
  · exact Or.inl ⟨_, outcome_bind_error (outcome_adapt_error failed _) _⟩
  · have saved : outcome (storing (library.resolver.save library.resolver.authoritative name
        content)) w = _ := outcome_adapt_ok done _
    rw [outcome_bind_ok saved]
    generalize stored : part.set ((part.get w).put
      (entryAt (place library.resolver.authoritative) (nextName^[n] name)) (.file content)) w = between
    have lodges' : library.resolver.LodgesIn part place (part.get between) := by
      rw [← stored, part.get_set]
      exact lodges.keep (.put (Or.inl nothing) _)
    -- once the file is there, nothing is in the way of its picture
    let file : StoredFile := ⟨library.resolver.authoritative, nextName^[n] name, content.size⟩
    have none : ∀ own ∈ (none : Option StoredFile), own.IsThumbnailIn place (part.get between) :=
      fun own isOwn => by cases isOwn
    obtain ⟨added, -⟩ := wrap_lodged lodges' file none (some content)
    obtain ⟨picture, made⟩ := @wrap_ok _ between library calm file (dated n taken) (some content)
    exact Or.inr ⟨n, picture, _, Prod.ext made rfl, nothing, stored ▸ added⟩

/-- A primary file and a thumbnail are in different places. -/
theorem IsListed.apart {before after : FileTree}
    (isListed : library.IsListed place before after picture) :
    ¬ IsThumbnailPlace place (entryAt (place picture.file.location) picture.file.name) := by
  rintro ⟨name, named, same⟩
  have sameName := (entryAt_inj same).2
  have unnamed := Resolver.isThumbnail_of_isPrimary isListed.primary
  rw [StoredFile.isThumbnail, StoredFile.kind, sameName] at unnamed
  cases named.symm.trans unnamed

/-- The file of a picture is erased and its thumbnail perhaps, or nothing changes. -/
theorem delete_lodged (lodges : library.resolver.LodgesIn part place (part.get w))
    (loaded : catalog.listing = .loaded pictures) {before : FileTree}
    (isListed : library.IsListed place before (part.get w) picture)
    (stands : Resolver.Stands place (part.get w) picture.file) :
    (∃ e, performed (library.delete picture false) catalog w = ((.error e, catalog), w)) ∨
    ∃ listed after, performed (library.delete picture false) catalog w = ((.ok (), listed), after) ∧
      ((after = part.set ((part.get w).erase
          (entryAt (place picture.file.location) picture.file.name)) w) ∨
        ∃ own : StoredFile, own.IsThumbnailIn place (part.get w) ∧
          after = part.set (((part.get w).erase
            (entryAt (place picture.file.location) picture.file.name)).erase
              (entryAt (place .internal) own.name)) w) := by
  rw [performed_delete loaded]
  rcases Resolver.remove_from lodges stands with ⟨e, failed⟩ | removed
  · rw [failed]
    exact Or.inl ⟨_, rfl⟩
  · rw [removed]
    refine Or.inr ⟨_, _, rfl, ?_⟩
    cases isOwn : picture.thumbnail with
    | none => exact Or.inl rfl
    | some own =>
      dsimp only
      have thumbnail := isListed.thumbnail own isOwn
      obtain ⟨content, standing⟩ := stands
      have free : (part.get w).IsFree
          (entryAt (place picture.file.location) picture.file.name) := Or.inr ⟨content, standing⟩
      -- the thumbnail outlives the picture's own file
      have lodges' : library.resolver.LodgesIn part place (part.get (part.set ((part.get w).erase
          (entryAt (place picture.file.location) picture.file.name)) w)) := by
        rw [part.get_set]
        exact lodges.keep (.erase free)
      have stands' : Resolver.Stands place (part.get (part.set ((part.get w).erase
          (entryAt (place picture.file.location) picture.file.name)) w)) own := by
        obtain ⟨bytes, standing'⟩ := thumbnail.stands
        refine ⟨bytes, ?_⟩
        rw [part.get_set, at?_erase _ (entryAt_ne_nil _ _), if_neg, standing']
        intro same
        exact isListed.apart ⟨own.name, thumbnail.named, by rw [← same, thumbnail.inside]⟩
      rcases Resolver.remove_from lodges' stands' with ⟨e, failed⟩ | gone
      · rw [failed]
        exact Or.inl rfl
      · rw [gone]
        refine Or.inr ⟨own, thumbnail, ?_⟩
        rw [part.get_set, part.set_set, thumbnail.inside]

/-- Nothing is dropped from a list whose files stand there. -/
theorem checkLast_lodged (lodges : library.resolver.LodgesIn part place (part.get w))
    (loaded : catalog.listing = .loaded pictures)
    (stand : ∀ picture ∈ pictures, picture.file.location = library.resolver.authoritative ∧
      Resolver.Stands place (part.get w) picture.file) :
    (performed library.checkLast catalog w).2 = w := by
  rw [checkLast, performed_bind, performed_list_of_loaded loaded]
  dsimp only
  cases pictures.length with
  | zero => rw [prune, performed_last loaded]
  | succ count =>
    rw [prune, performed_bind, performed_last loaded]
    dsimp only
    cases last : pictures.getLast? with
    | none => rfl
    | some picture =>
      obtain ⟨here, stands⟩ := stand picture (List.mem_of_getLast? last)
      dsimp only
      split
      · rw [performed_bind, performed_outside]
        rcases Resolver.contains_in lodges here stands with ⟨e, failed⟩ | found
        · rw [failed]
          rfl
        · rw [found]
          rfl
      · rfl

theorem inlineUrl_lodged (lodges : library.resolver.LodgesIn part place (part.get w))
    (file : StoredFile) : (outcome (library.resolver.inlineUrl file) w).2 = w := by
  rw [Resolver.inlineUrl, outcome_bind_pure]
  exact Resolver.read_from lodges file

theorem readableUrl_lodged (lodges : library.resolver.LodgesIn part place (part.get w))
    (file : StoredFile) : (outcome (library.resolver.readableUrl file) w).2 = w := by
  unfold Resolver.readableUrl
  split
  · split
    · exact inlineUrl_lodged lodges file
    · rfl
  · exact inlineUrl_lodged lodges file

end Operations

end Library

end CameraRoll
