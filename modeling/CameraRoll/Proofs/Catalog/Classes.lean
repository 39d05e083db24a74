import CameraRoll.Proofs.Catalog.Service

/-!
Files stay what their names say. Main statement: `derivedNames_keepClass`, that names made of a valid
name are valid, that a name which was taken is followed by names of its class, and that what goes by
the name of a thumbnail is never taken for a picture.
-/

namespace CameraRoll

open CameraRoll.Naming

open Bench Library

variable {resolver : Resolver (StateM Bench)} {name : String}

/-- No file of this name is ever taken for a picture: neither where the files of a catalog are looked
for, whatever the stores answer, nor in the list of a catalog, whatever was done to it. -/
structure NeverPicture (name : String) : Prop where
  unlisted {W : Type} {resolver : Resolver (StateM W)} {w after : W} {entries : Entries}
    (listed : outcome resolver.entries w = (.ok entries, after)) :
    ∀ picture ∈ entries.pictures, picture.name ≠ name
  unshown {resolver : Resolver (StateM Bench)} (serves : Serves resolver) {catalog : Catalog}
    (service : Service resolver catalog) : ∀ picture ∈ catalog.pictures?.getD [],
      picture.name ≠ name

/-- No picture is listed with a file that is a thumbnail by its name. -/
theorem ensures_noThumbnail (serves : Serves resolver) :
    resolver.Ensures fun picture => isThumbnailName picture.name = false where
  listed _ _ primary _ := Resolver.isThumbnail_of_isPrimary (List.mem_filter.mp primary).2
  stored regular _ _ _ _ _ _ run := (isEntry_of_store serves regular run).2

theorem neverPicture_of_thumbnail (thumbnail : isThumbnailName name = true) :
    NeverPicture name where
  unlisted listed := by
    rintro picture member rfl
    cases thumbnail.symm.trans (Resolver.not_thumbnail_of_entries listed picture member)
  unshown serves _ service := by
    rintro picture member rfl
    cases thumbnail.symm.trans
      (service.shows (ensures_noThumbnail serves) serves picture member)

/-- Whatever is made of a valid name, by regulating it, following it and naming its thumbnail in any
order, is valid. The names after a name are of its kind and carry a stamp if it does. The name of a
thumbnail and those after it say what they are; a thumbnail is stored under no other name than one
of these, and none of them is ever taken for a picture. -/
theorem derivedNames_keepClass (name : String) :
    (validateName name = .ok name → ∀ made, Derived name made → validateName made = .ok made) ∧
    (∀ n, kindOf (nextName^[n] name) = kindOf name ∧
      isStamped (nextName^[n] name) = isStamped name) ∧
    (∀ n, kindOf (nextName^[n] (thumbnailName name)) = .thumbnail ∧
      NeverPicture (nextName^[n] (thumbnailName name))) ∧
    ∀ {library : Library (StateM Bench)} {bench after : Bench} {file thumbnail : StoredFile}
      {content : Option ByteArray}, Serves library.resolver → bench.Regular → file.name = name →
      outcome (library.makeThumbnail file content) bench = (.ok thumbnail, after) →
      ∃ n, thumbnail.name = nextName^[n] (thumbnailName name) := by
  have named (n : Nat) : isThumbnailName (nextName^[n] (thumbnailName name)) = true :=
    isThumbnailName_iterate_nextName (isThumbnailName_thumbnailName name) n
  refine ⟨fun valid made derived => ?_, fun n => ⟨?_, ?_⟩, fun n => ⟨?_, ?_⟩, ?_⟩
  · rw [validateName_eq_ok_iff] at valid ⊢
    exact derived.isValidName valid
  · exact kindOf_iterate_nextName name n
  · exact isStamped_iterate_nextName name n
  · exact (isThumbnailName_iff _).mp (named n)
  · exact neverPicture_of_thumbnail (named n)
  · rintro library bench after file thumbnail content serves regular rfl made
    rcases makeThumbnail_cases serves regular file content with
      ⟨e, failed, -⟩ | ⟨_, _, n, -, -, -, -, done⟩
    · cases failed.symm.trans made
    · cases done.symm.trans made
      exact ⟨n, rfl⟩

/-- The thumbnail of a video with an index of the older scheme, beside one that has its name. -/
theorem derivedNames_keepClass_taken :
    let name := "VID_20240101_120000_2.webm"
    let library := Bench.library (session {} 1000 (.fixed 0)) (markingCodec true) 64
    let bench : Bench :=
      { internal := { files := [("thumb-VID_20240101_120000_2.jpg", ⟨#[1]⟩)] } }
    validateName name = .ok name ∧
    validateName "thumb-VID_20240101_120000 (3).jpg" = .ok "thumb-VID_20240101_120000 (3).jpg" ∧
    kindOf (nextName^[1] name) = .video ∧ isStamped (nextName^[1] name) = true ∧
    ∃ thumbnail after,
      outcome (library.makeThumbnail ⟨.internal, name, 1⟩ (some ⟨#[2]⟩)) bench =
        (.ok thumbnail, after) ∧
      thumbnail.name = "thumb-VID_20240101_120000_2 (1).jpg" ∧ NeverPicture thumbnail.name := by
  intro name library bench
  obtain ⟨validNames, sameClass, thumbnails, stored⟩ := derivedNames_keepClass name
  have valid : validateName name = .ok name := validateName_eq_ok_iff.mpr (by decide +kernel)
  have derived : Derived name "thumb-VID_20240101_120000 (3).jpg" := by
    have made : thumbnailName (nextName (regulateName name .system)) =
        "thumb-VID_20240101_120000 (3).jpg" := by decide +kernel
    exact made ▸ ((Derived.same.regulated .system).next).thumbnail
  have serves : Serves library.resolver := serves_session {} 1000 (.fixed 0)
  have regular : bench.Regular :=
    ⟨⟨by simp [bench], by decide, by simp [bench]⟩, MemoryStore.regular_empty⟩
  have run : (outcome (library.makeThumbnail ⟨.internal, name, 1⟩ (some ⟨#[2]⟩)) bench).1.toOption.map
      (·.name) = some "thumb-VID_20240101_120000_2 (1).jpg" := by decide +kernel
  refine ⟨valid, validNames valid _ derived, ?_, ?_, ?_⟩
  · rw [(sameClass 1).1]
    decide +kernel
  · rw [(sameClass 1).2]
    decide +kernel
  · rcases made : outcome (library.makeThumbnail ⟨.internal, name, 1⟩ (some ⟨#[2]⟩)) bench with
      ⟨e | thumbnail, after⟩
    · rw [made] at run
      cases run
    · rw [made] at run
      obtain ⟨n, isNext⟩ := stored serves regular rfl made
      refine ⟨thumbnail, after, rfl, Option.some.inj run, ?_⟩
      rw [isNext]
      exact (thumbnails n).2

end CameraRoll
