import CameraRoll.Proofs.Outcome

/-!
What a resolver makes a catalog from, whatever its stores answer. Main statements:
`exists_of_entries`, that its pictures are the primary files among those that are listed, and
`isThumbnail_of_isPrimary`, that no thumbnail is a primary file.
-/

namespace CameraRoll.Resolver

section Primary

variable {m : Type → Type} {resolver : Resolver m} {file : StoredFile}

/-- Outside, a primary file has the start of a picture's name and a stamp. -/
theorem isPrimary_iff (outside : resolver.hasExternal = true) :
    resolver.isPrimary file = true ↔
      file.kind.isPrimary = true ∧ Naming.isStamped file.name = true := by
  rw [isPrimary, if_pos outside, Bool.and_eq_true]

/-- A primary file is no thumbnail. -/
theorem isThumbnail_of_isPrimary (primary : resolver.isPrimary file = true) :
    file.isThumbnail = false := by
  by_cases outside : resolver.hasExternal = true
  -- outside, a name has the start of a picture's and not that of a thumbnail's
  · have start := ((isPrimary_iff outside).mp primary).1
    rw [StoredFile.isThumbnail]
    cases kind : file.kind with
    | thumbnail =>
      rw [kind] at start
      cases start
    | _ => rfl
  · rw [isPrimary, if_neg outside] at primary
    simpa using primary

end Primary

variable {W : Type} {resolver : Resolver (StateM W)} {w after : W} {entries : Entries}

/-- Both locations are listed, one after the other. The pictures are the primary files of the
authoritative one. -/
theorem exists_of_entries (listed : outcome resolver.entries w = (.ok entries, after)) :
    ∃ inside outside between,
      outcome (resolver.enumerate .internal) w = (.ok inside, between) ∧
      outcome (resolver.enumerate .external) between = (.ok outside, after) ∧
      entries.pictures =
        (if resolver.hasExternal then outside else inside).filter resolver.isPrimary := by
  rw [Resolver.entries, outcome_bind] at listed
  split at listed
  next inside between first =>
    rw [outcome_bind] at listed
    split at listed
    next outside last second =>
      cases listed
      exact ⟨inside, outside, between, first, second, rfl⟩
    · cases listed
  · cases listed

/-- With a store outside, the pictures are found among its files, which are listed after those
inside. -/
theorem mem_pictures_iff (outside : resolver.hasExternal = true)
    (listed : outcome resolver.entries w = (.ok entries, after)) :
    ∃ inside between files, outcome (resolver.enumerate .internal) w = (.ok inside, between) ∧
      outcome (resolver.enumerate .external) between = (.ok files, after) ∧
      ∀ file, file ∈ entries.pictures ↔
        file ∈ files ∧ file.kind.isPrimary = true ∧ Naming.isStamped file.name = true := by
  obtain ⟨inside, files, between, before, enumerated, pictures⟩ := exists_of_entries listed
  refine ⟨inside, between, files, before, enumerated, fun file => ?_⟩
  rw [pictures, if_pos outside, List.mem_filter, isPrimary_iff outside]

theorem not_thumbnail_of_entries (listed : outcome resolver.entries w = (.ok entries, after)) :
    ∀ picture ∈ entries.pictures, picture.isThumbnail = false := by
  obtain ⟨inside, outside, between, -, -, pictures⟩ := exists_of_entries listed
  intro picture member
  rw [pictures] at member
  exact isThumbnail_of_isPrimary (List.mem_filter.mp member).2

end CameraRoll.Resolver
