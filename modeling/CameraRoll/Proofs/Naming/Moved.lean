import CameraRoll.Bench
import CameraRoll.Proofs.Naming.Stamped

/-!
What becomes of the name of a picture that is moved: it is regulated, and then followed until a free
name is found. Main statement: `moved_listed_iff`, that the new name carries a time stamp like the
old one, and that it is of the same kind exactly if the scheme is found where the name begins, or
nowhere.
-/

namespace CameraRoll.Naming

open CameraRoll.Calendar CameraRoll.Text

variable {m : Type → Type}

/-! ### The stamp -/

/-- What is read as the base of a name carries a stamp. -/
theorem stamped_of_baseAt {s base rest : List Char} (found : baseAt s = some (base, rest)) :
    Stamped base := by
  obtain ⟨a, b, c, behind, date, time, rfl, -, stamp, rfl⟩ := exists_of_baseAt found
  obtain ⟨-, eight, six, number⟩ := stampDigits_eq_some_iff.mp stamp
  refine ⟨'_' :: date ++ '_' :: time, ⟨date, time, rfl, eight, six, number⟩, [a, b, c], [], ?_⟩
  simp

/-- Parts put together begin with their base. -/
theorem chars_eq_append (parts : NameParts) : ∃ rest, parts.chars = parts.base ++ rest := by
  unfold NameParts.chars
  dsimp only
  split
  · exact ⟨_, List.append_assoc _ _ _⟩
  · exact ⟨_, rfl⟩

/-- A name of a picture carries a stamp when it is regulated exactly if it did before. -/
theorem isStamped_regulateName {name : String} (primary : (kindOf name).isPrimary = true)
    (zone : Zone) : isStamped (regulateName name zone) = isStamped name := by
  have primary' : (kindOfChars name.toList).isPrimary = true := primary
  rw [regulateName, regulateChars, if_pos primary']
  split
  -- the base has a stamp, and it is a part of the old name and of the new one
  next parts found =>
    obtain ⟨before, behind, old, here⟩ := leftmost_eq_some found
    obtain ⟨left, start, -⟩ := exists_of_partsAt here
    obtain ⟨rest, new⟩ := chars_eq_append parts
    obtain ⟨stamp, isStamp, inside⟩ := stamped_of_baseAt start
    have inNew : Stamped parts.chars :=
      ⟨stamp, isStamp, inside.trans (new ▸ (List.prefix_append _ rest).isInfix)⟩
    have inOld : Stamped name.toList := by
      rw [old, (eq_of_baseAt start).1]
      exact ⟨stamp, isStamp, inside.trans
        ((List.prefix_append _ left).isInfix.trans (List.suffix_append before _).isInfix)⟩
    rw [(isStamped_iff _).mpr inOld, (isStamped_iff _).mpr (by rwa [String.toList_ofList])]
  · rw [String.ofList_toList]

/-! ### The kind -/

private theorem isPrefixOf_iff_take {start s : List Char} :
    start.isPrefixOf s = true ↔ s.take start.length = start := by
  rw [List.isPrefixOf_iff_prefix, List.prefix_iff_eq_take, eq_comm]

theorem kindOfChars_eq_image_iff (s : List Char) :
    kindOfChars s = .image ↔ s.take 4 = imageStart.toList := by
  have start : imageStart.toList.isPrefixOf s = true ↔ s.take 4 = imageStart.toList :=
    isPrefixOf_iff_take
  rw [← start]
  unfold kindOfChars
  split
  · simp [*]
  · split
    · simp [*]
    · split <;> simp [*]

theorem kindOfChars_eq_video_iff (s : List Char) :
    kindOfChars s = .video ↔ s.take 4 = videoStart.toList := by
  have start : videoStart.toList.isPrefixOf s = true ↔ s.take 4 = videoStart.toList :=
    isPrefixOf_iff_take
  -- no text has both starts
  have apart : imageStart.toList.isPrefixOf s = true → s.take 4 ≠ videoStart.toList := by
    intro image video
    have same : s.take 4 = imageStart.toList := isPrefixOf_iff_take.mp image
    rw [same] at video
    exact absurd video (by decide)
  unfold kindOfChars
  split
  next image => simp [apart image]
  · rw [← start]
    split
    · simp [*]
    · split <;> simp [*]

/-- Where the scheme is found in a name, it begins with the four characters with which the name
itself begins. -/
def BeginsScheme (name : List Char) : Prop :=
  ∀ parts ∈ leftmost partsAt name, parts.base.take 4 = name.take 4

instance (name : List Char) : Decidable (BeginsScheme name) :=
  inferInstanceAs (Decidable (∀ parts ∈ leftmost partsAt name, parts.base.take 4 = name.take 4))

/-- Texts of which one is named like a picture are of one kind if they begin alike. -/
theorem kindOfChars_eq_iff {name : List Char} (primary : (kindOfChars name).isPrimary = true)
    (s : List Char) : kindOfChars s = kindOfChars name ↔ s.take 4 = name.take 4 := by
  cases kind : kindOfChars name with
  | image => rw [kindOfChars_eq_image_iff, (kindOfChars_eq_image_iff name).mp kind]
  | video => rw [kindOfChars_eq_video_iff, (kindOfChars_eq_video_iff name).mp kind]
  | thumbnail => simp [kind, NameKind.isPrimary] at primary
  | other => simp [kind, NameKind.isPrimary] at primary

/-- A name of a picture keeps its kind when it is regulated exactly if the scheme is found where it
begins, or nowhere. -/
theorem kindOf_regulateName_iff {name : String} (primary : (kindOf name).isPrimary = true)
    (zone : Zone) :
    kindOf (regulateName name zone) = kindOf name ↔ BeginsScheme name.toList := by
  have primary' : (kindOfChars name.toList).isPrimary = true := primary
  rw [kindOf, kindOf, regulateName, String.toList_ofList, kindOfChars_eq_iff primary',
    regulateChars, if_pos primary', BeginsScheme]
  cases found : leftmost partsAt name.toList with
  | none => simp
  | some parts =>
    obtain ⟨before, behind, -, here⟩ := leftmost_eq_some found
    have length := (mem_of_partsAt here).1
    obtain ⟨rest, whole⟩ := chars_eq_append parts
    simp only [whole, Option.mem_def, Option.some.injEq, forall_eq']
    rw [List.take_append_of_le_length (by omega)]

/-! ### Moved pictures -/

/-- A picture that is moved keeps its stamp, whichever names are taken outside. It is listed there
and is of the same kind exactly if the scheme is found where its name begins, or nowhere. -/
theorem moved_listed_iff (resolver : Resolver m) (outside : resolver.hasExternal = true)
    {name : String} (primary : (kindOf name).isPrimary = true) (stamped : isStamped name = true)
    (zone : Zone) (n size : Nat) :
    let moved : StoredFile := ⟨.external, nextName^[n] (regulateName name zone), size⟩
    isStamped moved.name = true ∧
    (resolver.isPrimary moved = true ∧ moved.kind = kindOf name ↔ BeginsScheme name.toList) := by
  intro moved
  have keeps : isStamped moved.name = true := by
    rw [isStamped_iterate_nextName, isStamped_regulateName primary, stamped]
  have kind : moved.kind = kindOf (regulateName name zone) := kindOf_iterate_nextName _ n
  refine ⟨keeps, ?_⟩
  rw [← kindOf_regulateName_iff primary zone, kind, and_iff_right_iff_imp]
  intro same
  rw [Resolver.isPrimary, if_pos outside, kind, same, primary, keeps]
  rfl

/-- A picture with a duplicate index of the older scheme, whose regulated name is taken outside. -/
theorem moved_listed_iff_olderIndex :
    (kindOf "VID_20240101_120000_2.webm").isPrimary = true ∧
    isStamped "VID_20240101_120000_2.webm" = true ∧
    BeginsScheme "VID_20240101_120000_2.webm".toList ∧
    nextName^[1] (regulateName "VID_20240101_120000_2.webm" .system) =
      "VID_20240101_120000 (3).mkv" ∧
    (⟨Bench.internalStore none, some (Bench.externalStore none), .system⟩ :
      Resolver (StateM Bench)).isPrimary ⟨.external, "VID_20240101_120000 (3).mkv", 5⟩ = true := by
  have primary : (kindOf "VID_20240101_120000_2.webm").isPrimary = true := by decide
  have stamped : isStamped "VID_20240101_120000_2.webm" = true := by decide +kernel
  have begins : BeginsScheme "VID_20240101_120000_2.webm".toList := by decide +kernel
  have next : nextName^[1] (regulateName "VID_20240101_120000_2.webm" .system) =
      "VID_20240101_120000 (3).mkv" := by decide +kernel
  have listed := (moved_listed_iff (⟨Bench.internalStore none, some (Bench.externalStore none),
    .system⟩ : Resolver (StateM Bench)) rfl primary stamped .system 1 5).2.mpr begins
  simp only [next] at listed
  exact ⟨primary, stamped, begins, next, listed.1⟩

/-- Two images whose names lose what they begin with when they are moved: the one is listed no more,
the other one as a video. -/
theorem moved_unlisted :
    ((kindOf "IMG_abc_20240101_120000.jpg").isPrimary = true ∧
      isStamped "IMG_abc_20240101_120000.jpg" = true ∧
      regulateName "IMG_abc_20240101_120000.jpg" (.fixed 0) = "abc_20240101_120000.jpg" ∧
      (kindOf "abc_20240101_120000.jpg").isPrimary = false) ∧
    kindOf "IMG_VID_20240101_120000.jpg" = .image ∧
      isStamped "IMG_VID_20240101_120000.jpg" = true ∧
      regulateName "IMG_VID_20240101_120000.jpg" (.fixed 0) = "VID_20240101_120000.jpg" ∧
      kindOf "VID_20240101_120000.jpg" = .video := by
  refine ⟨⟨?_, ?_, ?_, ?_⟩, ?_, ?_, ?_, ?_⟩ <;> decide +kernel

end CameraRoll.Naming
