import CameraRoll.Proofs.Keyed
import CameraRoll.Settings.Memory

/-!
Flags in memory: what a session sees of them, and that they are set and never taken back. Main
statements: `value?_put`, and the lemmas about `Grows`.
-/

namespace CameraRoll.MemorySettings

/-- A flag as a session sees it: one that is missing or cannot be read counts as not set. -/
def sees (settings : MemorySettings) (key : String) : Bool :=
  if key ∈ settings.failingReads then false else (settings.value? key).getD false

theorem value?_of_sees {settings : MemorySettings} {key : String}
    (seen : settings.sees key = true) : settings.value? key = some true := by
  unfold sees at seen
  split at seen
  · cases seen
  · cases stored : settings.value? key with
    | none => simp [stored] at seen
    | some value => simpa [stored] using seen

theorem sees_of_value? {settings : MemorySettings} {key : String}
    (readable : settings.failingReads = []) (stored : settings.value? key = some true) :
    settings.sees key = true := by
  simp [sees, readable, stored]

/-- A flag that was put is found, and every other one is as before. -/
theorem value?_put (settings : MemorySettings) (key other : String) (value : Bool) :
    (settings.put key value).value? other =
      if other = key then some value else settings.value? other := by
  rw [put, value?, lookup_cons_ite, lookup_filter]
  split <;> rfl

/-- Of several flags under one key the last one is found. -/
theorem value?_ofValues (values : List (String × Bool)) (key : String) :
    (ofValues values).value? key = values.reverse.lookup key := by
  have found := look_foldl_put put value?
    (fun settings key value other => value?_put settings key other value) values {} key
  rw [ofValues, found, value?, List.lookup_nil, Option.or_none]

/-- Nothing fails in settings that are made of flags. -/
theorem failing_ofValues (values : List (String × Bool)) :
    (ofValues values).failingReads = [] ∧ (ofValues values).failingWrites = [] := by
  refine List.foldlRecOn (motive := fun settings : MemorySettings =>
    settings.failingReads = [] ∧ settings.failingWrites = []) values _ ⟨rfl, rfl⟩ ?_
  exact fun _ clear _ _ => clear

/-- Some flags were set, and nothing else has happened to the settings. -/
structure Grows (before after : MemorySettings) : Prop where
  reads : after.failingReads = before.failingReads
  writes : after.failingWrites = before.failingWrites
  flags : ∀ key, after.value? key = before.value? key ∨ after.value? key = some true

namespace Grows

theorem refl (settings : MemorySettings) : Grows settings settings :=
  ⟨rfl, rfl, fun _ => .inl rfl⟩

theorem trans {first second third : MemorySettings} (h : Grows first second)
    (h' : Grows second third) : Grows first third where
  reads := h'.reads.trans h.reads
  writes := h'.writes.trans h.writes
  flags key := by
    rcases h'.flags key with same | set
    · rw [same]
      exact h.flags key
    · exact .inr set

theorem put (settings : MemorySettings) (key : String) :
    Grows settings (settings.put key true) where
  reads := rfl
  writes := rfl
  flags other := by
    rw [value?_put]
    split
    · exact .inr rfl
    · exact .inl rfl

theorem stays {before after : MemorySettings} (grows : Grows before after) {key : String}
    (set : before.value? key = some true) : after.value? key = some true := by
  rcases grows.flags key with same | set'
  · exact same.trans set
  · exact set'

end Grows

end CameraRoll.MemorySettings
