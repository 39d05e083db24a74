/-!
A part of a world: a component that can be read and replaced without touching the rest. Stores and
settings in memory act on a part, so that several of them live in one world.
-/

namespace CameraRoll

/-- Reading and replacing one component of a world. -/
structure Part (W S : Type) where
  get : W → S
  set : S → W → W
  get_set : ∀ s w, get (set s w) = s
  set_get : ∀ w, set (get w) w = w
  set_set : ∀ s t w, set s (set t w) = set s w

/-- The world as a part of itself. -/
def Part.whole (W : Type) : Part W W where
  get w := w
  set s _ := s
  get_set _ _ := rfl
  set_get _ := rfl
  set_set _ _ _ := rfl

@[simp] theorem Part.get_whole {W : Type} (w : W) : (Part.whole W).get w = w := rfl

/-- A step on the component as a step on the world. -/
def Part.run {W S α : Type} (part : Part W S) (act : StateM S α) : StateM W α := fun w =>
  let (a, s) := act (part.get w)
  (a, part.set s w)

end CameraRoll
