import CameraRoll.Resolver.Basic

/-!
Running a step that can fail in a world: its answer and the world after it. Main statements: what
the answer of each way to combine steps is, and which facts about the world combined steps keep.
-/

namespace CameraRoll

variable {W ε δ α β : Type}

/-- The answer of a step that starts in a world, and the world after it. -/
def outcome (act : ExceptT ε (StateM W) α) (w : W) : Except ε α × W := act.run.run w

@[simp] theorem outcome_pure (a : α) (w : W) :
    outcome (pure a : ExceptT ε (StateM W) α) w = (.ok a, w) := rfl

/-- A step followed by another: the second one starts where the first one ended, and is left out
if the first one failed. -/
theorem outcome_bind (act : ExceptT ε (StateM W) α) (next : α → ExceptT ε (StateM W) β) (w : W) :
    outcome (act >>= next) w =
      match outcome act w with
      | (.ok a, between) => outcome (next a) between
      | (.error e, between) => (.error e, between) := by
  simp only [outcome, bind, ExceptT.bind, ExceptT.run, ExceptT.mk, ExceptT.bindCont, StateT.run,
    StateT.bind]
  cases act w with
  | mk answer between => cases answer <;> rfl

theorem outcome_bind_ok {act : ExceptT ε (StateM W) α} {w between : W} {a : α}
    (done : outcome act w = (.ok a, between)) (next : α → ExceptT ε (StateM W) β) :
    outcome (act >>= next) w = outcome (next a) between := by
  rw [outcome_bind, done]

theorem outcome_bind_error {act : ExceptT ε (StateM W) α} {w between : W} {e : ε}
    (failed : outcome act w = (.error e, between)) (next : α → ExceptT ε (StateM W) β) :
    outcome (act >>= next) w = (.error e, between) := by
  rw [outcome_bind, failed]

/-- The answer of a step whose result is only put into other words. -/
theorem outcome_bind_pure (act : ExceptT ε (StateM W) α) (f : α → β) (w : W) :
    outcome (do return f (← act)) w = ((outcome act w).1.map f, (outcome act w).2) := by
  rw [outcome_bind]
  split
  next a between reached => rw [reached]; rfl
  next e between reached => rw [reached]; rfl

theorem outcome_adapt (act : ExceptT ε (StateM W) α) (wrap : ε → δ) (w : W) :
    outcome (act.adapt wrap) w = ((outcome act w).1.mapError wrap, (outcome act w).2) := rfl

theorem outcome_adapt_ok {act : ExceptT ε (StateM W) α} {w between : W} {a : α}
    (done : outcome act w = (.ok a, between)) (wrap : ε → δ) :
    outcome (act.adapt wrap) w = (.ok a, between) := by
  rw [outcome_adapt, done]
  rfl

theorem outcome_adapt_error {act : ExceptT ε (StateM W) α} {w between : W} {e : ε}
    (failed : outcome act w = (.error e, between)) (wrap : ε → δ) :
    outcome (act.adapt wrap) w = (.error (wrap e), between) := by
  rw [outcome_adapt, failed]
  rfl

theorem outcome_lift {act : StateM W α} {w between : W} {a : α} (ran : act.run w = (a, between)) :
    outcome (ExceptT.lift act : ExceptT ε (StateM W) α) w = (.ok a, between) :=
  congrArg (fun ended => (Except.ok ended.1, ended.2)) ran

@[simp] theorem outcome_liftM (act : StateM W α) (w : W) :
    outcome (liftM act : ExceptT ε (StateM W) α) w = (.ok (act.run w).1, (act.run w).2) := rfl

@[simp] theorem run_run (act : ExceptT ε (StateM W) α) (w : W) : act.run.run w = outcome act w :=
  rfl

/-- A step whose failure does not matter. -/
@[simp] theorem outcome_attempt (act : ExceptT ε (StateM W) α) (w : W) :
    outcome (Resolver.attempt act : ExceptT δ (StateM W) Unit) w = (.ok (), (outcome act w).2) :=
  rfl

/-- The answers to requests that are passed on one after another. -/
def answersTo {ρ : Type} (request : ρ → ExceptT ε (StateM W) α) : List ρ → W → List (Except ε α)
  | [], _ => []
  | asked :: rest, w =>
    (outcome (request asked) w).1 :: answersTo request rest (outcome (request asked) w).2

/-- The world after requests that were passed on one after another. -/
def worldAfter {ρ : Type} (request : ρ → ExceptT ε (StateM W) α) (requests : List ρ) (w : W) : W :=
  requests.foldl (fun w asked => (outcome (request asked) w).2) w

/-- A step keeps a fact about the world: wherever it holds before, it holds after. -/
def Keeps (I : W → Prop) (act : ExceptT ε (StateM W) α) : Prop :=
  ∀ w, I w → I (outcome act w).2

namespace Keeps

variable {I : W → Prop}

theorem pure (a : α) : Keeps I (pure a : ExceptT ε (StateM W) α) := fun _ h => h

theorem throw (e : ε) : Keeps I (throw e : ExceptT ε (StateM W) α) := fun _ h => h

theorem bind {act : ExceptT ε (StateM W) α} {next : α → ExceptT ε (StateM W) β}
    (first : Keeps I act) (second : ∀ a, Keeps I (next a)) : Keeps I (act >>= next) := by
  intro w h
  have kept := first w h
  rw [outcome_bind]
  split
  next a between reached =>
    rw [reached] at kept
    exact second a between kept
  next e between reached =>
    rw [reached] at kept
    exact kept

theorem adapt {act : ExceptT ε (StateM W) α} (wrap : ε → δ) (kept : Keeps I act) :
    Keeps I (act.adapt wrap) := kept

theorem attempt {act : ExceptT ε (StateM W) α} (kept : Keeps I act) :
    Keeps I (Resolver.attempt act : ExceptT δ (StateM W) Unit) := kept

theorem liftM {act : StateM W α} (kept : ∀ w, I w → I (act.run w).2) :
    Keeps I (liftM act : ExceptT ε (StateM W) α) := kept

end Keeps

end CameraRoll
