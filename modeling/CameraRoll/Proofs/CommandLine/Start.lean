import CameraRoll.Proofs.CommandLine.Desk
import CameraRoll.Proofs.Config.Loading
import CameraRoll.Proofs.Resolver.Opening

/-!
From a desk to a session. Main statements: `Config.load_valid`, by which a configuration is only
looked up and is valid, and `start_desk`, by which a session that has nothing to move makes the
private directory at most and is ready with both locations or fails.
-/

namespace CameraRoll

open FileTree

variable {W : Type}

/-! ### Configurations -/

namespace Config

variable {config : Config}

/-- The directories that a configuration declares. -/
def host (config : Config) : LocalHost := ⟨config.internalPath, config.volumes⟩

theorem isAbsolute_of_volumeFault? {volume : String × String}
    (faultless : volumeFault? volume = none) : Path.isAbsolute volume.2 = true := by
  unfold volumeFault? at faultless
  split at faultless
  · cases faultless
  · split at faultless
    · cases faultless
    next absolute => simpa using absolute

/-- All directories of a configuration that can be used are absolute, and so is the path of its
settings. -/
theorem isAbsolute_of_fault? (faultless : config.fault? = none) :
    config.host.IsAbsolute ∧ Path.isAbsolute config.settingsPath = true := by
  unfold fault? at faultless
  split at faultless
  · cases faultless
  split at faultless
  · cases faultless
  split at faultless
  · cases faultless
  next internal =>
    split at faultless
    · cases faultless
    next settings =>
      refine ⟨⟨by simpa [host] using internal, fun volume member => ?_⟩, by simpa using settings⟩
      exact isAbsolute_of_volumeFault? (List.findSome?_eq_none_iff.mp faultless volume member)

theorem fault?_of_ofLayers {default : Config} {file environment : ConfigValue}
    (layered : ofLayers default file environment = .ok config) : config.fault? = none := by
  unfold ofLayers at layered
  split at layered
  next described _ =>
    unfold validate at layered
    split at layered
    · cases layered
    next faultless =>
      cases layered
      exact faultless
  · cases layered

section Looks

variable {disk : Disk (StateM W)} (reads : ∀ path w, (outcome (disk.read path) w).2 = w)
include reads

theorem readLayer_quiet (path : String) (w : W) : (outcome (readLayer disk path) w).2 = w := by
  have same := reads path w
  rw [readLayer, outcome_bind, outcome_liftM, run_run]
  generalize outcome (disk.read path) w = ran at same ⊢
  obtain ⟨answer, after⟩ := ran
  obtain rfl : after = w := same
  cases answer with
  | error e => rfl
  | ok bytes =>
    dsimp only
    split <;> rfl

theorem fileLayer_quiet (places : Places) (path : Option String) (w : W) :
    (outcome (fileLayer disk places path) w).2 = w := by
  unfold fileLayer
  split
  next path _ => exact readLayer_quiet reads path w
  next => rfl

/-- The layers over the defaults are put together, and what they make up is checked. -/
private theorem layers_valid (default : Config) (places : Places) (path : Option String)
    (environment : ConfigValue) (w : W) :
    let layered : ExceptT ConfigError (StateM W) Config := do
      let file ← fileLayer disk places path
      ExceptT.mk (return ofLayers default file environment)
    (outcome layered w).2 = w ∧
      ∀ config, (outcome layered w).1 = .ok config → config.fault? = none := by
  have same := fileLayer_quiet reads places path w
  intro layered
  rcases ran : outcome (fileLayer disk places path) w with ⟨answer, after⟩
  rw [ran] at same
  obtain rfl : after = w := same
  cases answer with
  | error e =>
    rw [show outcome layered after = _ from outcome_bind_error ran _]
    exact ⟨rfl, fun config failed => by cases failed⟩
  | ok file =>
    rw [show outcome layered after = _ from outcome_bind_ok ran _]
    exact ⟨rfl, fun config answered => fault?_of_ofLayers answered⟩

/-- A configuration is looked up, which changes nothing, and has no fault. -/
theorem load_valid (inspects : ∀ path w, (outcome (disk.inspect path) w).2 = w) (places : Places)
    (path : Option String) (environment : List (String × String)) (w : W) :
    (outcome (load disk places path environment) w).2 = w ∧
      ∀ config, (outcome (load disk places path environment) w).1 = .ok config →
        config.fault? = none := by
  have layered := layers_valid reads (defaults places) places path (Environment.layer environment) w
  cases path with
  | none => exact layered
  | some path =>
    have same := inspects path w
    rw [load, outcome_bind, outcome_liftM, Disk.isFile, StateT.run_bind, run_run]
    generalize outcome (disk.inspect path) w = ran at same ⊢
    obtain ⟨answer, after⟩ := ran
    obtain rfl : after = w := same
    cases answer with
    | error e => exact ⟨rfl, fun config failed => by cases failed⟩
    | ok standing =>
      cases standing with
      | file size => exact layered
      | directory => exact ⟨rfl, fun config failed => by cases failed⟩

end Looks

end Config

/-! ### Sessions on a desk -/

namespace CommandLine.Desk

theorem operations_startingFrom {host : LocalHost} (absolute : host.IsAbsolute)
    (directory : W → String) (disk : Disk (StateM W)) :
    host.operations (startingFrom directory disk) = host.operations disk := by
  have opened : (host.operations (startingFrom directory disk)).openVolume =
      (host.operations disk).openVolume := by
    funext volume subdirectory
    rw [LocalHost.openVolume_eq, LocalHost.openVolume_eq]
    cases declared : host.pathIn? volume subdirectory with
    | none => rfl
    | some path =>
      have rooted := LocalHost.isAbsolute_pathIn absolute.volumes declared
      exact openExisting_startingFrom directory disk rooted volume
  have acquired : (host.operations (startingFrom directory disk)).internalStore =
      (host.operations disk).internalStore := by
    funext quota
    simp only [LocalHost.operations, make_startingFrom directory disk absolute.internal]
  change Host.mk _ _ _ = Host.mk _ _ _
  rw [Host.mk.injEq]
  exact ⟨acquired, rfl, opened⟩

theorem outcome_inspect (path : String) (desk : Desk) :
    outcome (disk.inspect path) desk = (desk.tree.inspect (Path.join desk.directory path), desk) :=
  outcome_look treePart desk (·.inspect (Path.join desk.directory path))

theorem outcome_read (path : String) (desk : Desk) :
    outcome (disk.read path) desk = (desk.tree.read (Path.join desk.directory path), desk) :=
  outcome_look treePart desk (·.read (Path.join desk.directory path))

variable {platform : Platform} {codec : Codec} {desk : Desk} {config : Config}

theorem config_valid (invocation : Invocation)
    (configured : (outcome ((machineOn platform codec).config invocation) desk).1 = .ok config) :
    outcome ((machineOn platform codec).config invocation) desk = (.ok config, desk) ∧
      config.fault? = none := by
  obtain ⟨same, valid⟩ := Config.load_valid
    (fun path (w : Desk) => congrArg Prod.snd (outcome_read path w))
    (fun path w => congrArg Prod.snd (outcome_inspect path w)) platform.places
    invocation.config platform.environment desk
  refine ⟨Prod.ext configured same, valid config ?_⟩
  change Except.mapError _ (outcome (Config.load disk platform.places invocation.config
    platform.environment) desk).1 = .ok config at configured
  generalize (outcome (Config.load disk platform.places invocation.config platform.environment)
    desk).1 = answer at configured ⊢
  cases answer with
  | error e => cases configured
  | ok found => exact congrArg Except.ok (Except.ok.inj configured)

/-- A session that has nothing to move makes the private directory at most, and is ready or
fails. -/
theorem start_desk (faultless : config.fault? = none) (rooted : desk.tree.Rooted)
    (quiet : SettingsFile.sees (desk.tree.withDirectory config.internalPath) config.settingsPath
        Settings.consolidatedKey = true ∨
      config.host.externalPath? (desk.tree.withDirectory config.internalPath) = none)
    (agreed : Bool) :
    (∃ e, outcome ((machineOn platform codec).start config agreed) desk =
      (.error e, treePart.set (desk.tree.withDirectory config.internalPath) desk)) ∨
    ∃ resolver place, resolver.zone = config.zone.zone platform.offset? ∧
      resolver.Occupies treePart config.host place (desk.tree.withDirectory config.internalPath) ∧
      outcome ((machineOn platform codec).start config agreed) desk =
        (.ok (.ready resolver),
          treePart.set (desk.tree.withDirectory config.internalPath) desk) := by
  obtain ⟨absolute, settings⟩ := Config.isAbsolute_of_fault? faultless
  have same : (SettingsFile.operations disk config.settingsPath).get =
      (SettingsFile.operations (FileTree.disk treePart) config.settingsPath).get :=
    SettingsFile.get_congr (startingFrom_sameAt directory (FileTree.disk treePart) settings)
  have rooted : (treePart.get desk).Rooted := rooted
  have started := Resolver.start_quiet absolute rooted same quiet
    config.quota (config.zone.zone platform.offset?)
    (if agreed then pure true else (machineOn platform codec).ask)
  rw [← operations_startingFrom absolute directory] at started
  rcases started with ⟨e, failed⟩ | ⟨resolver, place, zoned, occupies, ready⟩
  · exact Or.inl ⟨_, outcome_adapt_error failed _⟩
  · exact Or.inr ⟨resolver, place, zoned, occupies, outcome_adapt_ok ready _⟩

end CommandLine.Desk

end CameraRoll
