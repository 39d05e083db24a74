import CameraRoll.Proofs.Outcome
import CameraRoll.Proofs.Settings.File
import CameraRoll.Proofs.Settings.Flags

/-!
Settings in a file against settings in memory that start with the same flags. Main statements:
`request_alike` for one request, and `SettingsFile.agrees_with_memory` for any number of them, which
also says what becomes of the members that no request is about. By
`SettingsFile.writable_of_answers` the two part at all other paths, and
`SettingsFile.unwritable_paths` has some of each kind.
-/

namespace CameraRoll

/-- A call of settings with what is passed to it. -/
inductive Settings.Request where
  | get (key : String) (default : Bool)
  | set (key : String) (value : Bool)
  deriving DecidableEq

namespace Settings

/-- Passes a request to settings. Setting a flag has no other answer than that it is done. -/
def request {m : Type → Type} [Monad m] (settings : Settings m) :
    Request → ExceptT SettingsError m (Option Bool)
  | .get key default => return some (← settings.get key default)
  | .set key value => do
    settings.set key value
    return none

/-- The members of an object after a request. -/
def Request.applied (members : SettingsFile.Members) : Request → SettingsFile.Members
  | .get _ _ => members
  | .set key value => insertMember key (.bool value) members

theorem lookup_applied {members : SettingsFile.Members} {asked : Request} {key : String}
    (other : ∀ value, asked ≠ .set key value) :
    (asked.applied members).lookup key = members.lookup key := by
  cases asked with
  | get => rfl
  | set name value =>
    refine lookup_insertMember_of_ne _ members ?_
    rintro rfl
    exact other value rfl

theorem lookup_foldl_applied {members : SettingsFile.Members} {requests : List Request}
    {key : String} (others : ∀ value, .set key value ∉ requests) :
    (requests.foldl Request.applied members).lookup key = members.lookup key := by
  induction requests generalizing members with
  | nil => rfl
  | cons asked rest ih =>
    have first (value : Bool) : asked ≠ .set key value := by
      rintro rfl
      exact others value List.mem_cons_self
    rw [List.foldl_cons, ih fun value inside => others value (List.mem_cons_of_mem _ inside),
      lookup_applied first]

end Settings

namespace SettingsFile

open FileTree

variable {W V : Type} {part : Part W FileTree} {memoryPart : Part V MemorySettings} {w : W} {v : V}
  {path : String} {members : Members}

/-! ### Flags among members -/

/-- The value of a member that is a flag. -/
def asFlag? : JsonValue → Option Bool
  | .bool value => some value
  | _ => none

/-- The flag under a key. -/
def flag? (members : Members) (key : String) : Option Bool := (members.lookup key).bind asFlag?

theorem flag_eq (members : Members) (key : String) (default : Bool) :
    flag members key default = (flag? members key).getD default := by
  rw [flag, flag?]
  cases members.lookup key with
  | none => rfl
  | some value => cases value <;> rfl

theorem flag?_insertMember (members : Members) (key other : String) (value : Bool) :
    flag? (insertMember key (.bool value) members) other =
      if other = key then some value else flag? members other := by
  rw [flag?, flag?, lookup_insertMember, apply_ite (Option.bind · asFlag?)]
  rfl

/-- The flags among members, in their order. -/
def flagsOf (members : Members) : List (String × Bool) :=
  members.filterMap fun member => (asFlag? member.2).map (member.1, ·)

theorem flagsOf_cons (key : String) (value : JsonValue) (members : Members) :
    flagsOf ((key, value) :: members) =
      match asFlag? value with
      | some flag => (key, flag) :: flagsOf members
      | none => flagsOf members := by
  cases value <;> rfl

theorem keys_flagsOf (members : Members) :
    ((flagsOf members).map (·.1)).Sublist (members.map (·.1)) := by
  induction members with
  | nil => exact .slnil
  | cons member rest ih =>
    obtain ⟨key, value⟩ := member
    rw [flagsOf_cons]
    split
    · exact ih.cons_cons key
    · exact ih.cons key

theorem lookup_flagsOf (distinct : (members.map (·.1)).Nodup) (key : String) :
    (flagsOf members).lookup key = flag? members key := by
  induction members with
  | nil => rfl
  | cons member rest ih =>
    obtain ⟨name, value⟩ := member
    obtain ⟨apart, others⟩ := List.nodup_cons.mp distinct
    rw [flagsOf_cons, flag?, lookup_cons_ite]
    by_cases same : key = name
    · subst same
      rw [if_pos rfl, Option.bind_some]
      -- no other member has this key
      have absent : rest.lookup key = none := by
        rw [lookup_eq_none_iff_ne]
        rintro entry member rfl
        exact apart (List.mem_map.mpr ⟨entry, member, rfl⟩)
      cases asFlag? value with
      | some flag => simp
      | none => exact (ih others).trans (by rw [flag?, absent]; rfl)
    · rw [if_neg same, ← flag?, ← ih others]
      cases asFlag? value with
      | some flag => exact (lookup_cons_ite _ _ _ _).trans (if_neg same)
      | none => rfl

/-- Settings in memory show the flags among members, and nothing fails in them. -/
structure Mirrors (memory : MemorySettings) (members : Members) : Prop where
  reads : memory.failingReads = []
  writes : memory.failingWrites = []
  values : ∀ key, memory.value? key = flag? members key

theorem Mirrors.put {memory : MemorySettings} (mirrors : Mirrors memory members) (key : String)
    (value : Bool) : Mirrors (memory.put key value) (insertMember key (.bool value) members) where
  reads := mirrors.reads
  writes := mirrors.writes
  values other := by
    rw [MemorySettings.value?_put, flag?_insertMember, mirrors.values]

theorem Mirrors.ofValues (distinct : (members.map (·.1)).Nodup) :
    Mirrors (MemorySettings.ofValues (flagsOf members)) members where
  reads := (MemorySettings.failing_ofValues _).1
  writes := (MemorySettings.failing_ofValues _).2
  values key := by
    rw [MemorySettings.value?_ofValues, lookup_reverse (distinct.sublist (keys_flagsOf members)),
      lookup_flagsOf distinct]

theorem outcome_memory_get (mirrors : Mirrors (memoryPart.get v) members) (key : String)
    (default : Bool) : outcome ((MemorySettings.operations memoryPart).get key default) v =
      (.ok (flag members key default), v) := by
  have answered : outcome (MemorySettings.get key default) (memoryPart.get v) =
      (.ok (flag members key default), memoryPart.get v) := by
    rw [flag_eq, ← mirrors.values]
    exact if_neg (by simp [mirrors.reads])
  refine (congrArg (fun ended => (ended.1, memoryPart.set ended.2 v)) answered).trans ?_
  rw [memoryPart.set_get]

theorem outcome_memory_set (mirrors : Mirrors (memoryPart.get v) members) (key : String)
    (value : Bool) : outcome ((MemorySettings.operations memoryPart).set key value) v =
      (.ok (), memoryPart.set ((memoryPart.get v).put key value) v) := by
  have answered : outcome (MemorySettings.set key value) (memoryPart.get v) =
      (.ok (), (memoryPart.get v).put key value) := if_neg (by simp [mirrors.writes])
  exact congrArg (fun ended => (ended.1, memoryPart.set ended.2 v)) answered

/-- Settings in a file and settings in memory answer a request alike, and both go on with the same
members. -/
theorem request_alike (holds : Holds (part.get w) path members)
    (mirrors : Mirrors (memoryPart.get v) members) (asked : Settings.Request) :
    ∃ answer w' v',
      outcome ((operations (FileTree.disk part) path).request asked) w = (.ok answer, w') ∧
      outcome ((MemorySettings.operations memoryPart).request asked) v = (.ok answer, v') ∧
      Holds (part.get w') path (asked.applied members) ∧
      Mirrors (memoryPart.get v') (asked.applied members) := by
  cases asked with
  | get key default =>
    have file := outcome_get holds key default
    have memory := outcome_memory_get mirrors key default
    exact ⟨some (flag members key default), w, v, outcome_bind_ok file _, outcome_bind_ok memory _,
      holds, mirrors⟩
  | set key value =>
    obtain ⟨replaced, file, holds'⟩ := outcome_set holds key value
    have memory := outcome_memory_set mirrors key value
    refine ⟨none, part.set replaced w, _, outcome_bind_ok file _, outcome_bind_ok memory _, ?_, ?_⟩
    · rw [part.get_set]
      exact holds'
    · rw [memoryPart.get_set]
      exact mirrors.put key value

/-- The same for requests that are passed on one after another. -/
theorem requests_alike (holds : Holds (part.get w) path members)
    (mirrors : Mirrors (memoryPart.get v) members) (requests : List Settings.Request) :
    answersTo (operations (FileTree.disk part) path).request requests w =
        answersTo (MemorySettings.operations memoryPart).request requests v ∧
      (∀ answer ∈ answersTo (operations (FileTree.disk part) path).request requests w,
        ∃ flag, answer = .ok flag) ∧
      Holds (part.get (worldAfter (operations (FileTree.disk part) path).request requests w)) path
        (requests.foldl Settings.Request.applied members) := by
  induction requests generalizing w v members with
  | nil => exact ⟨rfl, by simp [answersTo], holds⟩
  | cons asked rest ih =>
    obtain ⟨answer, w', v', file, memory, holds', mirrors'⟩ := request_alike holds mirrors asked
    -- both go on with the members that the first request leaves
    obtain ⟨same, done, still⟩ := ih holds' mirrors'
    rw [answersTo, answersTo, worldAfter, List.foldl_cons, file, memory]
    refine ⟨by rw [same], ?_, still⟩
    intro given member
    rcases List.mem_cons.mp member with rfl | later
    · exact ⟨answer, rfl⟩
    · exact done given later

/-- Settings at a writable path, whose file is missing or holds an object without other numbers than
whole ones, answer like settings in memory that start with the flags of the object. No request
fails, and the members that no flag was set for stay. Of several members that the file has under
one key the last one counts. -/
theorem agrees_with_memory (writable : Writable (part.get w) path)
    (loaded : outcome (load (FileTree.disk part) path) w = (.ok members, w))
    (exact : (JsonValue.object members).Exact)
    (seeded : memoryPart.get v = MemorySettings.ofValues (flagsOf members))
    (requests : List Settings.Request) :
    let file := operations (FileTree.disk part) path
    let w' := worldAfter file.request requests w
    answersTo file.request requests w =
        answersTo (MemorySettings.operations memoryPart).request requests v ∧
      (∀ answer ∈ answersTo file.request requests w, ∃ flag, answer = .ok flag) ∧
      (∃ kept, outcome (load (FileTree.disk part) path) w' = (.ok kept, w') ∧
        ∀ key, (∀ value, .set key value ∉ requests) → kept.lookup key = members.lookup key) ∧
      ∀ (text : String) (entries : Members), (part.get w).read path = .ok text.toUTF8 →
        Json.tokens text.toList = some (Json.tokensOf (.object entries)) →
        JsonValue.MembersReadable 1 entries →
        ∀ key, members.lookup key = entries.reverse.lookup key := by
  intro file w'
  have read : membersIn (part.get w) path = .ok members :=
    congrArg Prod.fst ((outcome_load part path w).symm.trans loaded)
  obtain ⟨-, ascending, -⟩ := JsonValue.readable_object.mp (readable_of_membersIn read)
  -- what was read has each key once
  have distinct : (members.map (·.1)).Nodup :=
    List.pairwise_map.mpr (ascending.imp fun before => ne_of_lt before)
  have mirrors : Mirrors (memoryPart.get v) members := seeded ▸ .ofValues distinct
  obtain ⟨same, done, still⟩ := requests_alike ⟨writable, read, exact⟩ mirrors requests
  refine ⟨same, done, ⟨_, ?_, fun key others => Settings.lookup_foldl_applied others⟩,
    fun text entries => lookup_of_tokens read⟩
  rw [outcome_load, still.read]

/-- At other paths they do not: where a flag that is set is read again, the path is writable. -/
theorem writable_of_answers {front name key : String} {value : Bool}
    (rooted : (part.get w).Rooted) (ends : Path.EndsOpen front) (named : Path.IsName name)
    (short : name.utf8ByteSize ≤ 251)
    (answers : answersTo (operations (FileTree.disk part) (front ++ name)).request
      [.set key value, .get key (!value)] w = [.ok none, .ok (some value)]) :
    Writable (part.get w) (front ++ name) := by
  simp only [answersTo, List.cons.injEq, and_true] at answers
  obtain ⟨set, get⟩ := answers
  rcases ended : outcome ((operations (FileTree.disk part) (front ++ name)).set key value) w with
    ⟨e | _, w'⟩
  · cases (congrArg Prod.fst (outcome_bind_error ended _)).symm.trans set
  · have after : outcome ((operations (FileTree.disk part) (front ++ name)).request
        (.set key value)) w = (.ok none, w') := outcome_bind_ok ended _
    rw [after, Settings.request, outcome_bind_pure, outcome_get_eq] at get
    rw [outcome_set_eq] at ended
    cases found : membersIn (part.get w) (front ++ name) with
    | error e =>
      rw [found] at ended
      cases congrArg Prod.fst ended
    | ok members =>
      rw [found] at ended
      cases kept : membersIn (part.get w') (front ++ name) with
      | error e =>
        rw [kept] at get
        cases get
      | ok members' =>
        rw [kept] at get
        -- without a file the other value would have been the answer
        rcases read_of_membersIn kept with ⟨held, read⟩ | ⟨-, rfl⟩
        · exact writable_of_replace rooted ends named short ended read
        · cases value <;> cases get

/-! ### A file of settings -/

private theorem isName_settings : Path.IsName "settings.json" :=
  ⟨⟨by decide, by decide, by decide⟩, by decide, by decide⟩

/-- Settings that were kept in an earlier session. -/
def keptSettings : Members := [("dark", .bool true), ("zoom", .whole 3)]

/-- A tree with these settings in a directory. -/
def settingsTree : FileTree :=
  { nodes := [([EntryName.ofText "data"], .directory),
      ([EntryName.ofText "data", EntryName.ofText "settings.json"],
        .file (JsonValue.object keptSettings).render.toUTF8)] }

theorem settingsTree_rooted : settingsTree.Rooted where
  working := rfl
  above location entry present := by
    rw [at?_of_ne_nil _ (by simp), settingsTree, lookup_cons_ite, lookup_cons_ite] at present
    split at present
    next first =>
      obtain ⟨rfl, -⟩ := List.append_inj' (first.trans (List.nil_append _).symm) rfl
      rfl
    · split at present
      next second =>
        obtain ⟨rfl, -⟩ := List.append_inj' (second.trans (List.singleton_append).symm) rfl
        simp [settingsTree, at?]
      next => exact absurd rfl present

theorem settingsTree_standing : settingsTree.at? (spot [EntryName.ofText "data"] "settings.json") =
    some (.file (JsonValue.object keptSettings).render.toUTF8) := by
  simp [settingsTree, at?, lookup_cons_ite]

/-- The directory of the settings is a step from the top, with all links still to follow. -/
theorem settingsTree_enters : Enters settingsTree maxLinks (settingsTree.start "/data/")
    ((Path.parts "/data/").map partStep) maxLinks [EntryName.ofText "data"] := by
  rw [show Path.parts "/data/" = ["data"] by decide]
  exact .into (by rw [EntryName.length_ofText]; decide) rfl .here

theorem settingsTree_leads : settingsTree.Leads "/data/" [EntryName.ofText "data"] :=
  ⟨by decide, maxLinks, settingsTree_enters⟩

theorem settingsTree_read : settingsTree.read ("/data/" ++ "settings.json") =
    .ok (JsonValue.object keptSettings).render.toUTF8 := by
  have ends : Path.EndsOpen "/data/" := Or.inr (by decide)
  have plain (target : String) : settingsTree.at? (spot [EntryName.ofText "data"] "settings.json") ≠
      some (.link target) := by
    rw [settingsTree_standing]
    simp
  have located := settingsTree_leads.locate_plain ends isName_settings (by decide) plain true
  rw [read_of_locate located, settingsTree_standing]

theorem settingsTree_writable : Writable settingsTree ("/data/" ++ "settings.json") :=
  .of_isReplaceable settingsTree_rooted (Or.inr (by decide)) isName_settings (by decide)
    (settingsTree_rooted.makeDirectories_of_leads settingsTree_leads)
    (.of_isFree settingsTree_rooted settingsTree_leads (Or.inr (by decide)) isName_settings
      (by decide) (Or.inr ⟨_, settingsTree_standing⟩) (Or.inl (by decide)))

theorem keptSettings_exact : (JsonValue.object keptSettings).Exact := ⟨trivial, trivial, trivial⟩

/-- What was kept is read back. -/
theorem load_kept {tree : FileTree}
    (read : tree.read ("/data/" ++ "settings.json") =
      .ok (JsonValue.object keptSettings).render.toUTF8) :
    outcome (load (FileTree.disk (Part.whole FileTree)) ("/data/" ++ "settings.json")) tree =
      (.ok keptSettings, tree) := by
  have ascending : Ascending keptSettings := by
    have before : "dark" < "zoom" := String.lt_iff_toList_lt.mpr (by decide)
    simpa [Ascending, keptSettings] using before
  have readable : (JsonValue.object keptSettings).Readable 0 :=
    JsonValue.readable_object.mpr ⟨by decide, ascending, by
      simp [keptSettings, JsonValue.Readable, Text.maxSigned64, Text.maxWord64]⟩
  have read : membersIn ((Part.whole FileTree).get tree) ("/data/" ++ "settings.json") =
      .ok keptSettings := by
    rw [membersIn, Part.get_whole, read]
    exact membersOf_render readable keptSettings_exact
  rw [outcome_load, read]

/-- The same settings with a link beside them, to where nothing stands. -/
def draftTree : FileTree :=
  settingsTree.put (spare [EntryName.ofText "data"] "settings.json") (.link "draft")

theorem draftTree_standing : draftTree.at? (spot [EntryName.ofText "data"] "settings.json") =
    some (.file (JsonValue.object keptSettings).render.toUTF8) := by
  rw [draftTree, at?_put _ (by simp), if_neg (spot_ne_spare _ _), settingsTree_standing]

theorem draftTree_rooted : draftTree.Rooted :=
  settingsTree_rooted.put rfl (by simp [settingsTree, at?, lookup_cons_ite]) _

theorem draftTree_enters : Enters draftTree maxLinks (draftTree.start "/data/")
    ((Path.parts "/data/").map partStep) maxLinks [EntryName.ofText "data"] :=
  settingsTree_enters.put (Or.inl (by decide)) _

theorem draftTree_leads : draftTree.Leads "/data/" [EntryName.ofText "data"] :=
  ⟨by decide, maxLinks, draftTree_enters⟩

theorem draftTree_free : draftTree.IsFree (spot [EntryName.ofText "data"] "settings.json") :=
  Or.inr ⟨_, draftTree_standing⟩

theorem draftTree_read : draftTree.read ("/data/" ++ "settings.json") =
    .ok (JsonValue.object keptSettings).render.toUTF8 := by
  have located := draftTree_leads.locate_plain (Or.inr (by decide)) isName_settings (by decide)
    draftTree_free.noLink true
  rw [read_of_locate located, draftTree_standing]

/-- With the settings taken away, the link still leads to where a file can be made. -/
theorem draftTree_writable : Writable draftTree ("/data/" ++ "settings.json") := by
  have ends : Path.EndsOpen "/data/" := Or.inr (by decide)
  have enters := draftTree_enters.aside draftTree_free.noDirectory fun target link =>
    absurd link (draftTree_free.noLink target)
  have link : (draftTree.erase (spot [EntryName.ofText "data"] "settings.json")).at?
      (spare [EntryName.ofText "data"] "settings.json") = some (.link "draft") := by
    rw [at?_erase _ (by simp), if_neg (spot_ne_spare _ _).symm, draftTree, at?_put _ (by simp),
      if_pos rfl]
  have vacant : draftTree.IsFree [EntryName.ofText "data", EntryName.ofText "draft"] :=
    Or.inl (by decide)
  have located := enters.locate_append (by decide) ends (isName_append_tmp isName_settings) true
  rw [maxLinks, walk_link (by rw [EntryName.length_ofText]; decide) link (by decide),
    show steps "draft" = [.into (EntryName.ofText "draft")] by decide,
    walk_of_isFree (by rw [EntryName.length_ofText]; decide) rfl
      (vacant.erase (by simp))] at located
  exact .of_isReplaceable draftTree_rooted ends isName_settings (by decide)
    (draftTree_rooted.makeDirectories_of_leads draftTree_leads)
    ⟨draftTree_rooted, draftTree_free.noDirectory, ⟨by decide, maxLinks, enters⟩, _, located,
      by decide, vacant⟩

/-- A flag is set, and read with one that was kept; another member is no flag. -/
theorem agrees_with_memory_kept :
    let file := operations (FileTree.disk (Part.whole FileTree)) ("/data/" ++ "settings.json")
    let requests := [.set "sound" false, .get "sound" true, .get "dark" false, .get "zoom" true,
      .set "dark" false, .get "dark" true]
    let w' := worldAfter file.request requests draftTree
    answersTo file.request requests draftTree = [.ok none, .ok (some false), .ok (some true),
        .ok (some true), .ok none, .ok (some false)] ∧
      ∃ kept, outcome (load (FileTree.disk (Part.whole FileTree)) ("/data/" ++ "settings.json"))
        w' = (.ok kept, w') ∧ kept.lookup "zoom" = some (.whole 3) := by
  intro file requests w'
  have writable : Writable ((Part.whole FileTree).get draftTree) ("/data/" ++ "settings.json") :=
    draftTree_writable
  have seeded : (Part.whole MemorySettings).get (MemorySettings.ofValues (flagsOf keptSettings)) =
    MemorySettings.ofValues (flagsOf keptSettings) := rfl
  obtain ⟨same, -, ⟨kept, loaded, others⟩, -⟩ := agrees_with_memory writable
    (load_kept draftTree_read) keptSettings_exact seeded requests
  refine ⟨same.trans (by decide), kept, loaded, (others "zoom" ?_).trans (by rfl)⟩
  simp [requests]

/-! ### Paths at which settings cannot be kept -/

private theorem length_settings_le :
    (EntryName.ofText "settings.json").length ≤ EntryName.maxLength := by
  rw [EntryName.length_ofText]
  decide

private theorem steps_settings :
    steps "settings.json" = [.into (EntryName.ofText "settings.json")] := by decide

/-- A directory where the settings should be. -/
def blockedTree : FileTree := { nodes := [([EntryName.ofText "settings.json"], .directory)] }

/-- Where missing settings would be. -/
private theorem locate_settings {tree : FileTree} (root : tree.workingDirectory = [])
    (nothing : tree.at? (spot [] "settings.json") = none) (follow : Bool) :
    tree.locate follow "settings.json" = .ok (spot [] "settings.json") := by
  have leads := tree.leads_empty
  rw [root] at leads
  have free : tree.IsFree (spot [] "settings.json") := Or.inl nothing
  have located := leads.locate_plain (Or.inl rfl) isName_settings (by decide) free.noLink follow
  rwa [String.empty_append] at located

theorem blockedTree_standing : blockedTree.at? (spot [] "settings.json") = some .directory := by
  simp [at?, blockedTree]

theorem blockedTree_beside : blockedTree.IsFree (spare [] "settings.json") :=
  Or.inl (by decide)

/-- The way to the directory of the settings leads through where they should be. -/
theorem blockedTree_leads : blockedTree.Leads "settings.json/.." [] := by
  refine ⟨by decide, maxLinks, ?_⟩
  rw [show Path.parts "settings.json/.." = ["settings.json", ".."] by decide]
  exact .into length_settings_le blockedTree_standing (.up .here)

/-- The directory of the settings can be made only with one in their own place. -/
theorem makeDirectories_blocked :
    ({} : FileTree).makeDirectories "settings.json/.." = (.ok (), blockedTree) := by
  have parts : Path.parts "settings.json/.." = ["settings.json", ".."] := by decide
  have up : steps "settings.json/.." = [.into (EntryName.ofText "settings.json"), .up] := by
    decide
  have missing : ({} : FileTree).makeDirectory "settings.json/.." = .error .notFound := by
    rw [makeDirectory, locate_eq _ _ (by decide) (by decide), up, walk,
      if_neg (Nat.not_lt.mpr length_settings_le)]
    rfl
  have made : ({} : FileTree).makeDirectory "settings.json" = .ok blockedTree := by
    have nothing : ({} : FileTree).at? (spot [] "settings.json") = none := by decide
    rw [makeDirectory_of_locate (locate_settings rfl nothing false), nothing]
    rfl
  have standing : blockedTree.isDirectory "settings.json/.." = true :=
    isDirectory_iff.mpr ⟨by decide, [], blockedTree_leads, rfl⟩
  have path : Path.ofParts false ["settings.json", ".."] = "settings.json/.." := by decide
  have path' : Path.ofParts false ["settings.json"] = "settings.json" := by decide
  rw [makeDirectories, parts]
  simp only [List.reverse_cons, List.reverse_nil, List.nil_append, List.cons_append, makeBelow]
  rw [show Path.isAbsolute "settings.json/.." = false by decide, path, path', missing, made]
  dsimp only
  rw [makeDirectory_of_isDirectory standing]
  exact if_pos standing

theorem membersIn_blocked :
    membersIn {} ("settings.json/../" ++ "settings.json") = .ok [] := by
  have steps : steps ("settings.json/../" ++ "settings.json") =
      [.into (EntryName.ofText "settings.json"), .up,
        .into (EntryName.ofText "settings.json")] := by decide
  have missing : ({} : FileTree).locate true ("settings.json/../" ++ "settings.json") =
      .error .notFound := by
    rw [locate_eq _ _ (by decide) (by decide), steps, walk,
      if_neg (Nat.not_lt.mpr length_settings_le)]
    rfl
  rw [membersIn, read_of_locate_error missing]

/-- The new object stays beside the directory. -/
theorem set_blocked_eq :
    outcome ((operations (FileTree.disk (Part.whole FileTree))
      ("settings.json/../" ++ "settings.json")).set "a" true) {} =
      (.error .unwritable, blockedTree.put (spare [] "settings.json")
        (.file (JsonValue.object [("a", .bool true)]).render.toUTF8)) := by
  have leads := blockedTree_leads.append_slash (by decide)
  rw [show "settings.json/.." ++ "/" = "settings.json/../" by decide] at leads
  have ends : Path.EndsOpen "settings.json/../" := Or.inr (by decide)
  have above : Path.ofParts (Path.isAbsolute "settings.json/../") (Path.parts "settings.json/../") =
      "settings.json/.." := by decide
  have done := makeDirectories_blocked
  rw [← above] at done
  have read : membersIn ((Part.whole FileTree).get {}) ("settings.json/../" ++ "settings.json") =
      .ok [] := membersIn_blocked
  exact outcome_set_of_directory read ends isName_settings (by decide) done leads
    blockedTree_standing blockedTree_beside "a" true

theorem outcome_set_blocked :
    (outcome ((operations (FileTree.disk (Part.whole FileTree))
      ("settings.json/../" ++ "settings.json")).set "a" true) {}).1 = .error .unwritable :=
  congrArg Prod.fst set_blocked_eq

/-- Beside the place of settings that are missing a link. -/
def linkedTree (target : String) : FileTree :=
  { nodes := [([EntryName.ofText "settings.json.tmp"], .link target)] }

/-- What becomes of a link to the settings: the new file is written through the link, and the link
moved onto it. -/
def loopTree : FileTree :=
  { nodes := [([EntryName.ofText "settings.json"], .link "settings.json")] }

section Linked

variable (target : String)

theorem linkedTree_standing : (linkedTree target).at? (spare [] "settings.json") =
    some (.link target) := by
  rw [show spare [] "settings.json" = [EntryName.ofText "settings.json.tmp"] by decide]
  simp [at?, linkedTree]

theorem linkedTree_at? (name : String) (apart : name ≠ "settings.json.tmp") :
    (linkedTree target).at? (spot [] name) = none := by
  have apart : EntryName.ofText name ≠ EntryName.ofText "settings.json.tmp" :=
    fun same => apart (EntryName.ofText_injective same)
  rw [at?_of_ne_nil _ (by simp), linkedTree, lookup_cons_ite, if_neg (by simpa using apart)]
  rfl

theorem membersIn_linked : membersIn (linkedTree target) "settings.json" = .ok [] := by
  have nothing := linkedTree_at? target "settings.json" (by decide)
  rw [membersIn, read_of_locate (locate_settings rfl nothing true), nothing]

theorem load_linked : outcome (load (FileTree.disk (Part.whole FileTree)) "settings.json")
    (linkedTree target) = (.ok [], linkedTree target) := by
  rw [outcome_load]
  exact congrArg (Prod.mk · _) (membersIn_linked target)

/-- What is written beside the settings goes where the link leads. -/
theorem locate_linked (some : target.isEmpty = false) (relative : Path.isAbsolute target = false) :
    (linkedTree target).locate true (temporaryPath "settings.json") =
      (linkedTree target).walk true 39 [] (steps target) := by
  have short : (EntryName.ofText ("settings.json" ++ ".tmp")).length ≤ EntryName.maxLength := by
    rw [EntryName.length_ofText]
    decide
  have start : (linkedTree target).start (temporaryPath "settings.json") = [] := by
    rw [FileTree.start, if_neg (by decide)]
    rfl
  rw [locate_eq _ _ (by decide) (by decide), start, maxLinks,
    show steps (temporaryPath "settings.json") =
      [.into (EntryName.ofText ("settings.json" ++ ".tmp"))] by decide,
    walk_link short (linkedTree_standing target) some, if_neg (by simp [relative])]

theorem set_linked (key : String) (value : Bool)
    (lost : ∀ content, ∃ e, (linkedTree target).write (temporaryPath "settings.json") content =
      .error e) :
    (outcome ((operations (FileTree.disk (Part.whole FileTree)) "settings.json").set key value)
      (linkedTree target)).1 = .error .unwritable := by
  have parent : Path.parent? "settings.json" = some "" := by decide
  rw [outcome_set_eq, Part.get_whole, membersIn_linked]
  rcases outcome_replace_cases (Part.whole FileTree) (linkedTree target) parent
    (insertMember key (.bool value) []) with refused | ⟨made, written, ran, wrote, -⟩
  · exact congrArg Prod.fst refused
  · obtain rfl : linkedTree target = made := congrArg Prod.snd ran
    obtain ⟨e, refused⟩ := lost (JsonValue.object (insertMember key (.bool value) [])).render.toUTF8
    cases refused.symm.trans wrote

end Linked

/-- Nothing is written to a directory. -/
theorem write_linked_directory (content : ByteArray) :
    ∃ e, (linkedTree ".").write (temporaryPath "settings.json") content = .error e := by
  have located := locate_linked "." (by decide) (by decide)
  rw [show steps "." = [.stay] by decide, walk, walk] at located
  exact ⟨_, write_of_locate located content⟩

/-- Nor to a directory that is not there. -/
theorem write_linked_lost (content : ByteArray) :
    ∃ e, (linkedTree "lost/draft").write (temporaryPath "settings.json") content = .error e := by
  have located := locate_linked "lost/draft" (by decide) (by decide)
  have nothing := linkedTree_at? "lost/draft" "lost" (by decide)
  rw [show steps "lost/draft" = [.into (EntryName.ofText "lost"), .into (EntryName.ofText "draft")]
    by decide, walk, if_neg (by rw [EntryName.length_ofText]; decide)] at located
  simp only [nothing] at located
  refine ⟨.notFound, ?_⟩
  rw [write, located]
  rfl

theorem write_linked (content : ByteArray) :
    (linkedTree "settings.json").write (temporaryPath "settings.json") content =
      .ok ((linkedTree "settings.json").put (spot [] "settings.json") (.file content)) := by
  have nothing := linkedTree_at? "settings.json" "settings.json" (by decide)
  refine write_of_isFree ?_ (Or.inl nothing) content
  rw [locate_linked _ (by decide) (by decide), steps_settings]
  exact walk_of_isFree (Nat.not_lt.mpr length_settings_le) rfl (Or.inl nothing)

theorem rename_linked (content : ByteArray) :
    ((linkedTree "settings.json").put (spot [] "settings.json") (.file content)).rename
      (temporaryPath "settings.json") "settings.json" = .ok loopTree := by
  have leads : ((linkedTree "settings.json").put (spot [] "settings.json") (.file content)).Leads ""
      [] := leads_empty _
  have link : ((linkedTree "settings.json").put (spot [] "settings.json") (.file content)).at?
      (spare [] "settings.json") = some (.link "settings.json") := by
    rw [at?_put _ (by simp), if_neg (spot_ne_spare [] "settings.json").symm, linkedTree_standing]
  have renamed := leads.rename_beside (Or.inl rfl) isName_settings (by decide) link (by simp)
  rw [String.empty_append, String.empty_append, at?_put _ (by simp), if_pos rfl] at renamed
  exact renamed

/-- A link to itself leads nowhere. -/
theorem membersIn_loop : membersIn loopTree "settings.json" = .error .unreadable := by
  have around (links : Nat) : ∃ reason, loopTree.walk true links []
      [.into (EntryName.ofText "settings.json")] = .error (.other reason) := by
    induction links with
    | zero =>
      rw [walk, if_neg (Nat.not_lt.mpr length_settings_le)]
      exact ⟨_, rfl⟩
    | succ links ih =>
      rw [walk_link length_settings_le rfl (by decide), steps_settings, if_neg (by decide)]
      exact ih
  obtain ⟨reason, given⟩ := around maxLinks
  have start : loopTree.start "settings.json" = [] := by decide
  have looped : loopTree.locate true "settings.json" = .error (.other reason) := by
    rw [locate_eq _ _ (by decide) (by decide), steps_settings, start, given]
  rw [membersIn, read_of_locate_error looped]

theorem answers_linked :
    answersTo (operations (FileTree.disk (Part.whole FileTree)) "settings.json").request
      [.set "a" true, .get "a" false] (linkedTree "settings.json") =
        [.ok none, .error .unreadable] := by
  have set : outcome ((operations (FileTree.disk (Part.whole FileTree)) "settings.json").set "a"
      true) (linkedTree "settings.json") = (.ok (), loopTree) := by
    have parent : Path.parent? "settings.json" = some "" := by decide
    have done : (linkedTree "settings.json").makeDirectories "" =
      (.ok (), linkedTree "settings.json") := rfl
    simp only [operations]
    rw [outcome_bind_ok (load_linked "settings.json")]
    refine (outcome_replace_of_made parent done _ (write_linked _)).trans ?_
    rw [rename_linked]
    rfl
  have get : outcome ((operations (FileTree.disk (Part.whole FileTree)) "settings.json").get "a"
      false) loopTree = (.error .unreadable, loopTree) := by
    rw [outcome_get_eq, Part.get_whole, membersIn_loop]
    rfl
  simp only [answersTo, Settings.request]
  rw [outcome_bind_ok set, outcome_pure, outcome_bind_error get]

/-- No flag can be set if the directory of the settings can be made only with one in their place,
or if a link beside them leads to a directory or nowhere; and none can be read again if the link
leads to the settings. -/
theorem unwritable_paths :
    (let path := "settings.json/../" ++ "settings.json"
     ({} : FileTree).makeDirectories "settings.json/.." = (.ok (), blockedTree) ∧
       blockedTree.at? [EntryName.ofText "settings.json.tmp"] = none ∧
       outcome (load (FileTree.disk (Part.whole FileTree)) path) {} = (.ok [], {}) ∧
       (outcome ((operations (FileTree.disk (Part.whole FileTree)) path).set "a" true) {}).1 =
         .error .unwritable) ∧
    (let settings := operations (FileTree.disk (Part.whole FileTree)) "settings.json"
     (∀ target, (linkedTree target).at? [EntryName.ofText "settings.json.tmp"] =
         some (.link target) ∧
       outcome (load (FileTree.disk (Part.whole FileTree)) "settings.json") (linkedTree target) =
         (.ok [], linkedTree target)) ∧
       (outcome (settings.set "a" true) (linkedTree ".")).1 = .error .unwritable ∧
       (outcome (settings.set "a" true) (linkedTree "lost/draft")).1 = .error .unwritable ∧
       answersTo settings.request [.set "a" true, .get "a" false] (linkedTree "settings.json") =
         [.ok none, .error .unreadable]) := by
  have beside : spare [] "settings.json" = [EntryName.ofText "settings.json.tmp"] := by
    decide
  refine ⟨⟨makeDirectories_blocked, by decide, ?_, outcome_set_blocked⟩, fun target => ⟨?_, ?_⟩,
    set_linked _ _ _ write_linked_directory, set_linked _ _ _ write_linked_lost, answers_linked⟩
  · rw [outcome_load]
    exact congrArg (Prod.mk · _) membersIn_blocked
  · exact beside ▸ linkedTree_standing target
  · exact load_linked target

end SettingsFile

end CameraRoll
