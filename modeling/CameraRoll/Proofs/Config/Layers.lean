import CameraRoll.Config.Environment
import CameraRoll.Proofs.Keyed

/-!
What the variables of an environment say as a layer of a configuration. They are laid over each
other in their order, each under its own path of keys, and a value is asked for by such a path. Main
statements: `Environment.layer_leaves` and `Environment.layer_gives`, by which the last variable at
a path counts and variables elsewhere do not matter, and `Environment.overlay_empty_layer`, by which
the environment is the same above an empty table as on its own.
-/

namespace CameraRoll

/-! ### Entries that are put in -/

section Entries

variable {α : Type}

theorem lookup_putEntry (key other : String) (value : α) (entries : List (String × α)) :
    (putEntry key value entries).lookup other =
      if other = key then some value else entries.lookup other := by
  induction entries with
  | nil => exact lookup_cons_ite _ _ _ _
  | cons entry rest ih =>
    obtain ⟨name, kept⟩ := entry
    rw [putEntry]
    split
    next same =>
      subst same
      rw [lookup_cons_ite, lookup_cons_ite]
      split <;> rfl
    next apart =>
      rw [lookup_cons_ite, lookup_cons_ite, ih]
      by_cases here : other = name
      · subst here
        simp [apart]
      · simp [here]

theorem keys_putEntry (key : String) (value : α) (entries : List (String × α)) :
    (putEntry key value entries).map (·.1) =
      if key ∈ entries.map (·.1) then entries.map (·.1) else entries.map (·.1) ++ [key] := by
  induction entries with
  | nil => rfl
  | cons entry rest ih =>
    obtain ⟨name, kept⟩ := entry
    rw [putEntry]
    split
    next same => simp [same]
    next apart =>
      rw [List.map_cons, ih, List.map_cons]
      have apart' : key ≠ name := Ne.symm apart
      by_cases inside : key ∈ rest.map (·.1) <;> simp [inside, apart']

theorem nodup_putEntry {entries : List (String × α)} (distinct : (entries.map (·.1)).Nodup)
    (key : String) (value : α) : ((putEntry key value entries).map (·.1)).Nodup := by
  rw [keys_putEntry]
  split
  next => exact distinct
  next fresh =>
    refine List.nodup_append.mpr ⟨distinct, List.nodup_singleton key, ?_⟩
    rintro other inside last isKey rfl
    exact fresh (List.mem_singleton.mp isKey ▸ inside)

theorem putEntry_of_fresh {key : String} {entries : List (String × α)}
    (fresh : key ∉ entries.map (·.1)) (value : α) :
    putEntry key value entries = entries ++ [(key, value)] := by
  induction entries with
  | nil => rfl
  | cons entry rest ih =>
    obtain ⟨name, kept⟩ := entry
    rw [List.map_cons, List.mem_cons, not_or] at fresh
    rw [putEntry, if_neg (Ne.symm fresh.1), ih fresh.2, List.cons_append]

end Entries

/-! ### Values under paths of keys -/

namespace ConfigValue

open Environment

/-- The entries of a table. -/
def entriesOf : ConfigValue → List (String × ConfigValue)
  | .table entries => entries
  | _ => []

/-- The value that a path of keys leads to, through tables. -/
def valueAt? : List String → ConfigValue → Option ConfigValue
  | [], value => some value
  | key :: path, value => (value.entriesOf.lookup key).bind (valueAt? path)

def IsTable (value : ConfigValue) : Prop := ∃ entries, value = .table entries

/-- A value laid over another one, if there is another one. -/
def laidOver (value : ConfigValue) : Option ConfigValue → ConfigValue
  | some below => below.overlay value
  | none => value

theorem laidOver_single (value : ConfigValue) (key : String) (below : Option ConfigValue) :
    (table [(key, value)]).laidOver below =
      let entries := (below.map entriesOf).getD []
      .table (putEntry key (value.laidOver (entries.lookup key)) entries) := by
  cases below with
  | none => rfl
  | some below => cases below <;> rfl

theorem valueAt?_append (front path : List String) (value : ConfigValue) :
    value.valueAt? (front ++ path) = (value.valueAt? front).bind (valueAt? path) := by
  induction front generalizing value with
  | nil => rfl
  | cons key front ih =>
    rw [List.cons_append, valueAt?, valueAt?, Option.bind_assoc]
    exact congrArg _ (funext fun inner => ih inner)

theorem valueAt?_single (value : ConfigValue) (key : String) :
    value.valueAt? [key] = value.entriesOf.lookup key := Option.bind_fun_some _

theorem bind_valueAt?_cons (below : Option ConfigValue) (key : String) (path : List String) :
    below.bind (valueAt? (key :: path)) = (below.bind (valueAt? [key])).bind (valueAt? path) := by
  cases below with
  | none => rfl
  | some below => exact valueAt?_append [key] path below

/-- A value under a path of keys goes into the table under the first one. -/
theorem valueAt?_laidOver_nest (value : ConfigValue) (key other : String) (rest path : List String)
    (below : Option ConfigValue) :
    ((nest value (key :: rest)).laidOver below).valueAt? (other :: path) =
      if other = key then
        ((nest value rest).laidOver (below.bind (valueAt? [key]))).valueAt? path
      else below.bind (valueAt? (other :: path)) := by
  have inside : below.bind (valueAt? [key]) = ((below.map entriesOf).getD []).lookup key := by
    cases below with
    | none => rfl
    | some below => exact below.valueAt?_single key
  have aside : below.bind (valueAt? (other :: path)) =
      (((below.map entriesOf).getD []).lookup other).bind (valueAt? path) := by
    cases below <;> rfl
  rw [nest, laidOver_single, inside, aside, valueAt?, entriesOf, lookup_putEntry]
  split <;> rfl

theorem laidOver_of_not_isTable {value : ConfigValue} (scalar : ¬ value.IsTable)
    (below : Option ConfigValue) : value.laidOver below = value := by
  cases below with
  | none => rfl
  | some below =>
    cases value with
    | table entries => exact absurd ⟨entries, rfl⟩ scalar
    | _ => rfl

/-- What is laid under a path of keys is found there. -/
theorem valueAt?_laidOver_nest_self {value : ConfigValue} (scalar : ¬ value.IsTable)
    (path : List String) (below : Option ConfigValue) :
    ((nest value path).laidOver below).valueAt? path = some value := by
  induction path generalizing below with
  | nil => rw [nest, laidOver_of_not_isTable scalar, valueAt?]
  | cons key path ih => rw [valueAt?_laidOver_nest, if_pos rfl, ih]

/-- What is laid elsewhere changes nothing under a path of keys. -/
theorem valueAt?_laidOver_nest_of_apart (value : ConfigValue) {named path : List String}
    (apart : ¬ named <+: path) (apart' : ¬ path <+: named) (below : Option ConfigValue) :
    ((nest value named).laidOver below).valueAt? path = below.bind (valueAt? path) := by
  induction named generalizing path below with
  | nil => exact absurd (List.nil_prefix) apart
  | cons key rest ih =>
    cases path with
    | nil => exact absurd (List.nil_prefix) apart'
    | cons other path =>
      rw [valueAt?_laidOver_nest]
      split
      next same =>
        -- both paths lead into one table, and part further down
        subst same
        rw [List.prefix_cons_inj] at apart apart'
        rw [ih apart apart', ← bind_valueAt?_cons]
      next => rfl

/-- What is laid below a path of keys leaves a table there. -/
theorem isTable_of_laidOver_nest (value : ConfigValue) {named path : List String}
    (below : Option ConfigValue) (apart : ¬ named <+: path)
    (tables : ∀ inner, below.bind (valueAt? path) = some inner → inner.IsTable)
    {inner : ConfigValue}
    (found : ((nest value named).laidOver below).valueAt? path = some inner) : inner.IsTable := by
  induction named generalizing path below with
  | nil => exact absurd (List.nil_prefix) apart
  | cons key rest ih =>
    cases path with
    | nil =>
      -- a path ends where the other one goes on: what goes on is an entry of a table
      rw [valueAt?, nest, laidOver_single] at found
      exact ⟨_, (Option.some.inj found).symm⟩
    | cons other path =>
      rw [valueAt?_laidOver_nest] at found
      split at found
      next same =>
        subst same
        rw [List.prefix_cons_inj] at apart
        rw [bind_valueAt?_cons] at tables
        exact ih _ apart tables found
      next => exact tables inner found

theorem entriesOver_of_fresh {below entries : List (String × ConfigValue)}
    (distinct : ((below ++ entries).map (·.1)).Nodup) :
    entriesOver below entries = below ++ entries := by
  induction entries generalizing below with
  | nil => simp [entriesOver]
  | cons entry rest ih =>
    obtain ⟨key, value⟩ := entry
    -- nothing is there that the entry could be laid over, so it goes to the end
    have fresh : key ∉ below.map (·.1) := by
      rw [List.map_append, List.nodup_append] at distinct
      exact fun inside => distinct.2.2 key inside key (by simp) rfl
    have absent : below.lookup key = none :=
      (lookup_eq_none_iff_ne _ _).mpr fun other member same =>
        fresh (List.mem_map.mpr ⟨other, member, same⟩)
    rw [entriesOver, absent]
    dsimp only
    rw [putEntry_of_fresh fresh, ih (by simpa using distinct)]
    simp

end ConfigValue

namespace Environment

open ConfigValue

/-! ### All variables -/

/-- No variable gives a value to a path of keys or to what it leads through. -/
def LeavesOpen (environment : List (String × String)) (path : List String) : Prop :=
  ∀ entry ∈ environment, ∀ named, pathOf entry.1 = some named → ¬ named <+: path

/-- No variable gives a value to a path of keys, to what it leads through or to what is below. -/
def LeavesAlone (environment : List (String × String)) (path : List String) : Prop :=
  ∀ entry ∈ environment, ∀ named, pathOf entry.1 = some named →
    ¬ named <+: path ∧ ¬ path <+: named

theorem LeavesAlone.leavesOpen {environment : List (String × String)} {front path : List String}
    (alone : LeavesAlone environment path) (above : front <+: path) :
    LeavesOpen environment front := fun entry inside named isNamed onto =>
  (alone entry inside named isNamed).1 (onto.trans above)

/-- The last entry that has to do with a path of keys gives it a value that is no table. -/
def Gives (environment : List (String × String)) (path : List String) (value : ConfigValue) :
    Prop :=
  ∃ before name text after, environment = before ++ (name, text) :: after ∧
    pathOf name = some path ∧ valueOf text = value ∧ ¬ value.IsTable ∧ LeavesAlone after path

/-- A entry laid over others. -/
def lay (below : ConfigValue) (entry : String × String) : ConfigValue :=
  match pathOf entry.1 with
  | some path => below.overlay (nest (valueOf entry.2) path)
  | none => below

theorem layer_eq (environment : List (String × String)) :
    layer environment = environment.foldl lay (.table []) := rfl

theorem splitDots_ne_nil (s : List Char) : splitDots s ≠ [] := by
  cases s with
  | nil => simp [splitDots]
  | cons c s =>
    rw [splitDots, List.foldr_cons]
    split
    · simp
    · split <;> simp

theorem pathOf_ne_nil {name : String} {path : List String} (named : pathOf name = some path) :
    path ≠ [] := by
  simp only [pathOf, Option.bind_eq_bind, Option.bind_eq_some_iff] at named
  obtain ⟨rest, -, named⟩ := named
  split at named
  · cases named
  · cases named
    simp [splitDots_ne_nil]

/-- A table in which each key comes once. -/
def IsProper (value : ConfigValue) : Prop :=
  ∃ entries, value = .table entries ∧ (entries.map (·.1)).Nodup

theorem isProper_foldl_lay (environment : List (String × String)) {below : ConfigValue}
    (proper : IsProper below) : IsProper (environment.foldl lay below) := by
  induction environment generalizing below with
  | nil => exact proper
  | cons entry rest ih =>
    refine ih ?_
    obtain ⟨entries, rfl, distinct⟩ := proper
    rw [lay]
    split
    next path named =>
      -- without a key the variable would replace the whole table
      cases path with
      | nil => exact absurd rfl (pathOf_ne_nil named)
      | cons key path => exact ⟨_, rfl, nodup_putEntry distinct key _⟩
    next => exact ⟨entries, rfl, distinct⟩

theorem isProper_layer (environment : List (String × String)) : IsProper (layer environment) :=
  isProper_foldl_lay environment ⟨[], rfl, List.nodup_nil⟩

/-- The environment above an empty table is the environment. -/
theorem overlay_empty_layer (environment : List (String × String)) :
    (ConfigValue.table []).overlay (layer environment) = layer environment := by
  obtain ⟨entries, same, distinct⟩ := isProper_layer environment
  rw [same]
  exact congrArg ConfigValue.table (entriesOver_of_fresh (by simpa using distinct))

theorem valueAt?_foldl_lay {environment : List (String × String)} {path : List String}
    (alone : LeavesAlone environment path) (below : ConfigValue) :
    (environment.foldl lay below).valueAt? path = below.valueAt? path := by
  induction environment generalizing below with
  | nil => rfl
  | cons entry rest ih =>
    rw [List.foldl_cons, ih fun other inside => alone other (List.mem_cons_of_mem _ inside), lay]
    split
    next named isNamed =>
      obtain ⟨apart, apart'⟩ := alone entry List.mem_cons_self named isNamed
      exact valueAt?_laidOver_nest_of_apart _ apart apart' (some below)
    next => rfl

/-- Where no entry leads there is nothing. -/
theorem layer_leaves {environment : List (String × String)} {path : List String}
    (nonempty : path ≠ []) (alone : LeavesAlone environment path) :
    (layer environment).valueAt? path = none := by
  rw [layer_eq, valueAt?_foldl_lay alone]
  cases path with
  | nil => exact absurd rfl nonempty
  | cons key path => rfl

/-- The last entry at a path of keys counts. -/
theorem layer_gives {environment : List (String × String)} {path : List String}
    {value : ConfigValue} (gives : Gives environment path value) :
    (layer environment).valueAt? path = some value := by
  obtain ⟨before, name, text, after, rfl, named, rfl, scalar, alone⟩ := gives
  rw [layer_eq, List.foldl_append, List.foldl_cons, valueAt?_foldl_lay alone, lay, named]
  exact valueAt?_laidOver_nest_self scalar path (some _)

theorem isTable_foldl_lay {environment : List (String × String)} {path : List String}
    (apart : LeavesOpen environment path) {below : ConfigValue}
    (tables : ∀ inner, below.valueAt? path = some inner → inner.IsTable)
    {inner : ConfigValue} (found : (environment.foldl lay below).valueAt? path = some inner) :
    inner.IsTable := by
  induction environment generalizing below with
  | nil => exact tables inner found
  | cons entry rest ih =>
    refine ih (fun other inside => apart other (List.mem_cons_of_mem _ inside)) ?_ found
    intro inner found
    rw [lay] at found
    split at found
    next named isNamed =>
      have here := apart entry List.mem_cons_self named isNamed
      exact isTable_of_laidOver_nest _ (some below) here tables found
    next => exact tables inner found

/-- Where variables lead on but none ends there is a table. -/
theorem isTable_of_layer {environment : List (String × String)} {path : List String}
    (apart : LeavesOpen environment path) {inner : ConfigValue}
    (found : (layer environment).valueAt? path = some inner) : inner.IsTable := by
  refine isTable_foldl_lay apart (fun inner found => ?_) found
  cases path with
  | nil => exact ⟨[], (Option.some.inj found).symm⟩
  | cons key path => cases found

end Environment

end CameraRoll
