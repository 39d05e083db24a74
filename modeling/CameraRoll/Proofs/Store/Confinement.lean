import CameraRoll.Proofs.Store.Twin

/-!
A store in a directory cannot reach out of it. What a call on a valid name does is a function of
the one entry that the name stands for (`Errand.onEntry`, `DirectoryStore.outcome_ask`), so nothing
else is changed and nothing else has a say in the answer. Main statement:
`DirectoryStore.confined`, for any number of calls.
-/

namespace CameraRoll

open Store

/-- What can be asked of a store about one name. -/
inductive Store.Errand where
  | contains
  | read
  | write (content : ByteArray)
  | create (content : ByteArray)
  | delete
  | stat

/-- The request for an errand on a name. -/
def Store.Errand.request (name : String) : Errand → Request
  | .contains => .contains name
  | .read => .read name
  | .write content => .write name content
  | .create content => .create name content
  | .delete => .delete name
  | .stat => .stat name

/-- A call about one name: an errand, or the question for a URL. -/
inductive Store.Call where
  | ask (name : String) (errand : Errand)
  | url (name : String)

namespace Store

def Call.name : Call → String
  | .ask name _ | .url name => name

/-- Answers a call. The question for a URL never fails. -/
def serve {m : Type → Type} [Monad m] (store : Store m) :
    Call → ExceptT StoreError m (Answer ⊕ Option String)
  | .ask name errand => return .inl (← store.request (errand.request name))
  | .url name => return .inr (store.nativeUrl name)

/-- The answer to a call on a name that is none. -/
def Call.refusal : Call → Except StoreError (Answer ⊕ Option String)
  | .ask name _ => .error (.invalidName name)
  | .url _ => .ok (.inr none)

/-- The answer to an errand on a name that an entry can have, given what stands under it, and what
stands there afterwards. -/
def Errand.onShort (name : String) (standing : Option Node) :
    Errand → Except StoreError Answer × Option Node
  | .contains => (.ok (.flag standing.isSome), standing)
  | .read =>
    match standing with
    | some (.file content) => (.ok (.content content), standing)
    | some .directory => (.error (.io "is a directory"), standing)
    | _ => (.error (.notFound name), standing)
  | .write content =>
    match standing with
    | some .directory => (.error (.io "is a directory"), standing)
    | _ => (.ok .done, some (.file content))
  | .create content =>
    match standing with
    | some _ => (.error (.alreadyExists name), standing)
    | none => (.ok (.info ⟨name, content.size⟩), some (.file content))
  | .delete =>
    match standing with
    | some .directory => (.error (.io "is a directory"), standing)
    | some _ => (.ok .done, none)
    | none => (.error (.notFound name), standing)
  | .stat =>
    match standing with
    | some (.file content) => (.ok (.info ⟨name, content.size⟩), standing)
    | _ => (.error (.notFound name), standing)

/-- The same for any valid name. One that is too long for an entry is refused by the disk. -/
def Errand.onEntry (name : String) (standing : Option Node) (errand : Errand) :
    Except StoreError Answer × Option Node :=
  if EntryName.maxLength < name.utf8ByteSize then (.error (.io "file name too long"), standing)
  else errand.onShort name standing

end Store

namespace FileTree

/-- A tree after one place in it was given this to hold. -/
structure SetAt (before : FileTree) (place : TreeLocation) (standing : Option Node)
    (after : FileTree) : Prop where
  here : after.at? place = standing
  elsewhere : ∀ other, other ≠ place → after.at? other = before.at? other
  workingDirectory : after.workingDirectory = before.workingDirectory

namespace SetAt

variable {tree : FileTree} {place : TreeLocation}

theorem same {standing : Option Node} (held : tree.at? place = standing) :
    tree.SetAt place standing tree := ⟨held, fun _ _ => rfl, rfl⟩

theorem put (below : place ≠ []) (node : Node) :
    tree.SetAt place (some node) (tree.put place node) := by
  constructor
  · rw [at?_put _ below, if_pos rfl]
  · intro other apart
    rw [at?_put _ below, if_neg apart]
  · exact put_workingDirectory tree place node

theorem erase (below : place ≠ []) : tree.SetAt place none (tree.erase place) := by
  constructor
  · rw [at?_erase _ below, if_pos rfl]
  · intro other apart
    rw [at?_erase _ below, if_neg apart]
  · rfl

end SetAt

end FileTree

namespace DirectoryStore

variable {W : Type} {part : Part W FileTree} {root name : String} {place : TreeLocation} {w : W}

/-! ### One call -/

/-- A name that no entry can have is refused by the disk, whatever is asked. -/
theorem outcome_ask_long (houses : (part.get w).Houses root place)
    (valid : isValidName name = true) (long : EntryName.maxLength < name.utf8ByteSize)
    (label : String) (errand : Errand) :
    outcome ((operations (FileTree.disk part) label root).request (errand.request name)) w =
      (.error (.io "file name too long"), w) := by
  have lost (follow : Bool) : (part.get w).locate follow (Path.join root name) =
      .error (.other "file name too long") := by
    rw [houses.locate_join valid, if_pos long]
  cases errand with
  | contains =>
    rw [Errand.request, outcome_request_contains, outcome_contains_lost valid label (lost true)]
    rfl
  | read =>
    rw [Errand.request, outcome_request_read, outcome_read_lost valid label (lost true)]
    rfl
  | write content =>
    rw [Errand.request, outcome_request_write, outcome_write_lost valid label (lost true)]
    rfl
  | create content =>
    rw [Errand.request, outcome_request_create, outcome_create_lost valid label (lost false)]
    rfl
  | delete =>
    rw [Errand.request, outcome_request_delete, outcome_delete_lost valid label (lost false)]
    rfl
  | stat =>
    rw [Errand.request, outcome_request_stat, outcome_stat_lost valid label (lost true)]
    rfl

/-- An errand on a valid name is settled by what stands under that name, and changes nothing but
that. The directory stays one that can house a store. -/
theorem outcome_ask (houses : (part.get w).Houses root place) (valid : isValidName name = true)
    (label : String) (errand : Errand) :
    ∃ tree, outcome ((operations (FileTree.disk part) label root).request (errand.request name)) w =
        ((errand.onEntry name ((part.get w).at? (place ++ [EntryName.ofText name]))).1,
          part.set tree w) ∧
      (part.get w).SetAt (place ++ [EntryName.ofText name])
        (errand.onEntry name ((part.get w).at? (place ++ [EntryName.ofText name]))).2 tree ∧
      tree.Houses root place := by
  have below : place ++ [EntryName.ofText name] ≠ [] := by simp
  by_cases long : EntryName.maxLength < name.utf8ByteSize
  · rw [Errand.onEntry, if_pos long]
    refine ⟨part.get w, ?_, .same rfl, houses⟩
    rw [outcome_ask_long houses valid long, part.set_get]
  rw [Errand.onEntry, if_neg long]
  have short : name.utf8ByteSize ≤ EntryName.maxLength := Nat.le_of_not_lt long
  -- three things can happen to the tree; each case below is one of them
  have same {standing : Option Node}
      (held : (part.get w).at? (place ++ [EntryName.ofText name]) = standing)
      {answer : Except StoreError Answer} {ended : Except StoreError Answer × W}
      (done : ended = (answer, w)) : ∃ tree, ended = (answer, part.set tree w) ∧
        (part.get w).SetAt (place ++ [EntryName.ofText name]) standing tree ∧
        tree.Houses root place :=
    ⟨part.get w, by rw [done, part.set_get], .same held, houses⟩
  have stored (noDirectory : (part.get w).at? (place ++ [EntryName.ofText name]) ≠ some .directory)
      (content : ByteArray) {answer : Except StoreError Answer}
      {ended : Except StoreError Answer × W}
      (done : ended = (answer, part.set ((part.get w).put (place ++ [EntryName.ofText name])
        (.file content)) w)) : ∃ tree, ended = (answer, part.set tree w) ∧
        (part.get w).SetAt (place ++ [EntryName.ofText name]) (some (.file content)) tree ∧
        tree.Houses root place :=
    ⟨_, done, .put below _, houses.put noDirectory content⟩
  have removed (noDirectory : (part.get w).at? (place ++ [EntryName.ofText name]) ≠ some .directory)
      {answer : Except StoreError Answer} {ended : Except StoreError Answer × W}
      (done : ended = (answer, part.set ((part.get w).erase (place ++ [EntryName.ofText name])) w)) :
      ∃ tree, ended = (answer, part.set tree w) ∧
        (part.get w).SetAt (place ++ [EntryName.ofText name]) none tree ∧
        tree.Houses root place :=
    ⟨_, done, .erase below, houses.erase noDirectory⟩
  cases errand with
  | contains =>
    rw [Errand.request, outcome_request_contains, outcome_contains houses valid short]
    exact same rfl rfl
  | read =>
    rw [Errand.request, outcome_request_read, outcome_read houses valid short]
    cases standing : (part.get w).at? (place ++ [EntryName.ofText name]) with
    | none => exact same standing rfl
    | some node => cases node <;> exact same standing rfl
  | write content =>
    rw [Errand.request, outcome_request_write, outcome_write houses valid short]
    cases standing : (part.get w).at? (place ++ [EntryName.ofText name]) with
    | none => exact stored (by simp [standing]) content rfl
    | some node =>
      cases node with
      | file old => exact stored (by simp [standing]) content rfl
      | directory => exact same standing rfl
      | link target => exact stored (by simp [standing]) content rfl
  | create content =>
    rw [Errand.request, outcome_request_create, outcome_create houses valid short]
    cases standing : (part.get w).at? (place ++ [EntryName.ofText name]) with
    | none => exact stored (by simp [standing]) content rfl
    | some node => exact same standing rfl
  | delete =>
    rw [Errand.request, outcome_request_delete, outcome_delete houses valid short]
    cases standing : (part.get w).at? (place ++ [EntryName.ofText name]) with
    | none => exact same standing rfl
    | some node =>
      cases node with
      | file old => exact removed (by simp [standing]) rfl
      | directory => exact same standing rfl
      | link target => exact removed (by simp [standing]) rfl
  | stat =>
    rw [Errand.request, outcome_request_stat, outcome_stat houses valid short]
    cases standing : (part.get w).at? (place ++ [EntryName.ofText name]) with
    | none => exact same standing rfl
    | some node => cases node <;> exact same standing rfl

/-! ### URLs -/

theorem ofPath?_join (absolute : Path.isAbsolute root = true) (valid : isValidName name = true) :
    FileUrl.ofPath? (Path.join root name) = some ("file://" ++ String.ofList
      ((Path.parts root ++ [name]).flatMap fun part => '/' :: FileUrl.segment part)) := by
  have named := isName_of_isValidName valid
  have nonempty : root ≠ "" := by
    rintro rfl
    cases absolute
  obtain ⟨front, joined, ends, isFront⟩ := Path.join_eq nonempty named.noSlash
  have partsOf : Path.parts (Path.join root name) = Path.parts root ++ [name] := by
    rw [joined, Path.parts_append ends named.toIsPart]
    rcases isFront with rfl | rfl
    · rfl
    · rw [Path.parts_append_slash]
  have stillAbsolute : Path.isAbsolute (Path.join root name) = true := by
    rw [joined, Path.isAbsolute_append ends named.noSlash]
    rcases isFront with rfl | rfl
    · exact absolute
    · obtain ⟨c, rest, split⟩ := List.exists_cons_of_ne_nil (l := root.toList) (by simpa using nonempty)
      simpa [Path.isAbsolute, split] using absolute
  rw [FileUrl.ofPath?, if_pos stillAbsolute, partsOf]
  split
  next none => simp at none
  next => rfl

/-! ### Any number of calls -/

/-- What a call may do in a world with a directory for its store: it refuses a name that is none,
and otherwise it changes the one entry of that name and has its answer from there. -/
structure Confined (part : Part W FileTree) (root : String) (place : TreeLocation)
    (store : Store (StateM W)) (call : Call) (w : W) : Prop where
  refused : isValidName call.name = false → outcome (store.serve call) w = (call.refusal, w)
  changes : isValidName call.name = true → ∃ tree standing,
    (outcome (store.serve call) w).2 = part.set tree w ∧
      (part.get w).SetAt (place ++ [EntryName.ofText call.name]) standing tree
  reads : isValidName call.name = true → ∀ (v : W) (elsewhere : TreeLocation),
    (part.get v).Houses root elsewhere →
    (part.get v).at? (elsewhere ++ [EntryName.ofText call.name]) =
      (part.get w).at? (place ++ [EntryName.ofText call.name]) →
    (outcome (store.serve call) v).1 = (outcome (store.serve call) w).1 ∧
      (part.get (outcome (store.serve call) v).2).at?
          (elsewhere ++ [EntryName.ofText call.name]) =
        (part.get (outcome (store.serve call) w).2).at? (place ++ [EntryName.ofText call.name])
  addressed : ∀ name, call = .url name → isValidName name = true →
    (outcome (store.serve call) w).1 = .ok (.inr (some ("file://" ++ String.ofList
      ((Path.parts root ++ [name]).flatMap fun part => '/' :: FileUrl.segment part))))

theorem serve_of_invalid (label : String) {call : Call} (invalid : isValidName call.name = false) :
    outcome ((operations (FileTree.disk part) label root).serve call) w = (call.refusal, w) := by
  cases call with
  | ask name errand =>
    have named : (errand.request name).name? = some name := by cases errand <;> rfl
    rw [serve, outcome_bind_error (request_of_invalid label named invalid)]
    rfl
  | url name =>
    change isValidName name = false at invalid
    have noUrl : (operations (FileTree.disk part) label root).nativeUrl name = none := by
      simp only [operations]
      exact if_neg (by simp [invalid])
    rw [serve, noUrl]
    rfl

/-- The answer to a call and what stands under its name afterwards, as a function of what stands
there before. -/
def onEntry (root : String) (standing : Option Node) :
    Call → Except StoreError (Answer ⊕ Option String) × Option Node
  | .ask name errand =>
    ((errand.onEntry name standing).1.map .inl, (errand.onEntry name standing).2)
  | .url name => (.ok (.inr (FileUrl.ofPath? (Path.join root name))), standing)

theorem outcome_serve (houses : (part.get w).Houses root place) (label : String) (call : Call)
    (valid : isValidName call.name = true) :
    ∃ tree, outcome ((operations (FileTree.disk part) label root).serve call) w =
        ((onEntry root ((part.get w).at? (place ++ [EntryName.ofText call.name])) call).1,
          part.set tree w) ∧
      (part.get w).SetAt (place ++ [EntryName.ofText call.name])
        (onEntry root ((part.get w).at? (place ++ [EntryName.ofText call.name])) call).2 tree ∧
      tree.Houses root place := by
  cases call with
  | ask name errand =>
    change isValidName name = true at valid
    obtain ⟨tree, asked, set, housed⟩ := outcome_ask houses valid label errand
    refine ⟨tree, ?_, set, housed⟩
    rw [serve, outcome_bind_pure, asked]
    rfl
  | url name =>
    refine ⟨part.get w, ?_, .same rfl, houses⟩
    have someUrl : (operations (FileTree.disk part) label root).nativeUrl name =
        FileUrl.ofPath? (Path.join root name) := if_pos valid
    rw [serve, someUrl, part.set_get]
    rfl

/-- One call is confined, and leaves a directory that can house a store. -/
theorem confined_step (absolute : Path.isAbsolute root = true)
    (houses : (part.get w).Houses root place) (label : String) (call : Call) :
    Confined part root place (operations (FileTree.disk part) label root) call w ∧
      (part.get (outcome ((operations (FileTree.disk part) label root).serve call) w).2).Houses
        root place := by
  constructor
  · constructor
    · exact serve_of_invalid label
    · intro valid
      obtain ⟨tree, served, set, -⟩ := outcome_serve houses label call valid
      exact ⟨tree, _, by rw [served], set⟩
    -- two worlds that hold the same under the name cannot be told apart by a call on it
    · intro valid v elsewhere housed alike
      obtain ⟨tree, served, set, -⟩ := outcome_serve houses label call valid
      obtain ⟨other, served', set', -⟩ := outcome_serve housed label call valid
      rw [served, served', part.get_set, part.get_set, set.here, set'.here, alike]
      exact ⟨rfl, rfl⟩
    · rintro name rfl valid
      obtain ⟨tree, served, -, -⟩ := outcome_serve houses label (.url name) valid
      rw [served, onEntry, ofPath?_join absolute valid]
  · cases valid : isValidName call.name with
    | false =>
      rw [serve_of_invalid label valid]
      exact houses
    | true =>
      obtain ⟨tree, served, -, housed⟩ := outcome_serve houses label call valid
      rw [served, part.get_set]
      exact housed

theorem houses_after (absolute : Path.isAbsolute root = true)
    (houses : (part.get w).Houses root place) (label : String) (calls : List Call) :
    (part.get (worldAfter (operations (FileTree.disk part) label root).serve calls w)).Houses
      root place := by
  induction calls generalizing w with
  | nil => exact houses
  | cons call rest ih => exact ih (confined_step absolute houses label call).2

/-- What stands anywhere but under the names that are called stays as it is. -/
theorem at?_after (absolute : Path.isAbsolute root = true)
    (houses : (part.get w).Houses root place) (label : String) {calls : List Call}
    {location : TreeLocation}
    (apart : ∀ call ∈ calls, isValidName call.name = true →
      location ≠ place ++ [EntryName.ofText call.name]) :
    (part.get (worldAfter (operations (FileTree.disk part) label root).serve calls w)).at?
      location = (part.get w).at? location := by
  induction calls generalizing w with
  | nil => rfl
  | cons call rest ih =>
    obtain ⟨confined, housed⟩ := confined_step absolute houses label call
    have later := ih housed fun other member => apart other (List.mem_cons_of_mem _ member)
    refine later.trans ?_
    cases valid : isValidName call.name with
    | false => rw [confined.refused valid]
    | true =>
      obtain ⟨tree, standing, changed, set⟩ := confined.changes valid
      rw [changed, part.get_set]
      exact set.elsewhere location (apart call List.mem_cons_self valid)

/-- Two worlds whose directories hold the same entries answer all calls alike. -/
theorem answers_alike (absolute : Path.isAbsolute root = true) {v : W} {elsewhere : TreeLocation}
    (houses : (part.get w).Houses root place) (housed : (part.get v).Houses root elsewhere)
    (alike : ∀ entry, (part.get v).at? (elsewhere ++ [entry]) =
      (part.get w).at? (place ++ [entry])) (label : String) (calls : List Call) :
    answersTo (operations (FileTree.disk part) label root).serve calls v =
      answersTo (operations (FileTree.disk part) label root).serve calls w := by
  induction calls generalizing w v with
  | nil => rfl
  | cons call rest ih =>
    obtain ⟨confined, houses'⟩ := confined_step absolute houses label call
    obtain ⟨confined', housed'⟩ := confined_step absolute housed label call
    rw [answersTo, answersTo]
    cases valid : isValidName call.name with
    | false =>
      rw [confined.refused valid, confined'.refused valid]
      exact congrArg _ (ih houses housed alike)
    | true =>
      obtain ⟨sameAnswer, sameEntry⟩ := confined.reads valid v elsewhere housed (alike _)
      rw [sameAnswer]
      refine congrArg _ (ih houses' housed' fun entry => ?_)
      -- the entry of the call was settled alike, all others are as they were
      by_cases here : entry = EntryName.ofText call.name
      · rw [here]
        exact sameEntry
      · obtain ⟨tree, standing, changed, set⟩ := confined.changes valid
        obtain ⟨other, standing', changed', set'⟩ := confined'.changes valid
        rw [changed, changed', part.get_set, part.get_set, set.elsewhere _ (by simpa using here),
          set'.elsewhere _ (by simpa using here)]
        exact alike entry

/-- The store in a directory that exists and holds no links is confined to it. At any moment of any
sequence of calls, a call on a name that is none is refused and changes nothing; any other call
changes nothing but the entry of its name, and gives the answer that this entry alone calls for.
So nothing but entries of the directory itself changes, and nothing else is read. -/
theorem confined (absolute : Path.isAbsolute root = true)
    (houses : (part.get w).Houses root place) (label : String) (calls : List Call) :
    ∃ store, outcome (make (FileTree.disk part) label root) w = (.ok store, w) ∧
      (∀ before call later, calls = before ++ call :: later →
        Confined part root place store call (worldAfter store.serve before w)) ∧
      (∀ location, (∀ entry, location ≠ place ++ [entry]) →
        (part.get (worldAfter store.serve calls w)).at? location = (part.get w).at? location) ∧
      ∀ (v : W) (elsewhere : TreeLocation), (part.get v).Houses root elsewhere →
        (∀ entry, (part.get v).at? (elsewhere ++ [entry]) = (part.get w).at? (place ++ [entry])) →
        answersTo store.serve calls v = answersTo store.serve calls w := by
  refine ⟨_, outcome_make houses absolute label, ?_, ?_, ?_⟩
  · rintro before call later rfl
    exact (confined_step absolute (houses_after absolute houses label before) label call).1
  · intro location outside
    exact at?_after absolute houses label fun call _ _ => outside _
  · intro v elsewhere housed alike
    exact answers_alike absolute houses housed alike label calls

/-- A directory with a picture and a directory in it, and a file beside it. -/
def sharedTree : FileTree :=
  { nodes := [([EntryName.ofText "camera"], .directory),
      ([EntryName.ofText "camera", EntryName.ofText "a.jpg"], .file "old".toUTF8),
      ([EntryName.ofText "camera", EntryName.ofText "sub"], .directory),
      ([EntryName.ofText "camera", EntryName.ofText "sub", EntryName.ofText "b.jpg"],
        .file "inner".toUTF8),
      ([EntryName.ofText "secret"], .file "outer".toUTF8)] }

theorem sharedTree_houses : sharedTree.Houses "/camera" [EntryName.ofText "camera"] where
  located := sharedTree.locate_top "camera" (isName_of_isValidName (by decide)) (by decide) rfl
  directory := rfl
  linkless entry target := by
    simp only [FileTree.at?, sharedTree, lookup_cons_ite]
    simp
    split <;> (try split) <;> simp
  distinct := by
    rw [FileTree.Distinct]
    decide

/-- A picture is replaced; a name leads out of the directory, one into a directory inside, and one
is that of a directory. The files outside and further inside are as before. -/
theorem confined_shared :
    let calls := [.ask "a.jpg" (.write "new".toUTF8), .ask "../secret" .read,
      .ask "sub/b.jpg" .delete, .ask "sub" .delete, .url "a.jpg"]
    ∃ store, outcome (make (FileTree.disk (Part.whole FileTree)) "local" "/camera") sharedTree =
        (.ok store, sharedTree) ∧
      FileTree.at? (worldAfter store.serve calls sharedTree) [EntryName.ofText "secret"] =
        some (.file "outer".toUTF8) ∧
      FileTree.at? (worldAfter store.serve calls sharedTree)
        [EntryName.ofText "camera", EntryName.ofText "sub", EntryName.ofText "b.jpg"] =
        some (.file "inner".toUTF8) := by
  intro calls
  obtain ⟨store, made, -, kept, -⟩ := @confined FileTree (Part.whole FileTree) "/camera" _ sharedTree
    (by decide) sharedTree_houses "local" calls
  refine ⟨store, made, ?_, ?_⟩
  · exact kept [EntryName.ofText "secret"] (by simp)
  · exact kept [EntryName.ofText "camera", EntryName.ofText "sub", EntryName.ofText "b.jpg"]
      (by simp)

end DirectoryStore
end CameraRoll
