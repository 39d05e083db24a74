import CameraRoll.Proofs.Catalog.NewPictures
import CameraRoll.Proofs.Naming.Exhaustion

/-!
Whether the search for a free name ends. Main statements: `createFree_eq_iff`, that the number of
attempts cuts no search off that would end later, and `search_ends_iff`, that a search ends unless
all names up to the largest index are taken.
-/

namespace CameraRoll

open CameraRoll.Naming

variable {W : Type}

namespace Resolver

/-! ### The search without a limit -/

/-- The search for a free name with as many attempts as it takes, from a candidate on. It ends at the
first attempt that is not refused because of a taken name. -/
inductive Search (store : Store (StateM W)) :
    String → W → Except ResolverError FileInfo → W → Prop
  | created {candidate : String} {w after : W} {info : FileInfo}
      (done : outcome (store.create candidate .empty) w = (.ok info, after)) :
      Search store candidate w (.ok info) after
  | refused {candidate : String} {w after : W} {e : StoreError}
      (apart : ∀ other, e ≠ .alreadyExists other)
      (failed : outcome (store.create candidate .empty) w = (.error e, after)) :
      Search store candidate w (.error (.storage e)) after
  | next {candidate other : String} {w between after : W} {answer : Except ResolverError FileInfo}
      (taken : outcome (store.create candidate .empty) w =
        (.error (.alreadyExists other), between))
      (rest : Search store (nextName candidate) between answer after) :
      Search store candidate w answer after

/-- The store refuses the name as taken. -/
def Refuses (store : Store (StateM W)) (w : W) (name : String) : Prop :=
  ∃ other, outcome (store.create name .empty) w = (.error (.alreadyExists other), w)

def SearchEnds (store : Store (StateM W)) (name : String) (w : W) : Prop :=
  ∃ answer after, Search store name w answer after

variable {store : Store (StateM W)} {name candidate : String} {w after : W}
  {answer : Except ResolverError FileInfo}

/-- A limited search that does not run out of attempts is the search without a limit. -/
theorem search_of_createFree {attempts : Nat} (found : answer ≠ .error (.noFreeName name))
    (ran : outcome (createFree store name attempts candidate) w = (answer, after)) :
    Search store candidate w answer after := by
  -- by induction on the attempts that are left; only without any is there no free name
  induction attempts generalizing candidate w with
  | zero =>
    cases ran
    exact absurd rfl found
  | succ attempts ih =>
    rw [createFree, outcome_bind, outcome_liftM, run_run] at ran
    dsimp only at ran
    rcases tried : outcome (store.create candidate .empty) w with ⟨e | info, between⟩
    · rw [tried] at ran
      cases e with
      | alreadyExists other => exact .next tried (ih ran)
      | _ =>
        cases ran
        exact .refused (fun other same => by cases same) tried
    · rw [tried] at ran
      cases ran
      exact .created tried

theorem Search.noFreeName_ne (search : Search store candidate w answer after) :
    answer ≠ .error (.noFreeName name) := by
  induction search with
  | created done => exact fun same => by cases same
  | refused apart failed => exact fun same => by cases same
  | next taken rest ih => exact ih

theorem Search.unique {other : Except ResolverError FileInfo} {after' : W}
    (search : Search store candidate w answer after)
    (search' : Search store candidate w other after') : answer = other ∧ after = after' := by
  -- both take the same step, since the store gives one answer to the candidate
  induction search with
  | created done =>
    cases search' with
    | created done' =>
      cases done.symm.trans done'
      exact ⟨rfl, rfl⟩
    | refused apart failed => cases done.symm.trans failed
    | next taken rest => cases done.symm.trans taken
  | refused apart failed =>
    cases search' with
    | created done => cases failed.symm.trans done
    | refused apart' failed' =>
      cases failed.symm.trans failed'
      exact ⟨rfl, rfl⟩
    | next taken rest =>
      cases failed.symm.trans taken
      exact absurd rfl (apart _)
  | next taken rest ih =>
    cases search' with
    | created done => cases taken.symm.trans done
    | refused apart failed =>
      cases taken.symm.trans failed
      exact absurd rfl (apart _)
    | next taken' rest' =>
      cases taken.symm.trans taken'
      exact ih rest'

/-- Where all names are refused as taken, no search ends. -/
theorem not_searchEnds_of_taken
    (taken : ∀ n, Refuses store w (nextName^[n] candidate)) : ¬SearchEnds store candidate w := by
  rintro ⟨answer, after, search⟩
  induction search with
  | created done =>
    obtain ⟨other, refused⟩ := taken 0
    cases done.symm.trans refused
  | refused apart failed =>
    obtain ⟨other, refused⟩ := taken 0
    cases failed.symm.trans refused
    exact apart _ rfl
  | next refused rest ih =>
    obtain ⟨other, refused'⟩ := taken 0
    cases refused.symm.trans refused'
    -- the names from the next one on are the names from this one on but for the first
    exact ih fun n => taken (n + 1)

section Limited

variable (quiet : ∀ file e after,
  outcome (store.create file .empty) w = (.error e, after) → after = w)
include quiet

/-- The attempts of a search do not run out before it would end: either it is the search without a
limit, or all names are refused as taken. -/
theorem search_cases (name : String) :
    (∃ answer after, Search store name w answer after ∧
      outcome (createFree store name nameCount name) w = (answer, after)) ∨
    ((∀ n, Refuses store w (nextName^[n] name)) ∧
      outcome (createFree store name nameCount name) w = (.error (.noFreeName name), w)) := by
  rcases createFree_cases quiet name nameCount name with
    ⟨n, -, info, after, -, -, done⟩ | ⟨n, -, e, -, -, failed⟩ | ⟨all, failed⟩
  · exact .inl ⟨_, _, search_of_createFree (fun same => by cases same) done, done⟩
  · exact .inl ⟨_, _, search_of_createFree (fun same => by cases same) failed, failed⟩
  · exact .inr ⟨taken_forever (Refuses store w) all, failed⟩

/-- A search for a free name ends, unless all names up to the largest index are refused. -/
theorem searchEnds_iff : SearchEnds store name w ↔ ¬Exhausted (Refuses store w) name := by
  rw [exhausted_iff]
  constructor
  · intro ends all
    exact not_searchEnds_of_taken all ends
  · intro some
    rcases search_cases quiet name with ⟨answer, after, search, -⟩ | ⟨all, -⟩
    · exact ⟨answer, after, search⟩
    · exact absurd all some

/-- The number of attempts cuts no search off that would end later. -/
theorem createFree_eq_iff :
    outcome (createFree store name nameCount name) w = (answer, after) ∧
        answer ≠ .error (.noFreeName name) ↔
      Search store name w answer after := by
  constructor
  · rintro ⟨ran, found⟩
    exact search_of_createFree found ran
  · intro search
    rcases search_cases quiet name with ⟨answer', after', search', ran⟩ | ⟨all, -⟩
    · obtain ⟨rfl, rfl⟩ := search.unique search'
      exact ⟨ran, search.noFreeName_ne⟩
    · exact absurd ⟨answer, after, search⟩ (not_searchEnds_of_taken all)

end Limited

/-! ### Who searches -/

section Callers

variable {resolver : Resolver (StateM W)} {location : Location} {content : ByteArray}
  (here : resolver.store? location = some store)
include here

theorem outcome_createFile
    (ran : outcome (createFree store name nameCount name) w = (answer, after)) :
    outcome (resolver.createFile location name) w =
      (answer.map fun info => some (.ofInfo location info), after) := by
  rw [createFile, here]
  dsimp only
  rw [outcome_bind_pure, ran]

omit here in
theorem storage_of_fill {e : ResolverError}
    (failed : (outcome (fill store name content) w).1 = .error e) : ∃ cause, e = .storage cause := by
  rw [fill, outcome_bind, outcome_liftM, run_run] at failed
  dsimp only at failed
  cases written : (outcome (store.write name content) w).1 with
  | ok _ =>
    rw [written] at failed
    cases failed
  | error cause =>
    rw [written] at failed
    exact ⟨cause, (Except.error.inj failed).symm⟩

theorem createFree_of_save_noFreeName {other : String}
    (failed : (outcome (resolver.save location name content) w).1 = .error (.noFreeName other)) :
    (outcome (createFree store name nameCount name) w).1 = .error (.noFreeName other) := by
  rcases searched : outcome (createFree store name nameCount name) w with ⟨e | info, between⟩
  · rw [save_of_createFree_error here searched content] at failed
    cases failed
    rfl
  -- a name that was found is filled and seen, which fails for other reasons
  · rw [save, outcome_bind_ok (outcome_require here w), outcome_bind_ok searched] at failed
    rcases filled : outcome (fill store info.name content) between with ⟨e | _, full⟩
    · obtain ⟨cause, rfl⟩ := storage_of_fill (congrArg Prod.fst filled)
      rw [outcome_bind_error filled] at failed
      cases failed
    · rw [outcome_bind_ok filled, storing] at failed
      rcases seen : outcome (store.stat info.name) full with ⟨cause | stored, last⟩
      · rw [outcome_bind_error (outcome_adapt_error seen _)] at failed
        cases failed
      · rw [outcome_bind_ok (outcome_adapt_ok seen _)] at failed
        cases failed

end Callers

/-! ### Names that are taken -/

section Taken

variable {part : Part W MemoryStore}

/-- Names are refused because of files that have them. -/
theorem exhausted_of_refuses (taken : store.TakenByFiles part) (regular : (part.get w).Regular)
    (truthful : (part.get w).Truthful) (refuses : Exhausted (Refuses store w) name) :
    Exhausted (fun file => ((part.get w).find? file).isSome = true) name := by
  rw [exhausted_iff] at refuses ⊢
  intro n
  obtain ⟨other, failed⟩ := refuses n
  exact taken w _ _ other regular truthful (congrArg Prod.fst failed)

theorem refuses_of_exhausted (accepts : store.Accepts part w) (valid : isValidName name = true)
    (exhausted : Exhausted (fun file => ((part.get w).find? file).isSome = true) name) :
    Exhausted (Refuses store w) name := by
  rw [exhausted_iff] at exhausted ⊢
  intro n
  obtain ⟨old, found⟩ := Option.isSome_iff_exists.mp (exhausted n)
  exact ⟨_, accepts.taken _ .empty old (isValidName_iterate_nextName valid n) found⟩

end Taken

end Resolver

open Bench Resolver

/-! ### Stores of a bench -/

/-- A file of this name is in the location. -/
def Bench.Has (bench : Bench) (location : Location) (name : String) : Prop :=
  (((partAt location).get bench).find? name).isSome = true

/-- A file exists if its location does, and it is stored there. -/
def Resolver.Finds (resolver : Resolver (StateM Bench)) (bench : Bench) (file : StoredFile) : Prop :=
  (resolver.store? file.location).isSome = true ∧ bench.Has file.location file.name

theorem Resolver.finds_of_primary {resolver : Resolver (StateM Bench)} {bench : Bench}
    (regular : bench.Regular) {file : StoredFile} (member : file ∈ resolver.primaries bench) :
    resolver.Finds bench file := by
  obtain ⟨store, here⟩ := resolver.exists_authoritative
  rw [← Resolver.primaries_location member] at here
  exact ⟨Option.isSome_of_eq_some here, Resolver.stored_of_primary regular member⟩

/-- A save fails for lack of a free name exactly if the search for one has no end. -/
theorem save_noFreeName_iff {resolver : Resolver (StateM Bench)} (backs : Backs resolver)
    {location : Location} {store : Store (StateM Bench)}
    (here : resolver.store? location = some store) {bench : Bench} (regular : bench.Regular)
    (name other : String) (content : ByteArray) :
    (outcome (resolver.save location name content) bench).1 = .error (.noFreeName other) ↔
      name = other ∧ ¬SearchEnds store name bench := by
  rcases search_cases (create_quiet (backs.holds here) (regular.at location)) name with
    ⟨answer, after, search, ran⟩ | ⟨refused, ran⟩
  · refine iff_of_false ?_ fun never => never.2 ⟨answer, after, search⟩
    intro failed
    have noFree := createFree_of_save_noFreeName here failed
    rw [ran] at noFree
    exact search.noFreeName_ne noFree
  · rw [save_of_createFree_error here ran content]
    constructor
    · intro failed
      cases failed
      exact ⟨rfl, not_searchEnds_of_taken refused⟩
    · rintro ⟨rfl, -⟩
      rfl

/-- A migration that never ends does so at a name outside without a free one behind it. -/
theorem exhausted_of_migrate {resolver : Resolver (StateM Bench)} (backs : Backs resolver)
    (outside : resolver.hasExternal = true) {bench : Bench} (sound : bench.Sound) {name : String}
    (failed : (outcome resolver.migrate bench).1 = .error (.migration (.noFreeName name))) :
    Exhausted ((outcome resolver.migrate bench).2.Has .external) name := by
  obtain ⟨store, here⟩ := Option.isSome_iff_exists.mp outside
  have outside' : resolver.store? .external = some store := here
  have moves := migrate_moves backs.toServes here sound.regular
  -- the save that fails would fail in the same way once more
  obtain ⟨cause, asked, content, same, -, refused⟩ := moves.failure _ failed
  cases same
  have truthful : ((partAt .external).get (outcome resolver.migrate bench).2).Truthful := by
    intro fault member
    exact sound.external fault (moves.faults ▸ member)
  obtain ⟨rfl, never⟩ :=
    (save_noFreeName_iff backs outside' moves.regular _ _ content).mp (congrArg Prod.fst refused)
  have regular := moves.regular.at .external
  rw [searchEnds_iff (create_quiet (backs.holds outside') regular), not_not] at never
  exact exhausted_of_refuses (backs.taken outside') regular truthful never

/-- A search for a free name ends, unless all names up to the largest index are refused, for which
there have to be files of all these names. What searches for a free name ends with it. -/
theorem search_ends_iff (around : Surroundings) (quota : Nat) (zone : Calendar.Zone) {bench : Bench}
    (sound : bench.Sound) (name : String) :
    (∀ names : Finset String,
      ((∃ n, nextName^[n] name ∉ names) ↔ ¬Exhausted (· ∈ names) name) ∧
      ((∃ n, nextName^[n] name ∉ names) → ∃ n ≤ names.card + 2, nextName^[n] name ∉ names)) ∧
    let resolver := session around quota zone
    (∀ location store, resolver.store? location = some store →
      (SearchEnds store name bench ↔ ¬Exhausted (Refuses store bench) name) ∧
      (Exhausted (Refuses store bench) name → Exhausted (bench.Has location) name) ∧
      (store.Accepts (partAt location) bench → isValidName name = true →
        Exhausted (bench.Has location) name → Exhausted (Refuses store bench) name) ∧
      (∀ answer after, Search store name bench answer after →
        outcome (resolver.createFile location name) bench =
          (answer.map fun info => some (.ofInfo location info), after)) ∧
      (¬SearchEnds store name bench →
        outcome (resolver.createFile location name) bench = (.error (.noFreeName name), bench)) ∧
      ∀ content other,
        (outcome (resolver.save location name content) bench).1 = .error (.noFreeName other) ↔
          name = other ∧ ¬SearchEnds store name bench) ∧
    (resolver.hasExternal = true →
      (outcome resolver.migrate bench).1 = .error (.migration (.noFreeName name)) →
      Exhausted ((outcome resolver.migrate bench).2.Has .external) name) := by
  constructor
  · intro names
    refine ⟨?_, exists_free_near⟩
    rw [exhausted_iff]
    push Not
    rfl
  · intro resolver
    have backs := backs_session around quota zone
    refine ⟨?_, fun outside failed => exhausted_of_migrate backs outside sound failed⟩
    intro location store here
    have regular := sound.regular.at location
    have quiet := create_quiet (backs.holds here) regular
    refine ⟨searchEnds_iff quiet, ?_, refuses_of_exhausted, ?_, ?_,
      fun content other => save_noFreeName_iff backs here sound.regular name other content⟩
    · exact exhausted_of_refuses (backs.taken here) regular (sound.truthful location)
    · intro answer after search
      exact outcome_createFile here ((createFree_eq_iff quiet).mpr search).1
    · intro never
      rcases search_cases quiet name with ⟨answer, after, search, -⟩ | ⟨-, ran⟩
      · exact absurd ⟨answer, after, search⟩ never
      · exact outcome_createFile here ran

/-- Outside, the name asked for and the next one are taken. -/
theorem search_ends_iff_third :
    let bench : Bench := { external := { files := [("IMG.jpg", ⟨#[1]⟩), ("IMG (1).jpg", ⟨#[2]⟩)] } }
    SearchEnds (Bench.externalStore none) "IMG.jpg" bench ∧
    ∃ n ≤ 4, nextName^[n] "IMG.jpg" ∉ ({"IMG.jpg", "IMG (1).jpg"} : Finset String) := by
  intro bench
  have third : nextName^[2] "IMG.jpg" = "IMG (2).jpg" := by decide +kernel
  have free : ¬bench.Has .external (nextName^[2] "IMG.jpg") := by
    rw [third]
    change ¬(bench.external.find? "IMG (2).jpg").isSome = true
    decide
  have sound : bench.Sound :=
    { regular := ⟨MemoryStore.regular_empty, by decide, by decide, by simp [bench]⟩
      internal := MemoryStore.truthful_empty
      external := fun _ member => by cases member }
  obtain ⟨near, searched, -⟩ := search_ends_iff { external := .present } 9 (.fixed 0) sound "IMG.jpg"
  constructor
  · obtain ⟨ends, held, -⟩ := searched .external _ rfl
    refine ends.mpr fun refuses => ?_
    exact free (exhausted_iff.mp (held refuses) 2)
  · refine (near {"IMG.jpg", "IMG (1).jpg"}).2 ⟨2, ?_⟩
    rw [third]
    decide

/-- The name with the largest index is followed by itself, so that a search which finds it taken has
no end. A larger index belongs to the text of a name, and the search goes on behind it. -/
theorem search_endless :
    let name := "x (18446744073709551615).jpg"
    let bench : Bench := { external := { files := [(name, ⟨#[1]⟩)] } }
    (∀ n, nextName^[n] name = name) ∧ ¬SearchEnds (Bench.externalStore none) name bench ∧
    nextName "x (18446744073709551616).jpg" = "x (18446744073709551616) (1).jpg" := by
  intro name bench
  have same : nextName name = name := by decide +kernel
  refine ⟨Function.iterate_fixed same, ?_, by decide +kernel⟩
  apply not_searchEnds_of_taken
  intro n
  rw [Function.iterate_fixed same n]
  have accepts : (Bench.externalStore none).Accepts externalPart bench :=
    MemoryStore.operations_accepts externalPart rfl "external" none
  exact ⟨name, accepts.taken name .empty ⟨#[1]⟩ (by decide +kernel) (by decide +kernel)⟩

end CameraRoll
