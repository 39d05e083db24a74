import CameraRoll.Json.Reader
import CameraRoll.Proofs.Json.Members

/-!
What the reader of JSON can give. Main statement: `readable_of_read?`, that the members of what it
read are in order, that it nests no deeper than allowed and that its whole numbers have 64 bits.
-/

namespace CameraRoll

namespace JsonValue

open Json Text

mutual

/-- What the reader can give of a value that stands in so many arrays and objects. -/
def Readable (depth : Nat) : JsonValue → Prop
  | .whole n => -(maxSigned64 + 1 : Int) ≤ n ∧ n ≤ maxWord64
  | .array items => depth < maxNesting ∧ ItemsReadable (depth + 1) items
  | .object members => depth < maxNesting ∧ Ascending members ∧ MembersReadable (depth + 1) members
  | _ => True

/-- All items are readable. -/
def ItemsReadable (depth : Nat) : List JsonValue → Prop
  | [] => True
  | item :: items => Readable depth item ∧ ItemsReadable depth items

/-- All values of members are readable. -/
def MembersReadable (depth : Nat) : List (String × JsonValue) → Prop
  | [] => True
  | (_, value) :: members => Readable depth value ∧ MembersReadable depth members

end

theorem itemsReadable_iff {depth : Nat} {items : List JsonValue} :
    ItemsReadable depth items ↔ ∀ item ∈ items, Readable depth item := by
  induction items with
  | nil => simp [ItemsReadable]
  | cons item items ih => simp [ItemsReadable, ih]

theorem membersReadable_iff {depth : Nat} {members : List (String × JsonValue)} :
    MembersReadable depth members ↔ ∀ member ∈ members, Readable depth member.2 := by
  induction members with
  | nil => simp [MembersReadable]
  | cons member members ih =>
    obtain ⟨key, value⟩ := member
    simp [MembersReadable, ih]

theorem readable_array {depth : Nat} {items : List JsonValue} : (array items).Readable depth ↔
    depth < maxNesting ∧ ∀ item ∈ items, item.Readable (depth + 1) := by
  rw [Readable, itemsReadable_iff]

theorem readable_object {depth : Nat} {members : List (String × JsonValue)} :
    (object members).Readable depth ↔ depth < maxNesting ∧ Ascending members ∧
      ∀ member ∈ members, member.2.Readable (depth + 1) := by
  rw [Readable, membersReadable_iff]

end JsonValue

namespace Json

open Text

/-! ### Reading gives readable values -/

theorem readable_of_value {literal : NumberLiteral} {value : JsonValue}
    (valued : literal.value = some value) (depth : Nat) : value.Readable depth := by
  unfold NumberLiteral.value at valued
  dsimp only at valued
  split at valued
  -- a whole number, negative or not, was checked against its bound
  next n whole =>
    cases valued
    rw [JsonValue.Readable]
    split at whole
    · cases whole
    · split at whole
      · cases whole
      · split at whole
        · split at whole
          · cases whole
          next fits =>
            cases whole
            simp only [Bool.or_eq_true, decide_eq_true_eq, not_or] at fits
            omega
        · split at whole
          · cases whole
          next fits =>
            cases whole
            omega
  · obtain ⟨x, -, rfl⟩ := Option.map_eq_some_iff.mp valued
    trivial

/-- A scalar can stand anywhere. -/
def Token.Readable : Token → Prop
  | .scalar value => ∀ depth, value.Readable depth
  | _ => True

theorem readable_of_mark? {c : Char} {token : Token} (mark : mark? c = some token) :
    token.Readable := by
  unfold mark? at mark
  split at mark <;> cases mark <;> trivial

theorem readable_of_tokenAt {s rest : List Char} {token : Token}
    (taken : tokenAt s = some (token, rest)) : token.Readable := by
  unfold tokenAt at taken
  split at taken
  -- the three words and a text have no bound to keep to
  · cases taken
    exact fun _ => trivial
  · cases taken
    exact fun _ => trivial
  · cases taken
    exact fun _ => trivial
  · obtain ⟨text, -, same⟩ := Option.map_eq_some_iff.mp taken
    cases same
    exact fun _ => trivial
  · split at taken
    next mark =>
      cases taken
      exact readable_of_mark? mark
    · obtain ⟨⟨literal, left⟩, -, read⟩ := Option.bind_eq_some_iff.mp taken
      obtain ⟨value, valued, same⟩ := Option.bind_eq_some_iff.mp read
      cases same
      exact readable_of_value valued
  · cases taken

theorem readable_of_tokens {s : List Char} {taken : List Token} (found : tokens s = some taken) :
    ∀ token ∈ taken, token.Readable := by
  fun_induction tokens s generalizing taken with
  | case1 =>
    cases found
    simp
  | case2 c rest blank ih => exact ih found
  | case3 c rest blank none => cases found
  | case4 c rest blank token left first ih =>
    obtain ⟨others, later, rfl⟩ := Option.map_eq_some_iff.mp found
    intro other member
    rcases List.mem_cons.mp member with rfl | member
    · exact readable_of_tokenAt first
    · exact ih later other member

/-- What stands in an unfinished array or object. -/
def Frame.Readable (depth : Nat) : Frame → Prop
  | .array items => ∀ item ∈ items, item.Readable depth
  | .object members | .member members _ =>
    Ascending members ∧ ∀ member ∈ members, member.2.Readable depth

def FramesReadable : List Frame → Prop
  | [] => True
  | frame :: outer =>
    outer.length < maxNesting ∧ frame.Readable (outer.length + 1) ∧ FramesReadable outer

/-- A machine has taken nothing but readable values. -/
structure Machine.Readable (machine : Machine) : Prop where
  frames : FramesReadable machine.frames
  done : ∀ value, machine.phase = .done value → value.Readable machine.frames.length

theorem readable_of_enter {machine next : Machine} (readable : machine.Readable) {phase : Phase}
    (open_ : ∀ value, phase ≠ .done value) {frame : Frame}
    (empty : frame.Readable (machine.frames.length + 1))
    (entered : machine.enter phase frame = some next) : next.Readable := by
  unfold Machine.enter at entered
  split at entered
  next room =>
    cases entered
    exact ⟨⟨room, empty, readable.frames⟩, fun value same => absurd same (open_ value)⟩
  · cases entered

theorem readable_insertMember {depth : Nat} {members : List (String × JsonValue)} {key : String}
    {value : JsonValue} (readable : Ascending members ∧ ∀ member ∈ members, member.2.Readable depth)
    (new : value.Readable depth) :
    Ascending (insertMember key value members) ∧
      ∀ member ∈ insertMember key value members, member.2.Readable depth := by
  refine ⟨readable.1.insertMember key value, fun member present => ?_⟩
  rcases mem_insertMember present with rfl | old
  · exact new
  · exact readable.2 member old

theorem readable_of_step {machine next : Machine} {token : Token} (readable : machine.Readable)
    (scalar : token.Readable) (stepped : machine.step token = some next) : next.Readable := by
  obtain ⟨phase, frames⟩ := machine
  have around : FramesReadable frames := readable.frames
  have finished : ∀ value, phase = .done value → value.Readable frames.length := readable.done
  -- a machine that has no value at hand is judged by its frames
  have open_ {phase' : Phase} {frames' : List Frame} (unfinished : ∀ value, phase' ≠ .done value)
      (readable' : FramesReadable frames') : Machine.Readable ⟨phase', frames'⟩ :=
    ⟨readable', fun value same => absurd same (unfinished value)⟩
  have closed {value : JsonValue} {frames' : List Frame} (readable' : FramesReadable frames')
      (good : value.Readable frames'.length) : Machine.Readable ⟨.done value, frames'⟩ :=
    ⟨readable', by rintro _ ⟨⟩; exact good⟩
  unfold Machine.step at stepped
  split at stepped
  next value _ =>
    cases stepped
    exact closed around (scalar _)
  -- an array or object begins
  next => exact readable_of_enter readable (by simp) (by simp [Frame.Readable]) stepped
  next => exact readable_of_enter readable (by simp) (by simp [Frame.Readable, Ascending]) stepped
  -- an array ends before a value
  next items outer _ same =>
    obtain rfl : frames = _ := same
    obtain ⟨room, taken, beyond⟩ := around
    cases stepped
    exact closed beyond (JsonValue.readable_array.mpr ⟨room, by simpa [Frame.Readable] using taken⟩)
  -- a key, or the end of an object before one
  next key members outer _ same =>
    obtain rfl : frames = _ := same
    cases stepped
    exact open_ (by simp) around
  next members outer _ same =>
    obtain rfl : frames = _ := same
    obtain ⟨room, taken, beyond⟩ := around
    cases stepped
    exact closed beyond (JsonValue.readable_object.mpr ⟨room, taken⟩)
  -- a colon
  next =>
    cases stepped
    exact open_ (by simp) around
  -- behind a value: a comma or the end, of an array and then of an object
  next value items outer isDone same =>
    obtain rfl : frames = _ := same
    obtain ⟨room, taken, beyond⟩ := around
    cases stepped
    exact open_ (by simp) ⟨room, List.forall_mem_cons.mpr ⟨finished value isDone, taken⟩, beyond⟩
  next value items outer isDone same =>
    obtain rfl : frames = _ := same
    obtain ⟨room, taken, beyond⟩ := around
    cases stepped
    refine closed beyond (JsonValue.readable_array.mpr ⟨room, fun item member => ?_⟩)
    rcases List.mem_cons.mp (List.mem_reverse.mp member) with rfl | old
    · exact finished item isDone
    · exact taken item old
  next value members key outer isDone same =>
    obtain rfl : frames = _ := same
    obtain ⟨room, taken, beyond⟩ := around
    cases stepped
    exact open_ (by simp) ⟨room, readable_insertMember taken (finished value isDone), beyond⟩
  next value members key outer isDone same =>
    obtain rfl : frames = _ := same
    obtain ⟨room, taken, beyond⟩ := around
    cases stepped
    exact closed beyond
      (JsonValue.readable_object.mpr ⟨room, readable_insertMember taken (finished value isDone)⟩)
  next => cases stepped

theorem readable_of_foldlM {taken : List Token} {machine last : Machine}
    (readable : machine.Readable) (scalars : ∀ token ∈ taken, token.Readable)
    (ended : taken.foldlM Machine.step machine = some last) : last.Readable := by
  induction taken generalizing machine with
  | nil =>
    cases ended
    exact readable
  | cons token rest ih =>
    rw [List.foldlM_cons] at ended
    obtain ⟨next, stepped, later⟩ := Option.bind_eq_some_iff.mp ended
    obtain ⟨first, others⟩ := List.forall_mem_cons.mp scalars
    exact ih (readable_of_step readable first stepped) others later

end Json

/-- What is read has its members in order, nests no deeper than allowed, and its whole numbers have
64 bits. -/
theorem JsonValue.readable_of_read? {bytes : ByteArray} {value : JsonValue}
    (found : read? bytes = some value) : value.Readable 0 := by
  obtain ⟨text, -, chars⟩ := Option.bind_eq_some_iff.mp found
  obtain ⟨taken, lexed, parsed⟩ := Option.bind_eq_some_iff.mp chars
  obtain ⟨last, ended, finished⟩ := Option.bind_eq_some_iff.mp parsed
  have start : Json.Machine.start.Readable := ⟨trivial, by simp [Json.Machine.start]⟩
  have readable := Json.readable_of_foldlM start (Json.readable_of_tokens lexed) ended
  unfold Json.Machine.value? at finished
  split at finished
  next isDone noFrames =>
    cases finished
    have done := readable.done _ isDone
    rwa [noFrames] at done
  · cases finished

end CameraRoll
