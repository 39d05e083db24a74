import CameraRoll.Proofs.Json.Lexing

/-!
Values that are written and read again. The machine is followed through the tokens of one value at
a time, whatever it stands in. Main statements: `ofChars?_write`, that an exact value that can be
read at all is read as it was written, and `ofTokens?_object`, that an object is read with
the last value under each of its keys, in whatever order they come.
-/

namespace CameraRoll

namespace Json

mutual

/-- A machine that waits for a value takes the tokens of one. -/
theorem foldlM_tokensOf : (value : JsonValue) → (frames : List Frame) →
    value.Readable frames.length → (mayClose : Bool) → (more : List Token) →
    (tokensOf value ++ more).foldlM Machine.step ⟨.item mayClose, frames⟩ =
      more.foldlM Machine.step ⟨.done value, frames⟩
  | .null, _, _, _, _ => rfl
  | .bool _, _, _, _, _ => rfl
  | .whole _, _, _, _, _ => rfl
  | .real _, _, _, _, _ => rfl
  | .text _, _, _, _, _ => rfl
  | .array [], frames, readable, mayClose, more => by
    rw [JsonValue.Readable] at readable
    have opened : Machine.step ⟨.item mayClose, frames⟩ .openArray =
        some ⟨.item true, .array [] :: frames⟩ := if_pos readable.1
    rw [tokensOf, List.cons_append, List.foldlM_cons, opened]
    rfl
  | .array (item :: items), frames, readable, mayClose, more => by
    rw [JsonValue.Readable, JsonValue.ItemsReadable] at readable
    obtain ⟨room, first, others⟩ := readable
    have opened : Machine.step ⟨.item mayClose, frames⟩ .openArray =
        some ⟨.item true, .array [] :: frames⟩ := if_pos room
    simp only [tokensOf, List.cons_append, List.append_assoc]
    rw [List.foldlM_cons, opened, Option.bind_eq_bind, Option.bind_some,
      foldlM_tokensOf item (.array [] :: frames) first]
    exact foldlM_itemTokens items item [] frames others more
  | .object members, frames, readable, mayClose, more => by
    rw [JsonValue.Readable] at readable
    obtain ⟨room, ascending, values⟩ := readable
    -- members that are in order are put in one behind the other
    have inOrder := foldl_insertMember (show Ascending ([] ++ members) from ascending)
    rw [foldlM_objectTokens members frames room values mayClose more, inOrder, List.nil_append]

/-- Behind an item come the others, and the end of the array. -/
theorem foldlM_itemTokens : (items : List JsonValue) → (last : JsonValue) →
    (taken : List JsonValue) → (frames : List Frame) →
    JsonValue.ItemsReadable (frames.length + 1) items → (more : List Token) →
    (itemTokens items ++ .closeArray :: more).foldlM Machine.step
        ⟨.done last, .array taken :: frames⟩ =
      more.foldlM Machine.step ⟨.done (.array (taken.reverse ++ last :: items)), frames⟩
  | [], last, taken, frames, _, more => by
    rw [itemTokens, List.nil_append, List.foldlM_cons, ← List.reverse_cons]
    rfl
  | item :: items, last, taken, frames, readable, more => by
    rw [JsonValue.ItemsReadable] at readable
    have rest := foldlM_itemTokens items item (last :: taken) frames readable.2 more
    rw [List.reverse_cons, List.append_assoc, List.singleton_append] at rest
    simp only [itemTokens, List.cons_append, List.append_assoc]
    rw [← rest]
    exact foldlM_tokensOf item (.array (last :: taken) :: frames) readable.1 false _

/-- The members of an object may come in any order, and some more than once. -/
theorem foldlM_objectTokens : (members : List (String × JsonValue)) → (frames : List Frame) →
    frames.length < maxNesting → JsonValue.MembersReadable (frames.length + 1) members →
    (mayClose : Bool) → (more : List Token) →
    (tokensOf (.object members) ++ more).foldlM Machine.step ⟨.item mayClose, frames⟩ =
      more.foldlM Machine.step ⟨.done (.object (members.foldl
        (fun members member => insertMember member.1 member.2 members) [])), frames⟩
  | [], frames, room, _, mayClose, more => by
    have opened : Machine.step ⟨.item mayClose, frames⟩ .openObject =
        some ⟨.key true, .object [] :: frames⟩ := if_pos room
    rw [tokensOf, List.cons_append, List.foldlM_cons, opened]
    rfl
  | (key, value) :: members, frames, room, readable, mayClose, more => by
    rw [JsonValue.MembersReadable] at readable
    have opened : Machine.step ⟨.item mayClose, frames⟩ .openObject =
        some ⟨.key true, .object [] :: frames⟩ := if_pos room
    have first := foldlM_tokensOf value (.member [] key :: frames) readable.1 false
    have others := foldlM_memberTokens members key value [] frames readable.2 more
    simp only [tokensOf, List.cons_append, List.append_assoc]
    rw [List.foldlM_cons, opened, Option.bind_eq_bind, Option.bind_some, ← others]
    exact first _

/-- Behind a member come the others, and the end of the object. -/
theorem foldlM_memberTokens : (members : List (String × JsonValue)) → (key : String) →
    (value : JsonValue) → (taken : List (String × JsonValue)) → (frames : List Frame) →
    JsonValue.MembersReadable (frames.length + 1) members → (more : List Token) →
    (memberTokens members ++ .closeObject :: more).foldlM Machine.step
        ⟨.done value, .member taken key :: frames⟩ =
      more.foldlM Machine.step ⟨.done (.object (((key, value) :: members).foldl
        (fun members member => insertMember member.1 member.2 members) taken)), frames⟩
  | [], _, _, _, _, _, _ => rfl
  | (other, item) :: members, key, value, taken, frames, readable, more => by
    rw [JsonValue.MembersReadable] at readable
    simp only [memberTokens, List.cons_append, List.append_assoc]
    rw [List.foldl_cons, ← foldlM_memberTokens members other item _ frames readable.2 more]
    exact foldlM_tokensOf item (.member (insertMember key value taken) other :: frames) readable.1
      false _

end

theorem ofTokens?_tokensOf {value : JsonValue} (readable : value.Readable 0) :
    ofTokens? (tokensOf value) = some value := by
  have ran := foldlM_tokensOf value [] readable false []
  rw [List.append_nil] at ran
  rw [ofTokens?, Machine.start, ran]
  rfl

/-- Of several members under one key the last one stays. -/
theorem ofTokens?_object {entries : List (String × JsonValue)}
    (readable : JsonValue.MembersReadable 1 entries) :
    ∃ members, ofTokens? (tokensOf (.object entries)) = some (.object members) ∧
      ∀ key, members.lookup key = entries.reverse.lookup key := by
  have ran := foldlM_objectTokens entries [] (by decide) readable false []
  rw [List.append_nil] at ran
  refine ⟨_, by rw [ofTokens?, Machine.start, ran]; rfl, fun key => ?_⟩
  rw [lookup_foldl_insertMember, List.lookup_nil, Option.or_none]

/-- What is written is read again. -/
theorem ofChars?_write {value : JsonValue} (readable : value.Readable 0) (exact : value.Exact) :
    ofChars? (write 0 value) = some value := by
  have ends : EndsNumber [] := by rintro _ ⟨⟩
  have lexed := tokens_write 0 value readable exact ends
  have none : tokens [] = some [] := by rw [tokens]
  rw [List.append_nil, none, Option.map_some, List.append_nil] at lexed
  rw [ofChars?, lexed, Option.bind_eq_bind, Option.bind_some, ofTokens?_tokensOf readable]

end Json

end CameraRoll
