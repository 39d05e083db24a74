import CameraRoll.Media.Png

/-!
Reading a PNG file with a single row: each of its chunks (`Png.chunk?_of_parts`), the samples that
one chunk holds, and of these a stream of zeros that is written with runs (`Deflate.symbols?_zeros`).
Such a file is read from as few facts about its bytes as there are parts of it, however many pixels
it has (`Png.decode?_of_row`).
-/

namespace CameraRoll

namespace Deflate

/-- So many zeros. -/
def zeros (count : Nat) : ByteArray := ⟨Array.replicate count 0⟩

theorem size_zeros (count : Nat) : (zeros count).size = count := by simp [zeros, ByteArray.size]

theorem byteAt_zeros (count place : Nat) : byteAt (zeros count) place = 0 := by
  unfold byteAt
  split
  · exact Array.getElem_replicate ..
  · rfl

theorem repeatFrom_zeros (count more : Nat) :
    repeatFrom (zeros count) 1 more = zeros (count + more) := by
  induction more generalizing count with
  | zero => rfl
  | succ more ih =>
    have pushed : (zeros count).push 0 = zeros (count + 1) := by
      rw [zeros, zeros, Array.replicate_succ]
      rfl
    rw [repeatFrom, byteAt_zeros, pushed, ih, Nat.add_right_comm, Nat.add_assoc]

/-- A run of the greatest length goes on with the zeros before it. -/
theorem symbols?_run {bits : Bits} {pos : Nat}
    (long : fixedLiterals.decode? bits pos = some (285, pos + 8))
    (near : fixedDistances.decode? bits (pos + 8) = some (0, pos + 13)) (fuel : Nat) {count : Nat}
    (some : 0 < count) :
    symbols? bits fixedLiterals fixedDistances (fuel + 1) ⟨pos, zeros count⟩ =
      symbols? bits fixedLiterals fixedDistances fuel ⟨pos + 13, zeros (count + 258)⟩ := by
  -- neither this length nor this distance has further bits
  have length (c : Cursor) : lengthened? bits runLengths 28 c = .some (258, c) := rfl
  have distance (c : Cursor) : lengthened? bits distances 0 c = .some (1, c) := rfl
  rw [symbols?]
  simp only [long, Option.bind_eq_bind, Option.bind_some]
  rw [if_neg (by decide), if_neg (by decide)]
  simp only [length, near, distance, Option.bind_some, size_zeros]
  rw [if_pos (by omega), repeatFrom_zeros]

/-- So do any number of runs. -/
theorem symbols?_runs {bits : Bits} {start runs : Nat}
    (long : ∀ i < runs, fixedLiterals.decode? bits (start + 13 * i) =
      some (285, start + 13 * i + 8))
    (near : ∀ i < runs, fixedDistances.decode? bits (start + 13 * i + 8) =
      some (0, start + 13 * i + 13)) (fuel : Nat) {count : Nat} (some : 0 < count) :
    symbols? bits fixedLiterals fixedDistances (fuel + runs) ⟨start, zeros count⟩ =
      symbols? bits fixedLiterals fixedDistances fuel
        ⟨start + 13 * runs, zeros (count + 258 * runs)⟩ := by
  induction runs generalizing fuel with
  | zero => rfl
  | succ runs ih =>
    have before := ih (fun i first => long i (by omega)) (fun i first => near i (by omega)) (fuel + 1)
    have last := symbols?_run (long runs (by omega)) (near runs (by omega)) fuel
      (show 0 < count + 258 * runs by omega)
    have steps : fuel + (runs + 1) = fuel + 1 + runs := by omega
    have place : start + 13 * (runs + 1) = start + 13 * runs + 13 := by omega
    have held : count + 258 * (runs + 1) = count + 258 * runs + 258 := by omega
    rw [steps, before, last, place, held]

/-- A block of zeros: one of them, runs that go on with it, and the end. -/
theorem symbols?_zeros {bits : Bits} {start runs stop : Nat}
    (first : fixedLiterals.decode? bits start = some (0, start + 8))
    (long : ∀ i < runs, fixedLiterals.decode? bits (start + 8 + 13 * i) =
      some (285, start + 8 + 13 * i + 8))
    (near : ∀ i < runs, fixedDistances.decode? bits (start + 8 + 13 * i + 8) =
      some (0, start + 8 + 13 * i + 13))
    (last : fixedLiterals.decode? bits (start + 8 + 13 * runs) = some (256, stop)) (fuel : Nat) :
    symbols? bits fixedLiterals fixedDistances (fuel + 1 + runs + 1) ⟨start, ByteArray.empty⟩ =
      some ⟨stop, zeros (1 + 258 * runs)⟩ := by
  have one : ByteArray.empty.push (UInt8.ofNat 0) = zeros 1 := rfl
  rw [symbols?]
  simp only [first, Option.bind_eq_bind, Option.bind_some, Nat.reduceLT, if_true, one]
  rw [symbols?_runs long near (fuel + 1) (by decide), symbols?]
  simp only [last, Option.bind_eq_bind, Option.bind_some, Nat.reduceLT, if_false, if_true]
  rfl

theorem block?_fixed {bits : Bits} {c next begin : Cursor} {last : Nat}
    (flag : c.take? bits 1 = some (last, next)) (kind : next.take? bits 2 = some (1, begin)) :
    block? bits c = (symbols? bits fixedLiterals fixedDistances (bits.length + 1) begin).map
      fun c => (last == 1, c) := by
  rw [block?]
  simp only [flag, kind, Option.bind_eq_bind, Option.bind_some]
  cases symbols? bits fixedLiterals fixedDistances (bits.length + 1) begin <;> rfl

theorem inflate?_of_block {stream out : ByteArray} {header stop : Nat}
    (read : ByteOrder.greatestFirst.number? stream 0 2 = some header)
    (sound : ¬ (header / 256 % 16 ≠ 8 ∨ header / 256 / 16 > 7 ∨ header % 31 ≠ 0 ∨
      header / 32 % 2 = 1))
    (block : block? ⟨stream, false, false⟩ ⟨16, ByteArray.empty⟩ = some (true, ⟨stop, out⟩))
    (checked : (stop + 7) / 8 + 4 ≤ stream.size) : inflate? stream = some out := by
  simp only [inflate?, read, Option.bind_eq_bind, Option.bind_some, if_neg sound, blocks?, block,
    if_true]
  exact if_pos checked

end Deflate

namespace Png

/-- A chunk is read if its size, its kind and its checksum stand where they should. -/
theorem chunk?_of_parts {file : ByteArray} {place size check : Nat} {kind : List UInt8}
    (long : ByteOrder.greatestFirst.number? file place 4 = some size)
    (named : bytesAt? file (place + 4) 4 = some kind)
    (stated : ByteOrder.greatestFirst.number? file (place + 8 + size) 4 = some check)
    (sound : (checksum file (place + 4) (place + 8 + size)).toNat = check) :
    chunk? file place = some (⟨kind, file.extract (place + 8) (place + 8 + size), true⟩,
      place + 8 + size + 4) := by
  simp only [chunk?, long, named, stated, sound, Option.bind_eq_bind, Option.bind_some,
    beq_self_eq_true]
  rfl

/-- A single chunk of samples in front of a chunk of another kind. -/
theorem samples?_of_chunk {file : ByteArray} {place next : Nat} {chunk : Chunk} {kind : List UInt8}
    (named : bytesAt? file (place + 4) 4 = some samplesKind)
    (read : chunk? file place = some (chunk, next)) (sound : chunk.sound = true)
    (further : place < next ∧ place < file.size)
    (behind : bytesAt? file (next + 4) 4 = some kind) (other : kind ≠ samplesKind) :
    samples? file place ByteArray.empty = some chunk.content := by
  have ended : samples? file next chunk.content = some chunk.content := by
    rw [samples?, behind]
    exact if_neg other
  rw [samples?]
  simp only [named, read, sound, if_true, Bool.not_true, Bool.false_eq_true, if_false,
    ByteArray.empty_append, ended]
  exact dif_pos further

/-- What is read of a file whose rows are all in one pass, and of which there is one. -/
theorem decode?_of_row {file stream data : ByteArray} {first : Chunk} {behind start : Nat}
    {header : Header} {expect : Nat → Nat → Nat → Nat} (starts : startsWith file signature = true)
    (framed : chunk? file 8 = some (first, behind))
    (sound : ¬ (first.kind ≠ headerKind ∨ (!first.sound) = true))
    (read : Header.read? first.content = some header) (grey : header.colourType ≠ .palette)
    (single : header.interlaced = false) (row : header.height = 1) (wide : 0 < header.width)
    (found : paletteAndSamples? file behind none = some (none, start))
    (sent : samples? file start ByteArray.empty = some stream)
    (inflated : Deflate.inflate? stream = some data)
    (enough : (header.width * header.pixelBits + 7) / 8 < data.size)
    (filter : expected? (byteAt data 0) = some expect) :
    ∃ image, decode? file = some image ∧ image.raster.width = header.width ∧
      image.raster.height = 1 := by
  -- the only pass is that of all pixels, and has one row
  have passes : header.passes = [⟨0, 0, 1, 1⟩] := by rw [Header.passes, single]; rfl
  have columns : Pass.columns ⟨0, 0, 1, 1⟩ header = header.width := by simp [Pass.columns]
  have rows : Pass.rows ⟨0, 0, 1, 1⟩ header = 1 := by simp [Pass.rows, row]
  have size : Pass.size ⟨0, 0, 1, 1⟩ header = (header.width * header.pixelBits + 7) / 8 + 1 := by
    rw [Pass.size, columns, rows, if_neg (by omega), Pass.rowSize, columns, Nat.one_mul]
  obtain ⟨sorted, rowed⟩ : ∃ sorted, passRows? header data header.passes 0 = some sorted := by
    rw [passes]
    simp only [passRows?, columns, rows, if_neg (Nat.ne_of_gt wide), rows?, filter,
      Option.bind_eq_bind, Option.bind_some, Option.pure_def]
    exact ⟨_, rfl⟩
  have told : (decode? file).map (fun image => (image.raster.width, image.raster.height)) =
      some (header.width, header.height) := by
    have full : ¬ data.size < header.passes.foldl (fun total p => total + p.size header) 0 := by
      rw [passes]
      simp only [List.foldl_cons, List.foldl_nil, size]
      omega
    simp only [decode?, starts, framed, if_neg sound, read, found, grey, sent, inflated,
      if_neg full, rowed, Option.bind_eq_bind, Option.bind_some, Option.pure_def, Bool.not_true,
      false_and, if_false, Bool.false_eq_true, Option.map_some, Raster.width_generate,
      Raster.height_generate]
  obtain ⟨image, decoded, same⟩ := Option.map_eq_some_iff.mp told
  obtain ⟨across, down⟩ := Prod.mk.inj same
  exact ⟨image, decoded, across, down.trans row⟩

end Png

end CameraRoll
