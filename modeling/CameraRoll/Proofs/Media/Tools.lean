import CameraRoll.Media.StillCodec

/-!
What a codec for still pictures relies on in the libraries that it is built on (`StillTools.Lawful`),
and that the libraries of the program keep to it (`stillTools_lawful`). A file that the program
writes states the sides of its raster (`Jpeg.dimensions?_of_encode?`): whatever the scan is, it is
written behind a head from which the sides can be read.
-/

namespace CameraRoll

/-- Both sides are such that a file can be written. -/
def Raster.IsWritable {α : Type} (r : Raster α) : Prop :=
  (0 < r.width ∧ r.width ≤ Jpeg.longestSide) ∧ 0 < r.height ∧ r.height ≤ Jpeg.longestSide

/-- What is relied on in the libraries. -/
structure StillTools.Lawful (tools : StillTools) : Prop where
  /-- An image that is read has pixels. -/
  reads {file : ByteArray} {image : Image} : tools.decode? file = some image →
    0 < image.raster.width ∧ 0 < image.raster.height
  /-- Whether a raster can be written depends on its sides alone. -/
  writes (raster : Raster Colour) :
    (∃ file, tools.encode? raster = some file) ↔ raster.IsWritable
  /-- What is written is a file that states the sides of the raster. -/
  states {raster : Raster Colour} {file : ByteArray} : tools.encode? raster = some file →
    Jpeg.dimensions? file = some (raster.width, raster.height)

/-! ### Images that are read -/

namespace Png

theorem Header.pos_of_read? {content : ByteArray} {header : Header}
    (read : Header.read? content = some header) : 0 < header.width ∧ 0 < header.height := by
  simp only [Header.read?, Option.bind_eq_bind, Option.bind_none, Option.ite_none_left_eq_some,
    Option.bind_eq_some_iff] at read
  obtain ⟨-, width, -, height, -, colourType, -, fit, same⟩ := read
  cases same
  simp only [not_or] at fit
  exact ⟨Nat.pos_of_ne_zero fit.1, Nat.pos_of_ne_zero fit.2.1⟩

theorem pos_of_decode? {file : ByteArray} {image : Image} (read : decode? file = some image) :
    0 < image.raster.width ∧ 0 < image.raster.height := by
  simp only [decode?, Option.bind_eq_bind, Option.bind_none, Option.ite_none_left_eq_some,
    Option.bind_eq_some_iff] at read
  obtain ⟨-, first, -, -, header, stated, _, -, -, _, -, _, -, -, _, -, same⟩ := read
  cases same
  exact Header.pos_of_read? stated

end Png

namespace Jpeg

/-- The shape that was set, if any, has pixels. -/
def Preamble.HasPixels (s : Preamble) : Prop :=
  ∀ frame, s.frame = some frame → 0 < frame.width ∧ 0 < frame.height

theorem pos_of_frame? {content : List UInt8} {frame : Frame} (read : frame? content = some frame) :
    0 < frame.width ∧ 0 < frame.height := by
  unfold frame? at read
  split at read
  · simp only [Option.bind_eq_bind, Option.ite_none_left_eq_some, Option.bind_eq_some_iff] at read
    obtain ⟨components, -, fit, same⟩ := read
    cases same
    simp only [not_or] at fit
    exact ⟨Nat.pos_of_ne_zero fit.2.1, Nat.pos_of_ne_zero fit.2.2.1⟩
  · cases read

/-- A segment sets a shape with pixels, or it leaves the shape as it was. -/
theorem Preamble.HasPixels.after? {s later : Preamble} (known : s.HasPixels) {kind : UInt8}
    {content : List UInt8} (set : s.after? kind content = some later) : later.HasPixels := by
  have kept : later.frame = s.frame → later.HasPixels := fun same frame stated =>
    known frame (same ▸ stated)
  unfold Preamble.after? at set
  split at set
  · obtain ⟨tables, -, rfl⟩ := Option.map_eq_some_iff.mp set
    exact kept rfl
  split at set
  · obtain ⟨tables, -, rfl⟩ := Option.map_eq_some_iff.mp set
    exact kept rfl
  split at set
  · split at set
    · cases set
      exact kept rfl
    · cases set
  split at set
  · split at set
    · cases set
    · obtain ⟨frame, read, rfl⟩ := Option.map_eq_some_iff.mp set
      rintro _ ⟨⟩
      exact pos_of_frame? read
  split at set
  · cases set
  · cases set
    exact known

theorem Scan.hasPixels {file : ByteArray} {place : Nat} {s : Preamble} {scan : Scan}
    (known : s.HasPixels) (found : Scan.find? file place s = some scan) :
    scan.preamble.HasPixels := by
  -- each segment on the way is passed over, set or refused, until the scan comes
  fun_induction Scan.find? file place s with
  | case1 place s inside kind filling ih => exact ih known found
  | case2 place s inside kind filling bare ih => exact ih known found
  | case3 => cases found
  | case4 => cases found
  | case5 => cases found
  | case6 =>
    cases found
    exact known
  | case7 => cases found
  | case8 place s inside kind _ _ _ size _ content _ next _ later set ih =>
    exact ih (known.after? set) found
  | case9 => cases found

theorem pos_of_decode? {file : ByteArray} {image : Image} (read : decode? file = some image) :
    0 < image.raster.width ∧ 0 < image.raster.height := by
  simp only [decode?, Option.bind_eq_bind, Option.bind_eq_some_iff] at read
  obtain ⟨scan, found, read⟩ := read
  have unset : Preamble.none.HasPixels := by
    rintro frame ⟨⟩
  have known : scan.preamble.HasPixels := by
    unfold Scan.ofFile? at found
    split at found
    · exact Scan.hasPixels unset found
    · cases found
  simp only [Scan.image?, Option.bind_eq_bind, Option.bind_none, Option.ite_none_left_eq_some,
    Option.bind_eq_some_iff] at read
  obtain ⟨frame, stated, _, -, _, -, -, _, -, same⟩ := read
  cases same
  exact known frame stated

end Jpeg

theorem Image.pos_of_ofFile? {file : ByteArray} {image : Image}
    (read : Image.ofFile? file = some image) :
    0 < image.raster.width ∧ 0 < image.raster.height := by
  unfold Image.ofFile? at read
  split at read
  · exact Png.pos_of_decode? read
  · exact Jpeg.pos_of_decode? read

/-! ### Bytes that follow others -/

theorem byteAt_eq_getD (data : ByteArray) (place : Nat) :
    byteAt data place = data.data.toList[place]?.getD 0 := by
  unfold byteAt
  split
  next inside =>
    rw [List.getElem?_eq_getElem (by simpa using inside)]
    rfl
  next outside =>
    rw [List.getElem?_eq_none (by simpa using outside)]
    rfl

/-- The bytes that follow others in a file. -/
theorem bytesAt?_of_parts {data : ByteArray} {before bytes behind : List UInt8}
    (parts : data.data.toList = before ++ (bytes ++ behind)) :
    bytesAt? data before.length bytes.length = some bytes := by
  have size : data.size = before.length + (bytes.length + behind.length) := by
    rw [← ByteArray.size_data, ← Array.length_toList, parts, List.length_append, List.length_append]
  rw [bytesAt?, if_pos (by omega)]
  refine congrArg some (List.ext_getElem (by simp) fun i _ inside => ?_)
  rw [List.getElem_map, List.getElem_range, byteAt_eq_getD, parts,
    List.getElem?_append_right (by omega), Nat.add_sub_cancel_left, List.getElem?_append_left inside,
    List.getElem?_eq_getElem inside]
  rfl

theorem byteAt_of_parts {data : ByteArray} {before behind : List UInt8} {byte : UInt8}
    (parts : data.data.toList = before ++ byte :: behind) : byteAt data before.length = byte := by
  rw [byteAt_eq_getD, parts, List.getElem?_append_right (Nat.le_refl _), Nat.sub_self]
  rfl

namespace Jpeg

/-- Bytes have been written behind these. -/
def Follows (front : List UInt8) (out : ByteArray) : Prop := front <+: out.data.toList

namespace Follows

variable {front : List UInt8} {out : ByteArray} {sink : BitSink}

theorem push (follows : Follows front out) (byte : UInt8) : Follows front (out.push byte) := by
  unfold Follows
  rw [ByteArray.data_push, Array.toList_push]
  exact follows.trans (List.prefix_append _ _)

theorem settle (follows : Follows front out) (pending : UInt32) (count : Nat) :
    Follows front (BitSink.settle out pending count).out := by
  fun_induction BitSink.settle out pending count with
  | case1 out count full byte pushed ih =>
    apply ih
    split
    · exact (follows.push byte).push 0
    · exact follows.push byte
  | case2 => exact follows

theorem put (follows : Follows front sink.out) (bits : UInt32) (length : Nat) :
    Follows front (sink.put bits length).out := follows.settle _ _

theorem putSymbol (follows : Follows front sink.out) (table : Array (Nat × UInt32)) (symbol : Nat) :
    Follows front (putSymbol sink table symbol).out := follows.put _ _

theorem putLongRuns (follows : Follows front sink.out) (table : Array (Nat × UInt32))
    (zeros : Nat) : Follows front (putLongRuns table sink zeros).1.out := by
  fun_induction Jpeg.putLongRuns table sink zeros with
  | case1 sink zeros many ih => exact ih (follows.putSymbol table 0xf0)
  | case2 => exact follows

theorem putWaves (follows : Follows front sink.out) (table : Array (Nat × UInt32)) (b : Block)
    (places : List (Fin 64)) (zeros : Nat) :
    Follows front (putWaves table b places sink zeros).out := by
  induction places generalizing sink zeros with
  | nil =>
    unfold Jpeg.putWaves
    split
    · exact follows.putSymbol table 0
    · exact follows
  | cons place rest ih =>
    rw [Jpeg.putWaves]
    by_cases absent : b.get place = 0
    · simp only [if_pos absent]
      exact ih follows (zeros + 1)
    · simp only [if_neg absent]
      exact ih (((follows.putLongRuns table zeros).putSymbol table _).put _ _) 0

theorem putBlock (follows : Follows front sink.out) (tables : ComponentTables) (before : Int)
    (b : Block) : Follows front (putBlock tables sink before b).out :=
  ((follows.putSymbol _ _).put _ _).putWaves _ _ _ _

theorem putBlocks {state : ScanState} (follows : Follows front state.sink.out)
    (brightness colour : ComponentTables) (r : Raster Colour) (left top : Nat) :
    Follows front (putBlocks brightness colour r state left top).sink.out := by
  unfold Jpeg.putBlocks
  extract_lets pixels first second third bright blue red
  -- which blocks are written does not matter here
  clear_value third second first
  have written : Follows front bright.out := follows.putBlock _ _ _
  have behind : Follows front blue.out := written.putBlock _ _ _
  exact behind.putBlock _ _ _

theorem putScan (follows : Follows front out) (brightness colour : ComponentTables)
    (r : Raster Colour) : Follows front (putScan brightness colour r out).out := by
  unfold Jpeg.putScan
  generalize (r.width + 7) / 8 * ((r.height + 7) / 8) = blocks
  dsimp only
  -- the invariant of the loop over the blocks is that nothing in front is overwritten
  rw [Nat.fold_eq_finRange_foldl]
  refine List.foldlRecOn (motive := fun state : ScanState => Follows front state.sink.out) _ _
    follows fun state reached i _ => ?_
  exact reached.putBlocks _ _ _ _ _

end Follows

/-! ### Segments that are found again -/

theorem pair_twoBytes {n : Nat} (small : n ≤ longestSide) :
    pair (UInt8.ofNat (n / 256)) (UInt8.ofNat n) = n := by
  simp only [longestSide] at small
  simp only [pair, UInt8.toNat_ofNat']
  omega

/-- The kinds of segments that have a content. -/
def IsSegmentKind (kind : UInt8) : Prop :=
  kind ≠ 0xff ∧ kind ≠ 0 ∧ kind ≠ 1 ∧ kind ≠ 0xd8 ∧ ¬ (0xd0 ≤ kind ∧ kind ≤ 0xd7) ∧ kind ≠ 0xd9

instance (kind : UInt8) : Decidable (IsSegmentKind kind) :=
  inferInstanceAs (Decidable (_ ∧ _))

theorem Scan.find?_segment {file : ByteArray} {before content behind : List UInt8} {kind : UInt8}
    (own : IsSegmentKind kind) (short : content.length + 2 ≤ longestSide)
    (parts : file.data.toList = before ++ (segment kind content ++ behind)) (s : Preamble) :
    Scan.find? file before.length s =
      if kind = 0xda then some ⟨s, content, (before ++ segment kind content).length⟩
      else (s.after? kind content).bind
        (Scan.find? file (before ++ segment kind content).length) := by
  obtain ⟨noFilling, notBare, notBare', notBare'', notBare''', noEnd⟩ := own
  have size : file.size = before.length + (4 + (content.length + behind.length)) := by
    rw [← ByteArray.size_data, ← Array.length_toList, parts]
    simp [segment, twoBytes]
    omega
  -- the mark, the kind, the size and the content are read one after the other
  have mark : byteAt file before.length = 0xff := byteAt_of_parts parts
  have named : byteAt file (before.length + 1) = kind := by
    have parts : file.data.toList =
        (before ++ [0xff]) ++ kind :: (twoBytes (content.length + 2) ++ content ++ behind) := by
      rw [parts]
      simp [segment]
    have found := byteAt_of_parts parts
    rwa [List.length_append] at found
  have long : ByteOrder.greatestFirst.number? file (before.length + 2) 2 =
      some (content.length + 2) := by
    have parts : file.data.toList =
        (before ++ [0xff, kind]) ++ (twoBytes (content.length + 2) ++ (content ++ behind)) := by
      rw [parts]
      simp [segment]
    have found := bytesAt?_of_parts parts
    rw [List.length_append] at found
    have number := pair_twoBytes short
    exact (congrArg (Option.map ByteOrder.greatestFirst.value) found).trans
      (congrArg some (by simpa [ByteOrder.value, twoBytes, pair] using number))
  have held : bytesAt? file (before.length + 4) content.length = some content := by
    have parts : file.data.toList =
        (before ++ [0xff, kind] ++ twoBytes (content.length + 2)) ++ (content ++ behind) := by
      rw [parts]
      simp [segment]
    have found := bytesAt?_of_parts parts
    rwa [List.length_append, List.length_append] at found
  have stop : (before ++ segment kind content).length = before.length + 2 + (content.length + 2) := by
    simp [segment, twoBytes]
    omega
  have inside : before.length < file.size := by omega
  have here : file[before.length] = 0xff := by
    rw [← mark, byteAt, dif_pos inside]
  rw [Scan.find?, dif_pos (by omega)]
  simp only [named, here, long, stop]
  rw [if_neg (by simp [noFilling]),
    if_neg (by simp only [not_or]; exact ⟨notBare, notBare', notBare'', notBare'''⟩),
    if_neg noEnd, if_neg (by omega)]
  simp only [Nat.add_sub_cancel, held]
  cases s.after? kind content <;> rfl

/-- The settings after several segments: kinds and contents. -/
def Preamble.afterAll? : Preamble → List (UInt8 × List UInt8) → Option Preamble :=
  List.foldlM fun s part => s.after? part.1 part.2

/-- Segments in front of a scan change the settings one after another. -/
theorem Scan.find?_segments {file : ByteArray} {before behind : List UInt8}
    {segments : List (UInt8 × List UInt8)}
    (own : ∀ part ∈ segments, IsSegmentKind part.1 ∧ part.1 ≠ 0xda ∧ part.2.length + 2 ≤ longestSide)
    (parts : file.data.toList =
      before ++ ((segments.flatMap fun part => segment part.1 part.2) ++ behind)) (s : Preamble) :
    Scan.find? file before.length s =
      (s.afterAll? segments).bind
        (Scan.find? file (before ++ segments.flatMap fun part => segment part.1 part.2).length) := by
  induction segments generalizing before s with
  | nil => simp [Preamble.afterAll?]
  | cons part rest ih =>
    obtain ⟨kind, noScan, short⟩ := own part (by simp)
    rw [List.flatMap_cons, List.append_assoc] at parts
    rw [find?_segment kind short parts, if_neg noScan, Preamble.afterAll?, List.foldlM_cons]
    cases set : s.after? part.1 part.2 with
    | none => rfl
    | some later =>
      rw [← List.append_assoc] at parts
      have onward := ih (fun other member => own other (by simp [member])) parts later
      rw [Option.bind_some, onward, List.flatMap_cons, ← List.append_assoc]
      rfl

/-- The content of the segment for a table of divisors. -/
def divisorContent (number : UInt8) (divisors : Block) : List UInt8 :=
  number :: Block.zigzag.map fun k => UInt8.ofNat (divisors.get k).toNat

/-- The content of the segment for a code. -/
def codeContent (number : UInt8) (code : PrefixCode) : List UInt8 :=
  number :: (code.counts.map UInt8.ofNat ++ code.symbols.toList.map UInt8.ofNat)

/-- The content of the segment for the shape of an image. -/
def frameContent (width height : Nat) : List UInt8 :=
  [8] ++ twoBytes height ++ twoBytes width ++ [3, 1, 0x11, 0, 2, 0x11, 1, 3, 0x11, 1]

/-- The tables in front of a scan. -/
def tableSegments (brightness colour : Block) : List (UInt8 × List UInt8) :=
  [(0xdb, divisorContent 0 brightness), (0xdb, divisorContent 1 colour),
    (0xc4, codeContent 0x00 brightnessMeans), (0xc4, codeContent 0x10 brightnessWaves),
    (0xc4, codeContent 0x01 colourMeans), (0xc4, codeContent 0x11 colourWaves)]

/-- What stands in front of a scan, segment by segment. -/
def headSegments (width height : Nat) (brightness colour : Block) : List (UInt8 × List UInt8) :=
  [(0xe0, [0x4a, 0x46, 0x49, 0x46, 0, 1, 2, 0, 0, 1, 0, 1, 0, 0]),
    (0xc0, frameContent width height)] ++ tableSegments brightness colour

theorem head_eq (width height : Nat) (brightness colour : Block) :
    head width height brightness colour = [0xff, 0xd8] ++
      (((headSegments width height brightness colour).flatMap fun part => segment part.1 part.2) ++
      segment 0xda [3, 1, 0x00, 2, 0x11, 3, 0x11, 0, 0x3f, 0]) := by
  simp [head, headSegments, tableSegments, frameContent, divisorSegment, divisorContent, codeSegment,
    codeContent]

/-- A segment that can be read, and says nothing about the shape of the image. -/
def IsTable (part : UInt8 × List UInt8) : Prop :=
  ∀ s : Preamble, ∃ later, s.after? part.1 part.2 = some later ∧ later.frame = s.frame

theorem isTable_divisorContent {number : UInt8} (known : number.toNat < 4) (divisors : Block) :
    IsTable (0xdb, divisorContent number divisors) := by
  have full : (Block.zigzag.map fun k => UInt8.ofNat (divisors.get k).toNat).length = 64 := by
    rw [List.length_map]
    decide +kernel
  obtain ⟨tables, read⟩ : ∃ tables, divisors? (divisorContent number divisors) = some tables := by
    have single : number.toNat / 16 = 0 := by omega
    rw [divisorContent, divisors?]
    simp [single, full, List.take_of_length_le, List.drop_of_length_le, divisors?]
    omega
  exact fun s => ⟨_, congrArg (Option.map _) read, rfl⟩

theorem isTable_codeContent {number : UInt8} {code : PrefixCode}
    (read : (codes? (codeContent number code)).isSome) : IsTable (0xc4, codeContent number code) := by
  obtain ⟨tables, read⟩ := Option.isSome_iff_exists.mp read
  exact fun s => ⟨_, congrArg (Option.map _) read, rfl⟩

theorem isTable_tableSegments (brightness colour : Block) :
    ∀ part ∈ tableSegments brightness colour, IsTable part := by
  intro part member
  simp only [tableSegments, List.mem_cons, List.not_mem_nil, or_false] at member
  rcases member with rfl | rfl | rfl | rfl | rfl | rfl
  · exact isTable_divisorContent (by decide) brightness
  · exact isTable_divisorContent (by decide) colour
  · exact isTable_codeContent (by decide +kernel)
  · exact isTable_codeContent (by decide +kernel)
  · exact isTable_codeContent (by decide +kernel)
  · exact isTable_codeContent (by decide +kernel)

/-- Tables are passed over with the shape as it was. -/
theorem Preamble.exists_afterAll? {segments : List (UInt8 × List UInt8)}
    (tables : ∀ part ∈ segments, IsTable part) (s : Preamble) :
    ∃ later, s.afterAll? segments = some later ∧ later.frame = s.frame := by
  induction segments generalizing s with
  | nil => exact ⟨s, rfl, rfl⟩
  | cons part rest ih =>
    obtain ⟨next, set, same⟩ := tables part (by simp) s
    obtain ⟨later, done, kept⟩ := ih (fun other member => tables other (by simp [member])) next
    refine ⟨later, ?_, kept.trans same⟩
    rw [afterAll?, List.foldlM_cons, set]
    exact done

theorem frame?_frameContent {width height : Nat} (wide : 0 < width) (high : 0 < height)
    (narrow : width ≤ longestSide) (low : height ≤ longestSide) :
    ∃ components, frame? (frameContent width height) = some ⟨width, height, components⟩ := by
  have listed : components? [1, 0x11, 0, 2, 0x11, 1, 3, 0x11, 1] =
      some [⟨1, 1, 1, 0⟩, ⟨2, 1, 1, 1⟩, ⟨3, 1, 1, 1⟩] := rfl
  have across := pair_twoBytes narrow
  have down := pair_twoBytes low
  refine ⟨[⟨1, 1, 1, 0⟩, ⟨2, 1, 1, 1⟩, ⟨3, 1, 1, 1⟩], ?_⟩
  simp only [frameContent, twoBytes, List.cons_append, List.nil_append, frame?, across, down]
  change (components? [1, 0x11, 0, 2, 0x11, 1, 3, 0x11, 1] >>= _) = _
  rw [listed]
  change (if _ then none else some _) = _
  rw [if_neg]
  simp only [not_or]
  exact ⟨by decide, by omega, by omega, by decide, by decide⟩

/-- The head can be read, and the sides are read from it. -/
theorem exists_afterAll?_headSegments {width height : Nat} (wide : 0 < width) (high : 0 < height)
    (narrow : width ≤ longestSide) (low : height ≤ longestSide) (brightness colour : Block) :
    ∃ s components, s.frame = some ⟨width, height, components⟩ ∧
      Preamble.none.afterAll? (headSegments width height brightness colour) = some s := by
  obtain ⟨components, read⟩ := frame?_frameContent wide high narrow low
  -- the first segment sets nothing, the second one the shape, and the tables leave it as it is
  obtain ⟨framed, set, stated⟩ : ∃ s, Preamble.none.after? 0xc0 (frameContent width height) = some s ∧
      s.frame = some ⟨width, height, components⟩ := ⟨_, congrArg (Option.map _) read, rfl⟩
  obtain ⟨s, passed, same⟩ := framed.exists_afterAll? (isTable_tableSegments brightness colour)
  refine ⟨s, components, same.trans stated, ?_⟩
  rw [headSegments, List.cons_append, List.cons_append, List.nil_append, Preamble.afterAll?,
    List.foldlM_cons]
  change (some Preamble.none >>= _) = _
  rw [Option.bind_eq_bind, Option.bind_some, List.foldlM_cons, set]
  exact passed

theorem isSegmentKind_headSegments (width height : Nat) (brightness colour : Block) :
    ∀ part ∈ headSegments width height brightness colour,
      IsSegmentKind part.1 ∧ part.1 ≠ 0xda ∧ part.2.length + 2 ≤ longestSide := by
  intro part member
  have zigzag : Block.zigzag.length = 64 := by decide +kernel
  have divisors (number : UInt8) (table : Block) :
      (divisorContent number table).length + 2 ≤ longestSide := by
    rw [divisorContent, List.length_cons, List.length_map, zigzag]
    decide
  simp only [headSegments, tableSegments, List.cons_append, List.nil_append, List.mem_cons,
    List.not_mem_nil, or_false] at member
  rcases member with rfl | rfl | rfl | rfl | rfl | rfl | rfl | rfl
  · decide
  · refine ⟨(by decide : IsSegmentKind 0xc0), (by decide : (0xc0 : UInt8) ≠ 0xda), ?_⟩
    simp [frameContent, twoBytes, longestSide]
  · exact ⟨(by decide : IsSegmentKind 0xdb), (by decide : (0xdb : UInt8) ≠ 0xda), divisors 0 _⟩
  · exact ⟨(by decide : IsSegmentKind 0xdb), (by decide : (0xdb : UInt8) ≠ 0xda), divisors 1 _⟩
  · decide +kernel
  · decide +kernel
  · decide +kernel
  · decide +kernel

theorem dimensions?_of_head {width height : Nat} (wide : 0 < width) (high : 0 < height)
    (narrow : width ≤ longestSide) (low : height ≤ longestSide) {brightness colour : Block}
    {file : ByteArray} (follows : Follows (head width height brightness colour) file) :
    dimensions? file = some (width, height) := by
  obtain ⟨behind, parts⟩ := follows
  rw [head_eq, List.append_assoc, List.append_assoc] at parts
  obtain ⟨s, components, stated, read⟩ :=
    exists_afterAll?_headSegments wide high narrow low brightness colour
  have starts : startsWith file signature = true := by
    have first : bytesAt? file 0 signature.length = some signature :=
      @bytesAt?_of_parts file [] signature _ parts.symm
    rw [startsWith, first]
    rfl
  -- behind the tables, the segment of the scan is found
  have passed := Scan.find?_segments (isSegmentKind_headSegments width height brightness colour)
    parts.symm Preamble.none
  rw [← List.append_assoc] at parts
  have found := Scan.find?_segment (by decide) (by decide) parts.symm s
  rw [read, Option.bind_some, found] at passed
  have scanned : Scan.ofFile? file = some _ := (if_pos starts).trans passed
  rw [dimensions?, scanned, Option.bind_eq_bind, Option.bind_some, stated]
  rfl

/-- A file that is written states the sides of its raster. -/
theorem dimensions?_of_encode? {quality : Nat} {r : Raster Colour} {file : ByteArray}
    (written : encode? quality r = some file) : dimensions? file = some (r.width, r.height) := by
  unfold encode? at written
  split at written
  · cases written
  next fit =>
    cases written
    simp only [not_or] at fit
    apply dimensions?_of_head (by omega) (by omega) (by omega) (by omega)
    -- behind the scan, the last bits and the mark of the end are written
    apply Follows.push
    apply Follows.push
    apply Follows.put
    apply Follows.putScan
    exact List.prefix_rfl

theorem exists_encode?_iff (quality : Nat) (r : Raster Colour) :
    (∃ file, encode? quality r = some file) ↔ r.IsWritable := by
  unfold encode?
  by_cases unfit : r.width = 0 ∨ r.height = 0 ∨ longestSide < r.width ∨ longestSide < r.height
  · rw [if_pos unfit]
    constructor
    · rintro ⟨file, written⟩
      cases written
    · rintro ⟨wide, high⟩
      omega
  · rw [if_neg unfit]
    refine ⟨fun _ => ?_, fun _ => ⟨_, rfl⟩⟩
    unfold Raster.IsWritable
    omega

end Jpeg

@[simp] theorem stillTools_decode? : stillTools.decode? = Image.ofFile? := rfl

@[simp] theorem stillTools_orientationNumber? :
    stillTools.orientationNumber? = orientationNumber? := rfl

/-- The libraries of the program keep to what is relied on. -/
theorem stillTools_lawful : stillTools.Lawful where
  reads := Image.pos_of_ofFile?
  writes := Jpeg.exists_encode?_iff writtenQuality
  states := Jpeg.dimensions?_of_encode?

end CameraRoll
