import CameraRoll.Proofs.Media.Row
import CameraRoll.Proofs.Media.Tools
import Mathlib.Tactic.IntervalCases

/-!
Pictures put upright: which pixel of the stored picture each pixel of the upright one is. Flips and
turns are rearrangements of pixels, which can be composed, and two of which that undo each other
leave a raster as it was. Main statements: `Raster.corrected_upright` and `Raster.upright_inverse`
for one orientation, and `StillTools.orient_exact`, by which the upright picture and nothing else is
what is written, whatever the libraries are that read and write pictures.
-/

namespace CameraRoll

namespace Raster

variable {α β : Type} {r s t : Raster α}

theorem get?_of_lt (r : Raster α) {x y : Nat} (hx : x < r.width) (hy : y < r.height) :
    r.get? x y = some (r.get x y hx hy) := dif_pos ⟨hx, hy⟩

theorem lt_of_get? {x y : Nat} {pixel : α} (found : r.get? x y = some pixel) :
    x < r.width ∧ y < r.height := by
  unfold get? at found
  split at found
  next inside => exact inside
  next => cases found

/-- A raster is told by its sides and its pixels. -/
theorem ext_get? (width : r.width = s.width) (height : r.height = s.height)
    (pixels : ∀ x y, x < s.width → y < s.height → r.get? x y = s.get? x y) : r = s := by
  obtain ⟨w, h, stored, size⟩ := r
  obtain ⟨w', h', stored', size'⟩ := s
  obtain rfl : w = w' := width
  obtain rfl : h = h' := height
  have same : stored = stored' := by
    refine Array.ext (size.trans size'.symm) fun i inside inside' => ?_
    have below : i < w * h := size ▸ inside
    have wide : 0 < w := Nat.pos_of_mul_pos_right (Nat.lt_of_le_of_lt (Nat.zero_le i) below)
    -- the place `i` is that of a pixel in a column and a row
    have hx : i % w < w := Nat.mod_lt _ wide
    have hy : i / w < h := Nat.div_lt_of_lt_mul below
    have place : i / w * w + i % w = i := Nat.div_add_mod' i w
    have alike := pixels (i % w) (i / w) hx hy
    rw [get?_of_lt _ hx hy, get?_of_lt _ hx hy] at alike
    simpa only [get, place] using Option.some.inj alike
  subst same
  rfl

theorem get?_map (f : α → β) (r : Raster α) (x y : Nat) :
    (r.map f).get? x y = (r.get? x y).map f := by
  unfold get?
  by_cases inside : x < r.width ∧ y < r.height
  · rw [dif_pos inside, dif_pos (show x < (r.map f).width ∧ y < (r.map f).height from inside)]
    simp [get, map]
  · rw [dif_neg inside, dif_neg (show ¬ (x < (r.map f).width ∧ y < (r.map f).height) from inside)]
    rfl

/-! ### Rearrangements -/

/-- Every pixel of the second raster is the one of the first that stands at the given place. -/
def Rearranged (place : Nat → Nat → Nat × Nat) (r s : Raster α) : Prop :=
  ∀ x y, x < s.width → y < s.height → s.get? x y = r.get? (place x y).1 (place x y).2

namespace Rearranged

variable {place place' : Nat → Nat → Nat × Nat}

theorem inside (moved : Rearranged place r s) {x y : Nat} (hx : x < s.width) (hy : y < s.height) :
    (place x y).1 < r.width ∧ (place x y).2 < r.height :=
  lt_of_get? ((moved x y hx hy).symm.trans (s.get?_of_lt hx hy))

theorem trans (first : Rearranged place r s) (second : Rearranged place' s t) :
    Rearranged (fun x y => place (place' x y).1 (place' x y).2) r t := by
  intro x y hx hy
  obtain ⟨hx', hy'⟩ := second.inside hx hy
  exact (second x y hx hy).trans (first _ _ hx' hy')

/-- Only the places of pixels count. -/
theorem congr (moved : Rearranged place r s)
    (same : ∀ x y, x < s.width → y < s.height → place x y = place' x y) :
    Rearranged place' r s := by
  intro x y hx hy
  rw [moved x y hx hy, same x y hx hy]

theorem unique (first : Rearranged place r s) (second : Rearranged place r t)
    (width : s.width = t.width) (height : s.height = t.height) : s = t := by
  refine ext_get? width height fun x y hx hy => ?_
  rw [first x y (width ▸ hx) (height ▸ hy), second x y hx hy]

/-- A raster rearranged back is the same. -/
theorem eq_of_undone (first : Rearranged place r s) (second : Rearranged place' s t)
    (width : t.width = r.width) (height : t.height = r.height)
    (undone : ∀ x y, x < r.width → y < r.height →
      place (place' x y).1 (place' x y).2 = (x, y)) : t = r := by
  have whole : Rearranged (fun x y => (x, y)) r t :=
    (first.trans second).congr fun x y hx hy => undone x y (width ▸ hx) (height ▸ hy)
  exact whole.unique (fun _ _ _ _ => rfl) width height

theorem map (moved : Rearranged place r s) (f : α → β) : Rearranged place (r.map f) (s.map f) := by
  intro x y hx hy
  rw [get?_map, get?_map, moved x y hx hy]

end Rearranged

theorem rearranged_generate {w h : Nat} {place : Nat → Nat → Nat × Nat}
    (inside : ∀ x y, x < w → y < h → (place x y).1 < r.width ∧ (place x y).2 < r.height) :
    Rearranged place r (generate w h fun x y hx hy =>
      r.get (place x y).1 (place x y).2 (inside x y hx hy).1 (inside x y hx hy).2) := by
  intro x y hx hy
  obtain ⟨hx', hy'⟩ := inside x y hx hy
  rw [get?_of_lt _ hx hy, get?_of_lt _ hx' hy']
  exact congrArg some (get_generate _ hx hy)

theorem rearranged_flipHorizontal (r : Raster α) :
    Rearranged (fun x y => (r.width - 1 - x, y)) r r.flipHorizontal :=
  rearranged_generate fun x y hx hy => ⟨by omega, hy⟩

theorem rearranged_flipVertical (r : Raster α) :
    Rearranged (fun x y => (x, r.height - 1 - y)) r r.flipVertical :=
  rearranged_generate fun x y hx hy => ⟨hx, by omega⟩

theorem rearranged_rotateQuarter (r : Raster α) :
    Rearranged (fun x y => (y, r.height - 1 - x)) r r.rotateQuarter :=
  rearranged_generate fun x y hx hy => ⟨hy, by omega⟩

theorem rearranged_rotateHalf (r : Raster α) :
    Rearranged (fun x y => (r.width - 1 - x, r.height - 1 - y)) r r.rotateHalf :=
  rearranged_generate fun x y hx hy => ⟨by omega, by omega⟩

theorem rearranged_rotateThreeQuarters (r : Raster α) :
    Rearranged (fun x y => (r.width - 1 - y, x)) r r.rotateThreeQuarters :=
  rearranged_generate fun x y hx hy => ⟨by omega, hx⟩

end Raster

/-! ### Orientations -/

namespace Orientation

/-- The number that stands for an orientation in a file. -/
def number : Orientation → Nat
  | .mirrored => 2
  | .upsideDown => 3
  | .flipped => 4
  | .transposed => 5
  | .leftward => 6
  | .transversed => 7
  | .rightward => 8

@[simp] theorem ofNumber?_number (o : Orientation) : ofNumber? o.number = some o := by
  cases o <;> rfl

theorem exists_number {n : Nat} (least : 2 ≤ n) (greatest : n ≤ 8) :
    ∃ o : Orientation, o.number = n := by
  interval_cases n
  exacts [⟨.mirrored, rfl⟩, ⟨.upsideDown, rfl⟩, ⟨.flipped, rfl⟩, ⟨.transposed, rfl⟩,
    ⟨.leftward, rfl⟩, ⟨.transversed, rfl⟩, ⟨.rightward, rfl⟩]

theorem number_of_ofNumber? {n : Nat} {o : Orientation} (found : ofNumber? n = some o) :
    o.number = n := by
  unfold ofNumber? at found
  split at found <;> cases found <;> rfl

theorem ofNumber?_eq_none {n : Nat} (other : n < 2 ∨ 8 < n) : ofNumber? n = none := by
  rw [Option.eq_none_iff_forall_ne_some]
  intro o found
  obtain rfl := number_of_ofNumber? found
  cases o <;> simp [number] at other

/-- The orientation that undoes another one. -/
def inverse : Orientation → Orientation
  | .leftward => .rightward
  | .rightward => .leftward
  | other => other

end Orientation

namespace Raster

variable {α β : Type}

/-- The place in a stored picture, whose sides are given, of the pixel in column `x` of row `y` of
the picture that is corrected by an orientation number. -/
def sourceOf (number width height x y : Nat) : Nat × Nat :=
  match number with
  | 2 => (width - 1 - x, y)
  | 3 => (width - 1 - x, height - 1 - y)
  | 4 => (x, height - 1 - y)
  | 5 => (y, x)
  | 6 => (y, height - 1 - x)
  | 7 => (width - 1 - y, height - 1 - x)
  | 8 => (width - 1 - y, x)
  | _ => (x, y)

/-- A stored picture and the one that an orientation number makes of it. From 5 on the sides change
places. -/
structure Corrected (number : Nat) (stored upright : Raster α) : Prop where
  width : upright.width = if number < 5 then stored.width else stored.height
  height : upright.height = if number < 5 then stored.height else stored.width
  pixels : Rearranged (sourceOf number stored.width stored.height) stored upright

theorem corrected_upright (r : Raster α) (o : Orientation) :
    Corrected o.number r (r.upright o) := by
  cases o with
  | mirrored => exact ⟨rfl, rfl, r.rearranged_flipHorizontal⟩
  | upsideDown => exact ⟨rfl, rfl, r.rearranged_rotateHalf⟩
  | flipped => exact ⟨rfl, rfl, r.rearranged_flipVertical⟩
  | leftward => exact ⟨rfl, rfl, r.rearranged_rotateQuarter⟩
  | rightward => exact ⟨rfl, rfl, r.rearranged_rotateThreeQuarters⟩
  -- a turn first, and then a flip of what has turned
  | transposed =>
    refine ⟨rfl, rfl, ?_⟩
    refine (r.rearranged_rotateQuarter.trans (rearranged_flipHorizontal _)).congr fun x y hx _ => ?_
    have hx : x < r.height := hx
    have back : r.height - 1 - (r.height - 1 - x) = x := by omega
    exact congrArg (Prod.mk y) back
  | transversed =>
    refine ⟨rfl, rfl, ?_⟩
    exact r.rearranged_rotateThreeQuarters.trans (rearranged_flipHorizontal _)

/-- A picture that was put upright is put back by the inverse orientation. -/
theorem upright_inverse (r : Raster α) (o : Orientation) :
    (r.upright o).upright o.inverse = r := by
  have there := r.corrected_upright o
  have back := corrected_upright (r.upright o) o.inverse
  refine there.pixels.eq_of_undone back.pixels ?_ ?_ fun x y hx hy => ?_
  · rw [back.width, there.width, there.height]
    cases o <;> rfl
  · rw [back.height, there.width, there.height]
    cases o <;> rfl
  · rw [there.width, there.height]
    cases o <;>
      simp only [sourceOf, Orientation.number, Orientation.inverse, Nat.reduceLT, if_true, if_false,
        Prod.mk.injEq, true_and, and_true] <;>
      omega

/-- Where a pixel goes does not depend on what it is. -/
theorem upright_map (r : Raster α) (f : α → β) (o : Orientation) :
    (r.map f).upright o = (r.upright o).map f := by
  have first := corrected_upright (r.map f) o
  have second := r.corrected_upright o
  refine first.pixels.unique (second.pixels.map f) ?_ ?_
  · exact first.width.trans second.width.symm
  · exact first.height.trans second.height.symm

/-- The picture corrected by the orientation number of a file; none if there is nothing to
correct. -/
def corrected? (r : Raster α) (number : Nat) : Option (Raster α) :=
  (Orientation.ofNumber? number).map r.upright

theorem corrected?_number (r : Raster α) (o : Orientation) :
    r.corrected? o.number = some (r.upright o) := by
  rw [corrected?, Orientation.ofNumber?_number, Option.map_some]

theorem exists_corrected (r : Raster α) {number : Nat} (least : 2 ≤ number)
    (greatest : number ≤ 8) :
    ∃ upright, r.corrected? number = some upright ∧ Corrected number r upright := by
  obtain ⟨o, rfl⟩ := Orientation.exists_number least greatest
  exact ⟨r.upright o, r.corrected?_number o, r.corrected_upright o⟩

theorem corrected?_inverse (r : Raster α) (o : Orientation) :
    (r.corrected? o.number).bind (·.corrected? o.inverse.number) = some r := by
  rw [corrected?_number, Option.bind_some, corrected?_number, upright_inverse]

theorem Corrected.isWritable_iff {number : Nat} {r s : Raster α}
    (corrected : Corrected number r s) : s.IsWritable ↔ r.IsWritable := by
  rw [IsWritable, IsWritable, corrected.width, corrected.height]
  by_cases few : number < 5
  · simp only [if_pos few]
  · simp only [if_neg few]
    exact and_comm

end Raster

/-! ### Files -/

theorem Image.shallow_upright (image : Image) (o : Orientation) :
    ({ image with raster := image.raster.upright o } : Image).shallow =
      image.shallow.upright o := by
  unfold Image.shallow
  cases image.deep with
  | false => rfl
  | true => exact (Raster.upright_map _ _ o).symm

@[simp] theorem Image.width_shallow (image : Image) : image.shallow.width = image.raster.width := by
  unfold Image.shallow
  split <;> rfl

@[simp] theorem Image.height_shallow (image : Image) :
    image.shallow.height = image.raster.height := by
  unfold Image.shallow
  split <;> rfl

theorem Image.isWritable_shallow (image : Image) :
    image.shallow.IsWritable ↔ image.raster.IsWritable := by
  rw [Raster.IsWritable, width_shallow, height_shallow, Raster.IsWritable]

namespace StillTools

variable {tools : StillTools} {media : ByteArray} {image : Image}

/-- The picture that is written is the one in the file with its pixels rearranged. -/
theorem orient_of_number {number : Nat} (carried : tools.orientationNumber? media = some number)
    (least : 2 ≤ number) (greatest : number ≤ 8) (decoded : tools.decode? media = some image) :
    ∃ upright, image.raster.corrected? number = some upright ∧
      tools.orient media = tools.write ({ image with raster := upright } : Image).shallow := by
  obtain ⟨o, rfl⟩ := Orientation.exists_number least greatest
  refine ⟨image.raster.upright o, image.raster.corrected?_number o, ?_⟩
  rw [orient, carried, Option.bind_some, Orientation.ofNumber?_number, Image.shallow_upright]
  simp only [decoded]

theorem orient_of_others (others : ∀ number, tools.orientationNumber? media = some number →
    number < 2 ∨ 8 < number) : tools.orient media = .ok media := by
  have nothing : (tools.orientationNumber? media).bind Orientation.ofNumber? = none := by
    rw [Option.bind_eq_none_iff]
    exact fun number carried => Orientation.ofNumber?_eq_none (others number carried)
  rw [orient, nothing]

/-- A raster with short sides is written, to a file that states them. -/
theorem write_of_isWritable (lawful : tools.Lawful) {raster : Raster Colour}
    (fits : raster.IsWritable) : ∃ file, tools.encode? raster = some file ∧
      tools.write raster = .ok file ∧
      Jpeg.dimensions? file = some (raster.width, raster.height) := by
  obtain ⟨file, encoded⟩ := (lawful.writes raster).mpr fits
  refine ⟨file, encoded, ?_, lawful.states encoded⟩
  simp only [write, encoded]

theorem write_of_not_isWritable (lawful : tools.Lawful) {raster : Raster Colour}
    (long : ¬ raster.IsWritable) : tools.write raster = .error .unencodable := by
  have nothing : tools.encode? raster = none := by
    rw [Option.eq_none_iff_forall_ne_some]
    exact fun file encoded => long ((lawful.writes raster).mp ⟨file, encoded⟩)
  simp only [write, nothing]

/-- Correcting a picture by an orientation number from 2 to 8 puts every pixel where the number
says, and can be undone. A picture file with such a number is written anew with exactly the
corrected picture, or refused if the picture has a side that no file can state; a file without one
stays as it is, whatever its bytes are. -/
theorem orient_exact (lawful : tools.Lawful) (media : ByteArray) :
    (∀ (α : Type) (stored : Raster α) (number : Nat), 2 ≤ number → number ≤ 8 →
      ∃ upright, stored.corrected? number = some upright ∧
        Raster.Corrected number stored upright) ∧
    (∀ (α : Type) (stored : Raster α),
      (∀ number ∈ [2, 3, 4, 5, 7],
        (stored.corrected? number).bind (·.corrected? number) = some stored) ∧
      (stored.corrected? 6).bind (·.corrected? 8) = some stored) ∧
    (∀ number image, tools.orientationNumber? media = some number → 2 ≤ number → number ≤ 8 →
      tools.decode? media = some image →
      ∃ upright, image.raster.corrected? number = some upright ∧
        (image.raster.width ≤ Jpeg.longestSide → image.raster.height ≤ Jpeg.longestSide →
          ∃ file, tools.encode? ({ image with raster := upright } : Image).shallow = some file ∧
            tools.orient media = .ok file ∧
            Jpeg.dimensions? file = some (upright.width, upright.height)) ∧
        (Jpeg.longestSide < image.raster.width ∨ Jpeg.longestSide < image.raster.height →
          tools.orient media = .error .unencodable)) ∧
    ((∀ number, tools.orientationNumber? media = some number → number < 2 ∨ 8 < number) →
      tools.orient media = .ok media) := by
  refine ⟨fun α stored number => stored.exists_corrected, fun α stored => ⟨?_, ?_⟩,
    fun number image carried least greatest decoded => ?_, orient_of_others⟩
  · -- these five are their own inverses
    intro number listed
    simp only [List.mem_cons, List.not_mem_nil, or_false] at listed
    rcases listed with rfl | rfl | rfl | rfl | rfl
    · exact stored.corrected?_inverse .mirrored
    · exact stored.corrected?_inverse .upsideDown
    · exact stored.corrected?_inverse .flipped
    · exact stored.corrected?_inverse .transposed
    · exact stored.corrected?_inverse .transversed
  · exact stored.corrected?_inverse .leftward
  · obtain ⟨upright, corrected, written⟩ := orient_of_number carried least greatest decoded
    obtain ⟨same, found, exactly⟩ := image.raster.exists_corrected least greatest
    obtain rfl : same = upright := Option.some.inj (found.symm.trans corrected)
    obtain ⟨wide, high⟩ := lawful.reads decoded
    -- the sides may have changed places, and are as long as before
    have fits : ({ image with raster := same } : Image).shallow.IsWritable ↔
        image.raster.IsWritable :=
      (Image.isWritable_shallow _).trans exactly.isWritable_iff
    refine ⟨same, corrected, fun narrow low => ?_, fun long => ?_⟩
    · obtain ⟨file, encoded, ended, stated⟩ :=
        write_of_isWritable lawful (fits.mpr ⟨⟨wide, narrow⟩, high, low⟩)
      rw [Image.width_shallow, Image.height_shallow] at stated
      exact ⟨file, encoded, written.trans ended, stated⟩
    · refine written.trans (write_of_not_isWritable lawful (fits.not.mpr ?_))
      rintro ⟨across, down⟩
      omega

end StillTools

/-- The orientation in a block of a single entry, which is the one that holds it. -/
theorem orientationNumber?_of_entry {file block : ByteArray} {order : ByteOrder} {place : Nat}
    {entry : Exif.Entry} (found : Exif.block? file = some block)
    (announced : Exif.byteOrder? block = some order)
    (first : order.number? block 4 4 = some place) (apart : place ≠ 0)
    (single : order.number? block place 2 = some 1)
    (held : Exif.entry? order block (place + 2) = some entry)
    (tagged : entry.tag = Exif.orientationTag)
    (last : order.number? block (place + 2 + 12 * 1) 4 = some 0) :
    orientationNumber? file = entry.number? order block := by
  have childless : Exif.Subject.picture.child? entry.tag = none := by
    rw [tagged]
    rfl
  have entries : Exif.entries? order block .picture (place + 2) 1 = some [entry] := by
    rw [Exif.entries?, held, Option.bind_eq_bind, Option.bind_some, childless]
    dsimp only
    rw [Exif.entries?]
    rfl
  have listed : Exif.directories? order block 8 place = some [[entry]] := by
    rw [Exif.directories?.eq_3 _ _ _ _ apart]
    simp only [single, entries, last, Option.bind_eq_bind, Option.bind_some, Exif.directories?]
    rfl
  rw [orientationNumber?, found, Option.bind_eq_bind, Option.bind_some]
  simp only [Exif.orientationIn?, announced, first, listed, Option.bind_eq_bind, Option.bind_some,
    List.head?_cons, List.filter_cons, tagged, beq_self_eq_true, if_true, List.filter_nil,
    List.getLast?_singleton]

namespace StillCodec

/-- A file with a white and a black pixel side by side, whose orientation number is 6. -/
def sideways : ByteArray :=
  ⟨#[0x89, 0x50, 0x4e, 0x47, 0x0d, 0x0a, 0x1a, 0x0a, 0x00, 0x00, 0x00, 0x0d, 0x49, 0x48, 0x44, 0x52,
    0x00, 0x00, 0x00, 0x02, 0x00, 0x00, 0x00, 0x01, 0x08, 0x00, 0x00, 0x00, 0x00, 0xd1, 0x49, 0x20,
    0x56, 0x00, 0x00, 0x00, 0x1a, 0x65, 0x58, 0x49, 0x66, 0x4d, 0x4d, 0x00, 0x2a, 0x00, 0x00, 0x00,
    0x08, 0x00, 0x01, 0x01, 0x12, 0x00, 0x03, 0x00, 0x00, 0x00, 0x01, 0x00, 0x06, 0x00, 0x00, 0x00,
    0x00, 0x00, 0x00, 0xd6, 0x67, 0x4b, 0x69, 0x00, 0x00, 0x00, 0x0e, 0x49, 0x44, 0x41, 0x54, 0x78,
    0x01, 0x01, 0x03, 0x00, 0xfc, 0xff, 0x00, 0xff, 0x00, 0x02, 0x01, 0x01, 0x00, 0x89, 0x52, 0x53,
    0x00, 0x00, 0x00, 0x00, 0x00, 0x49, 0x45, 0x4e, 0x44, 0xae, 0x42, 0x60, 0x82]⟩

theorem orientationNumber?_sideways : orientationNumber? sideways = some 6 := by
  have found : Exif.block? sideways = some (sideways.extract 41 67) := by decide +kernel
  have announced : Exif.byteOrder? (sideways.extract 41 67) = some .greatestFirst := by
    decide +kernel
  have held : Exif.entry? .greatestFirst (sideways.extract 41 67) (8 + 2) =
      some ⟨Exif.orientationTag, 3, 1, 18⟩ := by decide +kernel
  rw [orientationNumber?_of_entry found announced (by decide +kernel) (by decide)
    (by decide +kernel) held rfl (by decide +kernel)]
  decide +kernel

/-- The pixels of the file. -/
theorem sideways_decoded : ∃ image, Image.ofFile? sideways = some image ∧
    image.raster.width = 2 ∧ image.raster.height = 1 ∧
    image.raster.get? 0 0 = some (Colour.grey 0xff) ∧
    image.raster.get? 1 0 = some (Colour.grey 0) := by
  have told : ((Image.ofFile? sideways).map fun image => (image.raster.width, image.raster.height,
      image.raster.get? 0 0, image.raster.get? 1 0)) =
      some (2, 1, some (Colour.grey 0xff), some (Colour.grey 0)) := by decide +kernel
  obtain ⟨image, decoded, same⟩ := Option.map_eq_some_iff.mp told
  simp only [Prod.mk.injEq] at same
  exact ⟨image, decoded, same⟩

/-- The file is written anew, with the white pixel above the black one, and states the sides of the
upright picture. Bytes that are no picture are handed back. -/
theorem orient_exact_sideways :
    (∃ image upright file, Image.ofFile? sideways = some image ∧
      image.raster.corrected? 6 = some upright ∧
      (upright.width = 1 ∧ upright.height = 2) ∧
      (upright.get? 0 0 = some (Colour.grey 0xff) ∧ upright.get? 0 1 = some (Colour.grey 0)) ∧
      (upright.corrected? 8 = some image.raster) ∧
      Jpeg.encode? writtenQuality ({ image with raster := upright } : Image).shallow = some file ∧
      orient sideways = .ok file ∧ Jpeg.dimensions? file = some (1, 2)) ∧
    orient "raw bytes".toUTF8 = .ok "raw bytes".toUTF8 := by
  obtain ⟨image, decoded, wide, low, white, black⟩ := sideways_decoded
  obtain ⟨corrects, undoes, writes, -⟩ := StillTools.orient_exact stillTools_lawful sideways
  obtain ⟨upright, corrected, written, -⟩ := writes 6 image orientationNumber?_sideways
    (by decide) (by decide) decoded
  obtain ⟨same, found, exactly⟩ := corrects Colour image.raster 6 (by decide) (by decide)
  obtain rfl : same = upright := Option.some.inj (found.symm.trans corrected)
  have narrow : same.width = 1 := exactly.width.trans low
  have tall : same.height = 2 := exactly.height.trans wide
  have pixels := exactly.pixels
  rw [wide, low] at pixels
  have back := (undoes Colour image.raster).2
  rw [corrected, Option.bind_some] at back
  obtain ⟨file, encoded, ended, stated⟩ := written (by rw [wide]; decide) (by rw [low]; decide)
  rw [narrow, tall] at stated
  refine ⟨⟨image, same, file, decoded, corrected, ⟨narrow, tall⟩, ⟨?_, ?_⟩, back, encoded, ended,
    stated⟩, ?_⟩
  · rw [pixels 0 0 (by omega) (by omega)]
    exact white
  · rw [pixels 0 1 (by omega) (by omega)]
    exact black
  · refine (StillTools.orient_exact stillTools_lawful _).2.2.2 fun number carried => ?_
    have nothing : orientationNumber? "raw bytes".toUTF8 = none := by decide +kernel
    cases nothing.symm.trans carried

/-! ### A picture that is too wide for a file -/

/-- A file with a row of 66048 black pixels, of which the orientation number is 2. -/
def panorama : ByteArray :=
  ⟨#[0x89, 0x50, 0x4e, 0x47, 0x0d, 0x0a, 0x1a, 0x0a, 0x00, 0x00, 0x00, 0x0d, 0x49, 0x48, 0x44, 0x52,
    0x00, 0x01, 0x02, 0x00, 0x00, 0x00, 0x00, 0x01, 0x01, 0x00, 0x00, 0x00, 0x00, 0x1b, 0x65, 0x67,
    0xb4, 0x00, 0x00, 0x00, 0x1a, 0x65, 0x58, 0x49, 0x66, 0x4d, 0x4d, 0x00, 0x2a, 0x00, 0x00, 0x00,
    0x08, 0x00, 0x01, 0x01, 0x12, 0x00, 0x03, 0x00, 0x00, 0x00, 0x01, 0x00, 0x02, 0x00, 0x00, 0x00,
    0x00, 0x00, 0x00, 0x22, 0x28, 0x6f, 0x7a, 0x00, 0x00, 0x00, 0x3d, 0x49, 0x44, 0x41, 0x54, 0x78,
    0x01, 0x63, 0x18, 0x05, 0xa3, 0x60, 0x14, 0x8c, 0x82, 0x51, 0x30, 0x0a, 0x46, 0xc1, 0x28, 0x18,
    0x05, 0xa3, 0x60, 0x14, 0x8c, 0x82, 0x51, 0x30, 0x0a, 0x46, 0xc1, 0x28, 0x18, 0x05, 0xa3, 0x60,
    0x14, 0x8c, 0x82, 0x51, 0x30, 0x0a, 0x46, 0xc1, 0x28, 0x18, 0x05, 0xa3, 0x60, 0x14, 0x8c, 0x82,
    0x51, 0x30, 0x0a, 0x46, 0xc1, 0x28, 0x00, 0x00, 0x20, 0x41, 0x00, 0x01, 0xd4, 0x8d, 0x2a, 0x67,
    0x00, 0x00, 0x00, 0x00, 0x49, 0x45, 0x4e, 0x44, 0xae, 0x42, 0x60, 0x82]⟩

/-- The compressed pixels of the file. -/
def panoramaBits : Bits := ⟨panorama.extract 79 140, false, false⟩

theorem orientationNumber?_panorama : orientationNumber? panorama = some 2 := by
  have found : Exif.block? panorama = some (panorama.extract 41 67) := by decide +kernel
  have announced : Exif.byteOrder? (panorama.extract 41 67) = some .greatestFirst := by
    decide +kernel
  have held : Exif.entry? .greatestFirst (panorama.extract 41 67) (8 + 2) =
      some ⟨Exif.orientationTag, 3, 1, 18⟩ := by decide +kernel
  rw [orientationNumber?_of_entry found announced (by decide +kernel) (by decide)
    (by decide +kernel) held rfl (by decide +kernel)]
  decide +kernel

section Panorama

open Deflate Png

theorem panorama_header : chunk? panorama 8 =
    some (⟨headerKind, panorama.extract 16 29, true⟩, 33) := by
  have read := @chunk?_of_parts panorama 8 13 0x1b6567b4 headerKind (by decide +kernel)
    (by decide +kernel) (by decide +kernel) (by decide +kernel)
  simpa only [Nat.reduceAdd] using read

theorem panorama_shape :
    Header.read? (panorama.extract 16 29) = some ⟨66048, 1, 1, .grey, false⟩ := by
  have told : (Header.read? (panorama.extract 16 29)).map (fun h =>
      (h.width, h.height, h.depth, h.colourType, h.interlaced)) =
      some (66048, 1, 1, .grey, false) := by decide +kernel
  obtain ⟨⟨_, _, _, _, _⟩, read, same⟩ := Option.map_eq_some_iff.mp told
  cases same
  exact read

set_option maxRecDepth 4000 in
theorem panorama_samples :
    samples? panorama 71 ByteArray.empty = some panoramaBits.bytes := by
  have read := @chunk?_of_parts panorama 71 61 0xd48d2a67 samplesKind (by decide +kernel)
    (by decide +kernel) (by decide +kernel) (by decide +kernel)
  have behind : bytesAt? panorama (144 + 4) 4 = some [0x49, 0x45, 0x4e, 0x44] := by decide +kernel
  simp only [Nat.reduceAdd] at read
  exact samples?_of_chunk (by decide +kernel) read rfl (by decide +kernel) behind (by decide)

/-- A zero, and 32 runs of zeros behind it. -/
theorem panorama_inflated : inflate? panoramaBits.bytes = some (zeros 8257) := by
  have first : fixedLiterals.decode? panoramaBits 19 = some (0, 19 + 8) := by decide +kernel
  have last : fixedLiterals.decode? panoramaBits (19 + 8 + 13 * 32) = some (256, 450) := by
    decide +kernel
  have length : panoramaBits.length + 1 = 455 + 1 + 32 + 1 := by decide +kernel
  have ended := symbols?_zeros first (by decide +kernel) (by decide +kernel) last 455
  rw [← length, show 1 + 258 * 32 = 8257 from rfl] at ended
  have flag : Cursor.take? ⟨16, ByteArray.empty⟩ panoramaBits 1 = some (1, ⟨17, ByteArray.empty⟩) :=
    congrArg (Option.map _) (show panoramaBits.rising? 16 1 = some 1 by decide +kernel)
  have kind : Cursor.take? ⟨17, ByteArray.empty⟩ panoramaBits 2 = some (1, ⟨19, ByteArray.empty⟩) :=
    congrArg (Option.map _) (show panoramaBits.rising? 17 2 = some 1 by decide +kernel)
  have block : block? panoramaBits ⟨16, ByteArray.empty⟩ = some (true, ⟨450, zeros 8257⟩) := by
    rw [block?_fixed flag kind, ended]
    rfl
  have header : ByteOrder.greatestFirst.number? panoramaBits.bytes 0 2 = some 0x7801 := by
    decide +kernel
  exact inflate?_of_block header (by decide) block (by decide +kernel)

theorem panorama_decoded : ∃ image, stillTools.decode? panorama = some image ∧
    image.raster.width = 66048 ∧ image.raster.height = 1 := by
  have starts : startsWith panorama signature = true := by decide +kernel
  have found : paletteAndSamples? panorama 33 none = some (none, 71) := by decide +kernel
  obtain ⟨image, decoded, sides⟩ := decode?_of_row starts panorama_header (by decide) panorama_shape
    (by decide) rfl rfl (by decide) found panorama_samples panorama_inflated
    (by rw [size_zeros]; decide) (by rw [byteAt_zeros]; rfl)
  refine ⟨image, ?_, sides⟩
  rw [stillTools_decode?, Image.ofFile?, if_pos starts, decoded]

end Panorama

/-- The file is a picture that can be read and has to be mirrored, and is not written anew: no file
can state how wide it is. -/
theorem orient_refuses_panorama :
    (∃ image, stillTools.decode? panorama = some image ∧ image.raster.width = 66048) ∧
    stillTools.orientationNumber? panorama = some 2 ∧
    orient panorama = .error .unencodable ∧
    ¬ ∃ file, orient panorama = .ok file := by
  obtain ⟨image, decoded, wide, -⟩ := panorama_decoded
  have carried : stillTools.orientationNumber? panorama = some 2 := by
    rw [stillTools_orientationNumber?, orientationNumber?_panorama]
  obtain ⟨upright, corrected, written⟩ := @StillTools.orient_of_number stillTools panorama image 2
    carried (by decide) (by decide) decoded
  obtain ⟨same, found, exactly⟩ := image.raster.exists_corrected (Nat.le_refl 2) (by decide)
  obtain rfl : same = upright := Option.some.inj (found.symm.trans corrected)
  have refused : orient panorama = .error .unencodable := by
    refine written.trans (StillTools.write_of_not_isWritable stillTools_lawful ?_)
    rw [Image.isWritable_shallow, exactly.isWritable_iff]
    rintro ⟨⟨-, narrow⟩, -⟩
    rw [wide] at narrow
    exact absurd narrow (by decide)
  refine ⟨⟨image, decoded, wide⟩, carried, refused, ?_⟩
  rintro ⟨file, ended⟩
  cases refused.symm.trans ended

end StillCodec

end CameraRoll
