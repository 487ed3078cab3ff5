import ChipEight.Proofs.Checked.Screen
import ChipEight.Proofs.Screen.Unpacking

/-!
# Unpacking step by step

The pixels of a plane are asked for one after the other. Each call goes down from where the last one
ended, passes over the pixels that are not of the plane, and answers with the first one that is. Its
byte is looked up by the number of the pixel and has to be there.

The calls never stop. They answer with the points of the plane in order and then with nothing, no
matter how often they are made.
-/

namespace ChipEight.Checked

namespace Unpacking

/-! ### Calls -/

/-- The last pixel of a plane among the first ones, and how many there are before it. -/
def next? (width : Nat) (data : Array UInt8) (plane : UInt8) : Nat → Option (Option Point × Nat)
  | 0         => some (none, 0)
  | count + 1 => do
    let byte ← data[count / 8]?
    let k ← sub? 7 (count % 8)
    let bits ← shiftRight? byte k
    if 1 &&& bits = plane then
      let column ← mod? count width
      let row ← div? count width
      return (some ⟨column, row⟩, count)
    else next? width data plane count

/-- The answers to a number of calls. -/
def answers? (width : Nat) (data : Array UInt8) (plane : UInt8) :
    Nat → Nat → Option (List (Option Point))
  | 0,         _     => some []
  | calls + 1, count => do
    let (answer, count) ← next? width data plane count
    let answers ← answers? width data plane calls count
    return answer :: answers

/-- The answers to calls for all pixels of a plane. -/
def run? (r : Resolution) (data : Array UInt8) (plane : UInt8) (calls : Nat) :
    Option (List (Option Point)) := do
  let count ← mul? wordLimit r.width r.height
  answers? r.width data plane calls count

/-! ### Bitmaps -/

variable {b : Bitmap} {count : Nat}

theorem getElem?_data (b : Bitmap) (h : count < b.resolution.pixelCount) :
    b.data[count / 8]? = some (b.data.getD (count / 8) 0) := by
  simp [b.div_lt_size h]

theorem width_ne_zero (h : count < b.resolution.pixelCount) : b.resolution.width ≠ 0 := by
  intro hwidth
  rw [Resolution.pixelCount, hwidth, Nat.zero_mul] at h
  exact Nat.not_lt_zero _ h

theorem next?_succ (b : Bitmap) (plane : UInt8) (h : count < b.resolution.pixelCount) :
    next? b.resolution.width b.data plane (count + 1) =
      if b.bitOf count = plane then some (some (.ofNumber b.resolution.width count), count)
      else next? b.resolution.width b.data plane count := by
  have hbit : count % 8 ≤ 7 := by omega
  have hk : 7 - count % 8 < 8 := by omega
  have hwidth := width_ne_zero h
  simp only [next?, getElem?_data b h, sub?_eq_some hbit, shiftRight?_eq_some hk,
    mod?_eq_some hwidth, div?_eq_some hwidth, Option.bind_eq_bind, Option.bind_some]
  rw [one_and_shiftRight _ hk]
  rfl

/-- A call takes the first of the numbers that are left. -/
theorem exists_next?_eq_some (b : Bitmap) (plane : UInt8) (h : count ≤ b.resolution.pixelCount) :
    ∃ left ≤ count, next? b.resolution.width b.data plane count =
        some ((b.numbersBelow plane count).head?.map (.ofNumber b.resolution.width), left) ∧
      b.numbersBelow plane left = (b.numbersBelow plane count).tail := by
  induction count with
  | zero => exact ⟨0, Nat.le_refl 0, rfl, rfl⟩
  | succ count ih =>
    rw [next?_succ b plane h, b.numbersBelow_succ]
    split
    case isTrue => exact ⟨count, Nat.le_succ count, rfl, rfl⟩
    case isFalse =>
      obtain ⟨left, hleft, hnext, htail⟩ := ih (Nat.le_of_succ_le h)
      exact ⟨left, hleft.trans (Nat.le_succ count), hnext, htail⟩

/-- Calls one after the other find the numbers in their order, and nothing behind the last one. -/
theorem answers?_eq_some (b : Bitmap) (plane : UInt8) (calls : Nat)
    (h : count ≤ b.resolution.pixelCount) :
    answers? b.resolution.width b.data plane calls count = some ((List.range calls).map fun k =>
      (b.numbersBelow plane count)[k]?.map (.ofNumber b.resolution.width)) := by
  induction calls generalizing count with
  | zero => rfl
  | succ calls ih =>
    obtain ⟨left, hleft, hnext, htail⟩ := exists_next?_eq_some b plane h
    simp only [answers?, hnext, Option.bind_eq_bind, Option.bind_some]
    rw [ih (hleft.trans h), htail, List.range_succ_eq_map, List.map_cons, List.map_map,
      List.head?_eq_getElem?]
    simp [Function.comp_def]

/-- The calls answer with the points in order, and then with nothing. -/
theorem run?_eq_some (b : Bitmap) (plane : UInt8) (h : b.resolution.pixelCount < wordLimit)
    (calls : Nat) : run? b.resolution b.data plane calls =
      some ((List.range calls).map fun k => (b.points plane)[k]?) := by
  rw [run?, mul?_eq_some h, Option.bind_eq_bind, Option.bind_some]
  refine (answers?_eq_some b plane calls (Nat.le_refl _)).trans ?_
  simp only [b.points_eq, List.getElem?_map]
  rfl

end Unpacking

end ChipEight.Checked

namespace ChipEight

/-! ### Packing and unpacking -/

/-- However many pixels there are, unpacking the plane of a bitmap never asks for a byte that is not
there, and ends. It yields each pixel once whose bit is that of the plane, the last one first: with
its column, and its row negated. The planes of zeros and of ones share all pixels out among them,
and any other plane is empty.

A grid is packed into 256 bytes, from which exactly the cells that are on are unpacked. So grids
that differ are packed differently. -/
theorem Bitmap.unpacking_yields_plane :
    (∀ (b : Bitmap) (plane : UInt8), b.resolution.pixelCount < Checked.wordLimit →
      let points := b.points plane
      let width := b.resolution.width
      (∀ calls, Checked.Unpacking.run? b.resolution b.data plane calls =
        some ((List.range calls).map fun k => points[k]?)) ∧
      points.map Point.place =
        (b.numbers plane).map (fun n => (Int.ofNat (n % width), -Int.ofNat (n / width))) ∧
      (points.map Point.place).Nodup) ∧
    (∀ b : Bitmap,
      (∀ plane, (b.numbers plane).Pairwise (· > ·) ∧
        ∀ n, n ∈ b.numbers plane ↔ n < b.resolution.width * b.resolution.height ∧
          (if (b.data.getD (n / 8) 0).toNat.testBit (7 - n % 8) then 1 else 0) = plane) ∧
      (b.numbers 0 ++ b.numbers 1).Perm
        (List.range (b.resolution.width * b.resolution.height)) ∧
      ∀ plane, plane ≠ 0 → plane ≠ 1 → b.points plane = []) ∧
    (∀ g : Grid,
      let points := g.toBitmap.points 1
      (∃ data, (Checked.Rows.ofGrid g).toBytes? = some data ∧ data.size = 256 ∧
        ∀ calls, Checked.Unpacking.run? .screen data 1 calls =
          some ((List.range calls).map fun k => points[k]?)) ∧
      (∀ x y, ⟨x, y⟩ ∈ points ↔ g.isLit x y = true) ∧
      points.Nodup ∧ points.length = g.litCount) ∧
    Function.Injective Grid.toBytes := by
  refine ⟨?_, ?_, ?_, Grid.toBytes_injective⟩
  · intro b plane h points width
    refine ⟨Checked.Unpacking.run?_eq_some b plane h, ?_,
      (b.nodup_points plane).map Point.place_injective⟩
    simp only [points, b.points_eq, List.map_map]
    rfl
  · intro b
    exact ⟨fun plane => ⟨b.pairwise_numbers plane, fun _ => mem_numbers_iff⟩, b.perm_numbers,
      fun _ => points_eq_nil⟩
  · intro g points
    have hcount : g.toBitmap.resolution.pixelCount < Checked.wordLimit := by
      rw [Grid.resolution_toBitmap, Resolution.pixelCount_screen]
      decide
    have hrun := Checked.Unpacking.run?_eq_some g.toBitmap 1 hcount
    rw [Grid.resolution_toBitmap, Grid.data_toBitmap] at hrun
    refine ⟨⟨g.toBytes.toArray, Checked.Rows.toBytes?_ofGrid g, by simp, hrun⟩, ?_,
      g.toBitmap.nodup_points 1, g.length_points_toBitmap⟩
    intro x y
    exact Grid.mem_points_toBitmap_iff

/-- Three rows of three pixels, so that the last one has a byte of its own. -/
theorem Bitmap.unpacking_yields_plane_odd_width :
    let b : Bitmap := ⟨⟨3, 3⟩, #[0xC0, 0x80], by decide⟩
    b.resolution.pixelCount < Checked.wordLimit ∧
      Checked.Unpacking.run? b.resolution b.data 1 4 =
        some [some ⟨2, 2⟩, some ⟨1, 0⟩, some ⟨0, 0⟩, none] ∧
      (b.points 1).map Point.place = [(2, -2), (1, 0), (0, 0)] := by
  intro b
  have hcount : b.resolution.pixelCount < Checked.wordLimit := by decide
  have hnumbers : b.numbers 1 = [8, 1, 0] := by decide
  have hpoints : b.points 1 = [⟨2, 2⟩, ⟨1, 0⟩, ⟨0, 0⟩] := by decide
  obtain ⟨hrun, hplaces, -⟩ := Bitmap.unpacking_yields_plane.1 b 1 hcount
  refine ⟨hcount, ?_, ?_⟩
  · rw [hrun, hpoints]
    rfl
  · rw [hplaces, hnumbers]
    simp [b]

end ChipEight
