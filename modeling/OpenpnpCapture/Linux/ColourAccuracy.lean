/-
# Linux.ColourAccuracy — the planar converters against the exact formula

The source states the conversion it approximates, with coefficients in thousandths, and calls
it perfect.  The planar converters work in sixteenths: each coefficient is off by at most three
hundredths, the shift drops less than one level, and the clamp brings two values no further
apart.  That makes ten levels at most, for every Y, U and V (`planarColour_near`).

The image as a whole keeps the bound exactly while its RGB bytes are fewer than `2^32`
(`accurate_iff`): behind that, `rgb_index` wraps, and a byte of the frame buffer is left as it was.
-/
import Mathlib.Algebra.Order.Field.Rat
import Mathlib.Algebra.Order.Group.MinMax
import Mathlib.Tactic.Linarith
import Mathlib.Tactic.NormNum
import OpenpnpCapture.Linux.PlanarConversion

namespace OpenpnpCapture.Linux

open OpenpnpCapture.Lib

set_option autoImplicit false

/-! ## The exact formula -/

/-- Red, green and blue as the comment of the source has them. -/
def perfect (y u v : UInt8) : Nat → ℚ
  | 0 => 1.164 * (sample y - 16) + 1.596 * (sample v - 128)
  | 1 => 1.164 * (sample y - 16) - 0.813 * (sample v - 128) - 0.391 * (sample u - 128)
  | _ => 1.164 * (sample y - 16) + 2.018 * (sample u - 128)

/-- A level that a byte can hold. -/
def saturate (level : ℚ) : ℚ :=
  max 0 (min 255 level)

/-- Every byte of the image that a conversion leaves is within ten levels of the formula, taken at
the samples of its own pixel, whatever the frame buffer held before. -/
def Accurate (width height : Nat) (y u v : Nat → Nat → UInt8) (conversion : List Access) : Prop :=
  ∀ rgb : Bytes, rgb.length = 3 * (width * height) →
    ∀ row < height, ∀ col < width, ∀ channel < 3,
      ∃ byte, (store rgb conversion)[3 * (row * width + col) + channel]? = some byte ∧
        |(byte.toNat : ℚ) - saturate (perfect (y row col) (u row col) (v row col) channel)| ≤ 10

/-- `NV122RGB` is accurate on every image of a size: Y at full resolution, then a U, V pair for each
2x2 block. -/
def NV122RGB.Accurate (width height : UInt32) : Prop :=
  let cols := width.toNat
  let area := width.toNat * height.toNat
  ∀ nv12 : Nat → UInt8,
    Linux.Accurate width.toNat height.toNat
      (fun row col => nv12 (row * cols + col))
      (fun row col => nv12 (area + (row / 2 * cols + col / 2 * 2)))
      (fun row col => nv12 (area + (row / 2 * cols + col / 2 * 2 + 1)))
      (NV122RGB nv12 width height)

/-- `YU122RGB` is accurate on every image of a size: Y at full resolution, then a U for each 2x2
block, then a V for each. -/
def YU122RGB.Accurate (width height : UInt32) : Prop :=
  let cols := width.toNat
  let area := width.toNat * height.toNat
  ∀ yu12 : Nat → UInt8,
    Linux.Accurate width.toNat height.toNat
      (fun row col => yu12 (row * cols + col))
      (fun row col => yu12 (area + (row / 2 * (cols / 2) + col / 2)))
      (fun row col => yu12 (area + area / 4 + (row / 2 * (cols / 2) + col / 2)))
      (YU122RGB yu12 width height)

/-! ## One pixel -/

/-- Clamping brings two levels no further apart. -/
theorem saturate_near (a b : ℚ) : |saturate a - saturate b| ≤ |a - b| := by
  have high := abs_min_sub_min_le_max 255 a 255 b
  have low := abs_max_sub_max_le_max 0 (min 255 a) 0 (min 255 b)
  rw [sub_self, abs_zero, max_eq_right (abs_nonneg (a - b))] at high
  rw [sub_self, abs_zero, max_eq_right (abs_nonneg (min 255 a - min 255 b))] at low
  exact low.trans high

/-- The clamp of the code is the exact one, of the level rounded down. -/
theorem clamped_saturate (sixteenths : Int) :
    (clamped sixteenths : ℚ) = saturate ((sixteenths / 16 : Int) : ℚ) := by
  rw [clamped, saturate, min_comm]
  push_cast
  rfl

theorem rounded_down (sixteenths : Int) :
    16 * ((sixteenths / 16 : Int) : ℚ) ≤ sixteenths ∧
      (sixteenths : ℚ) ≤ 16 * ((sixteenths / 16 : Int) : ℚ) + 15 := by
  constructor
  · exact_mod_cast (by omega : 16 * (sixteenths / 16) ≤ sixteenths)
  · exact_mod_cast (by omega : sixteenths ≤ 16 * (sixteenths / 16) + 15)

/-- Before the clamp, the level rounded down is within ten of the formula. -/
theorem fixedPoint_near (y u v : UInt8) (channel : Nat) :
    |((fixedPoint y u v channel / 16 : Int) : ℚ) - perfect y u v channel| ≤ 10 := by
  obtain ⟨low, high⟩ := rounded_down (fixedPoint y u v channel)
  have bounds (byte : UInt8) : (0 : ℚ) ≤ sample byte ∧ (sample byte : ℚ) ≤ 255 := by
    exact_mod_cast sample_bounds byte
  obtain ⟨y_low, y_high⟩ := bounds y
  obtain ⟨u_low, u_high⟩ := bounds u
  obtain ⟨v_low, v_high⟩ := bounds v
  generalize fixedPoint y u v channel / 16 = level at *
  rw [abs_le]
  match channel with
  | 0 =>
      simp only [fixedPoint, perfect] at *
      push_cast at low high
      constructor <;> linarith
  | 1 =>
      simp only [fixedPoint, perfect] at *
      push_cast at low high
      constructor <;> linarith
  | _ + 2 =>
      simp only [fixedPoint, perfect] at *
      push_cast at low high
      constructor <;> linarith

theorem planarColour_near (y u v : UInt8) (channel : Nat) :
    |((planarColour y u v channel).toNat : ℚ) - saturate (perfect y u v channel)| ≤ 10 := by
  have level : ((planarColour y u v channel).toNat : ℚ) =
      saturate ((fixedPoint y u v channel / 16 : Int) : ℚ) := by
    rw [← clamped_saturate, ← planarColour_toNat]
    push_cast
    rfl
  rw [level]
  exact (saturate_near _ _).trans (fixedPoint_near y u v channel)

/-! ## The image -/

section Image

variable {width height : UInt32}

/-- An image that fits has room for each byte of each pixel. -/
theorem channel_lt_image {row col channel : Nat} (inRows : row < height.toNat)
    (inCols : col < width.toNat) (bound : channel < 3) :
    3 * (row * width.toNat + col) + channel < 3 * (width.toNat * height.toNat) := by
  have inArea := rowMajor_lt_area inRows inCols
  omega

/-- A conversion that leaves its own colour at each pixel is accurate. -/
theorem accurate_of_lastAt {y u v : Nat → Nat → UInt8} {conversion : List Access}
    (colours : ∀ row < height.toNat, ∀ col < width.toNat, ∀ channel < 3,
      lastAt (3 * (row * width.toNat + col) + channel) conversion =
        some (planarColour (y row col) (u row col) (v row col) channel)) :
    Accurate width.toNat height.toNat y u v conversion := by
  intro rgb sized row inRows col inCols channel bound
  refine ⟨_, getElem?_store_of_lastAt ?_ (colours row inRows col inCols channel bound),
    planarColour_near _ _ _ channel⟩
  rw [sized]
  exact channel_lt_image inRows inCols bound

/-- Green of a grey image. -/
theorem perfect_grey : perfect 128 128 128 1 = 130.368 := by
  have grey : sample 128 = 128 := rfl
  norm_num [perfect, grey]

/-- From `2^32` RGB bytes on, a grey image shows the byte that is never written: green of the pixel
whose `rgb_index` is the greatest `uint32_t`. -/
theorem planar_not_accurate (yAt uAt vAt : Nat → Nat → Nat)
    (large : 2 ^ 32 ≤ 3 * (width.toNat * height.toNat)) :
    ¬ Accurate width.toNat height.toNat (fun _ _ => 128) (fun _ _ => 128) (fun _ _ => 128)
      (raster height.toNat width.toNat fun row col =>
        convertPixel (fun _ => 128) (yAt row col) (uAt row col) (vAt row col)
          ((UInt32.ofNat row * width + UInt32.ofNat col) * 3)) := by
  intro accurate
  have inArea : 1431655765 < height.toNat * width.toNat := by
    rw [Nat.mul_comm]
    omega
  obtain ⟨row, inRows, col, inCols, cell⟩ := exists_rowMajor inArea
  obtain ⟨byte, there, near⟩ := accurate (List.replicate (3 * (width.toNat * height.toNat)) 0)
    List.length_replicate row inRows col inCols 1 (by decide)
  have inside := channel_lt_image inRows inCols (by decide : 1 < 3)
  have untouched := (lastAt_planar_eq_none_iff (fun _ => 128) yAt uAt vAt large
    (3 * (row * width.toNat + col) + 1)).2 (by omega)
  rw [getElem?_store, untouched, List.getElem?_replicate_of_lt inside] at there
  obtain rfl : 0 = byte := Option.some.inj there
  rw [perfect_grey, saturate] at near
  norm_num at near

theorem NV122RGB.accurate_iff :
    NV122RGB.Accurate width height ↔ 3 * (width.toNat * height.toNat) < 2 ^ 32 := by
  constructor
  · intro accurate
    by_contra large
    exact planar_not_accurate _ _ _ (Nat.not_lt.1 large) (accurate fun _ => 128)
  · intro small nv12
    apply accurate_of_lastAt
    intro row inRows col inCols channel bound
    exact lastAt_NV122RGB nv12 small inRows inCols bound

/-- The colour `YU122RGB` leaves at a pixel: that of its Y and of the U and the V of its block. -/
theorem lastAt_YU122RGB (yu12 : Nat → UInt8) {row col channel : Nat}
    (small : 3 * (width.toNat * height.toNat) < 2 ^ 32) (inRows : row < height.toNat)
    (inCols : col < width.toNat) (bound : channel < 3) :
    lastAt (3 * (row * width.toNat + col) + channel) (YU122RGB yu12 width height) =
      some (planarColour (yu12 (row * width.toNat + col))
        (yu12 (width.toNat * height.toNat + (row / 2 * (width.toNat / 2) + col / 2)))
        (yu12 (width.toNat * height.toNat + width.toNat * height.toNat / 4 +
          (row / 2 * (width.toNat / 2) + col / 2)))
        channel) := by
  have plane : (width * height).toNat = width.toNat * height.toNat :=
    uint32_mul rfl rfl (by omega)
  have quarter : (width * height / 4).toNat = width.toNat * height.toNat / 4 :=
    uint32_div plane rfl
  refine (lastAt_planar yu12 _ _ _ small inRows inCols bound).trans ?_
  rw [pixelIndex_toNat small inRows inCols, plane, quarter,
    YU122RGB.uvIndex_toNat small inRows inCols]

theorem YU122RGB.accurate_iff :
    YU122RGB.Accurate width height ↔ 3 * (width.toNat * height.toNat) < 2 ^ 32 := by
  constructor
  · intro accurate
    by_contra large
    exact planar_not_accurate _ _ _ (Nat.not_lt.1 large) (accurate fun _ => 128)
  · intro small yu12
    apply accurate_of_lastAt
    intro row inRows col inCols channel bound
    exact lastAt_YU122RGB yu12 small inRows inCols bound

end Image

/-- The planar converters are accurate on every image of a size exactly if no RGB offset of that
size wraps. -/
theorem planar_accurate_iff (width height : UInt32) :
    (NV122RGB.Accurate width height ↔ 3 * (width.toNat * height.toNat) < 2 ^ 32) ∧
      (YU122RGB.Accurate width height ↔ 3 * (width.toNat * height.toNat) < 2 ^ 32) :=
  ⟨NV122RGB.accurate_iff, YU122RGB.accurate_iff⟩

theorem wide_image_inaccurate :
    ¬ NV122RGB.Accurate 65536 21846 ∧ ¬ YU122RGB.Accurate 65536 21846 := by
  have large : ¬ 3 * ((65536 : UInt32).toNat * (21846 : UInt32).toNat) < 2 ^ 32 := by decide
  exact ⟨mt NV122RGB.accurate_iff.1 large, mt YU122RGB.accurate_iff.1 large⟩

end OpenpnpCapture.Linux
