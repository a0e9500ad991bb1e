/-
# Linux.ColourAgreement — do the YUYV and the NV12 converter agree on colour?

An image with one U and one V for each 2x2 block can be sent as YUYV or as NV12.  `YUYV2RGB`
adds `32 (V - 128)` to red and `26 (U - 128)` to blue; `NV122RGB`, whose comment says "using the
same coefficients as YUYV", adds `26 (V - 128)` and `32 (U - 128)`, and the green coefficients
are exchanged too.  So they agree on a pixel only while the difference is lost in the
rounding or in the clamp (`NearGrey`), and `converters_agree_iff` is the exact condition.

From `2^32` RGB bytes on they do not even write the same offsets: the count of YUYV bytes and the
RGB index of NV12 wrap in different places.
-/
import OpenpnpCapture.Linux.YuvConverters

namespace OpenpnpCapture.Linux

open OpenpnpCapture.Lib

set_option autoImplicit false

/-- The planes of an image, the chroma planes constant over 2x2 blocks. -/
structure Planes where
  y : Nat → Nat → UInt8
  u : Nat → Nat → UInt8
  v : Nat → Nat → UInt8
  uBlocks : ∀ row col, u row col = u (row / 2 * 2) (col / 2 * 2)
  vBlocks : ∀ row col, v row col = v (row / 2 * 2) (col / 2 * 2)

namespace Planes

/-- Y0 U Y1 V for each pair of pixels, row by row. -/
def yuyv (image : Planes) (width i : Nat) : UInt8 :=
  let row := i / 2 / width
  let col := i / 2 % width
  if i % 2 = 0 then image.y row col
  else if col % 2 = 0 then image.u row col
  else image.v row col

/-- All Y, then U V for each pair of pixels of every other row. -/
def nv12 (image : Planes) (width height i : Nat) : UInt8 :=
  if i < width * height then image.y (i / width) (i % width)
  else
    let row := (i - width * height) / width * 2
    let col := (i - width * height) % width
    if col % 2 = 0 then image.u row col else image.v row col

end Planes

/-- Adding `p` or `q` to `a` gives one byte: dividing by 16 hides the difference, or both sums are
clamped at the same end. -/
def SameLevel (a p q : Int) : Prop :=
  (0 ≤ (a + p) % 16 + (q - p) ∧ (a + p) % 16 + (q - p) < 16) ∨
    (a + p < 16 ∧ a + q < 16) ∨ (4080 ≤ a + p ∧ 4080 ≤ a + q)

instance (a p q : Int) : Decidable (SameLevel a p q) :=
  inferInstanceAs (Decidable (_ ∨ _ ∨ _))

/-- The exchanged coefficients do not show. -/
def NearGrey (y u v : UInt8) : Prop :=
  let a := 19 * (sample y - 16)
  let u := sample u - 128
  let v := sample v - 128
  SameLevel a (32 * v) (26 * v) ∧ SameLevel a (-13 * u - 6 * v) (-13 * v - 6 * u) ∧
    SameLevel a (26 * u) (32 * u)

instance (y u v : UInt8) : Decidable (NearGrey y u v) :=
  inferInstanceAs (Decidable (_ ∧ _ ∧ _))

/-! ## One pixel -/

/-- The channels `YUYV2RGB` writes for a pixel. -/
def yuyvColour (y u v : UInt8) : Nat → UInt8
  | 0 => clamp ((int16 (19 * (sample y - 16)) + 32 * (sample v - 128)) >>> (4 : Nat))
  | 1 => clamp ((int16 (19 * (sample y - 16)) - 13 * (sample u - 128) - 6 * (sample v - 128))
      >>> (4 : Nat))
  | _ => clamp ((int16 (19 * (sample y - 16)) + 26 * (sample u - 128)) >>> (4 : Nat))

/-- The channels `NV122RGB` writes for a pixel. -/
def planarColour (y u v : UInt8) : Nat → UInt8
  | 0 => clamp ((int16 (19 * (sample y - 16)) + 26 * (sample v - 128)) >>> (4 : Nat))
  | 1 => clamp ((int16 (19 * (sample y - 16)) - 13 * (sample v - 128) - 6 * (sample u - 128))
      >>> (4 : Nat))
  | _ => clamp ((int16 (19 * (sample y - 16)) + 32 * (sample u - 128)) >>> (4 : Nat))

theorem sample_bounds (byte : UInt8) : 0 ≤ sample byte ∧ sample byte ≤ 255 := by
  have bound := byte.toNat_lt
  unfold sample
  omega

theorem clamp_toNat {n : Int} (low : -2 ^ 15 ≤ n) (high : n < 2 ^ 15) :
    ((clamp n).toNat : Int) = max 0 (min n 255) := by
  have fits : int16 n = n := by
    rw [int16]
    apply Int.bmod_eq_of_le <;> omega
  have bound : (if (if n > 255 then 255 else n) < 0 then 0 else if n > 255 then 255 else n).toNat
      < 256 := by split <;> split <;> omega
  unfold clamp
  simp only [fits]
  rw [UInt8.toNat_ofNat_of_lt' bound]
  split <;> split <;> omega

theorem clamp_shift_eq_iff {a p q : Int} (left : -2 ^ 15 ≤ a + p ∧ a + p < 2 ^ 15)
    (right : -2 ^ 15 ≤ a + q ∧ a + q < 2 ^ 15) :
    clamp ((a + p) >>> (4 : Nat)) = clamp ((a + q) >>> (4 : Nat)) ↔ SameLevel a p q := by
  have difference : q - p = (a + q) - (a + p) := by omega
  rw [SameLevel, difference]
  generalize a + p = first at *
  generalize a + q = second at *
  have shift (n : Int) : n >>> (4 : Nat) = n / 16 := Int.shiftRight_eq_div_pow n 4
  have levels := clamp_toNat (n := first / 16) (by omega) (by omega)
  have levels' := clamp_toNat (n := second / 16) (by omega) (by omega)
  rw [← UInt8.toNat_inj, shift, shift]
  omega

/-- The two converters agree on a pixel exactly if the exchanged coefficients do not show. -/
theorem colours_agree_iff (y u v : UInt8) :
    (∀ channel < 3, yuyvColour y u v channel = planarColour y u v channel) ↔ NearGrey y u v := by
  obtain ⟨y_low, y_high⟩ := sample_bounds y
  obtain ⟨u_low, u_high⟩ := sample_bounds u
  obtain ⟨v_low, v_high⟩ := sample_bounds v
  have luma : int16 (19 * (sample y - 16)) = 19 * (sample y - 16) := by
    rw [int16]
    apply Int.bmod_eq_of_le <;> omega
  have green (a p q : Int) : a - 13 * p - 6 * q = a + (-13 * p - 6 * q) := by omega
  rw [forall_channel]
  unfold NearGrey yuyvColour planarColour
  simp only [luma, green]
  refine and_congr ?_ (and_congr ?_ ?_)
  · exact clamp_shift_eq_iff (by omega) (by omega)
  · exact clamp_shift_eq_iff (by omega) (by omega)
  · exact clamp_shift_eq_iff (by omega) (by omega)

/-! ## What is written where -/

theorem exists_pixel {pairs : Nat} {P : Nat → Prop} :
    (∃ n < 2 * (pairs + 1), P n) ↔ (P 0 ∨ P 1) ∨ ∃ n < 2 * pairs, P (n + 2) := by
  constructor
  · rintro ⟨n, bound, holds⟩
    match n with
    | 0 => exact .inl (.inl holds)
    | 1 => exact .inl (.inr holds)
    | n + 2 => exact .inr ⟨n, by omega, holds⟩
  · rintro ((first | second) | ⟨n, bound, holds⟩)
    · exact ⟨0, by omega, first⟩
    · exact ⟨1, by omega, second⟩
    · exact ⟨n + 2, by omega, holds⟩

section Writes

variable {offset : Nat} {value : UInt8}

/-- Pixel `n` takes its Y at `2 n` and its U and V in the four bytes of its pair. -/
theorem YUYV2RGB.write_mem_loop_iff (yuv : Nat → UInt8) (source target bytes : Nat) :
    .write offset value ∈ YUYV2RGB.loop yuv source target bytes ↔
      ∃ n < 2 * (bytes / 4), ∃ channel < 3, offset = target + 3 * n + channel ∧
        value = yuyvColour (yuv (source + 2 * n)) (yuv (source + 4 * (n / 2) + 1))
          (yuv (source + 4 * (n / 2) + 3)) channel := by
  fun_induction YUYV2RGB.loop yuv source target bytes with
  | case1 source target bytes y0 cr y1 cb yy0 yy1 ih =>
      have quads : (bytes + 4) / 4 = bytes / 4 + 1 := Nat.add_div_right bytes (by decide)
      have pair (n : Nat) : (n + 2) / 2 = n / 2 + 1 := Nat.add_div_right n (by decide)
      have pixel (n : Nat) : target + 3 * (n + 2) = target + 6 + 3 * n := by omega
      have luma (n : Nat) : source + 2 * (n + 2) = source + 4 + 2 * n := by omega
      have chroma (n : Nat) : source + 4 * (n + 1) = source + 4 + 4 * n := by omega
      rw [List.mem_append, ih, quads, exists_pixel]
      refine or_congr ?_ ?_
      · rw [exists_channel, exists_channel]
        simp only [List.mem_cons, List.not_mem_nil, Access.write.injEq, reduceCtorEq, false_or,
          or_false, or_assoc]
        rfl
      · simp only [pair, pixel, luma, chroma]
  | case2 bytes source target short =>
      have none_left : bytes / 4 = 0 := by
        by_contra some_left
        exact short (bytes - 4) (by omega)
      simp [none_left]

theorem write_mem_convertPixel_iff (source : Nat → UInt8) (yAt uAt vAt : Nat) (rgb_index : UInt32) :
    .write offset value ∈ convertPixel source yAt uAt vAt rgb_index ↔
      ∃ channel < 3, offset = (rgb_index + .ofNat channel).toNat ∧
        value = planarColour (source yAt) (source uAt) (source vAt) channel := by
  have first : rgb_index + .ofNat 0 = rgb_index := UInt32.add_zero rgb_index
  rw [exists_channel, first]
  simp only [convertPixel, List.mem_cons, List.not_mem_nil, Access.write.injEq, reduceCtorEq,
    false_or, or_false]
  rfl

end Writes

section Image

variable {width height : UInt32} (image : Planes)

/-- The YUYV packing holds the samples of a pixel where the converter takes them. -/
theorem Planes.yuyv_pixel (row : Nat) {cols col : Nat} (evenCols : cols % 2 = 0) (inCols : col < cols) :
    image.yuyv cols (2 * (row * cols + col)) = image.y row col ∧
      image.yuyv cols (4 * ((row * cols + col) / 2) + 1) = image.u row col ∧
      image.yuyv cols (4 * ((row * cols + col) / 2) + 3) = image.v row col := by
  have evenRow : row * cols % 2 = 0 := by rw [Nat.mul_mod, evenCols, Nat.mul_zero, Nat.zero_mod]
  have atY : 2 * (row * cols + col) / 2 = row * cols + col := by omega
  have atU : (4 * ((row * cols + col) / 2) + 1) / 2 = row * cols + col / 2 * 2 := by omega
  have atV : (4 * ((row * cols + col) / 2) + 3) / 2 = row * cols + (col / 2 * 2 + 1) := by omega
  refine ⟨?_, ?_, ?_⟩
  · unfold Planes.yuyv
    simp only [atY, rowMajor_div inCols, rowMajor_mod inCols]
    rw [if_pos (by omega)]
  · have left : col / 2 * 2 < cols := by omega
    unfold Planes.yuyv
    simp only [atU, rowMajor_div left, rowMajor_mod left]
    rw [if_neg (by omega), if_pos (by omega), image.uBlocks, image.uBlocks row col,
      Nat.mul_div_cancel _ (by decide)]
  · have right : col / 2 * 2 + 1 < cols := by omega
    have half : (col / 2 * 2 + 1) / 2 = col / 2 := by omega
    unfold Planes.yuyv
    simp only [atV, rowMajor_div right, rowMajor_mod right]
    rw [if_neg (by omega), if_neg (by omega), image.vBlocks, image.vBlocks row col, half]

/-- The NV12 packing holds the samples of a pixel where the converter takes them. -/
theorem Planes.nv12_pixel {cols rows row col : Nat} (evenCols : cols % 2 = 0) (inRows : row < rows)
    (inCols : col < cols) :
    image.nv12 cols rows (row * cols + col) = image.y row col ∧
      image.nv12 cols rows (cols * rows + (row / 2 * cols + col / 2 * 2)) = image.u row col ∧
      image.nv12 cols rows (cols * rows + (row / 2 * cols + col / 2 * 2 + 1)) = image.v row col := by
  have inArea := rowMajor_lt_area inRows inCols
  refine ⟨?_, ?_, ?_⟩
  · unfold Planes.nv12
    rw [if_pos inArea, rowMajor_div inCols, rowMajor_mod inCols]
  · have left : col / 2 * 2 < cols := by omega
    unfold Planes.nv12
    simp only [Nat.add_sub_cancel_left, rowMajor_div left, rowMajor_mod left]
    rw [if_neg (by omega), if_pos (by omega), image.uBlocks, image.uBlocks row col,
      Nat.mul_div_cancel _ (by decide), Nat.mul_div_cancel _ (by decide)]
  · have right : col / 2 * 2 + 1 < cols := by omega
    have half : (col / 2 * 2 + 1) / 2 = col / 2 := by omega
    unfold Planes.nv12
    simp only [Nat.add_assoc, Nat.add_sub_cancel_left, rowMajor_div right, rowMajor_mod right]
    rw [if_neg (by omega), if_neg (by omega), image.vBlocks, image.vBlocks row col, half,
      Nat.mul_div_cancel _ (by decide)]

/-- The colour `YUYV2RGB` leaves at a pixel. -/
theorem lastAt_yuyv {cols row col channel : Nat} {bytes : UInt32} (evenCols : cols % 2 = 0)
    (inCols : col < cols) (inBytes : row * cols + col < 2 * (bytes.toNat / 4))
    (bound : channel < 3) :
    lastAt (3 * (row * cols + col) + channel) (YUYV2RGB (image.yuyv cols) bytes) =
      some (yuyvColour (image.y row col) (image.u row col) (image.v row col) channel) := by
  obtain ⟨atY, atU, atV⟩ := image.yuyv_pixel row evenCols inCols
  apply lastAt_eq_some
  · rw [YUYV2RGB, YUYV2RGB.write_mem_loop_iff]
    refine ⟨row * cols + col, inBytes, channel, bound, by omega, ?_⟩
    simp only [Nat.zero_add, atY, atU, atV]
  · intro other touched
    rw [YUYV2RGB, YUYV2RGB.write_mem_loop_iff] at touched
    obtain ⟨n, -, channel', bound', place, rfl⟩ := touched
    obtain rfl : n = row * cols + col := by omega
    obtain rfl : channel' = channel := by omega
    simp only [Nat.zero_add, atY, atU, atV]

/-- The colour a planar converter leaves at a pixel: that of the samples it finds for it. -/
theorem lastAt_planar (source : Nat → UInt8) (yAt uAt vAt : Nat → Nat → Nat) {row col channel : Nat}
    (small : 3 * (width.toNat * height.toNat) < 2 ^ 32) (inRows : row < height.toNat)
    (inCols : col < width.toNat) (bound : channel < 3) :
    lastAt (3 * (row * width.toNat + col) + channel)
        (raster height.toNat width.toNat fun row col =>
          convertPixel source (yAt row col) (uAt row col) (vAt row col)
            ((UInt32.ofNat row * width + UInt32.ofNat col) * 3)) =
      some (planarColour (source (yAt row col)) (source (uAt row col)) (source (vAt row col))
        channel) := by
  apply lastAt_eq_some
  · rw [mem_raster]
    refine ⟨row, inRows, col, inCols, ?_⟩
    have inArea := rowMajor_lt_area inRows inCols
    rw [write_mem_convertPixel_iff]
    exact ⟨channel, bound, (channel_toNat inCols (by omega)).symm, rfl⟩
  · intro other touched
    rw [mem_raster] at touched
    obtain ⟨row', inRows', col', inCols', touched⟩ := touched
    have inArea := rowMajor_lt_area inRows' inCols'
    rw [write_mem_convertPixel_iff] at touched
    obtain ⟨channel', bound', place, rfl⟩ := touched
    rw [channel_toNat inCols' (by omega)] at place
    have same : row' * width.toNat + col' = row * width.toNat + col := by omega
    obtain ⟨rfl, rfl⟩ := rowMajor_inj inCols' inCols same
    obtain rfl : channel' = channel := by omega
    rfl

/-- The colour `NV122RGB` leaves at a pixel: that of its Y and of the U, V pair of its block. -/
theorem lastAt_NV122RGB (nv12 : Nat → UInt8) {row col channel : Nat}
    (small : 3 * (width.toNat * height.toNat) < 2 ^ 32) (inRows : row < height.toNat)
    (inCols : col < width.toNat) (bound : channel < 3) :
    lastAt (3 * (row * width.toNat + col) + channel) (NV122RGB nv12 width height) =
      some (planarColour (nv12 (row * width.toNat + col))
        (nv12 (width.toNat * height.toNat + (row / 2 * width.toNat + col / 2 * 2)))
        (nv12 (width.toNat * height.toNat + (row / 2 * width.toNat + col / 2 * 2 + 1)))
        channel) := by
  have plane : (width * height).toNat = width.toNat * height.toNat :=
    uint32_mul rfl rfl (by omega)
  obtain ⟨uAt, vAt⟩ := NV122RGB.uvIndex_toNat small inRows inCols
  refine (lastAt_planar nv12 _ _ _ small inRows inCols bound).trans ?_
  rw [pixelIndex_toNat small inRows inCols, plane, uAt, vAt]

/-- The same on the NV12 packing of an image. -/
theorem lastAt_nv12 {row col channel : Nat} (evenCols : width.toNat % 2 = 0)
    (small : 3 * (width.toNat * height.toNat) < 2 ^ 32) (inRows : row < height.toNat)
    (inCols : col < width.toNat) (bound : channel < 3) :
    lastAt (3 * (row * width.toNat + col) + channel)
        (NV122RGB (image.nv12 width.toNat height.toNat) width height) =
      some (planarColour (image.y row col) (image.u row col) (image.v row col) channel) := by
  obtain ⟨atY, atU, atV⟩ := image.nv12_pixel evenCols inRows inCols
  rw [lastAt_NV122RGB _ small inRows inCols bound, atY, atU, atV]

/-- `YUYV2RGB` leaves what lies behind its last whole pair. -/
theorem lastAt_yuyv_eq_none_iff (yuv : Nat → UInt8) (bytes : UInt32) (offset : Nat) :
    lastAt offset (YUYV2RGB yuv bytes) = none ↔ 6 * (bytes.toNat / 4) ≤ offset := by
  simp only [lastAt_eq_none_iff, YUYV2RGB, YUYV2RGB.write_mem_loop_iff]
  constructor
  · intro untouched
    by_contra before
    exact untouched _ ⟨offset / 3, by omega, offset % 3, by omega, by omega, rfl⟩
  · rintro behind value ⟨n, inBytes, channel, bound, place, -⟩
    omega

/-- From `2^32` RGB bytes on, a planar converter writes at every `uint32_t`, and of course nowhere
else. -/
theorem lastAt_planar_eq_none_iff (source : Nat → UInt8) (yAt uAt vAt : Nat → Nat → Nat)
    (large : 2 ^ 32 ≤ 3 * (width.toNat * height.toNat)) (offset : Nat) :
    lastAt offset
        (raster height.toNat width.toNat fun row col =>
          convertPixel source (yAt row col) (uAt row col) (vAt row col)
            ((UInt32.ofNat row * width + UInt32.ofNat col) * 3)) = none ↔
      2 ^ 32 ≤ offset := by
  simp only [lastAt_eq_none_iff, mem_raster, write_mem_convertPixel_iff]
  constructor
  · intro untouched
    by_contra before
    have inside : offset < height.toNat * width.toNat * 3 := by
      rw [Nat.mul_comm height.toNat]
      omega
    obtain ⟨row, inRows, col, inCols, channel, bound, rfl⟩ := exists_cell inside
    refine untouched _ ⟨row, inRows, col, inCols, channel, bound, ?_, rfl⟩
    exact (channel_toNat inCols (Nat.not_le.1 before)).symm
  · rintro behind value ⟨row, -, col, -, channel, -, rfl, -⟩
    exact absurd (UInt32.toNat_lt _) (Nat.not_lt.2 behind)

theorem lastAt_nv12_eq_none_iff (nv12 : Nat → UInt8)
    (large : 2 ^ 32 ≤ 3 * (width.toNat * height.toNat)) (offset : Nat) :
    lastAt offset (NV122RGB nv12 width height) = none ↔ 2 ^ 32 ≤ offset :=
  lastAt_planar_eq_none_iff nv12 _ _ _ large offset

end Image

theorem area_mod_four {cols rows : Nat} (evenCols : cols % 2 = 0) (evenRows : rows % 2 = 0) :
    cols * rows % 4 = 0 := by
  obtain ⟨halfCols, rfl⟩ := Nat.dvd_of_mod_eq_zero evenCols
  obtain ⟨halfRows, rfl⟩ := Nat.dvd_of_mod_eq_zero evenRows
  rw [Nat.mul_mul_mul_comm]
  exact Nat.mul_mod_right 4 _

/-- While nothing wraps, the converters leave the same at every offset exactly if no pixel shows the
exchanged coefficients. -/
theorem lastAt_alike_iff {width height : UInt32} (evenWidth : width.toNat % 2 = 0)
    (evenHeight : height.toNat % 2 = 0) (image : Planes)
    (small : 3 * (width.toNat * height.toNat) < 2 ^ 32) :
    (∀ offset < 3 * (width.toNat * height.toNat),
        lastAt offset
            (YUYV2RGB (image.yuyv width.toNat) (.ofNat (2 * (width.toNat * height.toNat)))) =
          lastAt offset (NV122RGB (image.nv12 width.toNat height.toNat) width height)) ↔
      ∀ row < height.toNat, ∀ col < width.toNat,
        NearGrey (image.y row col) (image.u row col) (image.v row col) := by
  have count : (UInt32.ofNat (2 * (width.toNat * height.toNat))).toNat =
      2 * (width.toNat * height.toNat) := uint32_ofNat (by omega)
  have quads := area_mod_four evenWidth evenHeight
  have pixel {row col : Nat} (inRows : row < height.toNat) (inCols : col < width.toNat)
      {channel : Nat} (bound : channel < 3) :
      lastAt (3 * (row * width.toNat + col) + channel)
            (YUYV2RGB (image.yuyv width.toNat) (.ofNat (2 * (width.toNat * height.toNat)))) =
          lastAt (3 * (row * width.toNat + col) + channel)
            (NV122RGB (image.nv12 width.toNat height.toNat) width height) ↔
        yuyvColour (image.y row col) (image.u row col) (image.v row col) channel =
          planarColour (image.y row col) (image.u row col) (image.v row col) channel := by
    have inArea := rowMajor_lt_area inRows inCols
    rw [lastAt_yuyv image evenWidth inCols (by omega) bound,
      lastAt_nv12 image evenWidth small inRows inCols bound, Option.some.injEq]
  constructor
  · intro alike row inRows col inCols
    refine (colours_agree_iff _ _ _).1 fun channel bound => (pixel inRows inCols bound).1 ?_
    have inArea := rowMajor_lt_area inRows inCols
    exact alike _ (by omega)
  · intro grey offset inside
    rw [Nat.mul_comm, Nat.mul_comm width.toNat] at inside
    obtain ⟨row, inRows, col, inCols, channel, bound, rfl⟩ := exists_cell inside
    exact (pixel inRows inCols bound).2
      ((colours_agree_iff _ _ _).2 (grey row inRows col inCols) _ bound)

/-- From `2^32` RGB bytes on, some offset of the frame buffer is written by one converter only. -/
theorem exists_written_by_one {width height : UInt32} (evenWidth : width.toNat % 2 = 0)
    (evenHeight : height.toNat % 2 = 0) (yuyv nv12 : Nat → UInt8)
    (large : 2 ^ 32 ≤ 3 * (width.toNat * height.toNat)) :
    ∃ offset < 3 * (width.toNat * height.toNat),
      lastAt offset (YUYV2RGB yuyv (.ofNat (2 * (width.toNat * height.toNat)))) ≠
        lastAt offset (NV122RGB nv12 width height) := by
  have quads := area_mod_four evenWidth evenHeight
  have count : (UInt32.ofNat (2 * (width.toNat * height.toNat))).toNat =
      2 * (width.toNat * height.toNat) % 2 ^ 32 := UInt32.toNat_ofNat'
  have yuyvStops := lastAt_yuyv_eq_none_iff yuyv (.ofNat (2 * (width.toNat * height.toNat)))
  have nv12Stops := lastAt_nv12_eq_none_iff nv12 large
  rw [count] at yuyvStops
  generalize width.toNat * height.toNat = area at *
  -- YUYV stops at a multiple of six, which `2 ^ 32` is not
  rcases Nat.lt_or_ge (6 * (2 * area % 2 ^ 32 / 4)) (2 ^ 32) with early | late
  · refine ⟨6 * (2 * area % 2 ^ 32 / 4), by omega, fun same => ?_⟩
    have untouched := (yuyvStops _).2 (Nat.le_refl _)
    have touched := (nv12Stops _).1 (same ▸ untouched)
    omega
  · refine ⟨2 ^ 32, by omega, fun same => ?_⟩
    have untouched := (nv12Stops (2 ^ 32)).2 (Nat.le_refl _)
    have touched := (yuyvStops _).1 (same ▸ untouched)
    omega

/-- The converters agree on an image, whatever the frame buffer held before, exactly if it has
fewer than `2^32` RGB bytes and no pixel in which the exchanged coefficients show. -/
theorem converters_agree_iff {width height : UInt32} (evenWidth : width.toNat % 2 = 0)
    (evenHeight : height.toNat % 2 = 0) (image : Planes) :
    (∀ rgb : Bytes, rgb.length = 3 * (width.toNat * height.toNat) →
        store rgb (YUYV2RGB (image.yuyv width.toNat) (.ofNat (2 * (width.toNat * height.toNat)))) =
          store rgb (NV122RGB (image.nv12 width.toNat height.toNat) width height)) ↔
      3 * (width.toNat * height.toNat) < 2 ^ 32 ∧
        ∀ row < height.toNat, ∀ col < width.toNat,
          NearGrey (image.y row col) (image.u row col) (image.v row col) := by
  rw [store_alike_iff]
  rcases Nat.lt_or_ge (3 * (width.toNat * height.toNat)) (2 ^ 32) with small | large
  · rw [and_iff_right small, lastAt_alike_iff evenWidth evenHeight image small]
  · refine iff_of_false (fun alike => ?_) (fun holds => absurd holds.1 (Nat.not_lt.2 large))
    obtain ⟨offset, inside, differ⟩ := exists_written_by_one evenWidth evenHeight _ _ large
    exact differ (alike offset inside)

/-- An image of one colour. -/
def Planes.plain (y u v : UInt8) : Planes where
  y _ _ := y
  u _ _ := u
  v _ _ := v
  uBlocks _ _ := rfl
  vBlocks _ _ := rfl

theorem converters_agree_on_grey :
    store (List.replicate 12 7) (YUYV2RGB ((Planes.plain 200 128 128).yuyv 2) 8) =
      store (List.replicate 12 7) (NV122RGB ((Planes.plain 200 128 128).nv12 2 2) 2 2) :=
  (@converters_agree_iff 2 2 (by decide) (by decide) (Planes.plain 200 128 128)).2
    ⟨by decide, fun _ _ _ _ => (by decide : NearGrey 200 128 128)⟩ _ rfl

theorem converters_disagree_on_orange :
    store (List.replicate 12 0) (YUYV2RGB ((Planes.plain 144 54 190).yuyv 2) 8) ≠
      store (List.replicate 12 0) (NV122RGB ((Planes.plain 144 54 190).nv12 2 2) 2 2) := by
  decide

end OpenpnpCapture.Linux
