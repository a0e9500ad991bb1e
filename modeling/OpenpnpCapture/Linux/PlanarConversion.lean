/-
# Linux.PlanarConversion — the planar converters on images that fit

While the RGB image has fewer than `2^32` bytes, nothing in `NV122RGB` wraps: the routine with
every `uint32_t` and `int16_t` operation checked, `NV122RGB.checked`, does the same.  The loop
then writes the bytes of the frame buffer one after the other, and each pixel depends on its Y
and on the U, V pair of its 2x2 block (`NV122RGB_converts`).

`YU122RGB` finds the same samples elsewhere: its chroma planes lie one behind the other, with
rows half as long.  On the same planes it leaves the same image (`YU122RGB_agrees`).
-/
import Mathlib.Data.List.Nodup
import OpenpnpCapture.Lib.Checked
import OpenpnpCapture.Linux.ColourAgreement

namespace OpenpnpCapture.Linux

open OpenpnpCapture.Lib

set_option autoImplicit false

/-! ## The colour of a pixel -/

/-- The conversion in sixteenths, in exact arithmetic. -/
def fixedPoint (y u v : UInt8) : Nat → Int
  | 0 => 19 * (sample y - 16) + 26 * (sample v - 128)
  | 1 => 19 * (sample y - 16) - 13 * (sample v - 128) - 6 * (sample u - 128)
  | _ => 19 * (sample y - 16) + 32 * (sample u - 128)

/-- Rounded down to units, and clamped to a byte. -/
def clamped (sixteenths : Int) : Int :=
  max 0 (min (sixteenths / 16) 255)

theorem fixedPoint_bounds (y u v : UInt8) (channel : Nat) :
    -2 ^ 15 ≤ fixedPoint y u v channel ∧ fixedPoint y u v channel < 2 ^ 15 := by
  obtain ⟨y_low, y_high⟩ := sample_bounds y
  obtain ⟨u_low, u_high⟩ := sample_bounds u
  obtain ⟨v_low, v_high⟩ := sample_bounds v
  unfold fixedPoint
  split <;> omega

/-- `yy` holds its exact value. -/
theorem int16_luma (y : UInt8) : int16 (19 * (sample y - 16)) = 19 * (sample y - 16) := by
  obtain ⟨low, high⟩ := sample_bounds y
  rw [int16]
  apply Int.bmod_eq_of_le <;> omega

theorem planarColour_eq (y u v : UInt8) (channel : Nat) :
    planarColour y u v channel = clamp (fixedPoint y u v channel >>> (4 : Nat)) := by
  unfold planarColour fixedPoint
  rw [int16_luma]
  rcases channel with _ | _ | channel
  · rfl
  · rfl
  · rfl

theorem shift_bounds {n : Int} (bounds : -2 ^ 15 ≤ n ∧ n < 2 ^ 15) :
    -2 ^ 15 ≤ n >>> (4 : Nat) ∧ n >>> (4 : Nat) < 2 ^ 15 := by
  have shift : n >>> (4 : Nat) = n / 16 := Int.shiftRight_eq_div_pow n 4
  omega

theorem planarColour_toNat (y u v : UInt8) (channel : Nat) :
    ((planarColour y u v channel).toNat : Int) = clamped (fixedPoint y u v channel) := by
  obtain ⟨low, high⟩ := shift_bounds (fixedPoint_bounds y u v channel)
  have shift : fixedPoint y u v channel >>> (4 : Nat) = fixedPoint y u v channel / 16 :=
    Int.shiftRight_eq_div_pow _ 4
  rw [planarColour_eq, clamp_toNat low high, shift]
  rfl

/-! ## `NV122RGB` with every operation checked -/

def clamp.checked (v : Int) : Option UInt8 := do
  let v ← narrow16 v
  let v := if v > 255 then 255 else v
  let v := if v < 0 then 0 else v
  some (UInt8.ofNat v.toNat)

def convertPixel.checked (source : Nat → UInt8) (yAt uAt vAt : Nat) (rgb_index : UInt32) :
    Option (List Access) := do
  let y := sample (source yAt)
  let u := sample (source uAt)
  let v := sample (source vAt)
  let yy ← narrow16 (19 * (y - 16))
  let red ← clamp.checked ((yy + 26 * (v - 128)) >>> (4 : Nat))
  let greenAt ← add32 rgb_index 1
  let green ← clamp.checked ((yy - 13 * (v - 128) - 6 * (u - 128)) >>> (4 : Nat))
  let blueAt ← add32 rgb_index 2
  let blue ← clamp.checked ((yy + 32 * (u - 128)) >>> (4 : Nat))
  some [.read yAt, .read uAt, .read vAt, .write rgb_index.toNat red,
    .write greenAt.toNat green, .write blueAt.toNat blue]

def NV122RGB.checkedPixel (nv12 : Nat → UInt8) (width height row col : UInt32) :
    Option (List Access) := do
  let area ← mul32 width height
  let rowStart ← mul32 row width
  let pixel ← add32 rowStart col
  let uv_row := row / 2
  let uv_col := col / 2
  let uvRowStart ← mul32 uv_row width
  let uvInRow ← mul32 uv_col 2
  let uv_index ← add32 uvRowStart uvInRow
  let vIndex ← add32 uv_index 1
  let rgb_index ← mul32 pixel 3
  convertPixel.checked nv12 pixel.toNat (area.toNat + uv_index.toNat)
    (area.toNat + vIndex.toNat) rgb_index

def NV122RGB.checked (nv12 : Nat → UInt8) (width height : UInt32) : Option (List Access) :=
  rasterM height.toNat width.toNat fun row col =>
    NV122RGB.checkedPixel nv12 width height (.ofNat row) (.ofNat col)

theorem clamp.checked_eq {n : Int} (bounds : -2 ^ 15 ≤ n ∧ n < 2 ^ 15) :
    clamp.checked (n >>> (4 : Nat)) = some (clamp (n >>> (4 : Nat))) := by
  obtain ⟨low, high⟩ := shift_bounds bounds
  rw [clamp.checked, narrow16_eq low high]
  rfl

theorem convertPixel.checked_eq (source : Nat → UInt8) (yAt uAt vAt : Nat) {rgb_index : UInt32}
    (room : rgb_index.toNat + 2 < 2 ^ 32) :
    convertPixel.checked source yAt uAt vAt rgb_index =
      some (convertPixel source yAt uAt vAt rgb_index) := by
  obtain ⟨low, high⟩ := sample_bounds (source yAt)
  have bounds := fixedPoint_bounds (source yAt) (source uAt) (source vAt)
  have luma : narrow16 (19 * (sample (source yAt) - 16)) = some (19 * (sample (source yAt) - 16)) := by
    rw [narrow16_eq (by omega) (by omega), int16_luma]
  have red := clamp.checked_eq (bounds 0)
  have green := clamp.checked_eq (bounds 1)
  have blue := clamp.checked_eq (bounds 2)
  have greenAt := add32_eq (a := rgb_index) (b := 1) (n := 1) rfl rfl (by omega)
  have blueAt := add32_eq (a := rgb_index) (b := 2) (n := 2) rfl rfl room
  simp only [fixedPoint] at red green blue
  simp only [convertPixel.checked, convertPixel, luma, red, green, blue, greenAt, blueAt,
    int16_luma, Option.bind_eq_bind, Option.bind_some]

theorem NV122RGB.checkedPixel_eq {width height : UInt32} (nv12 : Nat → UInt8)
    (small : 3 * (width.toNat * height.toNat) < 2 ^ 32) {row col : Nat}
    (inRows : row < height.toNat) (inCols : col < width.toNat) :
    NV122RGB.checkedPixel nv12 width height (.ofNat row) (.ofNat col) =
      some (NV122RGB.pixel nv12 width height (.ofNat row) (.ofNat col)) := by
  have inArea := rowMajor_lt_area inRows inCols
  have row_lt := height.toNat_lt
  have col_lt := width.toNat_lt
  have halfRow : row / 2 * width.toNat ≤ row * width.toNat :=
    Nat.mul_le_mul_right _ (Nat.div_le_self row 2)
  have rowAt : (UInt32.ofNat row).toNat = row := uint32_ofNat (by omega)
  have colAt : (UInt32.ofNat col).toNat = col := uint32_ofNat (by omega)
  have uvRowAt := uint32_div (b := 2) (n := 2) rowAt rfl
  have uvColAt := uint32_div (b := 2) (n := 2) colAt rfl
  have pixelAt := pixelIndex_toNat small inRows inCols
  have uvAt := (NV122RGB.uvIndex_toNat small inRows inCols).1
  have area := mul32_eq (a := width) (b := height) rfl rfl (by omega)
  have rowStart := mul32_eq (b := width) rowAt rfl (by omega)
  have pixel := add32_eq (uint32_mul (b := width) rowAt rfl (by omega)) colAt (by omega)
  have uvRowStart := mul32_eq (b := width) uvRowAt rfl (by omega)
  have uvInRow := mul32_eq (b := 2) (n := 2) uvColAt rfl (by omega)
  have uv_index := add32_eq (uint32_mul (b := width) uvRowAt rfl (by omega))
    (uint32_mul (b := 2) (n := 2) uvColAt rfl (by omega)) (by omega)
  have vIndex := add32_eq (b := 1) (n := 1) uvAt rfl (by omega)
  have rgb_index := mul32_eq (b := 3) (n := 3) pixelAt rfl (by omega)
  have rgbAt := uint32_mul (b := 3) (n := 3) pixelAt rfl (by omega)
  simp only [NV122RGB.checkedPixel, NV122RGB.pixel, area, rowStart, pixel, uvRowStart, uvInRow,
    uv_index, vIndex, rgb_index, Option.bind_eq_bind, Option.bind_some]
  exact convertPixel.checked_eq _ _ _ _ (by omega)

/-- Nothing wraps. -/
theorem NV122RGB.checked_eq {width height : UInt32} (nv12 : Nat → UInt8)
    (small : 3 * (width.toNat * height.toNat) < 2 ^ 32) :
    NV122RGB.checked nv12 width height = some (NV122RGB nv12 width height) :=
  rasterM_eq fun _ inRows _ inCols => NV122RGB.checkedPixel_eq nv12 small inRows inCols

/-! ## What `NV122RGB` reads and writes -/

theorem NV122RGB_places {width height : UInt32} (nv12 : Nat → UInt8)
    (small : 3 * (width.toNat * height.toNat) < 2 ^ 32) :
    places (NV122RGB nv12 width height) = List.range (3 * (width.toNat * height.toNat)) := by
  have area : 3 * (width.toNat * height.toNat) = height.toNat * width.toNat * 3 := by
    rw [Nat.mul_comm, Nat.mul_comm width.toNat]
  rw [NV122RGB, area]
  apply places_raster_blocks
  intro row inRows col inCols
  have inArea := rowMajor_lt_area inRows inCols
  have first : ((UInt32.ofNat row * width + UInt32.ofNat col) * 3).toNat =
      3 * (row * width.toNat + col) := by
    rw [Nat.mul_comm]
    exact uint32_mul (n := 3) (pixelIndex_toNat small inRows inCols) rfl (by omega)
  have second := uint32_add (b := 1) (n := 1) first rfl (by omega)
  have third := uint32_add (b := 2) (n := 2) first rfl (by omega)
  simp only [places, NV122RGB.pixel, convertPixel, first, second, third]
  rfl

/-- V of the last pixel is the last byte of the source. -/
theorem NV122RGB.lastRead_lt {width height : Nat} (evenWidth : width % 2 = 0)
    (evenHeight : height % 2 = 0) (cols : 0 < width) (rows : 0 < height) :
    NV122RGB.lastRead width height < 3 * (width * height) / 2 := by
  obtain ⟨halfWidth, rfl⟩ := Nat.dvd_of_mod_eq_zero evenWidth
  obtain ⟨halfHeight, rfl⟩ := Nat.dvd_of_mod_eq_zero evenHeight
  have lastRow : (2 * halfHeight - 1) / 2 = halfHeight - 1 := by omega
  have blockRows : (halfHeight - 1) * (2 * halfWidth) + 2 * halfWidth =
      halfHeight * (2 * halfWidth) := by
    rw [← Nat.succ_mul]
    congr 1
    omega
  have area : 2 * halfWidth * (2 * halfHeight) = 2 * (halfHeight * (2 * halfWidth)) := by
    rw [Nat.mul_comm, Nat.mul_assoc]
  rw [NV122RGB.lastRead, lastRow, area]
  omega

/-- The source is read below `3 width height / 2` only. -/
theorem NV122RGB_reads {width height : UInt32} (evenWidth : width.toNat % 2 = 0)
    (evenHeight : height.toNat % 2 = 0) (small : 3 * (width.toNat * height.toNat) < 2 ^ 32)
    (nv12 : Nat → UInt8) {offset : Nat} (touched : .read offset ∈ NV122RGB nv12 width height) :
    offset < 3 * (width.toNat * height.toNat) / 2 := by
  have bounds : InBounds (3 * (width.toNat * height.toNat) / 2) (width * height * 3).toNat
      (NV122RGB nv12 width height) := by
    rw [NV122RGB_inBounds_iff]
    rcases Nat.eq_zero_or_pos width.toNat with noCols | cols
    · exact .inl noCols
    rcases Nat.eq_zero_or_pos height.toNat with noRows | rows
    · exact .inr (.inl noRows)
    exact .inr (.inr ⟨small, NV122RGB.lastRead_lt evenWidth evenHeight cols rows⟩)
  exact bounds _ touched

/-- Nothing is read behind the source or written behind the frame buffer, each byte of which is
written once; nothing wraps; each pixel is the conversion of its own samples. -/
theorem NV122RGB_converts {width height : UInt32} (evenWidth : width.toNat % 2 = 0)
    (evenHeight : height.toNat % 2 = 0) (small : 3 * (width.toNat * height.toNat) < 2 ^ 32)
    (nv12 : Nat → UInt8) :
    (∀ offset, .read offset ∈ NV122RGB nv12 width height →
        offset < 3 * (width.toNat * height.toNat) / 2) ∧
      (∀ offset < 3 * (width.toNat * height.toNat),
        (places (NV122RGB nv12 width height)).count offset = 1) ∧
      (∀ offset ∈ places (NV122RGB nv12 width height),
        offset < 3 * (width.toNat * height.toNat)) ∧
      NV122RGB.checked nv12 width height = some (NV122RGB nv12 width height) ∧
      ∀ rgb : Bytes, rgb.length = 3 * (width.toNat * height.toNat) →
        ∀ row < height.toNat, ∀ col < width.toNat, ∀ channel < 3,
          (store rgb (NV122RGB nv12 width height))[3 * (row * width.toNat + col) + channel]?.map
              (fun byte => (byte.toNat : Int)) =
            some (clamped (fixedPoint (nv12 (row * width.toNat + col))
              (nv12 (width.toNat * height.toNat + (row / 2 * width.toNat + col / 2 * 2)))
              (nv12 (width.toNat * height.toNat + (row / 2 * width.toNat + col / 2 * 2 + 1)))
              channel)) := by
  refine ⟨fun offset => NV122RGB_reads evenWidth evenHeight small nv12, ?_, ?_,
    NV122RGB.checked_eq nv12 small, ?_⟩
  · intro offset inside
    rw [NV122RGB_places nv12 small]
    exact List.count_eq_one_of_mem List.nodup_range (List.mem_range.2 inside)
  · intro offset written
    rw [NV122RGB_places nv12 small] at written
    exact List.mem_range.1 written
  · intro rgb sized row inRows col inCols channel bound
    have inArea := rowMajor_lt_area inRows inCols
    have inside : 3 * (row * width.toNat + col) + channel < rgb.length := by omega
    rw [getElem?_store, List.getElem?_eq_getElem inside,
      lastAt_NV122RGB nv12 small inRows inCols bound, Option.map_some, Option.map_some,
      Option.getD_some, planarColour_toNat]

theorem NV122RGB_converts_grey :
    (places (NV122RGB (fun _ => 128) 2 2)).count 11 = 1 ∧
      NV122RGB.checked (fun _ => 128) 2 2 = some (NV122RGB (fun _ => 128) 2 2) := by
  obtain ⟨-, once, -, unwrapped, -⟩ :=
    @NV122RGB_converts 2 2 (by decide) (by decide) (by decide) fun _ => 128
  exact ⟨once 11 (by decide), unwrapped⟩

/-! ## The same planes, laid out as YU12 and as NV12 -/

/-- The memory at a buffer, with anything behind it. -/
def memory (buffer : Bytes) (behind : Nat → UInt8) (i : Nat) : UInt8 :=
  buffer[i]?.getD (behind i)

/-- U and V in turn. -/
def interleave : Bytes → Bytes → Bytes
  | u :: us, v :: vs => u :: v :: interleave us vs
  | _, _ => []

theorem getElem?_interleave {us vs : Bytes} (paired : us.length = vs.length) (i : Nat) :
    (interleave us vs)[2 * i]? = us[i]? ∧ (interleave us vs)[2 * i + 1]? = vs[i]? := by
  induction us generalizing vs i with
  | nil =>
      obtain rfl := List.length_eq_zero_iff.1 paired.symm
      exact ⟨rfl, rfl⟩
  | cons u us ih =>
      cases vs with
      | nil => cases paired
      | cons v vs =>
          cases i with
          | zero => exact ⟨rfl, rfl⟩
          | succ i => exact ih (Nat.succ.inj paired) i

theorem memory_append_right {first second : Bytes} (behind : Nat → UInt8) {start i : Nat}
    {value : UInt8} (sized : first.length = start) (there : second[i]? = some value) :
    memory (first ++ second) behind (start + i) = value := by
  subst sized
  rw [memory, List.getElem?_append_right (Nat.le_add_right _ _), Nat.add_sub_cancel_left, there]
  rfl

theorem memory_append_left {first second : Bytes} (behind : Nat → UInt8) {i : Nat} {value : UInt8}
    (there : first[i]? = some value) : memory (first ++ second) behind i = value := by
  obtain ⟨inside, -⟩ := List.getElem?_eq_some_iff.1 there
  rw [memory, List.getElem?_append_left inside, there]
  rfl

/-- What a pixel stores depends on its samples, not on where they lie. -/
theorem convertPixel_store {source source' : Nat → UInt8} {yAt uAt vAt yAt' uAt' vAt' : Nat}
    (luma : source yAt = source' yAt') (blue : source uAt = source' uAt')
    (red : source vAt = source' vAt') (rgb_index : UInt32) (rgb : Bytes) :
    store rgb (convertPixel source yAt uAt vAt rgb_index) =
      store rgb (convertPixel source' yAt' uAt' vAt' rgb_index) := by
  unfold convertPixel
  rw [luma, blue, red]
  rfl

/-- The NV12 index of a chroma block is twice its YU12 index. -/
theorem blockIndex_double {width : Nat} (evenWidth : width % 2 = 0) (row col : Nat) :
    row / 2 * width + col / 2 * 2 = 2 * (row / 2 * (width / 2) + col / 2) := by
  obtain ⟨half, rfl⟩ := Nat.dvd_of_mod_eq_zero evenWidth
  rw [Nat.mul_div_cancel_left _ (by decide), Nat.mul_add, Nat.mul_left_comm, Nat.mul_comm (col / 2)]

theorem area_quarter {width height : Nat} (evenWidth : width % 2 = 0) (evenHeight : height % 2 = 0) :
    width * height / 4 = width / 2 * (height / 2) := by
  obtain ⟨halfWidth, rfl⟩ := Nat.dvd_of_mod_eq_zero evenWidth
  obtain ⟨halfHeight, rfl⟩ := Nat.dvd_of_mod_eq_zero evenHeight
  rw [Nat.mul_mul_mul_comm, Nat.mul_div_cancel_left _ (by decide),
    Nat.mul_div_cancel_left _ (by decide), Nat.mul_div_cancel_left _ (by decide)]

/-- The two planar converters leave the same image of the same planes. -/
theorem YU122RGB_agrees {width height : UInt32} (evenWidth : width.toNat % 2 = 0)
    (evenHeight : height.toNat % 2 = 0) (small : 3 * (width.toNat * height.toNat) < 2 ^ 32)
    {y u v : Bytes} (luma : y.length = width.toNat * height.toNat)
    (blue : u.length = width.toNat / 2 * (height.toNat / 2))
    (red : v.length = width.toNat / 2 * (height.toNat / 2)) (behind behind' : Nat → UInt8)
    (rgb : Bytes) :
    store rgb (YU122RGB (memory (y ++ u ++ v) behind) width height) =
      store rgb (NV122RGB (memory (y ++ interleave u v) behind') width height) := by
  have area : (width * height).toNat = width.toNat * height.toNat :=
    uint32_mul rfl rfl (by omega)
  have quarter : (width * height / 4).toNat = width.toNat / 2 * (height.toNat / 2) := by
    rw [← area_quarter evenWidth evenHeight]
    exact uint32_div area rfl
  apply store_raster_congr
  intro row inRows col inCols buffer
  have inArea := rowMajor_lt_area inRows inCols
  have inBlocks : row / 2 * (width.toNat / 2) + col / 2 < width.toNat / 2 * (height.toNat / 2) :=
    rowMajor_lt_area (by omega) (by omega)
  have yThere := List.getElem?_eq_getElem (l := y) (i := row * width.toNat + col) (by omega)
  have uThere := List.getElem?_eq_getElem (l := u) (i := row / 2 * (width.toNat / 2) + col / 2)
    (by omega)
  have vThere := List.getElem?_eq_getElem (l := v) (i := row / 2 * (width.toNat / 2) + col / 2)
    (by omega)
  obtain ⟨uPaired, vPaired⟩ := getElem?_interleave (blue.trans red.symm)
    (row / 2 * (width.toNat / 2) + col / 2)
  have nv12At := NV122RGB.uvIndex_toNat small inRows inCols
  rw [blockIndex_double evenWidth] at nv12At
  rw [YU122RGB.pixel, NV122RGB.pixel, YU122RGB.uvIndex_toNat small inRows inCols, nv12At.1, nv12At.2,
    area, quarter, pixelIndex_toNat small inRows inCols]
  apply convertPixel_store
  · rw [List.append_assoc, memory_append_left behind yThere, memory_append_left behind' yThere]
  · rw [List.append_assoc,
      memory_append_right behind luma ((List.getElem?_append_left (by omega)).trans uThere),
      memory_append_right behind' luma (uPaired.trans uThere)]
  · rw [memory_append_right behind (by rw [List.length_append, luma, blue]) vThere,
      memory_append_right behind' luma (vPaired.trans vThere)]

theorem YU122RGB_agrees_on_block :
    store (List.replicate 12 0) (YU122RGB (memory ([16, 80, 144, 235] ++ [54] ++ [190]) fun _ => 0) 2 2) =
      store (List.replicate 12 0)
        (NV122RGB (memory ([16, 80, 144, 235] ++ interleave [54] [190]) fun _ => 0) 2 2) :=
  @YU122RGB_agrees 2 2 (by decide) (by decide) (by decide) [16, 80, 144, 235] [54] [190]
    rfl rfl rfl (fun _ => 0) (fun _ => 0) _

end OpenpnpCapture.Linux
