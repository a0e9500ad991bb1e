/-
# Linux.YuvConverters — YUV to RGB conversion, access by access

The source is the memory from the delivered pointer on, `Nat → UInt8`, since the converters
do not know where the delivered bytes end.  A converter is the list of its accesses to that
memory and to the frame buffer, with the values it writes.

Offsets are `uint32_t` and wrap; a plane pointer plus an offset does not.  The colour
arithmetic is done in `int` and narrowed to `int16_t` at `yy` and at the argument of `clamp`.
-/
import OpenpnpCapture.Lib.Access
import OpenpnpCapture.Lib.MachineInt

namespace OpenpnpCapture.Linux

open OpenpnpCapture.Lib

set_option autoImplicit false

def clamp (v : Int) : UInt8 :=
  let v := int16 v
  let v := if v > 255 then 255 else v
  let v := if v < 0 then 0 else v
  UInt8.ofNat v.toNat

/-- An `int16_t` local that holds a byte. -/
def sample (byte : UInt8) : Int := byte.toNat

/-! ## YUYV -/

/-- The loop, `source` and `target` being how far `yuv` and `rgb` have advanced. -/
def YUYV2RGB.loop (yuv : Nat → UInt8) (source target : Nat) : Nat → List Access
  | bytes + 4 =>
      let y0 := sample (yuv source)
      let cr := sample (yuv (source + 1))  -- U, despite its name
      let y1 := sample (yuv (source + 2))
      let cb := sample (yuv (source + 3))  -- V
      let yy0 := int16 (19 * (y0 - 16))
      let yy1 := int16 (19 * (y1 - 16))
      [.read source, .read (source + 1), .read (source + 2), .read (source + 3),
        .write target (clamp ((yy0 + 32 * (cb - 128)) >>> (4 : Nat))),
        .write (target + 1) (clamp ((yy0 - 13 * (cr - 128) - 6 * (cb - 128)) >>> (4 : Nat))),
        .write (target + 2) (clamp ((yy0 + 26 * (cr - 128)) >>> (4 : Nat))),
        .write (target + 3) (clamp ((yy1 + 32 * (cb - 128)) >>> (4 : Nat))),
        .write (target + 4) (clamp ((yy1 - 13 * (cr - 128) - 6 * (cb - 128)) >>> (4 : Nat))),
        .write (target + 5) (clamp ((yy1 + 26 * (cr - 128)) >>> (4 : Nat)))] ++
      YUYV2RGB.loop yuv (source + 4) (target + 6) bytes
  | _ => []

def YUYV2RGB (yuv : Nat → UInt8) (bytes : UInt32) : List Access :=
  YUYV2RGB.loop yuv 0 0 bytes.toNat

/-! ## NV12 and YU12 -/

/-- The body both planar converters share once they have found their three samples. -/
def convertPixel (source : Nat → UInt8) (yAt uAt vAt : Nat) (rgb_index : UInt32) : List Access :=
  let y := sample (source yAt)
  let u := sample (source uAt)
  let v := sample (source vAt)
  let yy := int16 (19 * (y - 16))
  [.read yAt, .read uAt, .read vAt,
    .write rgb_index.toNat (clamp ((yy + 26 * (v - 128)) >>> (4 : Nat))),
    .write (rgb_index + 1).toNat (clamp ((yy - 13 * (v - 128) - 6 * (u - 128)) >>> (4 : Nat))),
    .write (rgb_index + 2).toNat (clamp ((yy + 32 * (u - 128)) >>> (4 : Nat)))]

def NV122RGB.pixel (nv12 : Nat → UInt8) (width height row col : UInt32) : List Access :=
  let uv_plane := (width * height).toNat
  let uv_row := row / 2
  let uv_col := col / 2
  let uv_index := uv_row * width + uv_col * 2
  convertPixel nv12 (row * width + col).toNat
    (uv_plane + uv_index.toNat) (uv_plane + (uv_index + 1).toNat) ((row * width + col) * 3)

def NV122RGB (nv12 : Nat → UInt8) (width height : UInt32) : List Access :=
  raster height.toNat width.toNat fun row col =>
    NV122RGB.pixel nv12 width height (.ofNat row) (.ofNat col)

def YU122RGB.pixel (yu12 : Nat → UInt8) (width height row col : UInt32) : List Access :=
  let u_plane := (width * height).toNat
  let v_plane := u_plane + (width * height / 4).toNat
  let uv_row := row / 2
  let uv_col := col / 2
  let uv_index := uv_row * (width / 2) + uv_col
  convertPixel yu12 (row * width + col).toNat
    (u_plane + uv_index.toNat) (v_plane + uv_index.toNat) ((row * width + col) * 3)

def YU122RGB (yu12 : Nat → UInt8) (width height : UInt32) : List Access :=
  raster height.toNat width.toNat fun row col =>
    YU122RGB.pixel yu12 width height (.ofNat row) (.ofNat col)

/-! ## Where the accesses lie -/

section Bounds

variable {readable writable : Nat}

theorem YUYV2RGB.loop_inBounds (yuv : Nat → UInt8) (source target bytes : Nat) :
    InBounds readable writable (YUYV2RGB.loop yuv source target bytes) ↔
      bytes < 4 ∨ source + 4 * (bytes / 4) ≤ readable ∧ target + 6 * (bytes / 4) ≤ writable := by
  fun_induction YUYV2RGB.loop yuv source target bytes with
  | case1 source target bytes y0 cr y1 cb yy0 yy1 ih =>
      have quads : (bytes + 4) / 4 = bytes / 4 + 1 := Nat.add_div_right bytes (by decide)
      simp only [inBounds_append, inBounds_cons, inBounds_nil, Access.within_read,
        Access.within_write, and_true, ih, quads]
      omega
  | case2 bytes source target short =>
      refine iff_of_true inBounds_nil (.inl ?_)
      by_contra long
      exact short (bytes - 4) (by omega)

/-- The loop writes one byte after the other. -/
theorem YUYV2RGB.loop_store (buffer : Bytes) (yuv : Nat → UInt8) (source target bytes : Nat) :
    store buffer (YUYV2RGB.loop yuv source target bytes) =
      store buffer (writes target (written (YUYV2RGB.loop yuv source target bytes))) := by
  fun_induction YUYV2RGB.loop yuv source target bytes generalizing buffer with
  | case1 source target bytes y0 cr y1 cb yy0 yy1 ih =>
      rw [store_append, written_append]
      exact ih _
  | case2 bytes source target short => rfl

theorem YUYV2RGB_store (buffer : Bytes) (yuv : Nat → UInt8) (bytes : UInt32) :
    store buffer (YUYV2RGB yuv bytes) =
      memcpy buffer (written (YUYV2RGB yuv bytes)) (written (YUYV2RGB yuv bytes)).length := by
  rw [← store_writes]
  exact YUYV2RGB.loop_store buffer yuv 0 0 bytes.toNat

theorem YUYV2RGB.loop_length (yuv : Nat → UInt8) (source target bytes : Nat) :
    (written (YUYV2RGB.loop yuv source target bytes)).length = 6 * (bytes / 4) := by
  fun_induction YUYV2RGB.loop yuv source target bytes with
  | case1 source target bytes y0 cr y1 cb yy0 yy1 ih =>
      have quads : (bytes + 4) / 4 = bytes / 4 + 1 := Nat.add_div_right bytes (by decide)
      rw [written_append, List.length_append, ih, quads, Nat.mul_add, Nat.add_comm]
      rfl
  | case2 bytes source target short =>
      have none_left : bytes / 4 = 0 := by
        by_contra long
        exact short (bytes - 4) (by omega)
      rw [none_left]
      rfl

/-- The loop never reads past the count it is given; it writes six bytes for every four. -/
theorem YUYV2RGB_inBounds_iff (yuv : Nat → UInt8) {bytes : UInt32}
    (counted : bytes.toNat ≤ readable) :
    InBounds readable writable (YUYV2RGB yuv bytes) ↔ 6 * (bytes.toNat / 4) ≤ writable := by
  rw [YUYV2RGB, YUYV2RGB.loop_inBounds]
  omega

theorem convertPixel_inBounds (source : Nat → UInt8) (yAt uAt vAt : Nat) (rgb_index : UInt32) :
    InBounds readable writable (convertPixel source yAt uAt vAt rgb_index) ↔
      (yAt < readable ∧ uAt < readable ∧ vAt < readable) ∧
        rgb_index.toNat < writable ∧ (rgb_index + 1).toNat < writable ∧
        (rgb_index + 2).toNat < writable := by
  simp only [convertPixel, inBounds_cons, inBounds_nil, Access.within_read, Access.within_write,
    and_true, and_assoc]

end Bounds

section Planar

variable {width height : UInt32} {row col : Nat}

/-- The number of a pixel, while it is below `2^32`. -/
theorem cell_toNat (inCols : col < width.toNat)
    (fits : row * width.toNat + col < 2 ^ 32) :
    (UInt32.ofNat row * width + UInt32.ofNat col).toNat = row * width.toNat + col := by
  have row_le : row ≤ row * width.toNat := Nat.le_mul_of_pos_right row (by omega)
  exact uint32_add (uint32_mul (uint32_ofNat (by omega)) rfl (by omega))
    (uint32_ofNat (by omega)) (by omega)

/-- The offset of a channel, while it is below `2^32`. -/
theorem channel_toNat {channel : Nat} (inCols : col < width.toNat)
    (fits : 3 * (row * width.toNat + col) + channel < 2 ^ 32) :
    ((UInt32.ofNat row * width + UInt32.ofNat col) * 3 + .ofNat channel).toNat =
      3 * (row * width.toNat + col) + channel := by
  have cell : (UInt32.ofNat row * width + UInt32.ofNat col).toNat = row * width.toNat + col :=
    cell_toNat inCols (by omega)
  have index := uint32_mul (b := 3) (n := 3) cell rfl (by omega)
  rw [uint32_add index (uint32_ofNat (by omega)) (by omega), Nat.mul_comm]

/-- While the image has fewer than `2^32` RGB bytes, a pixel's number does not wrap. -/
theorem pixelIndex_toNat (small : 3 * (width.toNat * height.toNat) < 2 ^ 32)
    (inRows : row < height.toNat) (inCols : col < width.toNat) :
    (UInt32.ofNat row * width + UInt32.ofNat col).toNat = row * width.toNat + col := by
  have inArea := rowMajor_lt_area inRows inCols
  exact cell_toNat inCols (by omega)

/-- The three bytes of a pixel lie in the frame buffer, while nothing wraps. -/
theorem rgbIndex_lt (small : 3 * (width.toNat * height.toNat) < 2 ^ 32)
    (inRows : row < height.toNat) (inCols : col < width.toNat) :
    ((UInt32.ofNat row * width + UInt32.ofNat col) * 3).toNat < (width * height * 3).toNat ∧
      ((UInt32.ofNat row * width + UInt32.ofNat col) * 3 + 1).toNat
        < (width * height * 3).toNat ∧
      ((UInt32.ofNat row * width + UInt32.ofNat col) * 3 + 2).toNat
        < (width * height * 3).toNat := by
  have inArea := rowMajor_lt_area inRows inCols
  have index := pixelIndex_toNat small inRows inCols
  have first := uint32_mul (b := 3) (n := 3) index rfl (by omega)
  have size : (width * height * 3).toNat = width.toNat * height.toNat * 3 :=
    uint32_mul (n := 3) (uint32_mul rfl rfl (by omega)) rfl (by omega)
  rw [size, uint32_add (n := 1) first rfl (by omega), uint32_add (n := 2) first rfl (by omega),
    first]
  omega

/-- From `2^32` RGB bytes on, some pixel is written at the greatest `uint32_t`. -/
theorem exists_rgbIndex_max (large : 2 ^ 32 ≤ 3 * (width.toNat * height.toNat)) :
    ∃ row < height.toNat, ∃ col < width.toNat,
      ((UInt32.ofNat row * width + UInt32.ofNat col) * 3).toNat = 4294967295 := by
  have inArea : 1431655765 < height.toNat * width.toNat := by
    rw [Nat.mul_comm]
    omega
  obtain ⟨row, inRows, col, inCols, cell⟩ := exists_rowMajor inArea
  have index : (UInt32.ofNat row * width + UInt32.ofNat col).toNat = 1431655765 := by
    rw [← cell]
    exact cell_toNat inCols (by omega)
  exact ⟨row, inRows, col, inCols, uint32_mul (n := 3) index rfl (by omega)⟩

/-- The frame buffer of `width * height * 3` bytes has room for every pixel exactly when there is
none or that product does not wrap. -/
theorem rgbIndex_lt_iff :
    (∀ row < height.toNat, ∀ col < width.toNat,
        ((UInt32.ofNat row * width + UInt32.ofNat col) * 3).toNat < (width * height * 3).toNat ∧
        ((UInt32.ofNat row * width + UInt32.ofNat col) * 3 + 1).toNat
          < (width * height * 3).toNat ∧
        ((UInt32.ofNat row * width + UInt32.ofNat col) * 3 + 2).toNat
          < (width * height * 3).toNat) ↔
      width.toNat = 0 ∨ height.toNat = 0 ∨ 3 * (width.toNat * height.toNat) < 2 ^ 32 := by
  constructor
  · intro bounds
    by_contra wrapped
    simp only [not_or, Nat.not_lt] at wrapped
    obtain ⟨-, -, large⟩ := wrapped
    obtain ⟨row, inRows, col, inCols, atMax⟩ := exists_rgbIndex_max large
    have written := (bounds row inRows col inCols).1
    have size_lt := (width * height * 3).toNat_lt
    omega
  · intro fits row inRows col inCols
    rcases fits with noCols | noRows | small
    · omega
    · omega
    · exact rgbIndex_lt small inRows inCols

/-- A planar conversion whose greatest source offset is `last`, read at the last pixel. -/
theorem planar_inBounds_iff {readable last : Nat} (source : Nat → UInt8) (uAt vAt : Nat → Nat → Nat)
    (lumaBelow : width.toNat * height.toNat ≤ last + 1)
    (chromaBelow : 3 * (width.toNat * height.toNat) < 2 ^ 32 →
      ∀ row < height.toNat, ∀ col < width.toNat, uAt row col ≤ last ∧ vAt row col ≤ last)
    (lastRead : 3 * (width.toNat * height.toNat) < 2 ^ 32 → 0 < height.toNat → 0 < width.toNat →
      vAt (height.toNat - 1) (width.toNat - 1) = last) :
    InBounds readable (width * height * 3).toNat
        (raster height.toNat width.toNat fun row col =>
          convertPixel source (UInt32.ofNat row * width + UInt32.ofNat col).toNat
            (uAt row col) (vAt row col) ((UInt32.ofNat row * width + UInt32.ofNat col) * 3)) ↔
      width.toNat = 0 ∨ height.toNat = 0 ∨
        3 * (width.toNat * height.toNat) < 2 ^ 32 ∧ last < readable := by
  simp only [inBounds_raster, convertPixel_inBounds]
  constructor
  · intro bounds
    rcases rgbIndex_lt_iff.1 fun row inRows col inCols => (bounds row inRows col inCols).2
      with noCols | noRows | small
    · exact .inl noCols
    · exact .inr (.inl noRows)
    · rcases Nat.eq_zero_or_pos width.toNat with noCols | cols
      · exact .inl noCols
      rcases Nat.eq_zero_or_pos height.toNat with noRows | rows
      · exact .inr (.inl noRows)
      have reads := (bounds (height.toNat - 1) (by omega) (width.toNat - 1) (by omega)).1
      rw [lastRead small rows cols] at reads
      exact .inr (.inr ⟨small, reads.2.2⟩)
  · intro fits row inRows col inCols
    refine ⟨?_, rgbIndex_lt_iff.2 (fits.imp_right (Or.imp_right And.left)) row inRows col inCols⟩
    rcases fits with noCols | noRows | ⟨small, room⟩
    · omega
    · omega
    · have inArea := rowMajor_lt_area inRows inCols
      rw [pixelIndex_toNat small inRows inCols]
      obtain ⟨u_le, v_le⟩ := chromaBelow small row inRows col inCols
      exact ⟨by omega, by omega, by omega⟩

/-- The greatest offset `NV122RGB` reads in a nonempty image: V of the last pixel. -/
def NV122RGB.lastRead (width height : Nat) : Nat :=
  width * height + ((height - 1) / 2 * width + (width - 1) / 2 * 2 + 1)

/-- The greatest offset `YU122RGB` reads in a nonempty image: V of the last pixel. -/
def YU122RGB.lastRead (width height : Nat) : Nat :=
  width * height + width * height / 4 + ((height - 1) / 2 * (width / 2) + (width - 1) / 2)

/-- The NV12 chroma pair of a pixel, when nothing wraps. -/
theorem NV122RGB.uvIndex_toNat (small : 3 * (width.toNat * height.toNat) < 2 ^ 32)
    (inRows : row < height.toNat) (inCols : col < width.toNat) :
    (UInt32.ofNat row / 2 * width + UInt32.ofNat col / 2 * 2).toNat =
        row / 2 * width.toNat + col / 2 * 2 ∧
      (UInt32.ofNat row / 2 * width + UInt32.ofNat col / 2 * 2 + 1).toNat =
        row / 2 * width.toNat + col / 2 * 2 + 1 := by
  have inArea := rowMajor_lt_area inRows inCols
  have row_lt := height.toNat_lt
  have col_lt := width.toNat_lt
  have halfRow : row / 2 * width.toNat ≤ row * width.toNat :=
    Nat.mul_le_mul_right _ (Nat.div_le_self row 2)
  have uv_row := uint32_div (b := 2) (n := 2) (uint32_ofNat (n := row) (by omega)) rfl
  have uv_col := uint32_div (b := 2) (n := 2) (uint32_ofNat (n := col) (by omega)) rfl
  have uv_index := uint32_add (uint32_mul (b := width) uv_row rfl (by omega))
    (uint32_mul (b := 2) (n := 2) uv_col rfl (by omega)) (by omega)
  exact ⟨uv_index, uint32_add uv_index rfl (by omega)⟩

/-- The YU12 chroma index of a pixel, when nothing wraps. -/
theorem YU122RGB.uvIndex_toNat (small : 3 * (width.toNat * height.toNat) < 2 ^ 32)
    (inRows : row < height.toNat) (inCols : col < width.toNat) :
    (UInt32.ofNat row / 2 * (width / 2) + UInt32.ofNat col / 2).toNat =
      row / 2 * (width.toNat / 2) + col / 2 := by
  have inArea := rowMajor_lt_area inRows inCols
  have row_lt := height.toNat_lt
  have col_lt := width.toNat_lt
  have halfRow : row / 2 * (width.toNat / 2) ≤ row * width.toNat :=
    Nat.mul_le_mul (Nat.div_le_self row 2) (Nat.div_le_self _ 2)
  have uv_row := uint32_div (b := 2) (n := 2) (uint32_ofNat (n := row) (by omega)) rfl
  have uv_col := uint32_div (b := 2) (n := 2) (uint32_ofNat (n := col) (by omega)) rfl
  exact uint32_add (uint32_mul uv_row (uint32_div rfl rfl) (by omega)) uv_col (by omega)

theorem NV122RGB_inBounds_iff {readable : Nat} (nv12 : Nat → UInt8) (width height : UInt32) :
    InBounds readable (width * height * 3).toNat (NV122RGB nv12 width height) ↔
      width.toNat = 0 ∨ height.toNat = 0 ∨
        3 * (width.toNat * height.toNat) < 2 ^ 32 ∧
          NV122RGB.lastRead width.toNat height.toNat < readable := by
  have plane (small : 3 * (width.toNat * height.toNat) < 2 ^ 32) :
      (width * height).toNat = width.toNat * height.toNat := uint32_mul rfl rfl (by omega)
  refine planar_inBounds_iff nv12 _ _ (by unfold NV122RGB.lastRead; omega) ?_ ?_
  · intro small row inRows col inCols
    have rows : row / 2 * width.toNat ≤ (height.toNat - 1) / 2 * width.toNat :=
      Nat.mul_le_mul_right _ (by omega)
    rw [(NV122RGB.uvIndex_toNat small inRows inCols).1,
      (NV122RGB.uvIndex_toNat small inRows inCols).2, plane small, NV122RGB.lastRead]
    omega
  · intro small rows cols
    rw [(NV122RGB.uvIndex_toNat small (by omega) (by omega)).2, plane small]
    rfl

theorem YU122RGB_inBounds_iff {readable : Nat} (yu12 : Nat → UInt8) (width height : UInt32) :
    InBounds readable (width * height * 3).toNat (YU122RGB yu12 width height) ↔
      width.toNat = 0 ∨ height.toNat = 0 ∨
        3 * (width.toNat * height.toNat) < 2 ^ 32 ∧
          YU122RGB.lastRead width.toNat height.toNat < readable := by
  have plane (small : 3 * (width.toNat * height.toNat) < 2 ^ 32) :
      (width * height).toNat = width.toNat * height.toNat := uint32_mul rfl rfl (by omega)
  have quarter (small : 3 * (width.toNat * height.toNat) < 2 ^ 32) :
      (width * height / 4).toNat = width.toNat * height.toNat / 4 :=
    uint32_div (plane small) rfl
  refine planar_inBounds_iff yu12 _ _ (by unfold YU122RGB.lastRead; omega) ?_ ?_
  · intro small row inRows col inCols
    have rows : row / 2 * (width.toNat / 2) ≤ (height.toNat - 1) / 2 * (width.toNat / 2) :=
      Nat.mul_le_mul_right _ (by omega)
    rw [YU122RGB.uvIndex_toNat small inRows inCols, plane small, quarter small, YU122RGB.lastRead]
    omega
  · intro small rows cols
    rw [YU122RGB.uvIndex_toNat small (by omega) (by omega), plane small, quarter small]
    rfl

end Planar

end OpenpnpCapture.Linux
