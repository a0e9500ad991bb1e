/-
# Mac.RowLength — whose row length the callback uses

CoreVideo pads the rows of a pixel buffer as it likes: a row starts every `bytesPerRow` bytes.
The delegate knows that length and passes it on only as a factor of the byte count; `callback`
converts rows of `m_width * 4` bytes.  With padding the second row is taken from behind the first,
and the picture is skewed.
-/
import OpenpnpCapture.Lib.MachineInt
import OpenpnpCapture.Mac.PlatformStream

namespace OpenpnpCapture.Mac

open OpenpnpCapture.Lib OpenpnpCapture.Common PlatformStream

set_option autoImplicit false

/-- A frame of this size reaches the callback of a stream of this size. -/
structure Arrives (s : PlatformStream) (sampleBuffer : SampleBuffer) (pixelBuffer : PixelBuffer)
    (width height : UInt32) (bytesPerRow : Nat) : Prop where
  m_width : s.m_width = width
  m_height : s.m_height = height
  rgb : s.m_rawMode = false
  counted : 1 ≤ sampleBuffer.numSamples
  locked : sampleBuffer.imageBuffer = some pixelBuffer
  height : pixelBuffer.height = height.toNat
  bytesPerRow : pixelBuffer.bytesPerRow = bytesPerRow

/-- At every pixel the bytes after its alpha byte. -/
def HoldsPicture (frameBuffer : Bytes) (width height : UInt32) (pixelBuffer : PixelBuffer) : Prop :=
  ∀ row < height.toNat, ∀ col < width.toNat, ∀ channel < 3,
    frameBuffer[3 * (row * width.toNat + col) + channel]? =
      some (pixelBuffer.baseAddress (row * pixelBuffer.bytesPerRow + 4 * col + 1 + channel))

/-- What the callback promises for rows of this length. -/
structure ConvertsFrames (convert : Conversion) (width height : UInt32) (bytesPerRow : Nat) :
    Prop where
  picture : ∀ s sampleBuffer pixelBuffer,
    Arrives s sampleBuffer pixelBuffer width height bytesPerRow →
      HoldsPicture (s.captureOutput convert sampleBuffer).stream.m_frameBuffer width height
        pixelBuffer
  bounds : ∀ s sampleBuffer pixelBuffer,
    Arrives s sampleBuffer pixelBuffer width height bytesPerRow →
      ∀ offset, .read offset ∈ (s.captureOutput convert sampleBuffer).accesses →
        offset < height.toNat * bytesPerRow

/-! ## What the callback does -/

namespace PlatformStream

variable (s : PlatformStream)

/-- The two `vImage_Buffer`s of the callback. -/
def src : VImageBuffer :=
  { width := s.m_width.toNat, height := s.m_height.toNat, rowBytes := (s.m_width * 4).toNat }

def dst : VImageBuffer :=
  { width := s.m_width.toNat, height := s.m_height.toNat, rowBytes := (s.m_width * 3).toNat }

variable (convert : Conversion) (ptr : Nat → UInt8) (bytes : UInt32)

theorem callback_accesses :
    (s.callback convert ptr bytes).accesses = convert ptr s.src s.dst := by
  unfold callback
  rw [if_neg (not_not.2 s.sized.tmpBuffer)]
  rfl

/-- The frame buffer is as large as `m_tmpBuffer`, so it becomes a copy of it. -/
theorem callback_frameBuffer :
    (s.callback convert ptr bytes).stream.m_frameBuffer =
      store s.m_tmpBuffer (convert ptr s.src s.dst) := by
  unfold callback
  rw [if_neg (not_not.2 s.sized.tmpBuffer)]
  show (s.submitBuffer (tmpData (store s.m_tmpBuffer (convert ptr s.src s.dst)))).m_frameBuffer = _
  have same : (store s.m_tmpBuffer (convert ptr s.src s.dst)).length = s.m_frameBuffer.length :=
    (length_store _ _).trans (s.sized.tmpBuffer.trans s.sized.frameBuffer.symm)
  generalize store s.m_tmpBuffer (convert ptr s.src s.dst) = converted at same ⊢
  cases converted with
  | nil => exact List.eq_nil_of_length_eq_zero same.symm
  | cons first rest =>
      simp only [tmpData, List.isEmpty_cons, Bool.false_eq_true, if_false, Stream.submitBuffer]
      rw [if_pos (Nat.le_of_eq same)]
      show memcpy _ _ _ = _
      rw [memcpy_all (Nat.le_of_eq same), same, List.drop_length, List.append_nil]

theorem captureOutput_of_arrives {s : PlatformStream} {sampleBuffer : SampleBuffer}
    {pixelBuffer : PixelBuffer} {width height : UInt32} {bytesPerRow : Nat}
    (arrives : Arrives s sampleBuffer pixelBuffer width height bytesPerRow) :
    s.captureOutput convert sampleBuffer =
      s.callback convert pixelBuffer.baseAddress
        (.ofNat (pixelBuffer.height * pixelBuffer.bytesPerRow)) := by
  have counted := arrives.counted
  unfold captureOutput
  rw [if_neg (by omega), if_neg (Bool.eq_false_iff.1 arrives.rgb), arrives.locked]

end PlatformStream

/-! ## When rows of this length are converted right -/

section Rows

variable {convert : Conversion} {s : PlatformStream} {sampleBuffer : SampleBuffer}
  {pixelBuffer : PixelBuffer} {width height : UInt32} {bytesPerRow : Nat}

/-- While the product of `open` does not wrap, every byte of the picture is stored; its row is
counted with the callback's own row length. -/
theorem getElem?_frameBuffer (rows : ConvertsRows convert)
    (arrives : Arrives s sampleBuffer pixelBuffer width height bytesPerRow)
    (small : imageBytes width height < 2 ^ 32) {row col channel : Nat}
    (inRows : row < height.toNat) (inCols : col < width.toNat) (inPixel : channel < 3) :
    (s.captureOutput convert sampleBuffer).stream.m_frameBuffer[
        3 * (row * width.toNat + col) + channel]? =
      some (pixelBuffer.baseAddress (row * (width * 4).toNat + 4 * col + 1 + channel)) := by
  rw [captureOutput_of_arrives convert arrives, callback_frameBuffer]
  obtain ⟨rfl, rfl, -, -, -, -, -⟩ := arrives
  have inArea := rowMajor_lt_area inRows inCols
  have area : imageBytes s.m_width s.m_height = 3 * (s.m_width.toNat * s.m_height.toNat) :=
    Nat.mul_assoc _ _ _
  have rowBytes : (s.m_width * 3).toNat = s.m_width.toNat * 3 := by
    have oneRow : s.m_width.toNat * 1 ≤ s.m_width.toNat * s.m_height.toNat :=
      Nat.mul_le_mul_left _ (Nat.zero_lt_of_lt inRows)
    exact uint32_mul rfl rfl (by omega)
  have place : 3 * (row * s.m_width.toNat + col) + channel =
      row * (s.m_width * 3).toNat + (3 * col + channel) := by
    rw [rowBytes, ← Nat.mul_assoc, Nat.mul_comm _ 3, Nat.mul_add, Nat.add_assoc]
  have inside : 3 * (row * s.m_width.toNat + col) + channel < s.m_tmpBuffer.length := by
    rw [s.sized.tmpBuffer, product_toNat, Nat.mod_eq_of_lt small]
    omega
  have roomy : 3 * s.dst.width ≤ s.dst.rowBytes := by
    show 3 * s.m_width.toNat ≤ (s.m_width * 3).toNat
    omega
  apply getElem?_store_of_lastAt inside
  rw [place]
  exact rows.pixels pixelBuffer.baseAddress s.src s.dst rfl rfl roomy row inRows col inCols channel
    inPixel

/-- The row length of the callback is never longer than the true one. -/
theorem reads_inside (rows : ConvertsRows convert)
    (arrives : Arrives s sampleBuffer pixelBuffer width height bytesPerRow)
    (padded : 4 * width.toNat ≤ bytesPerRow) {offset : Nat}
    (read : .read offset ∈ (s.captureOutput convert sampleBuffer).accesses) :
    offset < height.toNat * bytesPerRow := by
  rw [captureOutput_of_arrives convert arrives, callback_accesses] at read
  obtain ⟨row, inRows, byte, inRow, rfl⟩ := rows.reads _ s.src s.dst _ rfl rfl read
  obtain ⟨rfl, rfl, -, -, -, -, -⟩ := arrives
  have rowBytes : (s.m_width * 4).toNat ≤ bytesPerRow := by
    have reduced : (s.m_width * 4).toNat ≤ s.m_width.toNat * 4 := by
      rw [UInt32.toNat_mul]
      exact Nat.mod_le _ _
    omega
  have inside : byte < bytesPerRow := Nat.lt_of_lt_of_le inRow padded
  calc row * (s.m_width * 4).toNat + byte
      ≤ row * bytesPerRow + byte := Nat.add_le_add_right (Nat.mul_le_mul_left row rowBytes) byte
    _ < s.m_height.toNat * bytesPerRow := rowMajor_lt inRows inside

theorem packed_rowBytes {row : Nat} (inRows : row < height.toNat)
    (small : imageBytes width height < 2 ^ 32)
    (packed : height = 1 ∨ bytesPerRow = 4 * width.toNat) :
    row * (width * 4).toNat = row * bytesPerRow := by
  rcases Nat.eq_zero_or_pos row with rfl | later
  · rw [Nat.zero_mul, Nat.zero_mul]
  · have twoRows : 3 * width.toNat * 2 ≤ imageBytes width height :=
      Nat.mul_le_mul_left _ (by omega)
    rcases packed with rfl | rfl
    · have one : (1 : UInt32).toNat = 1 := rfl
      omega
    · have rowBytes : (width * 4).toNat = width.toNat * 4 := uint32_mul rfl rfl (by omega)
      rw [rowBytes, Nat.mul_comm 4]

end Rows

/-! ## When they are not -/

/-- A stream as `open` leaves a new one, but for the format code. -/
def openedStream (width height : UInt32) : PlatformStream where
  toStream := (Stream.new 0 0).opened width height (width * height * 3).toNat
  m_fourCC := 0
  m_tmpBuffer := resize [] (width * height * 3).toNat
  sized := ⟨length_resize _ _, length_resize _ _⟩

def sampleOf (pixelBuffer : PixelBuffer) : SampleBuffer where
  numSamples := 1
  dataBuffer := none
  imageBuffer := some pixelBuffer

theorem openedStream_arrives {width height : UInt32} {pixelBuffer : PixelBuffer}
    (sized : pixelBuffer.height = height.toNat) :
    Arrives (openedStream width height) (sampleOf pixelBuffer) pixelBuffer width height
      pixelBuffer.bytesPerRow :=
  ⟨rfl, rfl, rfl, Int.le_refl 1, rfl, sized, rfl⟩

section Fails

variable {convert : Conversion} {width height : UInt32} {bytesPerRow : Nat}

/-- The last byte of the picture needs room. -/
theorem small_of_converts (converts : ConvertsFrames convert width height bytesPerRow)
    (wide : 0 < width.toNat) (tall : 0 < height.toNat) : imageBytes width height < 2 ^ 32 := by
  let pixelBuffer : PixelBuffer := ⟨fun _ => 0, height.toNat, bytesPerRow⟩
  have arrives : Arrives (openedStream width height) (sampleOf pixelBuffer) pixelBuffer width height
      bytesPerRow := openedStream_arrives rfl
  have last := converts.picture _ _ _ arrives (height.toNat - 1) (by omega) (width.toNat - 1)
    (by omega) 2 (by decide)
  obtain ⟨inside, -⟩ := List.getElem?_eq_some_iff.1 last
  rw [captureOutput_of_arrives convert arrives, callback_frameBuffer, length_store,
    PlatformStream.sized _ |>.tmpBuffer] at inside
  have area : (height.toNat - 1) * width.toNat + width.toNat = height.toNat * width.toNat := by
    rw [← Nat.succ_mul, Nat.succ_eq_add_one, Nat.sub_add_cancel tall]
  have bytes : imageBytes width height = 3 * (height.toNat * width.toNat) := by
    rw [imageBytes, Nat.mul_assoc, Nat.mul_comm width.toNat]
  apply (imageBytes_le_product_iff width height).1
  show _ ≤ ((openedStream width height).m_width * (openedStream width height).m_height * 3).toNat
  omega

/-- The first byte of the second row tells the row lengths apart. -/
theorem packed_of_converts (rows : ConvertsRows convert)
    (converts : ConvertsFrames convert width height bytesPerRow)
    (small : imageBytes width height < 2 ^ 32) (padded : 4 * width.toNat ≤ bytesPerRow)
    (wide : 0 < width.toNat) (secondRow : 1 < height.toNat) : bytesPerRow = 4 * width.toNat := by
  let ptr : Nat → UInt8 := fun offset => if offset = bytesPerRow + 1 then 1 else 0
  let pixelBuffer : PixelBuffer := ⟨ptr, height.toNat, bytesPerRow⟩
  have arrives : Arrives (openedStream width height) (sampleOf pixelBuffer) pixelBuffer width height
      bytesPerRow := openedStream_arrives rfl
  have promised := converts.picture _ _ _ arrives 1 secondRow 0 wide 0 (by decide)
  have stored := getElem?_frameBuffer rows arrives small secondRow wide (by decide : 0 < 3)
  rw [promised, Nat.one_mul, Nat.one_mul] at stored
  have same : ptr (bytesPerRow + 1) = ptr ((width * 4).toNat + 1) := Option.some.inj stored
  have rowBytes : (width * 4).toNat ≤ width.toNat * 4 := by
    rw [UInt32.toNat_mul]
    exact Nat.mod_le _ _
  by_contra longer
  have apart : (width * 4).toNat + 1 ≠ bytesPerRow + 1 := by omega
  simp only [ptr, if_pos, if_neg apart] at same
  cases same

end Fails

/-- **When a frame arrives whole.**  For every size, row length and content: exactly if there is no
pixel at all, or the picture has fewer than `2^32` bytes and only one row or no padding. -/
theorem convertsFrames_iff (convert : Conversion) (rows : ConvertsRows convert)
    (width height : UInt32) (bytesPerRow : Nat) (padded : 4 * width.toNat ≤ bytesPerRow) :
    ConvertsFrames convert width height bytesPerRow ↔
      width = 0 ∨ height = 0 ∨
        imageBytes width height < 2 ^ 32 ∧ (height = 1 ∨ bytesPerRow = 4 * width.toNat) := by
  have widthZero : width = 0 ↔ width.toNat = 0 := UInt32.toNat_inj.symm
  have heightZero : height = 0 ↔ height.toNat = 0 := UInt32.toNat_inj.symm
  have heightOne : height = 1 ↔ height.toNat = 1 := UInt32.toNat_inj.symm
  constructor
  · intro converts
    rcases Nat.eq_zero_or_pos width.toNat with noWidth | wide
    · exact .inl (widthZero.2 noWidth)
    rcases Nat.eq_zero_or_pos height.toNat with noHeight | tall
    · exact .inr (.inl (heightZero.2 noHeight))
    have small := small_of_converts converts wide tall
    refine .inr (.inr ⟨small, ?_⟩)
    rcases Nat.eq_or_lt_of_le tall with oneRow | secondRow
    · exact .inl (heightOne.2 oneRow.symm)
    · exact .inr (packed_of_converts rows converts small padded wide secondRow)
  · intro fits
    refine ⟨fun s sampleBuffer pixelBuffer arrives => ?_, fun s sampleBuffer pixelBuffer arrives =>
      fun offset read => reads_inside rows arrives padded read⟩
    intro row inRows col inCols channel inPixel
    rcases fits with noWidth | noHeight | ⟨small, packed⟩
    · exact absurd (widthZero.1 noWidth) (by omega)
    · exact absurd (heightZero.1 noHeight) (by omega)
    · rw [getElem?_frameBuffer rows arrives small inRows inCols inPixel,
        packed_rowBytes inRows small packed, arrives.bytesPerRow]

/-- A 4 x 2 picture with packed rows. -/
theorem convertsFrames_packed : 4 * (4 : UInt32).toNat ≤ 16 ∧ ConvertsFrames convertRows 4 2 16 :=
  ⟨by decide, (convertsFrames_iff convertRows convertRows_converts 4 2 16 (by decide)).2
    (.inr (.inr ⟨by decide, .inr (by decide)⟩))⟩

/-- A 1 x 2 picture in rows padded to 64 bytes: the second pixel is taken from the padding. -/
theorem callback_skews :
    let pixelBuffer : PixelBuffer := ⟨fun offset => .ofNat offset, 2, 64⟩
    PlatformStream.open (Stream.new 0 0) [] ⟨true, true, true, true, true, [⟨1, 2, 0⟩], true⟩ 1 2 0 =
        some (openedStream 1 2) ∧
      ((openedStream 1 2).captureOutput convertRows (sampleOf pixelBuffer)).stream.m_frameBuffer =
        [1, 2, 3, 5, 6, 7] ∧
      ¬ ConvertsFrames convertRows 1 2 64 := by
  intro pixelBuffer
  have skewed : ((openedStream 1 2).captureOutput convertRows
      (sampleOf pixelBuffer)).stream.m_frameBuffer = [1, 2, 3, 5, 6, 7] := by
    decide
  have arrives : Arrives (openedStream 1 2) (sampleOf pixelBuffer) pixelBuffer 1 2 64 :=
    openedStream_arrives rfl
  refine ⟨rfl, skewed, fun converts => ?_⟩
  have second := converts.picture _ _ _ arrives 1 (by decide) 0 (by decide) 0 (by decide)
  rw [skewed] at second
  exact absurd second (by decide)

end OpenpnpCapture.Mac
