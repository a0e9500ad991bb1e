/-
# Win.SampleBounds — which samples does `submitBuffer` convert?

`submitBuffer` takes a sample that is not longer than the frame buffer, and then converts a whole
image of `m_width` by `m_height`, whatever the sample's length.  So a short sample is read past
its end, and after a change of the size the buffer is written past its end
(`submitBuffer_inBounds_iff`).  The shared `submitBuffer` copies the bytes it was given.

The rows are taken to follow each other without a gap.  A DirectShow row of RGB24 is padded to a
multiple of 4 bytes, so for other widths the sample is longer than the buffer and refused
(`submitBuffer_stores_iff`).
-/
import OpenpnpCapture.Win.SubmitBuffer

namespace OpenpnpCapture.Win

open OpenpnpCapture.Lib OpenpnpCapture.Common

set_option autoImplicit false

namespace PlatformStream

/-! ## Bounds -/

section Bounds

variable {rows cols size : Nat}

/-- The rows written stay inside the frame buffer exactly if the image does, although a `size_t`
may wrap: the last row before a wrap ends behind any buffer. -/
theorem rowEnds_le_iff (nonempty : 0 < rows) (addressable : size < 2 ^ 64) :
    (∀ y < rows, sizeT (y * cols * 3) + 3 * cols ≤ size) ↔ rows * cols * 3 ≤ size := by
  constructor
  · intro ends
    rcases Nat.eq_zero_or_pos cols with rfl | positive
    · rw [Nat.mul_zero, Nat.zero_mul]
      exact Nat.zero_le _
    rcases Nat.lt_or_ge ((rows - 1) * cols * 3) (2 ^ 64) with room | wraps
    · have last := ends (rows - 1) (by omega)
      have area : rows * cols = (rows - 1) * cols + cols := by
        rw [← Nat.succ_mul, Nat.succ_eq_add_one, Nat.sub_add_cancel nonempty]
      rw [sizeT_of_lt room] at last
      omega
    · -- the greatest row that begins before the wrap
      have below := Nat.div_mul_le_self (2 ^ 64 - 1) (cols * 3)
      have above := Nat.lt_div_mul_add (a := 2 ^ 64 - 1) (b := cols * 3) (by omega)
      generalize (2 ^ 64 - 1) / (cols * 3) = y at below above
      have early : y < rows - 1 := by
        by_contra late
        have := Nat.mul_le_mul_right (cols * 3) (Nat.not_lt.1 late)
        rw [← Nat.mul_assoc] at this
        omega
      have end_of_row := ends y (by omega)
      rw [Nat.mul_assoc, sizeT_of_lt (by omega)] at end_of_row
      omega
  · intro image y inRows
    have upTo := Nat.mul_le_mul_right (cols * 3) (Nat.succ_le_of_lt inRows)
    rw [Nat.succ_mul, ← Nat.mul_assoc, ← Nat.mul_assoc] at upTo
    rw [sizeT_of_lt (by omega)]
    omega

/-- A row of pixels stays below a bound exactly if its end does. -/
theorem pixels_lt_iff {start bound : Nat} (nonempty : 0 < cols) :
    (∀ x < cols, start + 3 * x + 2 < bound) ↔ start + 3 * cols ≤ bound := by
  constructor
  · intro pixels
    have last := pixels (cols - 1) (by omega)
    omega
  · intro row x inCols
    omega

/-- The rows read stay inside the sample exactly if the row read first does. -/
theorem rowsRead_le_iff {stride bytes : Nat} (nonempty : 0 < rows) :
    (∀ y < rows, stride * (rows - y - 1) + 3 * cols ≤ bytes) ↔
      stride * (rows - 1) + 3 * cols ≤ bytes := by
  constructor
  · intro ends
    exact ends 0 nonempty
  · intro first y _
    have before : stride * (rows - y - 1) ≤ stride * (rows - 1) :=
      Nat.mul_le_mul_left stride (by omega)
    omega

/-- The number of a row's first pixel does not wrap. -/
theorem sizeT_row {m_width m_height : UInt32} {y : Nat} (inRows : y < m_height.toNat) :
    sizeT (y * m_width.toNat) = y * m_width.toNat := by
  have fits : y * m_width.toNat < 2 ^ 32 * 2 ^ 32 :=
    Nat.mul_lt_mul_of_lt_of_lt (inRows.trans m_height.toNat_lt) m_width.toNat_lt
  exact sizeT_of_lt fits

end Bounds

/-- Every byte read lies in the sample and every byte written in the frame buffer, exactly if the
sample is refused, the image is empty, or both are as long as the two loops assume. -/
theorem submitBuffer_inBounds_iff (s : PlatformStream) (ptr : Nat → UInt8) (bytes : Nat)
    (addressable : s.m_frameBuffer.length < 2 ^ 64) :
    InBounds bytes s.m_frameBuffer.length (s.submitBuffer ptr bytes).accesses ↔
      s.m_frameBuffer.length < bytes ∨ s.m_width.toNat = 0 ∨ s.m_height.toNat = 0 ∨
        ((s.m_width * 3).toNat * (s.m_height.toNat - 1) + 3 * s.m_width.toNat ≤ bytes ∧
          imageBytes s.m_width s.m_height ≤ s.m_frameBuffer.length) := by
  unfold submitBuffer
  split
  · rename_i accepted
    rw [or_iff_right (Nat.not_lt.2 accepted)]
    show InBounds _ _ (flipRows ptr s.m_width s.m_height) ↔ _
    rw [flipRows, inBounds_raster]
    simp only [flipPixel_inBounds]
    rcases Nat.eq_zero_or_pos s.m_width.toNat with noCols | cols
    · refine iff_of_true (fun y _ x inCols => ?_) (Or.inl noCols)
      omega
    rcases Nat.eq_zero_or_pos s.m_height.toNat with noRows | rows
    · refine iff_of_true (fun y inRows => ?_) (Or.inr (Or.inl noRows))
      omega
    rw [or_iff_right (Nat.ne_of_gt cols), or_iff_right (Nat.ne_of_gt rows),
      ← rowsRead_le_iff rows, imageBytes_rowMajor, ← rowEnds_le_iff rows addressable, ← forall₂_and]
    refine forall₂_congr fun y inRows => ?_
    rw [sizeT_row inRows, ← pixels_lt_iff cols, ← pixels_lt_iff cols, ← forall₂_and]
  · rename_i refused
    exact iff_of_true inBounds_nil (Or.inl (Nat.not_le.1 refused))

/-- A stream of the given size and frame buffer. -/
def ofSize (m_width m_height : UInt32) (m_frameBuffer : Bytes) : PlatformStream :=
  { new (Stream.new m_width m_height) with m_frameBuffer }

theorem submitBuffer_inBounds_two_by_two :
    InBounds 12 12 ((ofSize 2 2 (List.replicate 12 0)).submitBuffer (fun _ => 7) 12).accesses :=
  (submitBuffer_inBounds_iff (ofSize 2 2 (List.replicate 12 0)) (fun _ => 7) 12 (by decide)).2
    (by decide)

/-- A sample of one byte for an image of four pixels. -/
theorem submitBuffer_reads_past_sample :
    ¬ InBounds 1 12 ((ofSize 2 2 (List.replicate 12 0)).submitBuffer (fun _ => 7) 1).accesses := by
  decide

/-! ## Padded rows -/

/-- The length of a row of RGB24 as DirectShow delivers it. -/
def paddedRow (m_width : UInt32) : Nat :=
  4 * ((3 * m_width.toNat + 3) / 4)

def sampleBytes (m_width m_height : UInt32) : Nat :=
  m_height.toNat * paddedRow m_width

/-- The top-down RGB image in a bottom-up BGR sample with padded rows. -/
def topDownImage (ptr : Nat → UInt8) (m_width m_height : UInt32) : Bytes :=
  (List.range (imageBytes m_width m_height)).map fun i =>
    let row := i / 3 / m_width.toNat
    let col := i / 3 % m_width.toNat
    ptr ((m_height.toNat - row - 1) * paddedRow m_width + 3 * col + (2 - i % 3))

section Padding

variable {m_width m_height : UInt32}

theorem paddedRow_of_mod (aligned : m_width.toNat % 4 = 0) :
    paddedRow m_width = m_width.toNat * 3 := by
  unfold paddedRow
  omega

/-- With padding the sample is longer than the frame buffer. -/
theorem imageBytes_lt_sampleBytes (rows : 0 < m_height.toNat) (padded : m_width.toNat % 4 ≠ 0) :
    imageBytes m_width m_height < sampleBytes m_width m_height := by
  have longer : m_width.toNat * 3 < paddedRow m_width := by
    unfold paddedRow
    omega
  rw [imageBytes_rowMajor, sampleBytes, Nat.mul_assoc]
  exact Nat.mul_lt_mul_of_pos_left longer rows

theorem write_mem_flipRows_iff {ptr : Nat → UInt8} {offset : Nat} {value : UInt8} :
    .write offset value ∈ flipRows ptr m_width m_height ↔
      ∃ y < m_height.toNat, ∃ x < m_width.toNat, ∃ channel < 3,
        offset = sizeT (y * m_width.toNat * 3) + 3 * x + channel ∧
          value = ptr ((m_width * 3).toNat * (m_height.toNat - y - 1) + 3 * x + (2 - channel)) := by
  rw [flipRows, mem_raster]
  refine exists_congr fun y => and_congr_right fun inRows => exists_congr fun x =>
    and_congr_right fun _ => ?_
  rw [sizeT_row inRows, exists_channel]
  simp only [flipPixel, List.mem_cons, List.not_mem_nil, Access.write.injEq, reduceCtorEq, false_or,
    or_false]
  rfl

/-- What a sample of unpadded rows leaves at a pixel, while neither product wraps. -/
theorem lastAt_flipRows (ptr : Nat → UInt8) (stride : m_height.toNat = 1 ∨ 3 * m_width.toNat < 2 ^ 32)
    {row col channel : Nat} (inRows : row < m_height.toNat) (inCols : col < m_width.toNat)
    (bound : channel < 3) :
    lastAt (3 * (row * m_width.toNat + col) + channel) (flipRows ptr m_width m_height) =
      some (ptr ((m_height.toNat - row - 1) * (m_width.toNat * 3) + 3 * col + (2 - channel))) := by
  have source {y : Nat} (below : y < m_height.toNat) :
      (m_width * 3).toNat * (m_height.toNat - y - 1) =
        (m_height.toNat - y - 1) * (m_width.toNat * 3) := by
    rcases stride with oneRow | small
    · have last : m_height.toNat - y - 1 = 0 := by omega
      rw [last, Nat.mul_zero, Nat.zero_mul]
    · rw [uint32_mul (b := 3) (n := 3) rfl rfl (by omega), Nat.mul_comm]
  have target {y : Nat} (below : y < m_height.toNat) :
      sizeT (y * m_width.toNat * 3) = y * m_width.toNat * 3 := by
    apply sizeT_of_lt
    rcases stride with oneRow | small
    · have first : y = 0 := by omega
      rw [first, Nat.zero_mul, Nat.zero_mul]
      decide
    · have fits : y * (m_width.toNat * 3) < 2 ^ 32 * 2 ^ 32 :=
        Nat.mul_lt_mul_of_lt_of_lt (below.trans m_height.toNat_lt) (by omega)
      rw [Nat.mul_assoc]
      exact fits
  apply lastAt_eq_some
  · rw [write_mem_flipRows_iff]
    refine ⟨row, inRows, col, inCols, channel, bound, ?_, ?_⟩
    · rw [target inRows]
      omega
    · rw [source inRows]
  · intro other touched
    obtain ⟨y, inRows', x, inCols', channel', bound', place, rfl⟩ :=
      write_mem_flipRows_iff.1 touched
    rw [target inRows'] at place
    have same : y * m_width.toNat + x = row * m_width.toNat + col := by omega
    obtain ⟨rfl, rfl⟩ := rowMajor_inj inCols' inCols same
    obtain rfl : channel' = channel := by omega
    rw [source inRows]

/-- A sample of unpadded rows leaves its top-down image, while neither product wraps. -/
theorem store_flipRows (ptr : Nat → UInt8) (aligned : m_width.toNat % 4 = 0)
    (stride : m_height.toNat = 1 ∨ 3 * m_width.toNat < 2 ^ 32) {m_frameBuffer : Bytes}
    (fits : m_frameBuffer.length = imageBytes m_width m_height) :
    store m_frameBuffer (flipRows ptr m_width m_height) = topDownImage ptr m_width m_height := by
  have length : (topDownImage ptr m_width m_height).length = imageBytes m_width m_height := by
    rw [topDownImage, List.length_map, List.length_range]
  refine store_eq (fits.trans length.symm) fun offset inside => ?_
  rw [length, imageBytes_rowMajor] at inside
  have inArea : offset / 3 < m_height.toNat * m_width.toNat := by omega
  obtain ⟨row, inRows, col, inCols, cell⟩ := exists_rowMajor inArea
  have place : offset = 3 * (row * m_width.toNat + col) + offset % 3 := by omega
  rw [← imageBytes_rowMajor] at inside
  rw [topDownImage, List.getElem?_map, List.getElem?_range inside, Option.map_some, ← cell,
    rowMajor_div inCols, rowMajor_mod inCols, paddedRow_of_mod aligned,
    ← lastAt_flipRows ptr stride inRows inCols (Nat.mod_lt offset (by decide)), ← place]

/-- A sample that is 0 up to its last byte, the red of the last pixel of the top row. -/
def lastByte (m_width m_height : UInt32) (offset : Nat) : UInt8 :=
  if offset = imageBytes m_width m_height - 1 then 1 else 0

theorem topDownImage_lastByte (rows : 0 < m_height.toNat) (cols : 0 < m_width.toNat)
    (aligned : m_width.toNat % 4 = 0) :
    (topDownImage (lastByte m_width m_height) m_width m_height)[3 * (m_width.toNat - 1)]? =
      some 1 := by
  have whole : imageBytes m_width m_height =
      (m_height.toNat - 1) * (m_width.toNat * 3) + m_width.toNat * 3 := by
    rw [imageBytes_rowMajor, ← Nat.succ_mul, Nat.succ_eq_add_one, Nat.sub_add_cancel rows,
      Nat.mul_assoc]
  have pixel : 3 * (m_width.toNat - 1) / 3 = m_width.toNat - 1 := by omega
  have red : 3 * (m_width.toNat - 1) % 3 = 0 := by omega
  rw [topDownImage, List.getElem?_map, List.getElem?_range (by omega), Option.map_some, pixel, red,
    Nat.div_eq_of_lt (by omega), Nat.mod_eq_of_lt (by omega), paddedRow_of_mod aligned, lastByte,
    Nat.sub_zero, if_pos (by omega)]

/-- A product that wraps makes every row but the lowest start too early, so the last byte of the
sample is never read. -/
theorem lastAt_flipRows_of_wrap (rows : 1 < m_height.toNat) (wraps : 2 ^ 32 ≤ 3 * m_width.toNat) :
    lastAt (3 * (m_width.toNat - 1)) (flipRows (lastByte m_width m_height) m_width m_height) =
      some 0 := by
  have stride : (m_width * 3).toNat < 3 * m_width.toNat := by
    have bound := (m_width * 3).toNat_lt
    omega
  have early {y x channel : Nat} (inCols : x < m_width.toNat) :
      (m_width * 3).toNat * (m_height.toNat - y - 1) + 3 * x + (2 - channel) ≠
        imageBytes m_width m_height - 1 := by
    have below : (m_width * 3).toNat * (m_height.toNat - y - 1) ≤
        (m_width * 3).toNat * (m_height.toNat - 1) := Nat.mul_le_mul_left _ (by omega)
    have strict : (m_width * 3).toNat * (m_height.toNat - 1) <
        3 * m_width.toNat * (m_height.toNat - 1) :=
      Nat.mul_lt_mul_of_pos_right stride (by omega)
    have whole : imageBytes m_width m_height =
        3 * m_width.toNat * (m_height.toNat - 1) + 3 * m_width.toNat := by
      rw [imageBytes, ← Nat.mul_succ, Nat.succ_eq_add_one, Nat.sub_add_cancel (by omega)]
    omega
  apply lastAt_eq_some
  · rw [write_mem_flipRows_iff]
    refine ⟨0, by omega, m_width.toNat - 1, by omega, 0, by decide, ?_, ?_⟩
    · rw [Nat.zero_mul, Nat.zero_mul]
      exact (Nat.zero_add _).symm
    · rw [lastByte, if_neg (early (by omega))]
  · intro other touched
    obtain ⟨y, -, x, inCols, channel, -, -, rfl⟩ := write_mem_flipRows_iff.1 touched
    rw [lastByte, if_neg (early inCols)]

end Padding

/-- A padded sample is stored as its top-down image, whatever it holds, exactly if there is no
padding and the length of a row does not wrap where it matters. -/
theorem submitBuffer_stores_iff (s : PlatformStream) (cols : 0 < s.m_width.toNat)
    (rows : 0 < s.m_height.toNat)
    (fits : s.m_frameBuffer.length = imageBytes s.m_width s.m_height) :
    (∀ ptr, (s.submitBuffer ptr (sampleBytes s.m_width s.m_height)).stream =
        { s with
          m_frameBuffer := topDownImage ptr s.m_width s.m_height
          m_newFrame := true
          m_frames := s.m_frames + 1 }) ↔
      s.m_width.toNat % 4 = 0 ∧ (s.m_height.toNat = 1 ∨ 3 * s.m_width.toNat < 2 ^ 32) := by
  have accepted (aligned : s.m_width.toNat % 4 = 0) :
      sampleBytes s.m_width s.m_height ≤ s.m_frameBuffer.length := by
    rw [fits, imageBytes_rowMajor, sampleBytes, paddedRow_of_mod aligned, Nat.mul_assoc]
  constructor
  · intro stores
    have aligned : s.m_width.toNat % 4 = 0 := by
      by_contra padded
      have refused := imageBytes_lt_sampleBytes rows padded
      have kept := congrArg (·.m_frames) (stores fun _ => 0)
      rw [submitBuffer, if_neg (by omega)] at kept
      exact absurd kept (by simp)
    refine ⟨aligned, ?_⟩
    by_contra wraps
    obtain ⟨more, wraps⟩ := not_or.1 wraps
    have stored := congrArg (·.m_frameBuffer) (stores (lastByte s.m_width s.m_height))
    rw [submitBuffer, if_pos (accepted aligned)] at stored
    have top := congrArg (·[3 * (s.m_width.toNat - 1)]?) stored
    simp only [getElem?_store, topDownImage_lastByte rows cols aligned,
      lastAt_flipRows_of_wrap (show 1 < s.m_height.toNat by omega) (Nat.not_lt.1 wraps)] at top
    obtain ⟨before, -, red⟩ := Option.map_eq_some_iff.1 top
    rw [Option.getD_some] at red
    exact absurd red (by decide)
  · rintro ⟨aligned, stride⟩ ptr
    rw [submitBuffer, if_pos (accepted aligned)]
    simp only [store_flipRows ptr aligned stride fits]

theorem submitBuffer_stores_four_by_one :
    ((ofSize 4 1 (List.replicate 12 0)).submitBuffer (fun offset => .ofNat offset) 12).stream =
      { ofSize 4 1 [2, 1, 0, 5, 4, 3, 8, 7, 6, 11, 10, 9] with m_newFrame := true, m_frames := 1 } :=
  (submitBuffer_stores_iff (ofSize 4 1 (List.replicate 12 0)) (by decide) (by decide) rfl).2
    ⟨by decide, by decide⟩ fun offset => .ofNat offset

/-- One pixel: 3 bytes of frame buffer, 4 bytes of sample. -/
theorem submitBuffer_refuses_padded_pixel :
    ((ofSize 1 1 [0, 0, 0]).submitBuffer (fun offset => .ofNat offset) (sampleBytes 1 1)).stream =
        ofSize 1 1 [0, 0, 0] ∧
      topDownImage (fun offset => .ofNat offset) 1 1 = [2, 1, 0] := by
  exact ⟨rfl, by decide⟩

end PlatformStream

end OpenpnpCapture.Win
