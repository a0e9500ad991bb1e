/-
# Win.FlipInvolution — the two loops only move bytes, and back again

For a sample and a frame buffer of a whole image the walk of `submitBuffer` is a vertical flip
and a reversal of the channels at once: the byte stored at an offset comes from its `flipPlace`
(`flipRows_gathers`).  It writes the buffer's bytes one after the other (`places_flipRows`), and
`flipPlace` is its own inverse, so the conversion of a stored frame is the sample it came from.
-/
import OpenpnpCapture.Lib.Gather
import OpenpnpCapture.Win.SampleBounds

namespace OpenpnpCapture.Win

open OpenpnpCapture.Lib OpenpnpCapture.Common

set_option autoImplicit false

/-- Where in the sample the byte stored at an offset comes from. -/
def flipPlace (rows cols offset : Nat) : Nat :=
  let row := offset / 3 / cols
  let col := offset / 3 % cols
  3 * ((rows - 1 - row) * cols + col) + (2 - offset % 3)

section Place

variable {rows cols : Nat}

theorem flipPlace_cell {row col channel : Nat} (inCols : col < cols) (bound : channel < 3) :
    flipPlace rows cols (3 * (row * cols + col) + channel) =
      3 * ((rows - 1 - row) * cols + col) + (2 - channel) := by
  have cell : (3 * (row * cols + col) + channel) / 3 = row * cols + col := by omega
  have channel_eq : (3 * (row * cols + col) + channel) % 3 = channel := by omega
  rw [flipPlace, cell, channel_eq, rowMajor_div inCols, rowMajor_mod inCols]

theorem flipPlace_selfInverse : SelfInverse (rows * cols * 3) (flipPlace rows cols) where
  lt offset inside := by
    obtain ⟨row, inRows, col, inCols, channel, bound, rfl⟩ := exists_cell inside
    have mirrored := rowMajor_lt (show rows - 1 - row < rows by omega) inCols
    rw [flipPlace_cell inCols bound]
    omega
  twice offset inside := by
    obtain ⟨row, inRows, col, inCols, channel, bound, rfl⟩ := exists_cell inside
    have row_back : rows - 1 - (rows - 1 - row) = row := by omega
    have channel_back : 2 - (2 - channel) = channel := by omega
    rw [flipPlace_cell inCols bound, flipPlace_cell inCols (by omega), row_back, channel_back]

end Place

section Flip

variable {m_width m_height : UInt32}

/-- The rows of an image of less than 4 GiB have lengths that do not wrap. -/
theorem stride_of_small (small : imageBytes m_width m_height < 2 ^ 32)
    (nonempty : 0 < m_height.toNat) : 3 * m_width.toNat < 2 ^ 32 :=
  calc 3 * m_width.toNat ≤ imageBytes m_width m_height := Nat.le_mul_of_pos_right _ nonempty
    _ < 2 ^ 32 := small

theorem flipRows_gathers (small : imageBytes m_width m_height < 2 ^ 32) :
    Gathers (imageBytes m_width m_height) (flipPlace m_height.toNat m_width.toNat)
      fun ptr => flipRows ptr m_width m_height := by
  intro ptr offset inside
  rw [imageBytes_rowMajor] at inside
  obtain ⟨row, inRows, col, inCols, channel, bound, rfl⟩ := exists_cell inside
  have stride := stride_of_small small (by omega)
  have from_row : (m_height.toNat - row - 1) * (m_width.toNat * 3) + 3 * col + (2 - channel) =
      3 * ((m_height.toNat - 1 - row) * m_width.toNat + col) + (2 - channel) := by
    rw [Nat.sub_right_comm, ← Nat.mul_assoc]
    omega
  rw [PlatformStream.lastAt_flipRows ptr (.inr stride) inRows inCols bound,
    flipPlace_cell inCols bound, from_row]

/-- The destination is written from its first byte to its last, each byte once. -/
theorem places_flipRows (ptr : Nat → UInt8) (small : imageBytes m_width m_height < 2 ^ 32) :
    places (flipRows ptr m_width m_height) = List.range (imageBytes m_width m_height) := by
  rw [imageBytes_rowMajor] at small ⊢
  apply places_raster_blocks
  intro y inRows x inCols
  have cell := rowMajor_lt inRows inCols
  have start : sizeT (sizeT (y * m_width.toNat) * 3) + 3 * x = 3 * (y * m_width.toNat + x) := by
    rw [PlatformStream.sizeT_row inRows, sizeT_of_lt (by omega)]
    omega
  rw [start]
  rfl

end Flip

namespace PlatformStream

/-- A sample of a whole image: each byte's place in the frame, that each is written once, and
that a conversion of the stored frame, in any stream of that size, is the sample again. -/
theorem submitBuffer_flips_and_back (s : PlatformStream) (sample : Bytes) (ptr : Nat → UInt8)
    (small : 3 * s.m_width.toNat * s.m_height.toNat < 2 ^ 32)
    (fits : s.m_frameBuffer.length = 3 * s.m_width.toNat * s.m_height.toNat)
    (whole : sample.length = 3 * s.m_width.toNat * s.m_height.toNat)
    (holds : PointsTo ptr sample) :
    let submission := s.submitBuffer ptr sample.length
    let frame := submission.stream.m_frameBuffer
    frame.length = sample.length ∧
      (∀ y < s.m_height.toNat, ∀ x < s.m_width.toNat, ∀ k < 3,
        frame[3 * (y * s.m_width.toNat + x) + k]? =
          sample[3 * ((s.m_height.toNat - 1 - y) * s.m_width.toNat + x) + (2 - k)]?) ∧
      (∀ offset < frame.length, (places submission.accesses).count offset = 1) ∧
      ∀ (again : PlatformStream) (ptr' : Nat → UInt8), again.m_width = s.m_width →
        again.m_height = s.m_height → again.m_frameBuffer.length = frame.length →
          PointsTo ptr' frame →
            (again.submitBuffer ptr' frame.length).stream.m_frameBuffer = sample := by
  have gathers := @flipRows_gathers s.m_width s.m_height small
  have selfInverse := @flipPlace_selfInverse s.m_height.toNat s.m_width.toNat
  rw [← imageBytes_rowMajor] at selfInverse
  have accepted : sample.length ≤ s.m_frameBuffer.length := by omega
  rw [submitBuffer, if_pos accepted]
  intro submission frame
  have length : frame.length = s.m_frameBuffer.length := length_store _ _
  refine ⟨by omega, ?_, ?_, ?_⟩
  · intro y inRows x inCols k bound
    have inside : 3 * (y * s.m_width.toNat + x) + k < imageBytes s.m_width s.m_height := by
      have cell := rowMajor_lt inRows inCols
      rw [imageBytes_rowMajor]
      omega
    have source := selfInverse.lt _ inside
    rw [flipPlace_cell inCols bound] at source
    rw [holds _ (whole.symm ▸ source), ← flipPlace_cell inCols bound]
    exact gathers.getElem?_store fits inside
  · intro offset inside
    show (places (flipRows ptr s.m_width s.m_height)).count offset = 1
    rw [places_flipRows ptr small, List.count_eq_one_of_mem List.nodup_range]
    rw [List.mem_range, imageBytes]
    omega
  · rintro again ptr' width height length' stored
    rw [submitBuffer, if_pos (Nat.le_of_eq length'.symm), width, height]
    have fits' : again.m_frameBuffer.length = imageBytes s.m_width s.m_height :=
      (length'.trans length).trans fits
    exact gathers.store_store selfInverse fits fits' whole holds stored

/-- Two rows of two pixels, there and back. -/
theorem submitBuffer_flips_back_two_by_two :
    let sample : Bytes := [0, 1, 2, 3, 4, 5, 6, 7, 8, 9, 10, 11]
    let frame : Bytes := [8, 7, 6, 11, 10, 9, 2, 1, 0, 5, 4, 3]
    ((ofSize 2 2 (List.replicate 12 0)).submitBuffer (sample.getD · 0) 12).stream.m_frameBuffer =
        frame ∧
      ((ofSize 2 2 sample).submitBuffer (frame.getD · 0) 12).stream.m_frameBuffer = sample := by
  intro sample frame
  have stored : ((ofSize 2 2 (List.replicate 12 0)).submitBuffer
      (sample.getD · 0) sample.length).stream.m_frameBuffer = frame := by decide
  obtain ⟨-, -, -, back⟩ :=
    submitBuffer_flips_and_back (ofSize 2 2 (List.replicate 12 0)) sample (sample.getD · 0)
      (by decide) (by decide) (by decide) (by decide)
  rw [stored] at back
  exact ⟨stored, back (ofSize 2 2 sample) (frame.getD · 0) rfl rfl (by decide) (by decide)⟩

end PlatformStream

end OpenpnpCapture.Win
