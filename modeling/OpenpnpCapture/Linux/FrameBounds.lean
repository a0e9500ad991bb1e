/-
# Linux.FrameBounds — which dequeued buffers are converted within bounds

`Stream::submitBuffer` compares the byte count with the size of the frame buffer before it
copies.  The replacements in `threadSubmitBuffer` do not: the YUYV loop stops at the byte
count and never looks at the frame buffer, the two planar loops stop at the size of the
image and never look at the byte count, and the decoder is given the byte count but not the
size of the frame buffer.
-/
import OpenpnpCapture.Linux.PlatformStream

namespace OpenpnpCapture.Linux

open OpenpnpCapture.Lib OpenpnpCapture.Common

set_option autoImplicit false

/-- The decoder writes exactly the image it was asked for. -/
def WritesImage (tj : TurboJpeg) : Prop :=
  ∀ inBuffer width height,
    (tj.tjDecompress2 inBuffer width height).bytes.length = imageBytes width height

/-- A decoder that finds a white 2 x 1 image in every frame. -/
def whiteDecoder : TurboJpeg where
  tjDecompressHeader2 _ := ⟨0, some (2, 1), fun _ => rfl⟩
  tjDecompress2 _ width height :=
    ⟨0, List.replicate (imageBytes width height) 255, Nat.le_of_eq List.length_replicate,
      fun _ => List.length_replicate⟩
  unset := (0, 0)

theorem whiteDecoder_writesImage : WritesImage whiteDecoder :=
  fun _ _ _ => List.length_replicate

namespace PlatformStream

/-- What keeps a conversion of `frame` inside its two buffers. -/
def FrameFits (tj : TurboJpeg) (s : PlatformStream) (frame : Delivered) : Prop :=
  let width := s.m_width.toNat
  let height := s.m_height.toNat
  match s.format with
  | .YUYV => 6 * (frame.bytes % 2 ^ 32 / 4) ≤ 3 * (width * height) % 2 ^ 32
  | .NV12 =>
      width = 0 ∨ height = 0 ∨
        3 * (width * height) < 2 ^ 32 ∧ NV122RGB.lastRead width height < frame.bytes
  | .YUV420 =>
      width = 0 ∨ height = 0 ∨
        3 * (width * height) < 2 ^ 32 ∧ YU122RGB.lastRead width height < frame.bytes
  | .MJPG =>
      s.m_rawMode = true ∨ comparedSize tj frame.data ≠ (s.m_width, s.m_height) ∨
        3 * (width * height) < 2 ^ 32
  | .RGB24 | .unsupported => True

variable {tj : TurboJpeg} (s : PlatformStream) (frame : Delivered)

theorem frameBuffer_length :
    s.m_frameBuffer.length = 3 * (s.m_width.toNat * s.m_height.toNat) % 2 ^ 32 := by
  rw [s.sized, product_toNat, imageBytes, Nat.mul_assoc]

/-- The guarded copy stays inside both buffers, whatever the byte count. -/
theorem submitAccesses_inBounds (stream : Stream) :
    InBounds frame.bytes stream.m_frameBuffer.length (submitAccesses stream frame.data) := by
  unfold submitAccesses
  split
  · rename_i room
    exact inBounds_copies.2 ⟨Nat.le_of_eq frame.length_data, room⟩
  · exact inBounds_nil

theorem decompressAccesses_inBounds_of_differs
    (differs : comparedSize tj frame.data ≠ (s.m_width, s.m_height)) :
    InBounds frame.bytes s.m_frameBuffer.length
      (decompressAccesses tj frame.data s.m_width s.m_height) := by
  rw [decompressAccesses, if_neg differs, List.append_nil]
  exact inBounds_reads.2 (Nat.le_of_eq frame.length_data)

/-- Any decoder writes at most the image. -/
theorem decompressAccesses_inBounds_of_small
    (small : 3 * (s.m_width.toNat * s.m_height.toNat) < 2 ^ 32) :
    InBounds frame.bytes s.m_frameBuffer.length
      (decompressAccesses tj frame.data s.m_width s.m_height) := by
  have image := (tj.tjDecompress2 frame.data s.m_width s.m_height).bounded
  rw [imageBytes, Nat.mul_assoc] at image
  rw [decompressAccesses, inBounds_append]
  refine ⟨inBounds_reads.2 (Nat.le_of_eq frame.length_data), ?_⟩
  split
  · refine inBounds_writes.2 (Or.inr ?_)
    rw [frameBuffer_length, Nat.mod_eq_of_lt small]
    omega
  · exact inBounds_nil

theorem decompressAccesses_inBounds (writesImage : WritesImage tj) :
    InBounds frame.bytes s.m_frameBuffer.length
        (decompressAccesses tj frame.data s.m_width s.m_height) ↔
      comparedSize tj frame.data ≠ (s.m_width, s.m_height) ∨
        3 * (s.m_width.toNat * s.m_height.toNat) < 2 ^ 32 := by
  constructor
  · intro inBounds
    by_cases same : comparedSize tj frame.data = (s.m_width, s.m_height)
    · have image := writesImage frame.data s.m_width s.m_height
      rw [imageBytes, Nat.mul_assoc] at image
      rw [decompressAccesses, inBounds_append, if_pos same, inBounds_writes,
        ← List.length_eq_zero_iff, image, frameBuffer_length] at inBounds
      omega
    · exact Or.inl same
  · rintro (differs | small)
    · exact decompressAccesses_inBounds_of_differs s frame differs
    · exact decompressAccesses_inBounds_of_small s frame small

/-- Unless the frame is decoded, it does not matter what the decoder writes. -/
theorem threadSubmitBuffer_undecoded (undecoded : s.format = .MJPG → s.m_rawMode = true) :
    InBounds frame.bytes s.m_frameBuffer.length (s.threadSubmitBuffer tj (some frame)).accesses ↔
      s.FrameFits tj frame := by
  unfold threadSubmitBuffer FrameFits
  cases format : s.format with
  | RGB24 => exact iff_of_true (submitAccesses_inBounds frame s.toStream) trivial
  | YUYV =>
      have counted : (UInt32.ofNat frame.bytes).toNat = frame.bytes % 2 ^ 32 :=
        UInt32.toNat_ofNat'
      have read : (UInt32.ofNat frame.bytes).toNat ≤ frame.bytes := by
        rw [counted]
        exact Nat.mod_le _ _
      rw [frameBuffer_length, ← counted]
      exact YUYV2RGB_inBounds_iff frame.memory read
  | NV12 =>
      rw [s.sized]
      exact NV122RGB_inBounds_iff frame.memory s.m_width s.m_height
  | YUV420 =>
      rw [s.sized]
      exact YU122RGB_inBounds_iff frame.memory s.m_width s.m_height
  | MJPG =>
      have rawMode := undecoded format
      simp only [if_pos rawMode]
      exact iff_of_true (inBounds_reads.2 (Nat.le_of_eq frame.length_data)) (.inl rawMode)
  | unsupported => exact iff_of_true inBounds_nil trivial

theorem threadSubmitBuffer_decoded (mjpg : s.format = .MJPG) (decoded : ¬ s.m_rawMode = true) :
    (s.threadSubmitBuffer tj (some frame)).accesses =
      decompressAccesses tj frame.data s.m_width s.m_height := by
  unfold threadSubmitBuffer
  rw [mjpg]
  simp only [if_neg decoded]
  rfl

/-- A frame that fits is converted within bounds, whatever the decoder makes of it. -/
theorem threadSubmitBuffer_inBounds (fits : s.FrameFits tj frame) :
    InBounds frame.bytes s.m_frameBuffer.length
      (s.threadSubmitBuffer tj (some frame)).accesses := by
  by_cases undecoded : s.format = .MJPG → s.m_rawMode = true
  · exact (threadSubmitBuffer_undecoded s frame undecoded).2 fits
  · obtain ⟨mjpg, decoded⟩ := Classical.not_imp.1 undecoded
    rw [threadSubmitBuffer_decoded s frame mjpg decoded]
    unfold FrameFits at fits
    rw [mjpg] at fits
    obtain rawMode | differs | small := fits
    · exact absurd rawMode decoded
    · exact decompressAccesses_inBounds_of_differs s frame differs
    · exact decompressAccesses_inBounds_of_small s frame small

/-- **When a dequeued buffer is converted within bounds.**  For every pixel format, size, byte
count and content: exactly when the frame fits. -/
theorem threadSubmitBuffer_inBounds_iff (tj : TurboJpeg) (writesImage : WritesImage tj)
    (s : PlatformStream) (frame : Delivered) :
    InBounds frame.bytes s.m_frameBuffer.length (s.threadSubmitBuffer tj (some frame)).accesses ↔
      s.FrameFits tj frame := by
  by_cases undecoded : s.format = .MJPG → s.m_rawMode = true
  · exact threadSubmitBuffer_undecoded s frame undecoded
  · obtain ⟨mjpg, decoded⟩ := Classical.not_imp.1 undecoded
    rw [threadSubmitBuffer_decoded s frame mjpg decoded,
      decompressAccesses_inBounds s frame writesImage]
    unfold FrameFits
    rw [mjpg]
    exact (or_iff_right decoded).symm

/-- Every call of `open` succeeds and the driver settles on this format. -/
def settled (width height pixelformat : UInt32) : OpenAnswers :=
  ⟨true, true, true, true, true, some ⟨true, width, height, pixelformat⟩, true⟩

/-- What `open` then leaves of a new stream. -/
def ofFormat (width height pixelformat : UInt32) : PlatformStream where
  toStream := (Stream.new 0 0).opened width height (width * height * 3).toNat
  pixelformat := pixelformat
  sized := length_resize [] _

theorem open_settled (width height pixelformat : UInt32) :
    PlatformStream.open (Stream.new 0 0) (settled width height pixelformat) =
      some (ofFormat width height pixelformat) :=
  rfl

/-- A frame of `bytes` zero bytes. -/
def zeroFrame (bytes : Nat) : Delivered := ⟨fun _ => 0, bytes⟩

theorem threadSubmitBuffer_inBounds_mjpg :
    InBounds (zeroFrame 2).bytes (ofFormat 2 1 0x47504A4D).m_frameBuffer.length
      ((ofFormat 2 1 0x47504A4D).threadSubmitBuffer whiteDecoder (some (zeroFrame 2))).accesses :=
  (threadSubmitBuffer_inBounds_iff whiteDecoder whiteDecoder_writesImage (ofFormat 2 1 0x47504A4D)
    (zeroFrame 2)).2 (.inr (.inr (by decide)))

/-- An NV12 frame cut off after its luma plane is read past its end; a YUYV frame whose line is
padded to eight bytes is written past the end of the frame buffer. -/
theorem threadSubmitBuffer_outOfBounds :
    (∃ s, PlatformStream.open (Stream.new 0 0) (settled 2 2 (v4l2_fourcc 'N' 'V' '1' '2')) = some s ∧
        ¬ InBounds (zeroFrame 4).bytes s.m_frameBuffer.length
          (s.threadSubmitBuffer whiteDecoder (some (zeroFrame 4))).accesses) ∧
      ∃ s, PlatformStream.open (Stream.new 0 0) (settled 2 1 (v4l2_fourcc 'Y' 'U' 'Y' 'V')) = some s ∧
        ¬ InBounds (zeroFrame 8).bytes s.m_frameBuffer.length
          (s.threadSubmitBuffer whiteDecoder (some (zeroFrame 8))).accesses := by
  refine ⟨⟨_, open_settled 2 2 _, ?_⟩, ⟨_, open_settled 2 1 _, ?_⟩⟩
  · decide
  · decide

end PlatformStream

end OpenpnpCapture.Linux
