/-
# Linux.ImageSizes — the size of a decoded image, in 32 bits

The decoder works with the real width and height and writes `imageBytes` of them.  The check in
`decodeFrame` and the frame buffer that `open` allocates use `m_width * m_height * 3`, a
`uint32_t` product.  It is the number of bytes reduced modulo `2^32`, so both are large enough
exactly while nothing is lost; 65535 x 21846 pixels, which a JPEG header can name, pass for an
image of 65534 bytes.
-/
import OpenpnpCapture.Linux.FrameBounds

namespace OpenpnpCapture.Linux

open OpenpnpCapture.Lib OpenpnpCapture.Common

set_option autoImplicit false

/-- Where a buffer is accepted or allocated for a decoded frame of this size, it has room for what
the decoder writes. -/
structure DecodedFrameFits (width height : UInt32) : Prop where
  onDemand : ∀ (tj : TurboJpeg) (s : Stream) (RGBbufferPtr : Option Bytes)
    (RGBbufferBytes : UInt32) (result : Decompression), s.m_width = width → s.m_height = height →
    s.decodeFrame tj RGBbufferPtr RGBbufferBytes = .ran result →
      imageBytes width height ≤ RGBbufferBytes.toNat
  eager : ∀ (before : Stream) (a : OpenAnswers) (s : PlatformStream),
    PlatformStream.open before a = some s → s.m_width = width → s.m_height = height →
      imageBytes width height ≤ s.m_frameBuffer.length

section Product

variable (width height : UInt32)

/-- A raw stream of this size that has stored a frame of two bytes. -/
def rawStream : Stream :=
  (((Stream.new 0 0).setRawMode true 2).opened width height
    (width * height * 3).toNat).submitRawBuffer (some [0xFF, 0xD8])

/-- It decodes into a buffer of the wrapped size. -/
theorem rawStream_decodes (tj : TurboJpeg) (out : Bytes) :
    ∃ result, (rawStream width height).decodeFrame tj (some out) (width * height * 3) =
      .ran result := by
  have args : (rawStream width height).DecodeArgs (some out) (width * height * 3) :=
    ⟨rfl, rfl, rfl, UInt32.le_refl _⟩
  have stored : (rawStream width height).m_rawFrameSize ≠ 0 :=
    (by decide : UInt32.ofNat 2 ≠ 0)
  rw [Stream.decodeFrame_of_args args, if_neg stored]
  exact ⟨_, rfl⟩

variable {width height}

theorem small_of_onDemand
    (fits : ∀ (tj : TurboJpeg) (s : Stream) (RGBbufferPtr : Option Bytes)
      (RGBbufferBytes : UInt32) (result : Decompression), s.m_width = width →
      s.m_height = height → s.decodeFrame tj RGBbufferPtr RGBbufferBytes = .ran result →
        imageBytes width height ≤ RGBbufferBytes.toNat) :
    imageBytes width height < 2 ^ 32 := by
  obtain ⟨result, ran⟩ := rawStream_decodes width height whiteDecoder []
  exact (imageBytes_le_product_iff width height).1
    (fits whiteDecoder (rawStream width height) _ _ result rfl rfl ran)

theorem onDemand_of_small (small : imageBytes width height < 2 ^ 32) {tj : TurboJpeg} {s : Stream}
    {RGBbufferPtr : Option Bytes} {RGBbufferBytes : UInt32} {result : Decompression}
    (sameWidth : s.m_width = width) (sameHeight : s.m_height = height)
    (ran : s.decodeFrame tj RGBbufferPtr RGBbufferBytes = .ran result) :
    imageBytes width height ≤ RGBbufferBytes.toNat := by
  obtain ⟨⟨-, -, -, accepted⟩, -⟩ := Stream.decodeFrame_ran ran
  rw [sameWidth, sameHeight] at accepted
  exact Nat.le_trans ((imageBytes_le_product_iff width height).2 small) accepted

theorem eager_of_small (small : imageBytes width height < 2 ^ 32) {s : PlatformStream}
    (sameWidth : s.m_width = width) (sameHeight : s.m_height = height) :
    imageBytes width height ≤ s.m_frameBuffer.length := by
  rw [s.sized, sameWidth, sameHeight]
  exact (imageBytes_le_product_iff width height).2 small

end Product

/-- **When the 32-bit sizes are true.**  For every width and height, exactly while the image has fewer
than `2^32` bytes. -/
theorem decodedFrameFits_iff (width height : UInt32) :
    DecodedFrameFits width height ↔ imageBytes width height < 2 ^ 32 := by
  constructor
  · intro fits
    exact small_of_onDemand fits.onDemand
  · intro small
    exact ⟨fun _ _ _ _ _ sameWidth sameHeight ran => onDemand_of_small small sameWidth sameHeight ran,
      fun _ _ _ _ sameWidth sameHeight => eager_of_small small sameWidth sameHeight⟩

/-- A 65535 x 21846 image has more than four gigabytes; a buffer of 65534 is accepted for it. -/
theorem decodedFrame_too_large :
    (65535 : UInt32) * 21846 * 3 = 65534 ∧ imageBytes 65535 21846 = 4295032830 ∧
      ¬ DecodedFrameFits 65535 21846 := by
  refine ⟨by decide, by decide, fun fits => ?_⟩
  exact absurd (small_of_onDemand fits.onDemand) (by decide)

end OpenpnpCapture.Linux
