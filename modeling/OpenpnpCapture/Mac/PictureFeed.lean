/-
# Mac.PictureFeed — what the delegate is given is a feed of pictures

A sample buffer without samples, or whose pixel buffer cannot be locked, leaves no trace; any other
becomes the picture in its pixel buffer, without the alpha bytes.  On the way the picture stands in
`m_tmpBuffer`, which keeps the bytes of the frame before; none of them gets into the next one
(`avFoundation_feed`).

The rows are taken for packed, so they have to be.  Nobody looks at how many rows there are: behind
a pixel buffer smaller than the stream stands whatever memory `baseAddress` goes on with, and the
picture is made of that.  A stream without pixels has no storage behind `m_tmpBuffer`, and counts
nothing.
-/
import OpenpnpCapture.Common.Feed
import OpenpnpCapture.Mac.RowLength

namespace OpenpnpCapture.Mac

open OpenpnpCapture.Lib OpenpnpCapture.Common PlatformStream

set_option autoImplicit false

namespace PlatformStream

theorem act_sized (s : PlatformStream) (q : StreamQuery) :
    Sized (q.act s.toStream).2 s.m_tmpBuffer := by
  rw [Stream.act_stream]
  exact ⟨s.sized.frameBuffer, s.sized.tmpBuffer⟩

/-- A call of a client. -/
def ask (s : PlatformStream) (q : StreamQuery) : Reply × PlatformStream :=
  ((q.act s.toStream).1, { s with toStream := (q.act s.toStream).2, sized := s.act_sized q })

/-- A sample buffer is one submission; the mode settles which kind. -/
theorem captureOutput_submits (convert : Conversion) (s : PlatformStream)
    (sampleBuffer : SampleBuffer) :
    ∃ submission : Common.Submission, submission.isRaw = s.m_rawMode ∧
      (s.captureOutput convert sampleBuffer).stream.toStream = s.toStream.submit submission := by
  have nothing : ∃ submission : Common.Submission, submission.isRaw = s.m_rawMode ∧
      s.toStream = s.toStream.submit submission := by
    cases s.m_rawMode with
    | true => exact ⟨.submitRawBuffer none, rfl, rfl⟩
    | false => exact ⟨.submitBuffer none, rfl, rfl⟩
  unfold captureOutput
  split
  · exact nothing
  · split
    · rename_i raw
      exact ⟨.submitRawBuffer sampleBuffer.dataBuffer, raw.symm, rfl⟩
    · rename_i rgb
      split
      · exact nothing
      · simp only [callback]
        split
        · exact nothing
        · exact ⟨.submitBuffer _, (Bool.eq_false_iff.2 rgb).symm, rfl⟩

/-- The stream behind the delegate, with the conversion vImage makes. -/
def pipeline (convert : Conversion) : Pipeline PlatformStream SampleBuffer where
  deliver s sampleBuffer := (s.captureOutput convert sampleBuffer).stream
  ask := ask

end PlatformStream

/-- The picture in a pixel buffer, the alpha byte of each pixel being its first. -/
def argbPicture (pixelBuffer : PixelBuffer) (width height : UInt32) : Bytes :=
  picture width height fun row col channel =>
    pixelBuffer.baseAddress (row * pixelBuffer.bytesPerRow + 4 * col + 1 + channel)

def develop (width height : UInt32) (sampleBuffer : SampleBuffer) : Option Bytes :=
  if sampleBuffer.numSamples < 1 ∨ imageBytes width height = 0 then none
  else sampleBuffer.imageBuffer.map fun pixelBuffer => argbPicture pixelBuffer width height

/-- Only one row, or rows that follow each other without a gap. -/
def Packed (width height : UInt32) (sampleBuffer : SampleBuffer) : Prop :=
  ∀ pixelBuffer ∈ sampleBuffer.imageBuffer,
    height = 1 ∨ pixelBuffer.bytesPerRow = 4 * width.toNat

def Carries (width height : UInt32) (stream : PlatformStream) (s : Stream) : Prop :=
  OpenRgb width height s ∧ stream.toStream = s

section Deliver

variable {convert : Conversion} {width height : UInt32} {stream : PlatformStream}

/-- The temporary buffer holds the picture, whatever it held before. -/
theorem convert_picture (rows : ConvertsRows convert) (ready : OpenRgb width height stream.toStream)
    (small : imageBytes width height < 2 ^ 32) {pixelBuffer : PixelBuffer}
    (packed : height = 1 ∨ pixelBuffer.bytesPerRow = 4 * width.toNat) :
    store stream.m_tmpBuffer (convert pixelBuffer.baseAddress stream.src stream.dst) =
      argbPicture pixelBuffer width height := by
  have sized : stream.m_tmpBuffer.length = imageBytes width height :=
    (stream.sized.tmpBuffer.trans stream.sized.frameBuffer.symm).trans ready.sized
  obtain ⟨-, -, rfl, rfl, -⟩ := ready
  refine store_eq_picture sized fun row inRows col inCols channel inPixel => ?_
  have rowBytes : (stream.m_width * 3).toNat = stream.m_width.toNat * 3 := by
    have oneRow : 3 * stream.m_width.toNat * 1 ≤ imageBytes stream.m_width stream.m_height :=
      Nat.mul_le_mul_left _ (by omega)
    exact uint32_mul rfl rfl (by omega)
  have place : 3 * (row * stream.m_width.toNat + col) + channel =
      row * (stream.m_width * 3).toNat + (3 * col + channel) := by
    rw [rowBytes, ← Nat.mul_assoc, Nat.mul_comm _ 3, Nat.mul_add, Nat.add_assoc]
  have roomy : 3 * stream.dst.width ≤ stream.dst.rowBytes := by
    show 3 * stream.m_width.toNat ≤ (stream.m_width * 3).toNat
    omega
  rw [place, ← packed_rowBytes inRows small packed]
  exact rows.pixels pixelBuffer.baseAddress stream.src stream.dst rfl rfl roomy row inRows col
    inCols channel inPixel

/-- A locked pixel buffer is a picture, unless there are no pixels. -/
theorem callback_received (rows : ConvertsRows convert)
    (ready : OpenRgb width height stream.toStream) (small : imageBytes width height < 2 ^ 32)
    {pixelBuffer : PixelBuffer} (bytes : UInt32)
    (packed : height = 1 ∨ pixelBuffer.bytesPerRow = 4 * width.toNat) :
    (stream.callback convert pixelBuffer.baseAddress bytes).stream.toStream =
      stream.received (if imageBytes width height = 0 then none
        else some (argbPicture pixelBuffer width height)) := by
  have filled := convert_picture rows ready small packed
  unfold callback
  rw [if_neg (not_not.2 stream.sized.tmpBuffer)]
  show stream.submitBuffer (tmpData (store stream.m_tmpBuffer
    (convert pixelBuffer.baseAddress stream.src stream.dst))) = _
  rw [filled, tmpData]
  have length : (argbPicture pixelBuffer width height).length = imageBytes width height :=
    length_picture
  by_cases noPixels : imageBytes width height = 0
  · have empty := List.eq_nil_of_length_eq_zero (length.trans noPixels)
    rw [if_pos noPixels, empty]
    rfl
  · have filledIn : (argbPicture pixelBuffer width height).isEmpty = false := by
      rw [List.isEmpty_eq_false_iff, ne_eq, ← List.length_eq_zero_iff, length]
      exact noPixels
    have fits := Nat.le_of_eq (length.trans ready.sized.symm)
    rw [if_neg noPixels, filledIn, if_neg Bool.false_ne_true]
    simp only [Stream.submitBuffer, if_pos fits, Stream.received]
    rw [memcpy_all fits, List.drop_eq_nil_of_le (by rw [length, ready.sized]), List.append_nil]

theorem captureOutput_received (rows : ConvertsRows convert)
    (ready : OpenRgb width height stream.toStream) (small : imageBytes width height < 2 ^ 32)
    {sampleBuffer : SampleBuffer} (packed : Packed width height sampleBuffer) :
    (stream.captureOutput convert sampleBuffer).stream.toStream =
      stream.received (develop width height sampleBuffer) := by
  unfold captureOutput develop
  by_cases empty : sampleBuffer.numSamples < 1
  · rw [if_pos empty, if_pos (.inl empty)]
    rfl
  · rw [if_neg empty, if_neg (Bool.eq_false_iff.1 ready.rgb)]
    cases locked : sampleBuffer.imageBuffer with
    | none =>
        simp only [Option.map_none, ite_self]
        rfl
    | some pixelBuffer =>
        simp only [callback_received rows ready small _ (packed pixelBuffer locked), empty,
          false_or, Option.map_some]

theorem develop_whole {sampleBuffer : SampleBuffer} {bytes : Bytes}
    (shown : bytes ∈ develop width height sampleBuffer) :
    bytes.length = imageBytes width height := by
  rw [develop] at shown
  split at shown
  · cases shown
  · obtain ⟨pixelBuffer, -, rfl⟩ := Option.map_eq_some_iff.1 shown
    exact length_picture

end Deliver

theorem pipeline_develops {convert : Conversion} (rows : ConvertsRows convert)
    (width height : UInt32) (small : imageBytes width height < 2 ^ 32) :
    Develops (pipeline convert) width height (Carries width height) (Packed width height)
      (develop width height) where
  ready := fun _ _ held => held.1
  delivers := by
    rintro stream s sampleBuffer ⟨ready, rfl⟩ packed
    exact ⟨ready.received fun _ shown => develop_whole shown,
      captureOutput_received rows ready small packed⟩
  asks := by
    rintro stream s q ⟨ready, rfl⟩
    exact ⟨rfl, ready.act q, rfl⟩

/-- **The feed of an AVFoundation stream.**  In every interleaving of sample buffers with packed
rows and calls an open stream that is not raw answers as the feed of the buffers' pictures does. -/
theorem avFoundation_feed {convert : Conversion} (rows : ConvertsRows convert)
    {width height : UInt32} (small : imageBytes width height < 2 ^ 32) {stream : PlatformStream}
    {s : Stream} (held : Carries width height stream s) {events : List (FeedEvent SampleBuffer)}
    (packed : ∀ sampleBuffer, .arrives sampleBuffer ∈ events → Packed width height sampleBuffer) :
    Components.answers (pipeline convert).step stream events =
      Components.answers (Feed.step (develop width height)) (Feed.of s) events :=
  (pipeline_develops rows width height small).answers_eq held packed

/-- One pixel, in a row that is padded; then one sample buffer that cannot be locked. -/
theorem avFoundation_feed_pixel :
    Components.answers (pipeline convertRows).step (openedStream 1 1)
        [.arrives (sampleOf ⟨fun offset => .ofNat offset, 1, 64⟩),
          .asks (.captureFrame [0, 0, 0] 3), .arrives ⟨1, none, none⟩, .asks .hasNewFrame] =
      [.none, .frame true (some [1, 2, 3]), .none, .flag false] := by
  have held : Carries 1 1 (openedStream 1 1) (openedStream 1 1).toStream :=
    ⟨⟨rfl, rfl, rfl, rfl, rfl⟩, rfl⟩
  exact avFoundation_feed convertRows_converts (by decide) held fun _ _ _ _ => .inl rfl

end OpenpnpCapture.Mac
