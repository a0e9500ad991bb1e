/-
# Linux.PictureFeed — what the driver delivers is a feed of pictures

`threadSubmitBuffer` has a case for each pixel format, and every one of them writes into the same
frame buffer.  A whole frame leaves no byte of what was there: it is the picture its samples make,
or it is dropped (`develop`), and so a client sees a feed (`v4l2_feed`).

Which frames are whole depends on the format.  A planar converter makes an image of the stream's
size of whatever is behind the pointer, so to it all frames are whole: of a buffer that is shorter it
reads the memory that follows.  YUYV and RGB24 stop where the driver's count does, and the decoder
where the data ends.
-/
import OpenpnpCapture.Common.Feed
import OpenpnpCapture.Linux.ColourAccuracy
import OpenpnpCapture.Linux.DeviceRun
import OpenpnpCapture.Linux.FrameBounds

namespace OpenpnpCapture.Linux

open OpenpnpCapture.Lib OpenpnpCapture.Common

set_option autoImplicit false

/-- A dequeued buffer, with the decoder's behaviour on it. -/
structure Captured where
  tj : TurboJpeg
  buf : Dequeued

/-- The stream between the capture thread and its clients. -/
def pipeline : Pipeline PlatformStream Captured where
  deliver s frame := DeviceEvent.step s (.frame frame.tj frame.buf)
  ask s q := ((q.act s.toStream).1, DeviceEvent.step s (.query q))

/-! ## The pictures in the formats -/

section Pictures

variable (start : Nat → UInt8) (width height : UInt32)

def rgb24Picture : Bytes :=
  picture width height fun row col channel => start (3 * (row * width.toNat + col) + channel)

/-- Two pixels share a U and a V. -/
def yuyvPicture : Bytes :=
  picture width height fun row col =>
    let n := row * width.toNat + col
    yuyvColour (start (2 * n)) (start (4 * (n / 2) + 1)) (start (4 * (n / 2) + 3))

/-- A block of four shares a U and a V, which lie side by side. -/
def nv12Picture : Bytes :=
  picture width height fun row col =>
    let chroma := width.toNat * height.toNat + (row / 2 * width.toNat + col / 2 * 2)
    planarColour (start (row * width.toNat + col)) (start chroma) (start (chroma + 1))

/-- The same in planes of their own. -/
def yu12Picture : Bytes :=
  picture width height fun row col =>
    let area := width.toNat * height.toNat
    let block := row / 2 * (width.toNat / 2) + col / 2
    planarColour (start (row * width.toNat + col)) (start (area + block))
      (start (area + area / 4 + block))

end Pictures

/-- An RGB24 buffer that is longer than the picture and a JPEG of another size are not shown. -/
def develop (format : PixelFormat) (width height : UInt32) (frame : Captured) : Option Bytes :=
  match format with
  | .RGB24 =>
      if frame.buf.bytesused.toNat ≤ imageBytes width height then
        some (rgb24Picture frame.buf.start width height)
      else none
  | .YUYV => some (yuyvPicture frame.buf.start width height)
  | .NV12 => some (nv12Picture frame.buf.start width height)
  | .YUV420 => some (yu12Picture frame.buf.start width height)
  | .MJPG =>
      if comparedSize frame.tj frame.buf.data = (width, height) then
        some (frame.tj.tjDecompress2 frame.buf.data width height).bytes
      else none
  | .unsupported => none

def Whole (format : PixelFormat) (width height : UInt32) (frame : Captured) : Prop :=
  match format with
  | .RGB24 => imageBytes width height ≤ frame.buf.bytesused.toNat
  | .YUYV =>
      frame.buf.bytesused.toNat = 2 * (width.toNat * height.toNat) ∧
        width.toNat * height.toNat % 2 = 0
  | .MJPG =>
      comparedSize frame.tj frame.buf.data = (width, height) →
        (frame.tj.tjDecompress2 frame.buf.data width height).bytes.length = imageBytes width height
  | .NV12 | .YUV420 | .unsupported => True

def Carries (format : PixelFormat) (width height : UInt32) (stream : PlatformStream) (s : Stream) :
    Prop :=
  OpenRgb width height s ∧ stream.format = format ∧ stream.toStream = s

section Deliver

variable {width height : UInt32}

/-- Pixel `n` of a YUYV buffer, wherever its four bytes come from. -/
theorem lastAt_YUYV2RGB (yuv : Nat → UInt8) {bytes : UInt32} {n channel : Nat}
    (inBytes : n < 2 * (bytes.toNat / 4)) (inPixel : channel < 3) :
    lastAt (3 * n + channel) (YUYV2RGB yuv bytes) =
      some (yuyvColour (yuv (2 * n)) (yuv (4 * (n / 2) + 1)) (yuv (4 * (n / 2) + 3)) channel) := by
  apply lastAt_eq_some
  · rw [YUYV2RGB, YUYV2RGB.write_mem_loop_iff]
    refine ⟨n, inBytes, channel, inPixel, by omega, ?_⟩
    simp only [Nat.zero_add]
  · intro other touched
    rw [YUYV2RGB, YUYV2RGB.write_mem_loop_iff] at touched
    obtain ⟨n', -, channel', inPixel', place, rfl⟩ := touched
    obtain ⟨rfl, rfl⟩ : n' = n ∧ channel' = channel := by omega
    simp only [Nat.zero_add]

theorem yuyv_store {buffer : Bytes} (sized : buffer.length = imageBytes width height)
    (yuv : Nat → UInt8) {bytes : UInt32} (counted : bytes.toNat = 2 * (width.toNat * height.toNat))
    (pairs : width.toNat * height.toNat % 2 = 0) :
    store buffer (YUYV2RGB yuv bytes) = yuyvPicture yuv width height := by
  refine store_eq_picture sized fun row inRows col inCols channel inPixel => ?_
  have inArea := rowMajor_lt_area inRows inCols
  exact lastAt_YUYV2RGB yuv (by omega) inPixel

theorem nv12_store {buffer : Bytes} (sized : buffer.length = imageBytes width height)
    (small : imageBytes width height < 2 ^ 32) (nv12 : Nat → UInt8) :
    store buffer (NV122RGB nv12 width height) = nv12Picture nv12 width height := by
  rw [imageBytes, Nat.mul_assoc] at small
  exact store_eq_picture sized fun row inRows col inCols channel inPixel =>
    lastAt_NV122RGB nv12 small inRows inCols inPixel

theorem yu12_store {buffer : Bytes} (sized : buffer.length = imageBytes width height)
    (small : imageBytes width height < 2 ^ 32) (yu12 : Nat → UInt8) :
    store buffer (YU122RGB yu12 width height) = yu12Picture yu12 width height := by
  rw [imageBytes, Nat.mul_assoc] at small
  exact store_eq_picture sized fun row inRows col inCols channel inPixel =>
    lastAt_YU122RGB yu12 small inRows inCols inPixel

/-- The bytes of an RGB24 buffer are the picture. -/
theorem rgb24_data (buf : Dequeued) (counted : buf.bytesused.toNat = imageBytes width height) :
    buf.data = rgb24Picture buf.start width height := by
  refine eq_picture (buf.length_data.trans counted) fun row inRows col inCols channel inPixel => ?_
  have inside : 3 * (row * width.toNat + col) + channel < buf.delivered.bytes := by
    show _ < buf.bytesused.toNat
    rw [counted]
    exact cell_lt_imageBytes inRows inCols inPixel
  rw [Dequeued.data, Delivered.data, List.getElem?_map, List.getElem?_range inside, Option.map_some]
  rfl

/-- A source of the buffer's own size replaces all of it. -/
theorem memcpy_whole {buffer source : Bytes} (same : source.length = buffer.length) :
    memcpy buffer source source.length = source := by
  rw [memcpy_all (Nat.le_of_eq same), List.drop_eq_nil_of_le (Nat.le_of_eq same.symm),
    List.append_nil]

theorem submitBuffer_received {s : Stream}
    (sized : s.m_frameBuffer.length = imageBytes width height) {data : Bytes}
    (whole : imageBytes width height ≤ data.length) :
    s.submitBuffer (some data) =
      s.received (if data.length ≤ imageBytes width height then some data else none) := by
  simp only [Stream.submitBuffer, sized]
  split
  · rename_i fits
    rw [memcpy_whole (by omega)]
    rfl
  · rfl

theorem convert_received (stream : PlatformStream) {accesses : List Access} {image : Bytes}
    (stored : store stream.m_frameBuffer accesses = image) :
    (stream.convert accesses).stream.toStream = stream.received (some image) := by
  rw [← stored]
  rfl

/-- A JPEG that names the stream's size is decoded, whatever the status of the decoder. -/
theorem decompressFrame_compared (tj : TurboJpeg) (inBuffer outBuffer : Bytes) :
    let result := decompressFrame tj inBuffer outBuffer width height
    if comparedSize tj inBuffer = (width, height) then
      result.ok = true ∧ result.buffer = memcpy outBuffer
        (tj.tjDecompress2 inBuffer width height).bytes
        (tj.tjDecompress2 inBuffer width height).bytes.length
    else result.ok = false ∧ result.buffer = outBuffer := by
  intro result
  have stored := decompressFrame_buffer tj inBuffer outBuffer width height
  rw [decompressAccesses, store_append, store_reads] at stored
  split
  · rename_i named
    rw [if_pos named, store_writes] at stored
    refine ⟨?_, stored⟩
    have sameWidth : ((tj.tjDecompressHeader2 inBuffer).size.getD tj.unset).1 = width :=
      congrArg Prod.fst named
    have sameHeight : ((tj.tjDecompressHeader2 inBuffer).size.getD tj.unset).2 = height :=
      congrArg Prod.snd named
    simp only [result, decompressFrame, sameWidth, sameHeight, ne_eq, not_true_eq_false, or_self,
      if_false, ite_self]
  · rename_i other
    rw [if_neg other] at stored
    have differs : ((tj.tjDecompressHeader2 inBuffer).size.getD tj.unset).1 ≠ width ∨
        ((tj.tjDecompressHeader2 inBuffer).size.getD tj.unset).2 ≠ height :=
      not_and_or.1 fun both => other (Prod.ext both.1 both.2)
    exact ⟨by simp only [result, decompressFrame, if_pos differs], stored⟩

theorem decode_received {stream : PlatformStream} (ready : OpenRgb width height stream.toStream)
    (tj : TurboJpeg) (data : Bytes)
    (whole : comparedSize tj data = (width, height) →
      (tj.tjDecompress2 data width height).bytes.length = imageBytes width height) :
    (stream.decode tj data).stream.toStream =
      stream.received (if comparedSize tj data = (width, height)
        then some (tj.tjDecompress2 data width height).bytes else none) := by
  have outcome := @decompressFrame_compared width height tj data stream.m_frameBuffer
  obtain ⟨-, -, rfl, rfl, sized⟩ := ready
  simp only at outcome
  show { stream.toStream with
    m_frameBuffer := (decompressFrame tj data stream.m_frameBuffer stream.m_width
      stream.m_height).buffer
    m_newFrame := if (decompressFrame tj data stream.m_frameBuffer stream.m_width
      stream.m_height).ok then true else stream.m_newFrame
    m_frames := if (decompressFrame tj data stream.m_frameBuffer stream.m_width
      stream.m_height).ok then stream.m_frames + 1 else stream.m_frames } = _
  split at outcome
  · rename_i named
    rw [outcome.1, outcome.2, if_pos named, memcpy_whole ((whole named).trans sized.symm)]
    rfl
  · rename_i other
    rw [outcome.1, outcome.2, if_neg other]
    rfl

/-- A whole frame is a picture, or leaves the stream alone. -/
theorem threadSubmitBuffer_received {format : PixelFormat} {stream : PlatformStream}
    (ready : OpenRgb width height stream.toStream) (formatted : stream.format = format)
    (small : imageBytes width height < 2 ^ 32) {frame : Captured}
    (whole : Whole format width height frame) :
    (stream.threadSubmitBuffer frame.tj (some frame.buf.delivered)).stream.toStream =
      stream.received (develop format width height frame) := by
  obtain ⟨tj, buf⟩ := frame
  have sized := ready.sized
  have sameWidth := ready.m_width
  have sameHeight := ready.m_height
  unfold PlatformStream.threadSubmitBuffer
  rw [formatted]
  cases format with
  | RGB24 =>
      have length : buf.data.length = buf.bytesused.toNat := buf.length_data
      have enough : imageBytes width height ≤ buf.data.length := length.symm ▸ whole
      show stream.submitBuffer (some buf.data) = _
      rw [submitBuffer_received sized enough, length, develop]
      split
      · rename_i fits
        rw [rgb24_data buf (Nat.le_antisymm fits whole)]
      · rfl
  | YUYV =>
      have counted : UInt32.ofNat buf.delivered.bytes = buf.bytesused := UInt32.ofNat_toNat
      apply convert_received
      rw [counted]
      exact yuyv_store sized buf.start whole.1 whole.2
  | NV12 =>
      apply convert_received
      rw [sameWidth, sameHeight]
      exact nv12_store sized small buf.start
  | YUV420 =>
      apply convert_received
      rw [sameWidth, sameHeight]
      exact yu12_store sized small buf.start
  | MJPG =>
      rw [ready.rgb]
      exact decode_received ready tj buf.data whole
  | unsupported => rfl

theorem develop_whole {format : PixelFormat} {frame : Captured}
    (whole : Whole format width height frame) {bytes : Bytes}
    (shown : bytes ∈ develop format width height frame) :
    bytes.length = imageBytes width height := by
  cases format with
  | RGB24 =>
      rw [develop] at shown
      split at shown
      · obtain rfl := Option.some.inj shown
        exact length_picture
      · cases shown
  | MJPG =>
      rw [develop] at shown
      split at shown
      · rename_i named
        obtain rfl := Option.some.inj shown
        exact whole named
      · cases shown
  | unsupported => cases shown
  | _ =>
      obtain rfl := Option.some.inj shown
      exact length_picture

end Deliver

theorem pipeline_develops (format : PixelFormat) (width height : UInt32)
    (small : imageBytes width height < 2 ^ 32) :
    Develops pipeline width height (Carries format width height) (Whole format width height)
      (develop format width height) where
  ready := fun _ _ held => held.1
  delivers := by
    rintro stream s frame ⟨ready, formatted, rfl⟩ whole
    refine ⟨ready.received fun _ shown => develop_whole whole shown, ?_,
      threadSubmitBuffer_received ready formatted small whole⟩
    exact (step_setup stream (.frame frame.tj frame.buf)).format.trans formatted
  asks := by
    rintro stream s q ⟨ready, formatted, rfl⟩
    exact ⟨rfl, ready.act q, formatted, rfl⟩

/-- **The feed of a V4L2 stream.**  For every pixel format, in every interleaving of whole frames
and calls an open stream that is not raw answers as the feed of the frames' pictures does. -/
theorem v4l2_feed {format : PixelFormat} {width height : UInt32}
    (small : imageBytes width height < 2 ^ 32) {stream : PlatformStream} {s : Stream}
    (held : Carries format width height stream s) {events : List (FeedEvent Captured)}
    (wholes : ∀ frame, .arrives frame ∈ events → Whole format width height frame) :
    Components.answers pipeline.step stream events =
      Components.answers (Feed.step (develop format width height)) (Feed.of s) events :=
  (pipeline_develops format width height small).answers_eq held wholes

/-- A pair of grey YUYV pixels over a pair of black ones. -/
theorem v4l2_feed_pair :
    Components.answers pipeline.step (.ofFormat 2 1 (v4l2_fourcc 'Y' 'U' 'Y' 'V'))
        [.arrives ⟨whiteDecoder, ⟨fun offset => if offset % 2 = 0 then 16 else 128, 4⟩⟩,
          .arrives ⟨whiteDecoder, ⟨fun _ => 128, 4⟩⟩, .asks .getStreamFrameCount,
          .asks (.captureFrame (List.replicate 6 0) 6)] =
      [.none, .none, .count 2, .frame true (some (List.replicate 6 133))] := by
  have held : Carries .YUYV 2 1 (.ofFormat 2 1 (v4l2_fourcc 'Y' 'U' 'Y' 'V'))
      ((Stream.new 0 0).opened 2 1 6) :=
    ⟨⟨rfl, rfl, rfl, rfl, rfl⟩, by decide, rfl⟩
  refine (v4l2_feed (by decide) held ?_).trans (by decide)
  intro frame member
  simp only [List.mem_cons, FeedEvent.arrives.injEq, reduceCtorEq, List.not_mem_nil, or_false]
    at member
  rcases member with rfl | rfl
  · exact ⟨rfl, by decide⟩
  · exact ⟨rfl, by decide⟩

end OpenpnpCapture.Linux
