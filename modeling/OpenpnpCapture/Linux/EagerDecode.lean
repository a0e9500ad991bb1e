/-
# Linux.EagerDecode — decoding on arrival and decoding on demand agree

An MJPG stream that is not raw decodes every frame into its frame buffer when it arrives; a raw
stream stores the bytes and decodes the stored frame when it is asked.  Earlier frames leave
traces in both (a half-written image, a grown raw buffer), but a last frame that decodes
without error replaces all of them: the whole frame buffer here, the prefix and its length
there.

The decoder may behave differently on every call as long as it returns the same image whenever
it succeeds on the same bytes and resolution, and reports an error for an empty buffer.
-/
import OpenpnpCapture.Linux.DeviceRun
import OpenpnpCapture.Linux.FrameBounds

namespace OpenpnpCapture.Linux

open OpenpnpCapture.Lib OpenpnpCapture.Common PlatformStream

set_option autoImplicit false

/-- The decoder decodes the bytes without error to exactly this resolution. -/
structure Decodes (tj : TurboJpeg) (data : Bytes) (width height : UInt32) : Prop where
  header : (tj.tjDecompressHeader2 data).status = 0
  size : (tj.tjDecompressHeader2 data).size = some (width, height)
  scan : (tj.tjDecompress2 data width height).status = 0

/-- What is relied on of one behaviour of the decoder. -/
structure Decoder (image : Bytes → UInt32 → UInt32 → Bytes) (tj : TurboJpeg) : Prop where
  functional : ∀ data width height, Decodes tj data width height →
    (tj.tjDecompress2 data width height).bytes = image data width height
  -- an empty buffer is an invalid argument
  rejectsEmpty : ∀ width height, ¬ Decodes tj [] width height

/-- A stream after these frames, each with the decoder's behaviour on it. -/
def feed (s : PlatformStream) (frames : List (TurboJpeg × Dequeued)) : PlatformStream :=
  Run.after DeviceEvent.step s (frames.map fun frame => .frame frame.1 frame.2)

theorem feed_setup (s : PlatformStream) (frames : List (TurboJpeg × Dequeued)) :
    SameSetup s (feed s frames) :=
  after_setup s _

theorem feed_snoc (s : PlatformStream) (earlier : List (TurboJpeg × Dequeued)) (tj : TurboJpeg)
    (last : Dequeued) :
    feed s (earlier ++ [(tj, last)]) =
      ((feed s earlier).threadSubmitBuffer tj (some last.delivered)).stream := by
  rw [feed, List.map_append, Run.after_append]
  rfl

section LastFrame

variable {image : Bytes → UInt32 → UInt32 → Bytes} {tj : TurboJpeg} {data : Bytes}
  {width height : UInt32}

/-- A successful decompression into a buffer of exactly the image's size. -/
theorem decompressFrame_decodes (decoder : Decoder image tj)
    (decodes : Decodes tj data width height) {out : Bytes}
    (room : out.length = imageBytes width height) :
    decompressFrame tj data out width height = ⟨true, image data width height, false⟩ := by
  have complete := (tj.tjDecompress2 data width height).complete decodes.scan
  have bytes := decoder.functional data width height decodes
  rw [decompressFrame_match out decodes.size, memcpy_all (by omega), bytes]
  rw [bytes] at complete
  rw [List.drop_eq_nil_of_le (by omega), List.append_nil]

theorem Decodes.nonempty (decoder : Decoder image tj) (decodes : Decodes tj data width height) :
    data ≠ [] := by
  rintro rfl
  exact decoder.rejectsEmpty width height decodes

variable {s : PlatformStream}

/-- On arrival: the frame buffer becomes the image. -/
theorem eager_frameBuffer (last : Dequeued) (format : s.format = .MJPG) (rgb : s.m_rawMode = false)
    (small : imageBytes s.m_width s.m_height < 2 ^ 32) (decoder : Decoder image tj)
    (decodes : Decodes tj last.data s.m_width s.m_height) :
    (s.threadSubmitBuffer tj (some last.delivered)).stream.m_frameBuffer =
      image last.data s.m_width s.m_height := by
  have room : s.m_frameBuffer.length = imageBytes s.m_width s.m_height := by
    rw [frameBuffer_length, ← Nat.mul_assoc]
    exact Nat.mod_eq_of_lt small
  simp only [threadSubmitBuffer, format, rgb, Bool.false_eq_true, if_false, decode, withStream]
  exact congrArg Decompression.buffer (decompressFrame_decodes decoder decodes room)

/-- On demand: the stored bytes are those of the frame. -/
theorem raw_stored (tj : TurboJpeg) (last : Dequeued) (format : s.format = .MJPG) (rawMode : s.m_rawMode = true) :
    (s.threadSubmitBuffer tj (some last.delivered)).stream.m_rawFrameSize = last.bytesused ∧
      (s.threadSubmitBuffer tj (some last.delivered)).stream.m_rawBuffer.take
        last.bytesused.toNat = last.data := by
  simp only [threadSubmitBuffer, format, rawMode, if_true, withStream]
  have stored := (Stream.submitRawBuffer_stored (s := s.toStream) last.data).2
  rw [last.length_data] at stored
  refine ⟨?_, stored⟩
  show UInt32.ofNat last.data.length = _
  rw [last.length_data, UInt32.ofNat_toNat]

end LastFrame

section Streams

variable {image : Bytes → UInt32 → UInt32 → Bytes} {fmt : V4l2Format} {last : Dequeued}
  {tj : TurboJpeg}

theorem started_format (mjpg : fmt.pixelformat = 0x47504A4D) (mode : Option UInt32) :
    (started mode fmt).format = .MJPG := by
  simp only [PlatformStream.format, started, mjpg]
  rfl

theorem requestBytes_toNat (small : imageBytes fmt.width fmt.height < 2 ^ 32) :
    (fmt.width * fmt.height * 3).toNat = imageBytes fmt.width fmt.height := by
  rw [imageBytes, Nat.mul_assoc] at small
  rw [imageBytes, uint32_mul (n := 3) (uint32_mul rfl rfl (by omega)) rfl (by omega),
    Nat.mul_comm, ← Nat.mul_assoc]

/-- What `captureFrame` then hands out. -/
theorem eager_captured (mjpg : fmt.pixelformat = 0x47504A4D)
    (small : imageBytes fmt.width fmt.height < 2 ^ 32) (earlier : List (TurboJpeg × Dequeued))
    (decoder : Decoder image tj) (decodes : Decodes tj last.data fmt.width fmt.height)
    {out : Bytes} (room : out.length = imageBytes fmt.width fmt.height) :
    ((feed (started none fmt) (earlier ++ [(tj, last)])).captureFrame out
        (fmt.width * fmt.height * 3)).1 = (true, image last.data fmt.width fmt.height) := by
  have setup := feed_setup (started none fmt) earlier
  have setup' := feed_setup (started none fmt) (earlier ++ [(tj, last)])
  have frameBuffer : (feed (started none fmt) (earlier ++ [(tj, last)])).m_frameBuffer =
      image last.data fmt.width fmt.height := by
    have arrived := eager_frameBuffer (s := feed (started none fmt) earlier) last
      (setup.format.trans (started_format mjpg none)) setup.rawMode
      (by rw [setup.width, setup.height]; exact small) decoder
      (by rw [setup.width, setup.height]; exact decodes)
    rw [setup.width, setup.height, ← feed_snoc] at arrived
    exact arrived
  have length : (image last.data fmt.width fmt.height).length = imageBytes fmt.width fmt.height := by
    rw [← decoder.functional _ _ _ decodes]
    exact (tj.tjDecompress2 last.data fmt.width fmt.height).complete decodes.scan
  have isOpen : (feed (started none fmt) (earlier ++ [(tj, last)])).m_isOpen = true := setup'.isOpen
  have rgb : (feed (started none fmt) (earlier ++ [(tj, last)])).m_rawMode = false := setup'.rawMode
  simp only [Stream.captureFrame, isOpen, rgb, frameBuffer, requestBytes_toNat small, length,
    Bool.false_eq_true, if_false, Bool.not_true, Nat.le_refl, if_true]
  refine Prod.ext rfl ?_
  simp only
  split
  · rw [← length, memcpy_all (by omega), List.drop_eq_nil_of_le (by omega), List.append_nil]
  · rename_i empty
    rw [List.eq_nil_of_length_eq_zero (room.trans (Classical.not_not.1 empty)),
      List.eq_nil_of_length_eq_zero (length.trans (Classical.not_not.1 empty))]

/-- What `decodeFrame` makes of the frame a raw stream has stored. -/
theorem raw_decoded (mjpg : fmt.pixelformat = 0x47504A4D) (estimatedJPEGSize : UInt32)
    (earlier : List (TurboJpeg × Dequeued)) {onDemand : TurboJpeg} (decoder : Decoder image onDemand)
    (decodes : Decodes onDemand last.data fmt.width fmt.height) {out : Bytes}
    (room : out.length = imageBytes fmt.width fmt.height) :
    (feed (started (some estimatedJPEGSize) fmt) (earlier ++ [(tj, last)])).decodeFrame onDemand
        (some out) (fmt.width * fmt.height * 3) =
      .ran ⟨true, image last.data fmt.width fmt.height, false⟩ := by
  have setup := feed_setup (started (some estimatedJPEGSize) fmt) earlier
  have setup' := feed_setup (started (some estimatedJPEGSize) fmt) (earlier ++ [(tj, last)])
  obtain ⟨size, stored⟩ := raw_stored (s := feed (started (some estimatedJPEGSize) fmt) earlier)
    tj last (setup.format.trans (started_format mjpg _)) setup.rawMode
  rw [← feed_snoc] at size stored
  generalize feed (started (some estimatedJPEGSize) fmt) (earlier ++ [(tj, last)]) = raw
    at setup' size stored
  have width : raw.m_width = fmt.width := setup'.width
  have height : raw.m_height = fmt.height := setup'.height
  have nonempty : last.bytesused ≠ 0 := by
    intro zero
    refine decodes.nonempty decoder (List.eq_nil_of_length_eq_zero ?_)
    rw [last.length_data, zero]
    rfl
  have args : raw.DecodeArgs (some out) (fmt.width * fmt.height * 3) := by
    refine ⟨setup'.isOpen, setup'.rawMode, rfl, ?_⟩
    rw [width, height]
    exact UInt32.le_refl _
  rw [Stream.decodeFrame_of_args args, if_neg (by rw [size]; exact nonempty), size, stored, width,
    height, decompressFrame_decodes decoder decodes room]

end Streams

/-- **Eager and on-demand decoding agree.**  After any frames whose last one decodes without error to
the stream's resolution, `decodeFrame` on a raw stream and `captureFrame` on one that is not raw
both return true and leave that frame's image in the caller's buffer. -/
theorem decodeFrame_eq_captureFrame (image : Bytes → UInt32 → UInt32 → Bytes) (fmt : V4l2Format)
    (mjpg : fmt.pixelformat = 0x47504A4D) (small : imageBytes fmt.width fmt.height < 2 ^ 32)
    (estimatedJPEGSize : UInt32) (earlier : List (TurboJpeg × Dequeued)) (last : Dequeued)
    (tj onDemand : TurboJpeg) (decoder : Decoder image tj) (decoder' : Decoder image onDemand)
    (decodes : Decodes tj last.data fmt.width fmt.height)
    (decodes' : Decodes onDemand last.data fmt.width fmt.height) (out out' : Bytes)
    (room : out.length = imageBytes fmt.width fmt.height)
    (room' : out'.length = imageBytes fmt.width fmt.height) :
    let eager := feed (started none fmt) (earlier ++ [(tj, last)])
    let raw := feed (started (some estimatedJPEGSize) fmt) (earlier ++ [(tj, last)])
    let decoded := raw.decodeFrame onDemand (some out) (fmt.width * fmt.height * 3)
    let captured := (eager.captureFrame out' (fmt.width * fmt.height * 3)).1
    decoded.ok = true ∧ captured.1 = true ∧
      decoded.buffer (some out) = some captured.2 ∧
      captured.2 = image last.data fmt.width fmt.height := by
  intro eager raw decoded captured
  have isCaptured : captured = (true, image last.data fmt.width fmt.height) :=
    eager_captured mjpg small earlier decoder decodes room'
  have isDecoded : decoded = .ran ⟨true, image last.data fmt.width fmt.height, false⟩ :=
    raw_decoded mjpg estimatedJPEGSize earlier decoder' decodes' room
  rw [isCaptured, isDecoded]
  exact ⟨rfl, rfl, rfl, rfl⟩

/-- `whiteDecoder`, which reports an error for an empty buffer. -/
def strictDecoder : TurboJpeg where
  tjDecompressHeader2 data :=
    if data = [] then ⟨-1, none, by decide⟩ else whiteDecoder.tjDecompressHeader2 data
  tjDecompress2 := whiteDecoder.tjDecompress2
  unset := (0, 0)

theorem strictDecoder_decoder :
    Decoder (fun _ width height => List.replicate (imageBytes width height) 255) strictDecoder where
  functional := fun _ _ _ _ => rfl
  rejectsEmpty := fun _ _ decodes => absurd decodes.header (by decide)

/-- An empty frame, then one that decodes. -/
theorem decodeFrame_eq_captureFrame_white :
    ((feed (started (some 1) ⟨true, 2, 1, 0x47504A4D⟩)
        ([(strictDecoder, ⟨fun _ => 7, 0⟩)] ++ [(strictDecoder, ⟨fun _ => 7, 4⟩)])).decodeFrame
          strictDecoder (some [1, 2, 3, 4, 5, 6]) 6).buffer (some [1, 2, 3, 4, 5, 6]) =
        some [255, 255, 255, 255, 255, 255] := by
  have decodes : Decodes strictDecoder (Dequeued.data ⟨fun _ => 7, 4⟩) 2 1 := ⟨rfl, rfl, rfl⟩
  obtain ⟨-, -, same, image⟩ := decodeFrame_eq_captureFrame
    (fun _ width height => List.replicate (imageBytes width height) 255) ⟨true, 2, 1, 0x47504A4D⟩
    rfl (by decide) 1 [(strictDecoder, ⟨fun _ => 7, 0⟩)] ⟨fun _ => 7, 4⟩ strictDecoder strictDecoder
    strictDecoder_decoder strictDecoder_decoder decodes decodes [1, 2, 3, 4, 5, 6] [0, 0, 0, 0, 0, 0]
    rfl rfl
  exact same.trans (congrArg some image)

end OpenpnpCapture.Linux
