/-
# Linux.CapturedImage — whose bytes does captureFrame hand out?

The frame buffer has a fixed size and no length of its own; a frame that is shorter than it
overwrites its start and leaves the rest, and `captureFrame` copies as much as the caller asks
for.  Both writers do this: `Stream::submitBuffer`, and the YUYV case of
`threadSubmitBuffer`, which converts into the buffer directly.  The raw path keeps
`m_rawFrameSize` for this purpose; the RGB path has no such field.  The two differ in a frame
that is longer than the buffer: `submitBuffer` refuses it, the conversion writes past the end,
and the history stops there.

So the buffer is a one-place mailbox of images that starts with the last one (`Shows`), and
`captures_latest_iff` is the exact condition: no conversion before the capture leaves the
buffer, and the capture asks for no more bytes than the last accepted image has.
-/
import OpenpnpCapture.Lib.Mailbox
import OpenpnpCapture.Linux.FrameBounds

namespace OpenpnpCapture.Linux

open OpenpnpCapture.Lib OpenpnpCapture.Common

set_option autoImplicit false

/-- The buffer a caller passes to `captureFrame`. -/
structure CallerBuffer where
  RGBbuffer : Bytes
  RGBbufferBytes : UInt32
  room : RGBbufferBytes.toNat ≤ RGBbuffer.length

/-- What happens to a stream that is not raw. -/
inductive CaptureEvent
  | submitBuffer (ptr : Option Bytes)
  | yuyv (frame : Delivered)
  | captureFrame (buffer : CallerBuffer)

/-- The YUYV case made an access outside its two buffers. -/
inductive ConversionFault
  | outOfBounds
deriving DecidableEq, Repr

/-- The RGB image the YUYV case makes of a dequeued buffer. -/
def yuyvImage (frame : Delivered) : Bytes :=
  written (YUYV2RGB frame.memory (.ofNat frame.bytes))

namespace CaptureEvent

def step (s : Stream) : CaptureEvent → Except ConversionFault Stream
  | .submitBuffer ptr => .ok (s.submitBuffer ptr)
  | .yuyv frame =>
      let conversion := YUYV2RGB frame.memory (.ofNat frame.bytes)
      if InBounds frame.bytes s.m_frameBuffer.length conversion then
        .ok { s with
          m_frameBuffer := store s.m_frameBuffer conversion
          m_newFrame := true
          m_frames := s.m_frames + 1 }
      else .error .outOfBounds
  | .captureFrame buffer => .ok (s.captureFrame buffer.RGBbuffer buffer.RGBbufferBytes).2

/-- The bytes of the frame fit a frame buffer of `size` bytes, where the code does not check it. -/
def Fits (size : Nat) : CaptureEvent → Prop
  | .yuyv frame => 6 * (frame.bytes % 2 ^ 32 / 4) ≤ size
  | .submitBuffer _ | .captureFrame _ => True

/-- The mailbox action of an event on a stream with a frame buffer of `size` bytes. -/
def act (size : Nat) : CaptureEvent → Mailbox.Act Bytes
  | .submitBuffer (some data) => if data.length ≤ size then .post data else .look
  | .submitBuffer none => .look
  | .yuyv frame => .post (yuyvImage frame)
  | .captureFrame _ => .collect fun _ => true

/-- The image of the frame accepted last. -/
def latestImage (size : Nat) (past : List CaptureEvent) : Option Bytes :=
  (Mailbox.posted (past.map (act size))).getLast?

end CaptureEvent

open CaptureEvent

/-- A dequeued RGB24 or YUYV buffer is one event; the second faults where the source leaves its
buffers. -/
theorem threadSubmitBuffer_step (tj : TurboJpeg) (s : PlatformStream) (frame : Delivered) :
    (s.format = .RGB24 → step s.toStream (.submitBuffer (some frame.data)) =
        .ok (s.threadSubmitBuffer tj (some frame)).stream.toStream) ∧
      (s.format = .YUYV → step s.toStream (.yuyv frame) =
        if InBounds frame.bytes s.m_frameBuffer.length
            (s.threadSubmitBuffer tj (some frame)).accesses then
          .ok (s.threadSubmitBuffer tj (some frame)).stream.toStream
        else .error .outOfBounds) := by
  constructor
  · intro format
    simp only [PlatformStream.threadSubmitBuffer, format]
    rfl
  · intro format
    simp only [PlatformStream.threadSubmitBuffer, format]
    rfl

/-- The bytes `captureFrame` copies out. -/
def copiedOut (s : Stream) (buffer : CallerBuffer) : Bytes :=
  (s.captureFrame buffer.RGBbuffer buffer.RGBbufferBytes).1.2.take
    (min buffer.RGBbufferBytes.toNat s.m_frameBuffer.length)

/-- Every capture after an accepted frame is reached and copies out a prefix of the last such
frame's image. -/
def CapturesLatest (s : Stream) (events : List CaptureEvent) : Prop :=
  ∀ past buffer future, events = past ++ .captureFrame buffer :: future →
    ∀ image, latestImage s.m_frameBuffer.length past = some image →
      ∃ t, Run.finish step s past = .ok t ∧ copiedOut t buffer <+: image

/-- No capture after an accepted frame comes after a frame that leaves the frame buffer, or asks for
more bytes than the image of the frame accepted last has. -/
def ShortCaptures (size : Nat) (events : List CaptureEvent) : Prop :=
  ∀ past buffer future, events = past ++ .captureFrame buffer :: future →
    ∀ image, latestImage size past = some image →
      (∀ event ∈ past, event.Fits size) ∧ min buffer.RGBbufferBytes.toNat size ≤ image.length

/-- The frame buffer starts with the mailbox's image. -/
structure Shows (size : Nat) (s : Stream) (m : Mailbox Bytes) : Prop where
  isOpen : s.m_isOpen = true
  rgb : s.m_rawMode = false
  sized : s.m_frameBuffer.length = size
  image : ∀ image, m.latest = some image → image <+: s.m_frameBuffer

section Steps

variable {size : Nat} {s : Stream} {m : Mailbox Bytes}

theorem shows_posted (related : Shows size s m) {image : Bytes} (room : image.length ≤ size)
    (newFrame : Bool) (frames : UInt32) :
    Shows size
      { s with
        m_frameBuffer := memcpy s.m_frameBuffer image image.length
        m_newFrame := newFrame
        m_frames := frames }
      (Mailbox.post image) where
  isOpen := related.isOpen
  rgb := related.rgb
  sized := (length_memcpy (Nat.le_refl _)).trans related.sized
  image := by
    rintro shown ⟨⟩
    rw [memcpy_all (related.sized ▸ room)]
    exact List.prefix_append image _

theorem captureFrame_of_open (isOpen : s.m_isOpen = true) (rgb : s.m_rawMode = false)
    (buffer : CallerBuffer) :
    (s.captureFrame buffer.RGBbuffer buffer.RGBbufferBytes).2 = { s with m_newFrame := false } ∧
      copiedOut s buffer =
        s.m_frameBuffer.take (min buffer.RGBbufferBytes.toNat s.m_frameBuffer.length) := by
  have room := buffer.room
  have smaller : (if buffer.RGBbufferBytes.toNat ≤ s.m_frameBuffer.length
      then buffer.RGBbufferBytes.toNat else s.m_frameBuffer.length) =
        min buffer.RGBbufferBytes.toNat s.m_frameBuffer.length :=
    (Nat.min_def ..).symm
  simp only [copiedOut, Stream.captureFrame, isOpen, rgb, smaller, Bool.false_eq_true, if_false,
    Bool.not_true, true_and]
  generalize copied : min buffer.RGBbufferBytes.toNat s.m_frameBuffer.length = count
  split
  · rw [memcpy_of_le (by omega) (by omega), List.take_left']
    rw [List.length_take]
    omega
  · rename_i nothing
    rw [Classical.not_not.1 nothing, List.take_zero, List.take_zero]

theorem yuyv_inBounds_iff (frame : Delivered) :
    InBounds frame.bytes size (YUYV2RGB frame.memory (.ofNat frame.bytes)) ↔
      (CaptureEvent.yuyv frame).Fits size := by
  have counted : (UInt32.ofNat frame.bytes).toNat = frame.bytes % 2 ^ 32 :=
    UInt32.toNat_ofNat'
  have read : (UInt32.ofNat frame.bytes).toNat ≤ frame.bytes := by
    rw [counted]
    exact Nat.mod_le _ _
  rw [YUYV2RGB_inBounds_iff frame.memory read, counted]
  rfl

theorem length_yuyvImage (frame : Delivered) :
    (yuyvImage frame).length = 6 * (frame.bytes % 2 ^ 32 / 4) := by
  rw [yuyvImage, YUYV2RGB, YUYV2RGB.loop_length, UInt32.toNat_ofNat']

/-- Only a conversion can fault. -/
theorem step_returns_iff (related : Shows size s m) (event : CaptureEvent) :
    (∃ t, step s event = .ok t) ↔ event.Fits size := by
  cases event with
  | submitBuffer ptr => exact iff_of_true ⟨_, rfl⟩ trivial
  | captureFrame buffer => exact iff_of_true ⟨_, rfl⟩ trivial
  | yuyv frame =>
      rw [step, related.sized, ← yuyv_inBounds_iff]
      split
      · rename_i inside
        exact iff_of_true ⟨_, rfl⟩ inside
      · rename_i outside
        refine iff_of_false ?_ outside
        rintro ⟨t, ⟨⟩⟩

theorem shows_step (event : CaptureEvent) (related : Shows size s m) {t : Stream}
    (stepped : step s event = .ok t) : Shows size t (m.step (act size event)) := by
  have fits := (step_returns_iff related event).1 ⟨t, stepped⟩
  cases event with
  | submitBuffer ptr =>
      cases ptr with
      | none =>
          cases stepped
          exact related
      | some data =>
          cases stepped
          simp only [Stream.submitBuffer, act, related.sized]
          by_cases room : data.length ≤ size
          · rw [if_pos room, if_pos room]
            exact shows_posted related room true (s.m_frames + 1)
          · rw [if_neg room, if_neg room]
            exact related
  | yuyv frame =>
      have inside := (yuyv_inBounds_iff frame).2 fits
      have room : (yuyvImage frame).length ≤ size := length_yuyvImage frame ▸ fits
      rw [step, related.sized, if_pos inside, YUYV2RGB_store] at stepped
      cases stepped
      exact shows_posted related room true (s.m_frames + 1)
  | captureFrame buffer =>
      cases stepped
      rw [(captureFrame_of_open related.isOpen related.rgb buffer).1]
      exact ⟨related.isOpen, related.rgb, related.sized, related.image⟩

/-- A history returns exactly if every frame fits, and then the frame buffer starts with the image
of the frame accepted last. -/
theorem finish_shows (isOpen : s.m_isOpen = true) (rgb : s.m_rawMode = false)
    (past : List CaptureEvent) :
    ((∃ t, Run.finish step s past = .ok t) ↔ ∀ event ∈ past, event.Fits s.m_frameBuffer.length) ∧
      ∀ t, Run.finish step s past = .ok t →
        ∃ m : Mailbox Bytes, m.latest = latestImage s.m_frameBuffer.length past ∧
          Shows s.m_frameBuffer.length t m := by
  have start : Shows s.m_frameBuffer.length s Mailbox.empty :=
    ⟨isOpen, rgb, rfl, fun image none_ => by cases none_⟩
  obtain ⟨returns, ends⟩ := Run.finish_simulation (R := Shows s.m_frameBuffer.length)
    (fun _ _ event related => step_returns_iff related event)
    (fun _ _ event _ related stepped => shows_step event related stepped) start past
  refine ⟨returns, fun t finished => ⟨_, ?_, ends t finished⟩⟩
  rw [latestImage, ← Mailbox.latest_after_empty, Run.after, Run.after, List.foldl_map]

end Steps

/-- The start of a buffer is a prefix of an image the buffer starts with exactly if the image is
long enough. -/
theorem take_prefix_iff {buffer image : Bytes} {count : Nat} (inside : count ≤ buffer.length)
    (shown : image <+: buffer) : buffer.take count <+: image ↔ count ≤ image.length := by
  have length : (buffer.take count).length = count := List.length_take_of_le inside
  constructor
  · intro isPrefix
    rw [← length]
    exact isPrefix.length_le
  · intro short
    refine List.prefix_of_prefix_length_le (List.take_prefix count buffer) shown ?_
    rwa [length]

/-- **Whose bytes a capture hands out.**  In every history of an open stream that is not raw, every
capture after an accepted frame copies out a prefix of the image of the last one exactly if no
conversion before it leaves the frame buffer and it asks for no more bytes than that image has. -/
theorem captures_latest_iff (s : Stream) (isOpen : s.m_isOpen = true) (rgb : s.m_rawMode = false)
    (events : List CaptureEvent) :
    CapturesLatest s events ↔ ShortCaptures s.m_frameBuffer.length events := by
  refine forall_congr' fun past => forall_congr' fun buffer => forall_congr' fun future =>
    forall_congr' fun _ => forall_congr' fun image => forall_congr' fun last => ?_
  obtain ⟨returns, ends⟩ := finish_shows isOpen rgb past
  have copies (t : Stream) (finished : Run.finish step s past = .ok t) :
      copiedOut t buffer <+: image ↔
        min buffer.RGBbufferBytes.toNat s.m_frameBuffer.length ≤ image.length := by
    obtain ⟨m, latest, related⟩ := ends t finished
    rw [(captureFrame_of_open related.isOpen related.rgb buffer).2, ← related.sized]
    exact take_prefix_iff (Nat.min_le_right _ _) (related.image image (latest.trans last))
  rw [← returns]
  constructor
  · rintro ⟨t, finished, isPrefix⟩
    exact ⟨⟨t, finished⟩, (copies t finished).1 isPrefix⟩
  · rintro ⟨⟨t, finished⟩, short⟩
    exact ⟨t, finished, (copies t finished).2 short⟩

/-- A whole frame and a capture of it. -/
theorem captures_latest_whole_frame :
    CapturesLatest ((Stream.new 0 0).opened 1 1 3)
      [.submitBuffer (some [1, 2, 3]), .captureFrame ⟨[0, 0, 0], 3, by decide⟩] := by
  refine (captures_latest_iff ((Stream.new 0 0).opened 1 1 3) rfl rfl _).2 ?_
  intro past buffer future split image last
  rcases past with _ | ⟨first, _ | ⟨second, past⟩⟩
  · cases split
  · cases split
    cases last
    refine ⟨?_, by decide⟩
    intro event member
    obtain rfl := List.mem_singleton.1 member
    trivial
  · simp at split

/-- A frame of one byte after one of three: the capture hands out bytes of both.  The same with a
YUYV frame of one pixel pair after one of two.  A YUYV frame of two pixel pairs on a stream of one:
the conversion writes past the frame buffer. -/
theorem captures_mixture :
    ¬ CapturesLatest ((Stream.new 0 0).opened 1 1 3)
        [.submitBuffer (some [1, 2, 3]), .submitBuffer (some [9]),
          .captureFrame ⟨[0, 0, 0], 3, by decide⟩] ∧
      ¬ CapturesLatest (PlatformStream.ofFormat 4 1 (v4l2_fourcc 'Y' 'U' 'Y' 'V')).toStream
        [.yuyv ⟨fun _ => 200, 8⟩, .yuyv ⟨fun _ => 0, 4⟩,
          .captureFrame ⟨List.replicate 12 0, 12, by decide⟩] ∧
      ¬ CapturesLatest (PlatformStream.ofFormat 2 1 (v4l2_fourcc 'Y' 'U' 'Y' 'V')).toStream
        [.yuyv ⟨fun _ => 200, 8⟩, .captureFrame ⟨List.replicate 6 0, 6, by decide⟩] := by
  refine ⟨?_, ?_, ?_⟩
  · intro latest
    obtain ⟨t, finished, isPrefix⟩ :=
      latest [.submitBuffer (some [1, 2, 3]), .submitBuffer (some [9])] _ [] rfl _ rfl
    cases finished
    exact absurd isPrefix.length_le (by decide)
  · intro latest
    obtain ⟨t, finished, isPrefix⟩ :=
      latest [.yuyv ⟨fun _ => 200, 8⟩, .yuyv ⟨fun _ => 0, 4⟩] _ [] rfl _ rfl
    cases finished
    exact absurd isPrefix.length_le (by decide)
  · intro latest
    obtain ⟨t, finished, -⟩ := latest [.yuyv ⟨fun _ => 200, 8⟩] _ [] rfl _ rfl
    cases finished

end OpenpnpCapture.Linux
