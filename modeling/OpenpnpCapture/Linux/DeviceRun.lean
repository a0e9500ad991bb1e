/-
# Linux.DeviceRun — a Linux stream between its capture thread and its clients

The capture thread hands `threadSubmitBuffer` what `VIDIOC_DQBUF` returned: a mapped buffer and
`bytesused`, a `__u32`.  Between two such frames the clients call the methods of the stream.
The pixel format, the size and the mode stay as `open` left them (`step_setup`), and a frame
that is not raw MJPG never touches the raw buffer (`threadSubmitBuffer_rawFrameSize`).  So all
frames of a run are submissions of one kind (`after_submits`).
-/
import OpenpnpCapture.Common.StreamRun
import OpenpnpCapture.Linux.PlatformStream

namespace OpenpnpCapture.Linux

open OpenpnpCapture.Lib OpenpnpCapture.Common

set_option autoImplicit false

/-- A dequeued buffer. -/
structure Dequeued where
  start : Nat → UInt8
  bytesused : UInt32

namespace Dequeued

/-- The arguments of `threadSubmitBuffer`. -/
def delivered (buf : Dequeued) : Delivered := ⟨buf.start, buf.bytesused.toNat⟩

def data (buf : Dequeued) : Bytes := buf.delivered.data

@[simp] theorem length_data (buf : Dequeued) : buf.data.length = buf.bytesused.toNat :=
  buf.delivered.length_data

end Dequeued

/-- A frame from the capture thread, with the decoder's behaviour on it, or a client's call. -/
inductive DeviceEvent
  | frame (tj : TurboJpeg) (buf : Dequeued)
  | query (q : StreamQuery)

namespace DeviceEvent

def frame? : DeviceEvent → Option Dequeued
  | .frame _ buf => some buf
  | .query _ => none

theorem act_sameSize (q : StreamQuery) (s : Stream) : SameSize s (q.act s).2 := by
  rw [Stream.act_stream]
  exact ⟨rfl, rfl, rfl⟩

def step (s : PlatformStream) : DeviceEvent → PlatformStream
  | .frame tj buf => (s.threadSubmitBuffer tj (some buf.delivered)).stream
  | .query q => s.withStream (q.act s.toStream).2 (act_sameSize q s.toStream)

/-- The frames of a run, in order. -/
def frames (events : List DeviceEvent) : List Dequeued :=
  events.filterMap frame?

end DeviceEvent

/-! ## The streams `open` leaves -/

/-- The object `openStream`, or with an estimated size `openStreamRaw`, passes to `open`. -/
def prepared : Option UInt32 → Stream
  | none => Stream.new 0 0
  | some estimatedJPEGSize => (Stream.new 0 0).setRawMode true estimatedJPEGSize

namespace PlatformStream

/-- What `open` makes of that object when the driver settles on a format. -/
def started (raw : Option UInt32) (fmt : V4l2Format) : PlatformStream where
  toStream := Stream.started raw fmt.width fmt.height (fmt.width * fmt.height * 3).toNat
  pixelformat := fmt.pixelformat
  sized := by cases raw <;> exact length_resize _ _

theorem open_prepared {raw : Option UInt32} {a : OpenAnswers} {s : PlatformStream}
    (opened : PlatformStream.open (prepared raw) a = some s) :
    ∃ fmt, a.getFormat = some fmt ∧ s = started raw fmt := by
  have closed : (prepared raw).m_isOpen = false := by cases raw <;> rfl
  unfold PlatformStream.open at opened
  simp only [closed, Bool.false_eq_true, if_false] at opened
  iterate 5
    split at opened
    · cases opened
  split at opened
  · cases opened
  · rename_i fmt settled
    iterate 2
      split at opened
      · cases opened
    refine ⟨fmt, settled, ?_⟩
    obtain rfl := Option.some.inj opened
    cases raw <;> rfl

/-- What neither a frame nor a call changes. -/
structure SameSetup (s t : PlatformStream) : Prop where
  pixelformat : t.pixelformat = s.pixelformat
  isOpen : t.m_isOpen = s.m_isOpen
  rawMode : t.m_rawMode = s.m_rawMode
  width : t.m_width = s.m_width
  height : t.m_height = s.m_height

namespace SameSetup

variable {s t u : PlatformStream}

theorem trans (first : SameSetup s t) (second : SameSetup t u) : SameSetup s u where
  pixelformat := second.pixelformat.trans first.pixelformat
  isOpen := second.isOpen.trans first.isOpen
  rawMode := second.rawMode.trans first.rawMode
  width := second.width.trans first.width
  height := second.height.trans first.height

theorem format (same : SameSetup s t) : t.format = s.format := by
  rw [PlatformStream.format, same.pixelformat, PlatformStream.format]

theorem frameBuffer (same : SameSetup s t) : t.m_frameBuffer.length = s.m_frameBuffer.length := by
  rw [t.sized, s.sized, same.width, same.height]

end SameSetup

section Frames

variable (tj : TurboJpeg) (s : PlatformStream)

theorem submitBuffer_setup (data : Bytes) (same : SameSize s.toStream (s.submitBuffer (some data))) :
    SameSetup s (s.withStream (s.submitBuffer (some data)) same) := by
  refine ⟨rfl, ?_, ?_, same.width, same.height⟩
  · simp only [withStream, Stream.submitBuffer]
    split <;> rfl
  · simp only [withStream, Stream.submitBuffer]
    split <;> rfl

theorem threadSubmitBuffer_setup (frame : Delivered) :
    SameSetup s (s.threadSubmitBuffer tj (some frame)).stream := by
  unfold threadSubmitBuffer
  cases s.format with
  | RGB24 =>
      exact submitBuffer_setup s frame.data (submitBuffer_sameSize s.toStream frame.data)
  | YUYV | NV12 | YUV420 | unsupported => exact ⟨rfl, rfl, rfl, rfl, rfl⟩
  | MJPG =>
      simp only
      split
      · exact ⟨rfl, rfl, rfl, rfl, rfl⟩
      · exact ⟨rfl, rfl, rfl, rfl, rfl⟩

/-- Only a raw MJPG frame sets the size of the raw frame. -/
theorem threadSubmitBuffer_rawFrameSize (frame : Delivered) (other : s.format ≠ .MJPG) :
    (s.threadSubmitBuffer tj (some frame)).stream.m_rawFrameSize = s.m_rawFrameSize := by
  unfold threadSubmitBuffer
  cases format : s.format with
  | RGB24 =>
      simp only [withStream, Stream.submitBuffer]
      split <;> rfl
  | YUYV | NV12 | YUV420 | unsupported => rfl
  | MJPG => exact absurd format other

/-- What a converter leaves is the image it submits. -/
theorem convert_submits (accesses : List Access) :
    (s.convert accesses).stream.toStream =
      s.toStream.submit (.converted (store s.m_frameBuffer accesses)) := by
  simp only [Stream.submit, memcpy_same (length_store s.m_frameBuffer accesses)]
  rfl

/-- A frame is one submission; the mode and the pixel format settle which kind. -/
theorem threadSubmitBuffer_submits (frame : Delivered) :
    ∃ submission : Common.Submission,
      submission.isRaw = (s.m_rawMode && decide (s.format = .MJPG)) ∧
      (s.threadSubmitBuffer tj (some frame)).stream.toStream = s.toStream.submit submission := by
  unfold threadSubmitBuffer
  cases format : s.format with
  | RGB24 => exact ⟨.submitBuffer (some frame.data), by simp [Submission.isRaw], rfl⟩
  | YUYV | NV12 | YUV420 => exact ⟨_, by simp [Submission.isRaw], convert_submits s _⟩
  | unsupported => exact ⟨.submitBuffer none, by simp [Submission.isRaw], rfl⟩
  | MJPG =>
      simp only
      split
      · rename_i raw
        exact ⟨.submitRawBuffer (some frame.data), by simp [Submission.isRaw, raw], rfl⟩
      · rename_i rgb
        have sized := length_store s.m_frameBuffer
          (decompressAccesses tj frame.data s.m_width s.m_height)
        rw [← decompressFrame_buffer] at sized
        cases decoded : (decompressFrame tj frame.data s.m_frameBuffer s.m_width s.m_height).ok with
        | true =>
            let image := (decompressFrame tj frame.data s.m_frameBuffer s.m_width s.m_height).buffer
            refine ⟨.converted image, by simp [Submission.isRaw, rgb], ?_⟩
            simp only [decode, withStream, decoded, if_true, Stream.submit, image]
            rw [memcpy_same sized]
        | false =>
            refine ⟨.submitBuffer none, by simp [Submission.isRaw, rgb], ?_⟩
            simp only [decode, withStream, decoded, Bool.false_eq_true, if_false,
              decompressFrame_refused decoded]
            rfl

end Frames

end PlatformStream

open PlatformStream

theorem step_setup (s : PlatformStream) (event : DeviceEvent) :
    SameSetup s (DeviceEvent.step s event) := by
  cases event with
  | frame tj buf => exact threadSubmitBuffer_setup tj s buf.delivered
  | query q =>
      have post := Stream.act_stream q s.toStream
      refine ⟨rfl, ?_, ?_, ?_, ?_⟩ <;> simp only [DeviceEvent.step, withStream, post]

theorem after_setup (s : PlatformStream) (events : List DeviceEvent) :
    SameSetup s (Run.after DeviceEvent.step s events) := by
  induction events generalizing s with
  | nil => exact ⟨rfl, rfl, rfl, rfl, rfl⟩
  | cons event events ih => exact (step_setup s event).trans (ih (DeviceEvent.step s event))

/-- All frames of a run are of the kind that `open` settled. -/
theorem after_submits (s : PlatformStream) (past : List DeviceEvent) (tj : TurboJpeg)
    (buf : Dequeued) :
    ∃ submission : Common.Submission,
      submission.isRaw = (s.m_rawMode && decide (s.format = .MJPG)) ∧
      (DeviceEvent.step (Run.after DeviceEvent.step s past) (.frame tj buf)).toStream =
        (Run.after DeviceEvent.step s past).toStream.submit submission := by
  have same := after_setup s past
  rw [← same.format, ← same.rawMode]
  exact threadSubmitBuffer_submits tj _ buf.delivered

end OpenpnpCapture.Linux
