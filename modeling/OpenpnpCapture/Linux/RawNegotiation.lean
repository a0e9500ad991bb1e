/-
# Linux.RawNegotiation — does a stream opened as raw deliver MJPG?

`Context::openStreamRaw` checks that the requested format is MJPG.  The driver answers
`VIDIOC_S_FMT` with a format of its own choice, `open` keeps what `VIDIOC_G_FMT` then reports
without comparing it with the request, and `threadSubmitBuffer` dispatches on it.  With
another format the frames go to the RGB buffer and raise the new-frame flag, while
`captureFrameRaw` copies the raw buffer, in which nothing was stored.

`raw_delivers_iff` is the exact condition: the driver settled on MJPG, or none of the frames
delivered is one its format stores.
-/
import OpenpnpCapture.Common.RawFrames
import OpenpnpCapture.Linux.DeviceRun
import OpenpnpCapture.Linux.FrameBounds

namespace OpenpnpCapture.Linux

open OpenpnpCapture.Lib OpenpnpCapture.Common PlatformStream DeviceEvent

set_option autoImplicit false

/-- What a platform `open` with these answers makes of an object. -/
def platformOpen (s : Stream) (a : OpenAnswers) : PlatformOpen :=
  match PlatformStream.open s a with
  | none => .failed
  | some opened => .opened opened.m_width opened.m_height opened.m_frameBuffer.length

/-- The capacity `openStreamRaw` starts the raw buffer with. -/
def rawEstimate (c : Context) (id formatID : UInt32) : UInt32 :=
  match c.format? id formatID with
  | none => 0
  | some format => format.width * format.height * 3 / 4

/-- `Context::openStreamRaw` with the Linux `open`. -/
def openStreamRaw (c : Context) (id formatID : UInt32) (a : OpenAnswers) :
    Except Stop (Int × Context) :=
  c.openStreamRaw id formatID (platformOpen (prepared (some (rawEstimate c id formatID))) a)

/-- Whether a frame of the format the driver settled on is stored; an RGB24 frame has to fit the
frame buffer. -/
def Stores (fmt : V4l2Format) (buf : Dequeued) : Prop :=
  match PixelFormat.ofFourCC fmt.pixelformat with
  | .RGB24 => buf.bytesused ≤ fmt.width * fmt.height * 3
  | .YUYV | .NV12 | .YUV420 | .MJPG => True
  | .unsupported => False

/-- While the flag is raised, a raw capture with room returns the last frame. -/
def Delivers (s : Stream) (last : Option Dequeued) : Prop :=
  s.hasNewFrame = true → ∃ buf, last = some buf ∧
    ∀ (out : Bytes) (outBytes actual : UInt32), buf.bytesused ≤ outBytes →
      outBytes.toNat ≤ out.length →
      (s.captureFrameRaw (some out) outBytes (some actual)).1 =
        ⟨true, some (buf.data ++ out.drop buf.data.length), some buf.bytesused⟩

/-- In every state of the run the stream delivers the frame dequeued last. -/
def DeliversThroughout (s : PlatformStream) (events : List DeviceEvent) : Prop :=
  ∀ past future, events = past ++ future →
    Delivers (Run.after step s past).toStream (frames past).getLast?

/-! ## A stream that settled on MJPG -/

/-- A raw MJPG stream whose raw buffer holds the last frame. -/
def HoldsLast (s : PlatformStream) (m : Mailbox Dequeued) : Prop :=
  s.format = .MJPG ∧ ∃ held : Mailbox Bytes,
    held.latest = m.latest.map Dequeued.data ∧ Holds true s.toStream held

def act : DeviceEvent → Mailbox.Act Dequeued
  | .frame _ buf => .post buf
  | .query _ => .look

theorem holdsLast_step (s : PlatformStream) (m : Mailbox Dequeued) (event : DeviceEvent)
    (related : HoldsLast s m) : HoldsLast (step s event) (m.step (act event)) := by
  obtain ⟨format, held, latest, holds⟩ := related
  refine ⟨(step_setup s event).format.trans format, ?_⟩
  cases event with
  | frame tj buf =>
      refine ⟨Mailbox.post buf.data, rfl, ?_⟩
      have raw : s.m_rawMode = true := holds.rawMode
      simp only [step, threadSubmitBuffer, format, raw, if_true]
      exact holds_submit holds buf.data
  | query q =>
      have post : (step s (.query q)).toStream =
          { s.toStream with m_newFrame :=
              s.m_newFrame && !q.captures (q.act s.toStream).1 } :=
        Stream.act_stream q s.toStream
      cases took : q.captures (q.act s.toStream).1 with
      | true =>
          rw [took, Bool.not_true, Bool.and_false] at post
          refine ⟨held.collect, latest, ?_⟩
          rw [post]
          exact ⟨holds.isOpen_eq, holds.rawMode, rfl, holds.size, holds.room, holds.frame⟩
      | false =>
          rw [took, Bool.not_false, Bool.and_true] at post
          refine ⟨held, latest, ?_⟩
          rw [post]
          exact holds

theorem HoldsLast.delivers {s : PlatformStream} {m : Mailbox Dequeued} (related : HoldsLast s m) :
    Delivers s.toStream m.latest := by
  obtain ⟨-, held, latest, holds⟩ := related
  intro raised
  have fresh : held.fresh = true := holds.fresh.symm.trans raised
  obtain ⟨data, some_⟩ := Option.isSome_iff_exists.1 (held.held fresh)
  obtain ⟨buf, last, rfl⟩ := Option.map_eq_some_iff.1 (latest.symm.trans some_)
  refine ⟨buf, last, fun out outBytes actual room inside => ?_⟩
  have small : buf.data.length < 2 ^ 32 := by
    rw [buf.length_data]
    exact UInt32.toNat_lt _
  have size : s.m_rawFrameSize = buf.bytesused := by
    apply UInt32.toNat.inj
    rw [holds.size_eq some_ small, buf.length_data]
  have fits : buf.data.length ≤ out.length := by
    rw [buf.length_data]
    exact Nat.le_trans (UInt32.le_iff_toNat_le.1 room) inside
  rw [Stream.captureFrameRaw_of_open holds.isOpen_eq holds.rawMode, size,
    if_neg (UInt32.not_lt.2 room), ← size, holds.copied some_ small fits]

/-- The mailbox of the frames of a run holds the last one. -/
theorem latest_frames (past : List DeviceEvent) :
    (Run.after (fun m event => m.step (act event)) (Mailbox.empty : Mailbox Dequeued) past).latest =
      (frames past).getLast? := by
  have posted : Mailbox.posted (past.map act) = frames past := by
    rw [Mailbox.posted, List.filterMap_map, frames]
    congr 1
    funext event
    cases event <;> rfl
  rw [← posted, ← Mailbox.latest_after_empty, Run.after, Run.after, List.foldl_map]

theorem mjpg_delivers {fmt : V4l2Format} (mjpg : PixelFormat.ofFourCC fmt.pixelformat = .MJPG)
    (estimatedJPEGSize : UInt32) (events : List DeviceEvent) :
    DeliversThroughout (started (some estimatedJPEGSize) fmt) events := by
  rintro past future -
  have start : HoldsLast (started (some estimatedJPEGSize) fmt) Mailbox.empty :=
    ⟨mjpg, Mailbox.empty, rfl, holds_start true estimatedJPEGSize fmt.width fmt.height _⟩
  have related := Run.after_simulation holdsLast_step start past
  rw [← latest_frames]
  exact related.delivers

/-! ## A stream that settled on another format -/

section Substituted

variable {s : PlatformStream} {fmt : V4l2Format}

/-- Nothing was stored in the raw buffer. -/
theorem after_rawFrameSize (other : s.format ≠ .MJPG) (events : List DeviceEvent) :
    (Run.after step s events).m_rawFrameSize = s.m_rawFrameSize := by
  induction events generalizing s with
  | nil => rfl
  | cons event events ih =>
      have next := ih (s := step s event) (by rw [(step_setup s event).format]; exact other)
      rw [Run.after_cons, next]
      cases event with
      | frame tj buf => exact threadSubmitBuffer_rawFrameSize tj s buf.delivered other
      | query q =>
          have post := congrArg Stream.m_rawFrameSize (Stream.act_stream q s.toStream)
          exact post

/-- A stream that still has the format, size and mode `open` gave it. -/
theorem sameSetup_started (raw : Option UInt32) (same : SameSetup (started raw fmt) s) :
    s.format = PixelFormat.ofFourCC fmt.pixelformat ∧
      s.m_frameBuffer.length = (fmt.width * fmt.height * 3).toNat := by
  refine ⟨same.format, same.frameBuffer.trans ?_⟩
  rw [(started raw fmt).sized]
  cases raw <;> rfl

/-- A frame raises the flag exactly if the format stores it, and otherwise leaves it alone. -/
theorem step_frame_newFrame (estimatedJPEGSize : UInt32)
    (same : SameSetup (started (some estimatedJPEGSize) fmt) s)
    (other : PixelFormat.ofFourCC fmt.pixelformat ≠ .MJPG) (tj : TurboJpeg) (buf : Dequeued) :
    (Stores fmt buf → (step s (.frame tj buf)).m_newFrame = true) ∧
      (¬ Stores fmt buf → (step s (.frame tj buf)).m_newFrame = s.m_newFrame) := by
  obtain ⟨format, size⟩ := sameSetup_started _ same
  rw [Stores]
  simp only [step, threadSubmitBuffer, format]
  cases settled : PixelFormat.ofFourCC fmt.pixelformat with
  | RGB24 =>
      simp only [withStream, Stream.submitBuffer, Delivered.length_data, Dequeued.delivered, size,
        UInt32.le_iff_toNat_le]
      refine ⟨fun room => ?_, fun small => ?_⟩
      · rw [if_pos room]
      · rw [if_neg small]
  | YUYV | NV12 | YUV420 => exact ⟨fun _ => rfl, fun unstored => absurd trivial unstored⟩
  | MJPG => exact absurd settled other
  | unsupported => exact ⟨False.elim, fun _ => rfl⟩

/-- Without a stored frame the flag is never raised. -/
theorem after_lowered (estimatedJPEGSize : UInt32)
    (other : PixelFormat.ofFourCC fmt.pixelformat ≠ .MJPG) (events : List DeviceEvent)
    (same : SameSetup (started (some estimatedJPEGSize) fmt) s) (lowered : s.m_newFrame = false)
    (unstored : ∀ buf ∈ frames events, ¬ Stores fmt buf) :
    (Run.after step s events).m_newFrame = false := by
  induction events generalizing s with
  | nil => exact lowered
  | cons event events ih =>
      refine ih (same.trans (step_setup s event)) ?_ fun buf member => unstored buf ?_
      · cases event with
        | frame tj buf =>
            have kept := (step_frame_newFrame estimatedJPEGSize same other tj buf).2
              (unstored buf (by simp [frames, frame?]))
            rw [kept, lowered]
        | query q =>
            have post := congrArg Stream.m_newFrame (Stream.act_stream q s.toStream)
            rw [lowered, Bool.false_and] at post
            exact post
      · cases event with
        | frame tj first => exact List.mem_cons_of_mem first member
        | query q => exact member

/-- Right after a stored frame the raw capture is empty. -/
theorem stored_not_delivered (estimatedJPEGSize : UInt32)
    (other : PixelFormat.ofFourCC fmt.pixelformat ≠ .MJPG) {events : List DeviceEvent}
    {buf : Dequeued} (member : buf ∈ frames events) (stored : Stores fmt buf)
    (nonempty : buf.bytesused ≠ 0) :
    ¬ DeliversThroughout (started (some estimatedJPEGSize) fmt) events := by
  intro delivers
  obtain ⟨event, place, isFrame⟩ := List.mem_filterMap.1 member
  obtain ⟨past, future, rfl⟩ := List.append_of_mem place
  cases event with
  | query q => cases isFrame
  | frame tj same =>
      obtain rfl := Option.some.inj isFrame
      have setup := after_setup (started (some estimatedJPEGSize) fmt) past
      have setup' := after_setup (started (some estimatedJPEGSize) fmt) (past ++ [.frame tj same])
      have size := after_rawFrameSize (s := started (some estimatedJPEGSize) fmt) other
        (past ++ [.frame tj same])
      have raised : (Run.after step (started (some estimatedJPEGSize) fmt)
          (past ++ [.frame tj same])).hasNewFrame = true := by
        rw [Run.after_append]
        exact (step_frame_newFrame estimatedJPEGSize setup other tj same).1 stored
      obtain ⟨last, isLast, captured⟩ :=
        delivers (past ++ [.frame tj same]) future (by simp) raised
      have lastFrame : (frames (past ++ [.frame tj same])).getLast? = some same := by
        simp [frames, frame?]
      obtain rfl := Option.some.inj (isLast.symm.trans lastFrame)
      have capture := captured (List.replicate last.bytesused.toNat 0) last.bytesused 0
        (UInt32.le_refl _) (Nat.le_of_eq List.length_replicate.symm)
      rw [Stream.captureFrameRaw_of_open setup'.isOpen setup'.rawMode, size] at capture
      have bytes : (0 : UInt32) = last.bytesused :=
        Option.some.inj (congrArg Stream.RawCapture.actualBytes capture)
      exact nonempty bytes.symm

end Substituted

/-! ## Through the context -/

theorem openStreamRaw_object {c c' : Context} {id formatID : UInt32} {a : OpenAnswers} {ID : Int}
    (opened : openStreamRaw c id formatID a = .ok (ID, c')) (given : 0 ≤ ID) :
    ∃ fmt, a.getFormat = some fmt ∧
      c'.heap c.next = some (started (some (rawEstimate c id formatID)) fmt).toStream := by
  unfold openStreamRaw Context.openStreamRaw at opened
  cases found : c.format? id formatID with
  | none =>
      rw [found] at opened
      cases opened
      cases given
  | some format =>
      simp only [found] at opened
      split at opened
      · cases opened
        cases given
      · cases result : PlatformStream.open (prepared (some (rawEstimate c id formatID))) a with
        | none =>
            simp only [platformOpen, result] at opened
            cases opened
            cases given
        | some s =>
            obtain ⟨fmt, settled, rfl⟩ := open_prepared result
            refine ⟨fmt, settled, ?_⟩
            simp only [platformOpen, result] at opened
            cases opened
            have estimate : rawEstimate c id formatID = format.width * format.height * 3 / 4 := by
              rw [rawEstimate, found]
            simp only [Context.put, Context.createPlatformStream, Function.update_self, estimate,
              (started _ fmt).sized]
            rfl

/-- **When a raw stream is raw.**  For every answer of the driver and every run of nonempty frames,
a stream `openStreamRaw` returned delivers throughout exactly if the driver settled on MJPG or no
frame delivered is one its format stores. -/
theorem raw_delivers_iff (c : Context) (id formatID : UInt32) (a : OpenAnswers) (ID : Int)
    (c' : Context) (opened : openStreamRaw c id formatID a = .ok (ID, c')) (given : 0 ≤ ID)
    (events : List DeviceEvent) (nonempty : ∀ buf ∈ frames events, buf.bytesused ≠ 0) :
    ∃ fmt, a.getFormat = some fmt ∧
      c'.heap c.next = some (started (some (rawEstimate c id formatID)) fmt).toStream ∧
      (DeliversThroughout (started (some (rawEstimate c id formatID)) fmt) events ↔
        PixelFormat.ofFourCC fmt.pixelformat = .MJPG ∨ ∀ buf ∈ frames events, ¬ Stores fmt buf) := by
  obtain ⟨fmt, settled, object⟩ := openStreamRaw_object opened given
  refine ⟨fmt, settled, object, ?_⟩
  by_cases mjpg : PixelFormat.ofFourCC fmt.pixelformat = .MJPG
  · exact iff_of_true (mjpg_delivers mjpg _ events) (Or.inl mjpg)
  · rw [or_iff_right mjpg]
    constructor
    · intro delivers buf member stored
      exact stored_not_delivered _ mjpg member stored (nonempty buf member) delivers
    · intro unstored past future split raised
      have lowered := after_lowered (rawEstimate c id formatID) mjpg past
        (s := started (some (rawEstimate c id formatID)) fmt) ⟨rfl, rfl, rfl, rfl, rfl⟩ rfl
        fun buf member => unstored buf (by rw [split, frames, List.filterMap_append]
                                           exact List.mem_append_left _ member)
      rw [Stream.hasNewFrame, lowered] at raised
      cases raised

/-- A context with one camera that lists one 2 x 1 MJPG mode. -/
def mjpgCamera : Context :=
  Context.fresh [⟨[⟨2, 1, Context.MJPG, 30, 24⟩]⟩]

theorem raw_delivers_mjpg :
    ∃ ID c', openStreamRaw mjpgCamera 0 0 (settled 2 1 0x47504A4D) = .ok (ID, c') ∧
      ∃ fmt, (settled 2 1 0x47504A4D).getFormat = some fmt ∧
        DeliversThroughout (started (some (rawEstimate mjpgCamera 0 0)) fmt)
          [.frame whiteDecoder ⟨fun _ => 7, 4⟩] := by
  refine ⟨0, _, rfl, ?_⟩
  obtain ⟨fmt, isSettled, -, delivers⟩ := raw_delivers_iff mjpgCamera 0 0 (settled 2 1 0x47504A4D)
    0 _ rfl (by decide) [.frame whiteDecoder ⟨fun _ => 7, 4⟩] (by simp [frames, frame?])
  refine ⟨fmt, isSettled, delivers.2 (Or.inl ?_)⟩
  obtain rfl := Option.some.inj isSettled
  decide

/-- The driver settles on YUYV: the id is valid, and the first frame is announced but cannot be
captured. -/
theorem raw_not_delivered :
    ∃ ID c', openStreamRaw mjpgCamera 0 0 (settled 2 1 (v4l2_fourcc 'Y' 'U' 'Y' 'V')) = .ok (ID, c') ∧
      0 ≤ ID ∧
      ∃ fmt, (settled 2 1 (v4l2_fourcc 'Y' 'U' 'Y' 'V')).getFormat = some fmt ∧
        ¬ DeliversThroughout (started (some (rawEstimate mjpgCamera 0 0)) fmt)
          [.frame whiteDecoder ⟨fun _ => 7, 4⟩] := by
  refine ⟨0, _, rfl, by decide, ⟨true, 2, 1, v4l2_fourcc 'Y' 'U' 'Y' 'V'⟩, rfl, ?_⟩
  have yuyv : PixelFormat.ofFourCC (v4l2_fourcc 'Y' 'U' 'Y' 'V') = .YUYV := by decide
  have member : (⟨fun _ => 7, 4⟩ : Dequeued) ∈ frames [.frame whiteDecoder ⟨fun _ => 7, 4⟩] :=
    List.mem_cons_self
  refine stored_not_delivered _ ?_ member ?_ (by decide)
  · rw [yuyv]
    decide
  · rw [Stores, yuyv]
    trivial

end OpenpnpCapture.Linux
