/-
# Common.StreamRun — a stream between its capture side and its clients

Every method holds `m_bufferMutex` for all it does to the frames, so whatever the two sides do
to one stream is an interleaving of submissions and calls.  An entry of a run is a submission
that may have been accepted, or a call that may have captured a frame:

* an accepted submission raises the new-frame flag, a refused one changes nothing
  (`submit_accepted`, `submit_refused`);
* a call changes nothing but that flag, and clears it exactly if it is a capture that
  returned true (`act_stream`).
-/
import OpenpnpCapture.Common.Context
import OpenpnpCapture.Lib.Run

namespace OpenpnpCapture.Common

open OpenpnpCapture.Lib

set_option autoImplicit false

/-- A submission by the capture side, or a call by a client. -/
inductive StreamEvent
  | submit (submission : Submission)
  | query (q : StreamQuery)

def StreamEvent.step (s : Stream) : StreamEvent → Except Empty (Reply × Stream)
  | .submit submission => .ok (.none, s.submit submission)
  | .query q => .ok (q.act s)

/-- Whether a submission is a raw frame. -/
def Submission.isRaw : Submission → Bool
  | .submitRawBuffer _ => true
  | .submitBuffer _ | .converted _ => false

/-- Whether the reply to a call is that of a capture that returned true. -/
def StreamQuery.captures : StreamQuery → Reply → Bool
  | .captureFrame _ _, .frame ok _ => ok
  | .captureFrameRaw _ _ _, .raw capture => capture.ok
  | _, _ => false

abbrev StreamEntry := Run.Entry Stream StreamEvent Reply

namespace Stream

/-- The stream a successful `openStream` leaves, or, with the estimated size of a JPEG,
`openStreamRaw`. -/
def started (raw : Option UInt32) (width height : UInt32) (frameBufferBytes : Nat) : Stream :=
  match raw with
  | none => (Stream.new 0 0).opened width height frameBufferBytes
  | some estimatedJPEGSize =>
      ((Stream.new 0 0).setRawMode true estimatedJPEGSize).opened width height frameBufferBytes

/-- Whether a submission is stored. -/
def accepts (s : Stream) : Submission → Bool
  | .submitBuffer (some data) => decide (data.length ≤ s.m_frameBuffer.length)
  | .submitRawBuffer (some _) => true
  | .converted _ => true
  | .submitBuffer none | .submitRawBuffer none => false

/-- Two states of a stream that hold the same frames. -/
structure SameFrames (s t : Stream) : Prop where
  frameBuffer : t.m_frameBuffer = s.m_frameBuffer
  rawBuffer : t.m_rawBuffer = s.m_rawBuffer
  rawFrameSize : t.m_rawFrameSize = s.m_rawFrameSize

variable {s : Stream}

theorem submit_accepted {submission : Submission} (accepted : s.accepts submission = true) :
    (s.submit submission).m_newFrame = true := by
  cases submission with
  | submitBuffer ptr =>
      cases ptr with
      | none => cases accepted
      | some data =>
          have room : data.length ≤ s.m_frameBuffer.length := of_decide_eq_true accepted
          simp only [submit, submitBuffer, if_pos room]
  | submitRawBuffer ptr =>
      cases ptr with
      | none => cases accepted
      | some data => rfl
  | converted image => rfl

theorem submit_refused {submission : Submission} (refused : s.accepts submission = false) :
    s.submit submission = s := by
  cases submission with
  | submitBuffer ptr =>
      cases ptr with
      | none => rfl
      | some data =>
          have small : ¬ data.length ≤ s.m_frameBuffer.length := of_decide_eq_false refused
          simp only [submit, submitBuffer, if_neg small]
  | submitRawBuffer ptr =>
      cases ptr with
      | none => rfl
      | some data => cases refused
  | converted image => cases refused

theorem submit_rawMode (submission : Submission) : (s.submit submission).m_rawMode = s.m_rawMode := by
  cases submission with
  | submitBuffer ptr =>
      cases ptr with
      | none => rfl
      | some data =>
          simp only [submit, submitBuffer]
          split <;> rfl
  | submitRawBuffer ptr => cases ptr <;> rfl
  | converted image => rfl

theorem captureFrame_stream (RGBbufferPtr : Bytes) (RGBbufferBytes : UInt32) :
    (s.captureFrame RGBbufferPtr RGBbufferBytes).2 =
      { s with m_newFrame :=
          s.m_newFrame && !(s.captureFrame RGBbufferPtr RGBbufferBytes).1.1 } := by
  unfold captureFrame
  split
  · simp
  · split <;> simp

/-- A call changes nothing but the new-frame flag. -/
theorem act_stream (q : StreamQuery) (s : Stream) :
    (q.act s).2 = { s with m_newFrame := s.m_newFrame && !q.captures (q.act s).1 } := by
  cases q with
  | captureFrame RGBbufferPtr RGBbufferBytes => exact captureFrame_stream RGBbufferPtr RGBbufferBytes
  | captureFrameRaw outPtr outBytes actualBytes =>
      exact captureFrameRaw_state outPtr outBytes actualBytes
  | _ => simp [StreamQuery.act, StreamQuery.captures]

theorem act_sameFrames (q : StreamQuery) (s : Stream) : SameFrames s (q.act s).2 := by
  rw [act_stream]
  exact ⟨rfl, rfl, rfl⟩

end Stream

/-! ## The entries of a run -/

/-- A submission that was stored. -/
def accepted (e : StreamEntry) : Bool :=
  match e.input with
  | .submit submission => e.pre.accepts submission
  | .query _ => false

/-- A capture that returned true. -/
def captured (e : StreamEntry) : Bool :=
  match e.input with
  | .submit _ => false
  | .query q => q.captures e.output

section Step

variable {s t : Stream} {event : StreamEvent} {reply : Reply}

/-- What one step does to the flag. -/
theorem step_newFrame (ran : event.step s = .ok (reply, t)) :
    t.m_newFrame =
      (accepted ⟨s, event, reply, t⟩ || s.m_newFrame && !captured ⟨s, event, reply, t⟩) := by
  cases event with
  | submit submission =>
      obtain ⟨rfl, rfl⟩ := Prod.mk.inj (Except.ok.inj ran)
      cases stored : s.accepts submission with
      | true => simp [accepted, stored, Stream.submit_accepted stored]
      | false => simp [accepted, captured, stored, Stream.submit_refused stored]
  | query q =>
      have post : t = (q.act s).2 := congrArg Prod.snd (Except.ok.inj ran).symm
      have output : reply = (q.act s).1 := congrArg Prod.fst (Except.ok.inj ran).symm
      rw [post, output, Stream.act_stream]
      rfl

theorem step_rawMode (ran : event.step s = .ok (reply, t)) : t.m_rawMode = s.m_rawMode := by
  cases event with
  | submit submission =>
      obtain ⟨rfl, rfl⟩ := Prod.mk.inj (Except.ok.inj ran)
      exact Stream.submit_rawMode submission
  | query q =>
      have post : t = (q.act s).2 := congrArg Prod.snd (Except.ok.inj ran).symm
      rw [post, Stream.act_stream]

/-- Only an accepted submission changes the frames a stream holds. -/
theorem step_sameFrames (ran : event.step s = .ok (reply, t))
    (unstored : accepted ⟨s, event, reply, t⟩ = false) : Stream.SameFrames s t := by
  cases event with
  | submit submission =>
      obtain ⟨rfl, rfl⟩ := Prod.mk.inj (Except.ok.inj ran)
      rw [Stream.submit_refused unstored]
      exact ⟨rfl, rfl, rfl⟩
  | query q =>
      have post : t = (q.act s).2 := congrArg Prod.snd (Except.ok.inj ran).symm
      rw [post]
      exact Stream.act_sameFrames q s

end Step

end OpenpnpCapture.Common
