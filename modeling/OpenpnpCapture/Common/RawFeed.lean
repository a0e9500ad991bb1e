/-
# Common.RawFeed — a raw camera as its client sees it

A raw stream hands out the bytes of a frame as they came.  It keeps them at the start of a buffer
that grows and never shrinks, their number beside it; a client sees neither.  What it sees is again
a `Feed`: the bytes of the newest frame, whether it is new, and how many there have been
(`Feed.askRaw`), decoded when it asks for that.

* `Forwards`: each frame of a pipeline is one submission of its bytes, or none.
* `Forwards.answers_eq`: then every interleaving of frames and calls is answered as by the feed.
-/
import OpenpnpCapture.Common.Feed

namespace OpenpnpCapture.Common

open OpenpnpCapture.Lib

set_option autoImplicit false

namespace Feed

/-- What the client of a raw stream is told. -/
def askRaw (feed : Feed) : StreamQuery → Reply × Feed
  | .captureFrame RGBbufferPtr _ => (.frame false (some RGBbufferPtr), feed)
  | .captureFrameRaw jpegBufferPtr jpegBufferBytes outBytes =>
      match jpegBufferPtr, outBytes with
      | some out, some _ =>
          let size := UInt32.ofNat feed.shown.length
          if jpegBufferBytes < size then (.raw ⟨false, some out, some size⟩, feed)
          else
            (.raw ⟨true, some (memcpy out feed.shown feed.shown.length), some size⟩,
              { feed with isNew := false })
      | _, _ => (.raw ⟨false, jpegBufferPtr, outBytes⟩, feed)
  | .getFrameSize outBytes =>
      (.size (outBytes.isSome && !feed.shown.isEmpty)
        (outBytes.map fun _ => .ofNat feed.shown.length), feed)
  | .decodeFrame tj RGBbufferPtr RGBbufferBytes =>
      match RGBbufferPtr with
      | none => (.frame false none, feed)
      | some out =>
          if RGBbufferBytes < feed.width * feed.height * 3 ∨ feed.shown.isEmpty then
            (.frame false (some out), feed)
          else
            let result := decompressFrame tj feed.shown out feed.width feed.height
            (.frame result.ok (some result.buffer), feed)
  | q => feed.ask q

def stepRaw {F : Type*} (bytes : F → Option Bytes) : Feed → FeedEvent F → Reply × Feed :=
  stepWith askRaw bytes

end Feed

/-- An open raw stream of this size that holds the feed's frame. -/
structure OpenRaw (s : Stream) (feed : Feed) : Prop where
  isOpen : s.m_isOpen = true
  raw : s.m_rawMode = true
  m_width : s.m_width = feed.width
  m_height : s.m_height = feed.height
  size : s.m_rawFrameSize.toNat = feed.shown.length
  stored : s.m_rawBuffer.take feed.shown.length = feed.shown
  isNew : s.m_newFrame = feed.isNew
  count : s.m_frames = feed.count

section OpenRaw

variable {s : Stream} {feed : Feed}

theorem OpenRaw.rawFrameSize (open_ : OpenRaw s feed) :
    s.m_rawFrameSize = .ofNat feed.shown.length := by
  rw [← open_.size, UInt32.ofNat_toNat]

theorem OpenRaw.no_frame_iff (open_ : OpenRaw s feed) :
    s.m_rawFrameSize = 0 ↔ feed.shown.isEmpty = true := by
  rw [List.isEmpty_iff_length_eq_zero, ← open_.size, ← UInt32.toNat_inj]
  rfl

/-- Only the frame at the start of the buffer is copied out. -/
theorem OpenRaw.memcpy_stored (open_ : OpenRaw s feed) (out : Bytes) :
    memcpy out s.m_rawBuffer s.m_rawFrameSize.toNat = memcpy out feed.shown feed.shown.length := by
  rw [open_.size, memcpy, open_.stored, memcpy, List.take_length]

theorem OpenRaw.submit (open_ : OpenRaw s feed) {bytes : Option Bytes}
    (short : ∀ data ∈ bytes, data.length < 2 ^ 32) :
    OpenRaw (s.submitRawBuffer bytes) (feed.receive bytes) := by
  cases bytes with
  | none => exact open_
  | some data =>
      obtain ⟨-, stored⟩ := Stream.submitRawBuffer_stored (s := s) data
      exact
        { isOpen := open_.isOpen
          raw := open_.raw
          m_width := open_.m_width
          m_height := open_.m_height
          size := UInt32.toNat_ofNat_of_lt (short data rfl)
          stored := stored
          isNew := rfl
          count := congrArg (· + 1) open_.count }

/-- A call that changes no more than the new-frame flag. -/
theorem OpenRaw.withNewFrame (open_ : OpenRaw s feed) (isNew : Bool) :
    OpenRaw { s with m_newFrame := isNew } { feed with isNew } :=
  ⟨open_.isOpen, open_.raw, open_.m_width, open_.m_height, open_.size, open_.stored, rfl,
    open_.count⟩

theorem OpenRaw.asks (open_ : OpenRaw s feed) (q : StreamQuery) :
    (q.act s).1 = (feed.askRaw q).1 ∧ OpenRaw (q.act s).2 (feed.askRaw q).2 := by
  cases q with
  | captureFrame RGBbufferPtr RGBbufferBytes =>
      have refused : s.captureFrame RGBbufferPtr RGBbufferBytes = ((false, RGBbufferPtr), s) := by
        simp [Stream.captureFrame, open_.raw]
      simp only [StreamQuery.act, refused]
      exact ⟨rfl, open_⟩
  | captureFrameRaw jpegBufferPtr jpegBufferBytes outBytes =>
      cases jpegBufferPtr with
      | none =>
          simp only [StreamQuery.act, Stream.captureFrameRaw, open_.isOpen, open_.raw]
          exact ⟨rfl, open_⟩
      | some out =>
          cases outBytes with
          | none =>
              simp only [StreamQuery.act, Stream.captureFrameRaw, open_.isOpen, open_.raw]
              exact ⟨rfl, open_⟩
          | some actual =>
              simp only [StreamQuery.act, Stream.captureFrameRaw_of_open open_.isOpen open_.raw,
                Feed.askRaw, open_.memcpy_stored, ← open_.rawFrameSize]
              split
              · exact ⟨rfl, open_⟩
              · exact ⟨rfl, open_.withNewFrame false⟩
  | getFrameSize outBytes =>
      cases outBytes with
      | none =>
          simp only [StreamQuery.act, Stream.getFrameSize, open_.raw]
          exact ⟨rfl, open_⟩
      | some actual =>
          have positive : decide (s.m_rawFrameSize > 0) = !feed.shown.isEmpty := by
            rw [Bool.eq_iff_iff, decide_eq_true_iff, Bool.not_eq_true', ← Bool.not_eq_true,
              ← open_.no_frame_iff]
            exact UInt32.pos_iff_ne_zero
          simp only [StreamQuery.act, Stream.getFrameSize, open_.raw, Feed.askRaw, positive,
            ← open_.rawFrameSize]
          exact ⟨rfl, open_⟩
  | decodeFrame tj RGBbufferPtr RGBbufferBytes =>
      cases RGBbufferPtr with
      | none =>
          simp only [StreamQuery.act, Stream.decodeFrame, open_.isOpen, open_.raw]
          exact ⟨rfl, open_⟩
      | some out =>
          have frame : s.m_rawBuffer.take s.m_rawFrameSize.toNat = feed.shown := by
            rw [open_.size, open_.stored]
          simp only [StreamQuery.act, Stream.decodeFrame, open_.isOpen, open_.raw, Feed.askRaw,
            open_.m_width, open_.m_height, open_.no_frame_iff, frame]
          by_cases small : RGBbufferBytes < feed.width * feed.height * 3
          · simp only [small, true_or, if_true]
            exact ⟨rfl, open_⟩
          · by_cases empty : feed.shown.isEmpty = true
            · simp only [small, empty, or_true, if_true, if_false]
              exact ⟨rfl, open_⟩
            · simp only [small, empty, if_false]
              exact ⟨rfl, open_⟩
  | hasNewFrame => exact ⟨congrArg Reply.flag open_.isNew, open_⟩
  | getStreamFrameCount => exact ⟨congrArg Reply.count open_.count, open_⟩
  | getStreamResolution outWidth outHeight =>
      simp only [StreamQuery.act, Stream.getWidth, Stream.getHeight, open_.m_width, open_.m_height]
      exact ⟨rfl, open_⟩
  | _ => exact ⟨rfl, open_⟩

end OpenRaw

/-- Each frame a raw stream is given is one submission of its bytes; a call is one of that stream. -/
structure Forwards {P F : Type*} (pipeline : Pipeline P F) (holds : P → Stream → Prop)
    (bytes : F → Option Bytes) : Prop where
  delivers : ∀ p s frame, s.m_rawMode = true → holds p s →
    holds (pipeline.deliver p frame) (s.submitRawBuffer (bytes frame))
  asks : ∀ p s q, holds p s → (pipeline.ask p q).1 = (q.act s).1 ∧
    holds (pipeline.ask p q).2 (q.act s).2

/-- Every interleaving of frames and calls is answered as by the feed of the frames' bytes. -/
theorem Forwards.answers_eq {P F : Type*} {pipeline : Pipeline P F} {holds : P → Stream → Prop}
    {bytes : F → Option Bytes} (forwards : Forwards pipeline holds bytes) {p : P} {s : Stream}
    (held : holds p s) {feed : Feed} (open_ : OpenRaw s feed) {events : List (FeedEvent F)}
    (short : ∀ frame, .arrives frame ∈ events → ∀ data ∈ bytes frame, data.length < 2 ^ 32) :
    Components.answers pipeline.step p events =
      Components.answers (Feed.stepRaw bytes) feed events := by
  refine Components.answers_simulation
    (R := fun p feed => ∃ s, holds p s ∧ OpenRaw s feed) ?_ ⟨s, held, open_⟩
  rintro event member p feed ⟨s, held, open_⟩
  cases event with
  | arrives frame =>
      exact ⟨rfl, s.submitRawBuffer (bytes frame), forwards.delivers p s frame open_.raw held,
        open_.submit (short frame member)⟩
  | asks q =>
      obtain ⟨same, heldAfter⟩ := forwards.asks p s q held
      obtain ⟨answer, openAfter⟩ := open_.asks q
      exact ⟨same.trans answer, (q.act s).2, heldAfter, openAfter⟩

/-- A pipeline given frames in a form that keeps their bytes is a feed of these bytes. -/
theorem Forwards.answers_encode {P F : Type*} {pipeline : Pipeline P F} {holds : P → Stream → Prop}
    {bytes : F → Option Bytes} (forwards : Forwards pipeline holds bytes) {p : P} {s : Stream}
    (held : holds p s) {feed : Feed} (open_ : OpenRaw s feed) (form : Bytes → F)
    {events : List (FeedEvent Bytes)}
    (formed : ∀ data, .arrives data ∈ events →
      data.length < 2 ^ 32 ∧ bytes (form data) = some data) :
    Components.answers pipeline.step p (events.map (.encode form)) =
      Components.answers (Feed.stepRaw some) feed events := by
  have short : ∀ frame, .arrives frame ∈ events.map (FeedEvent.encode form) →
      ∀ data ∈ bytes frame, data.length < 2 ^ 32 := by
    intro frame member data given
    obtain ⟨image, arrived, rfl⟩ := FeedEvent.exists_of_arrives_encode member
    obtain ⟨small, same⟩ := formed image arrived
    obtain rfl := Option.some.inj (same.symm.trans given)
    exact small
  rw [forwards.answers_eq held open_ short]
  exact Feed.answers_encode (fun data arrived => (formed data arrived).2) feed

end OpenpnpCapture.Common
