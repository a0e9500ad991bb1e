/-
# Common.Feed — a camera as its client sees it

A client of an open stream that is not raw has to do with three things: the picture that is shown,
whether it is new, and how many pictures there have been.  `Feed` is just that.  A frame either
replaces the whole picture or leaves no trace; `develop` says which picture a frame is.

A platform's stream is a `Pipeline`: what a delivered frame does to it, and what it answers.  It
`Develops` its frames if each of them leaves in the shared stream object the picture `develop` makes
of it, or nothing: no byte of an earlier frame, nothing of how the bytes got there.  Then every
interleaving of frames and calls is answered as by the feed (`Develops.answers_eq`), and a pipeline
given pictures in the form it expects hands out these pictures (`Develops.answers_encode`).
-/
import OpenpnpCapture.Common.StreamRun
import OpenpnpCapture.Lib.Access
import OpenpnpCapture.Lib.Components

namespace OpenpnpCapture.Common

open OpenpnpCapture.Lib

set_option autoImplicit false

/-! ## Pictures -/

/-- The 24-bit picture whose pixels have these channels, by row, column and channel. -/
def picture (width height : UInt32) (channels : Nat → Nat → Nat → UInt8) : Bytes :=
  (List.range (imageBytes width height)).map fun i =>
    channels (i / 3 / width.toNat) (i / 3 % width.toNat) (i % 3)

section Picture

variable {width height : UInt32} {channels : Nat → Nat → Nat → UInt8}

@[simp] theorem length_picture :
    (picture width height channels).length = imageBytes width height := by
  rw [picture, List.length_map, List.length_range]

theorem cell_lt_imageBytes {row col channel : Nat} (inRows : row < height.toNat)
    (inCols : col < width.toNat) (inPixel : channel < 3) :
    3 * (row * width.toNat + col) + channel < imageBytes width height := by
  have inArea := rowMajor_lt_area inRows inCols
  rw [imageBytes, Nat.mul_assoc]
  omega

theorem getElem?_picture {row col channel : Nat} (inRows : row < height.toNat)
    (inCols : col < width.toNat) (inPixel : channel < 3) :
    (picture width height channels)[3 * (row * width.toNat + col) + channel]? =
      some (channels row col channel) := by
  have inside := cell_lt_imageBytes inRows inCols inPixel
  have cell : (3 * (row * width.toNat + col) + channel) / 3 = row * width.toNat + col := by omega
  have rest : (3 * (row * width.toNat + col) + channel) % 3 = channel := by omega
  rw [picture, List.getElem?_map, List.getElem?_range inside, Option.map_some, cell, rest,
    rowMajor_div inCols, rowMajor_mod inCols]

/-- Bytes that are these channels at every pixel are the picture. -/
theorem eq_picture {bytes : Bytes} (sized : bytes.length = imageBytes width height)
    (each : ∀ row < height.toNat, ∀ col < width.toNat, ∀ channel < 3,
      bytes[3 * (row * width.toNat + col) + channel]? = some (channels row col channel)) :
    bytes = picture width height channels := by
  apply List.ext_getElem?
  intro offset
  rcases Nat.lt_or_ge offset (imageBytes width height) with inside | outside
  · rw [imageBytes, Nat.mul_assoc, Nat.mul_comm 3, Nat.mul_comm width.toNat] at inside
    obtain ⟨row, inRows, col, inCols, channel, inPixel, rfl⟩ := exists_cell inside
    rw [each row inRows col inCols channel inPixel, getElem?_picture inRows inCols inPixel]
  · rw [List.getElem?_eq_none (by omega), List.getElem?_eq_none (by rw [length_picture]; omega)]

/-- A conversion that writes these channels leaves the picture, whatever was there. -/
theorem store_eq_picture {buffer : Bytes} {accesses : List Access}
    (sized : buffer.length = imageBytes width height)
    (each : ∀ row < height.toNat, ∀ col < width.toNat, ∀ channel < 3,
      lastAt (3 * (row * width.toNat + col) + channel) accesses = some (channels row col channel)) :
    store buffer accesses = picture width height channels := by
  refine eq_picture ((length_store buffer accesses).trans sized) ?_
  intro row inRows col inCols channel inPixel
  have inside := cell_lt_imageBytes inRows inCols inPixel
  exact getElem?_store_of_lastAt (sized.symm ▸ inside) (each row inRows col inCols channel inPixel)

end Picture

/-! ## The feed -/

structure Feed where
  width : UInt32
  height : UInt32
  shown : Bytes
  isNew : Bool
  count : UInt32

/-- What happens on the two sides of a camera. -/
inductive FeedEvent (F : Type*)
  | arrives (frame : F)
  | asks (q : StreamQuery)

/-- The same with the frames in another form. -/
def FeedEvent.encode {F G : Type*} (form : F → G) : FeedEvent F → FeedEvent G
  | .arrives frame => .arrives (form frame)
  | .asks q => .asks q

theorem FeedEvent.exists_of_arrives_encode {F G : Type*} {form : F → G} {events : List (FeedEvent F)}
    {frame : G} (member : .arrives frame ∈ events.map (encode form)) :
    ∃ image, .arrives image ∈ events ∧ form image = frame := by
  obtain ⟨event, arrived, same⟩ := List.mem_map.1 member
  cases event with
  | arrives image => exact ⟨image, arrived, FeedEvent.arrives.inj same⟩
  | asks q => cases same

namespace Feed

/-- A picture replaces the one before it. -/
def receive (feed : Feed) : Option Bytes → Feed
  | none => feed
  | some shown => { feed with shown, isNew := true, count := feed.count + 1 }

/-- What the client is told; only a capture makes the picture an old one. -/
def ask (feed : Feed) : StreamQuery → Reply × Feed
  | .captureFrame RGBbufferPtr RGBbufferBytes =>
      let copied := min RGBbufferBytes.toNat feed.shown.length
      (.frame true (some (memcpy RGBbufferPtr feed.shown copied)), { feed with isNew := false })
  | .captureFrameRaw jpegBufferPtr _ outBytes => (.raw ⟨false, jpegBufferPtr, outBytes⟩, feed)
  | .getFrameSize outBytes => (.size false outBytes, feed)
  | .decodeFrame _ RGBbufferPtr _ => (.frame false RGBbufferPtr, feed)
  | .hasNewFrame => (.flag feed.isNew, feed)
  | .getStreamFrameCount => (.count feed.count, feed)
  | .getStreamResolution outWidth outHeight =>
      (.resolution true (outWidth.map fun _ => feed.width) (outHeight.map fun _ => feed.height),
        feed)
  | .setStreamFrameRate _ answer => (.flag answer, feed)
  | .getStreamPropertyLimits _ answer => (.limits answer, feed)
  | .setStreamAutoProperty _ _ answer => (.flag answer, feed)
  | .setStreamProperty _ _ answer => (.flag answer, feed)
  | .getStreamProperty _ answer => (.property answer, feed)
  | .getStreamAutoProperty _ answer => (.autoProperty answer, feed)

/-- A feed whose calls are answered by `answer`. -/
def stepWith {F : Type*} (answer : Feed → StreamQuery → Reply × Feed) (develop : F → Option Bytes)
    (feed : Feed) : FeedEvent F → Reply × Feed
  | .arrives frame => (.none, feed.receive (develop frame))
  | .asks q => answer feed q

def step {F : Type*} (develop : F → Option Bytes) : Feed → FeedEvent F → Reply × Feed :=
  stepWith ask develop

/-- Frames in a form that is developed to them are these frames. -/
theorem answers_encode {F : Type*} {answer : Feed → StreamQuery → Reply × Feed}
    {develop : F → Option Bytes} {form : Bytes → F} {events : List (FeedEvent Bytes)}
    (formed : ∀ image, .arrives image ∈ events → develop (form image) = some image) (feed : Feed) :
    Components.answers (stepWith answer develop) feed (events.map (.encode form)) =
      Components.answers (stepWith answer some) feed events := by
  rw [Components.answers_map]
  refine Components.answers_simulation (R := Eq) ?_ rfl
  rintro event member feed _ rfl
  cases event with
  | arrives image =>
      show _ ∧ feed.receive (develop (form image)) = feed.receive (some image)
      rw [formed image member]
      exact ⟨rfl, rfl⟩
  | asks q => exact ⟨rfl, rfl⟩

/-- The feed a stream stands for. -/
def of (s : Stream) : Feed where
  width := s.m_width
  height := s.m_height
  shown := s.m_frameBuffer
  isNew := s.m_newFrame
  count := s.m_frames

end Feed

/-! ## Streams that keep up a feed -/

/-- An open stream of this size that is not raw. -/
structure OpenRgb (width height : UInt32) (s : Stream) : Prop where
  isOpen : s.m_isOpen = true
  rgb : s.m_rawMode = false
  m_width : s.m_width = width
  m_height : s.m_height = height
  sized : s.m_frameBuffer.length = imageBytes width height

/-- A stream after a picture. -/
def Stream.received (s : Stream) : Option Bytes → Stream
  | none => s
  | some image =>
      { s with
        m_frameBuffer := image
        m_newFrame := true
        m_frames := s.m_frames + 1 }

section OpenRgb

variable {width height : UInt32} {s : Stream}

theorem OpenRgb.received (ready : OpenRgb width height s) {image : Option Bytes}
    (whole : ∀ bytes ∈ image, bytes.length = imageBytes width height) :
    OpenRgb width height (s.received image) := by
  cases image with
  | none => exact ready
  | some bytes =>
      exact ⟨ready.isOpen, ready.rgb, ready.m_width, ready.m_height, whole bytes rfl⟩

theorem OpenRgb.act (ready : OpenRgb width height s) (q : StreamQuery) :
    OpenRgb width height (q.act s).2 := by
  rw [Stream.act_stream]
  exact ⟨ready.isOpen, ready.rgb, ready.m_width, ready.m_height, ready.sized⟩

theorem Feed.of_received (s : Stream) (image : Option Bytes) :
    Feed.of (s.received image) = (Feed.of s).receive image := by
  cases image <;> rfl

/-- `captureFrame` copies what fits. -/
theorem OpenRgb.captureFrame (ready : OpenRgb width height s) (RGBbufferPtr : Bytes)
    (RGBbufferBytes : UInt32) :
    s.captureFrame RGBbufferPtr RGBbufferBytes =
      ((true, memcpy RGBbufferPtr s.m_frameBuffer
        (min RGBbufferBytes.toNat s.m_frameBuffer.length)), { s with m_newFrame := false }) := by
  have nothing (dst src : Bytes) : memcpy dst src 0 = dst := by
    rw [memcpy, List.take_zero, List.nil_append, List.drop_zero, List.take_length]
  have smaller : (if RGBbufferBytes.toNat ≤ s.m_frameBuffer.length then RGBbufferBytes.toNat
      else s.m_frameBuffer.length) = min RGBbufferBytes.toNat s.m_frameBuffer.length :=
    (Nat.min_def ..).symm
  simp only [Stream.captureFrame, ready.isOpen, ready.rgb, smaller, Bool.false_eq_true, if_false,
    Bool.not_true]
  by_cases empty : min RGBbufferBytes.toNat s.m_frameBuffer.length = 0
  · rw [if_neg (not_not.2 empty), empty, nothing]
  · rw [if_pos empty]

/-- Every call is answered as by the feed. -/
theorem OpenRgb.asks (ready : OpenRgb width height s) (q : StreamQuery) :
    (q.act s).1 = ((Feed.of s).ask q).1 ∧ Feed.of (q.act s).2 = ((Feed.of s).ask q).2 := by
  cases q with
  | captureFrame RGBbufferPtr RGBbufferBytes =>
      simp only [StreamQuery.act, ready.captureFrame]
      exact ⟨rfl, rfl⟩
  | captureFrameRaw jpegBufferPtr jpegBufferBytes outBytes =>
      have refused : s.captureFrameRaw jpegBufferPtr jpegBufferBytes outBytes =
          (⟨false, jpegBufferPtr, outBytes⟩, s) := by
        simp [Stream.captureFrameRaw, ready.isOpen, ready.rgb]
      simp only [StreamQuery.act, refused]
      exact ⟨rfl, rfl⟩
  | getFrameSize outBytes =>
      have refused : s.getFrameSize outBytes = (false, outBytes) := by
        simp [Stream.getFrameSize, ready.rgb]
      simp only [StreamQuery.act, refused]
      exact ⟨rfl, rfl⟩
  | decodeFrame tj RGBbufferPtr RGBbufferBytes =>
      have refused : s.decodeFrame tj RGBbufferPtr RGBbufferBytes = .refused .notRaw := by
        simp [Stream.decodeFrame, ready.isOpen, ready.rgb]
      simp only [StreamQuery.act, refused]
      exact ⟨rfl, rfl⟩
  | _ => exact ⟨rfl, rfl⟩

end OpenRgb

/-- A platform's stream: what a frame does to it, and what it answers. -/
structure Pipeline (P F : Type*) where
  deliver : P → F → P
  ask : P → StreamQuery → Reply × P

def Pipeline.step {P F : Type*} (pipeline : Pipeline P F) (p : P) : FeedEvent F → Reply × P
  | .arrives frame => (.none, pipeline.deliver p frame)
  | .asks q => pipeline.ask p q

/-- Each whole frame leaves in the stream a pipeline holds the picture it is developed to, or
nothing; a call is one of that stream. -/
structure Develops {P F : Type*} (pipeline : Pipeline P F) (width height : UInt32)
    (holds : P → Stream → Prop) (whole : F → Prop) (develop : F → Option Bytes) : Prop where
  ready : ∀ p s, holds p s → OpenRgb width height s
  delivers : ∀ p s frame, holds p s → whole frame →
    holds (pipeline.deliver p frame) (s.received (develop frame))
  asks : ∀ p s q, holds p s → (pipeline.ask p q).1 = (q.act s).1 ∧
    holds (pipeline.ask p q).2 (q.act s).2

/-- Every interleaving of whole frames and calls is answered as by the feed. -/
theorem Develops.answers_eq {P F : Type*} {pipeline : Pipeline P F} {width height : UInt32}
    {holds : P → Stream → Prop} {whole : F → Prop} {develop : F → Option Bytes}
    (develops : Develops pipeline width height holds whole develop) {p : P} {s : Stream}
    (held : holds p s) {events : List (FeedEvent F)}
    (wholes : ∀ frame, .arrives frame ∈ events → whole frame) :
    Components.answers pipeline.step p events =
      Components.answers (Feed.step develop) (Feed.of s) events := by
  refine Components.answers_simulation
    (R := fun p feed => ∃ s, holds p s ∧ feed = Feed.of s) ?_ ⟨s, held, rfl⟩
  rintro event member p feed ⟨s, held, rfl⟩
  cases event with
  | arrives frame =>
      refine ⟨rfl, s.received (develop frame), ?_, (Feed.of_received s (develop frame)).symm⟩
      exact develops.delivers p s frame held (wholes frame member)
  | asks q =>
      obtain ⟨same, heldAfter⟩ := develops.asks p s q held
      obtain ⟨answer, feed⟩ := (develops.ready p s held).asks q
      exact ⟨same.trans answer, (q.act s).2, heldAfter, feed.symm⟩

/-- A pipeline given pictures in a form it develops is a feed of these pictures. -/
theorem Develops.answers_encode {P F : Type*} {pipeline : Pipeline P F} {width height : UInt32}
    {holds : P → Stream → Prop} {whole : F → Prop} {develop : F → Option Bytes}
    (develops : Develops pipeline width height holds whole develop) {p : P} {s : Stream}
    (held : holds p s) (form : Bytes → F) {events : List (FeedEvent Bytes)}
    (formed : ∀ image, .arrives image ∈ events →
      whole (form image) ∧ develop (form image) = some image) :
    Components.answers pipeline.step p (events.map (.encode form)) =
      Components.answers (Feed.step some) (Feed.of s) events := by
  have wholes : ∀ frame, .arrives frame ∈ events.map (FeedEvent.encode form) → whole frame := by
    intro frame member
    obtain ⟨image, arrived, rfl⟩ := FeedEvent.exists_of_arrives_encode member
    exact (formed image arrived).1
  rw [develops.answers_eq held wholes]
  exact Feed.answers_encode (fun image arrived => (formed image arrived).2) (Feed.of s)

end OpenpnpCapture.Common
