/-
# Common.RawFrames — a raw-mode stream is a one-place mailbox of frames

A raw-mode stream reuses one buffer for frames of varying sizes and keeps the size of the
current one beside it.  `Holds s m` ties the object to the mailbox it implements: the
buffer's prefix is the mailbox's frame, `m_rawFrameSize` its length (as a `uint32_t`), and
`m_newFrame` its freshness.  Every event keeps the relation (`holds_step`), so after any
run of submissions and reads the stream holds the last submitted frame (`holds_after`).

* `captureFrameRaw_latest`: the size never exceeds the buffer, and a capture that returns
  true hands out exactly the most recent submission.
* `available_iff`: the reads agree on whether a frame is there exactly when the last
  submission has a nonzero length; `captureFrameRaw` lacks the empty-frame check that
  `getFrameSize` and `decodeFrame` make.
-/
import Mathlib.Algebra.Ring.Nat
import OpenpnpCapture.Common.Stream
import OpenpnpCapture.Lib.Mailbox

namespace OpenpnpCapture.Common

open OpenpnpCapture.Lib

set_option autoImplicit false

/-- A raw stream as `openStreamRaw` prepares it: `setRawMode`, then the platform `open`, which
may not have succeeded (`isOpen`). -/
def rawStream (isOpen : Bool) (estimatedJPEGSize width height : UInt32) (frameBufferBytes : Nat) :
    Stream :=
  let prepared := (Stream.new width height).setRawMode true estimatedJPEGSize
  if isOpen then prepared.opened width height frameBufferBytes else prepared

/-- What the capture side and the client do to a raw stream. -/
inductive RawEvent
  | submitRawBuffer (ptr : Option Bytes)
  | captureFrameRaw (outPtr : Option Bytes) (outBytes : UInt32) (actualBytes : Option UInt32)
  | getFrameSize (outBytes : Option UInt32)
  | decodeFrame (tj : TurboJpeg) (RGBbufferPtr : Option Bytes) (RGBbufferBytes : UInt32)
  | hasNewFrame

namespace RawEvent

/-- The stream after an event. -/
def step (s : Stream) : RawEvent → Stream
  | .submitRawBuffer ptr => s.submitRawBuffer ptr
  | .captureFrameRaw outPtr outBytes actualBytes => (s.captureFrameRaw outPtr outBytes actualBytes).2
  | .getFrameSize _ => s
  | .decodeFrame _ _ _ => s
  | .hasNewFrame => s

/-- The frames submitted in a run; a null pointer submits none. -/
def submissions (events : List RawEvent) : List Bytes :=
  events.filterMap fun
    | .submitRawBuffer ptr => ptr
    | _ => none

/-- The `uint32_t` size the stream keeps for the mailbox's frame. -/
def frameSize (latest : Option Bytes) : UInt32 :=
  latest.elim 0 fun frame => UInt32.ofNat frame.length

/-- The mailbox action of an event on an open stream. -/
def act (isOpen : Bool) : RawEvent → Mailbox.Act Bytes
  | .submitRawBuffer (some data) => .post data
  | .captureFrameRaw (some _) outBytes (some _) =>
      .collect fun latest => isOpen && decide (frameSize latest ≤ outBytes)
  | _ => .look

end RawEvent

open RawEvent

/-- The stream holds the mailbox's frame. -/
structure Holds (isOpen : Bool) (s : Stream) (m : Mailbox Bytes) : Prop where
  isOpen_eq : s.m_isOpen = isOpen
  rawMode : s.m_rawMode = true
  fresh : s.m_newFrame = m.fresh
  size : s.m_rawFrameSize = frameSize m.latest
  room : ∀ frame, m.latest = some frame → frame.length ≤ s.m_rawBuffer.length
  frame : ∀ frame, m.latest = some frame → s.m_rawBuffer.take frame.length = frame

theorem holds_start (isOpen : Bool) (estimatedJPEGSize width height : UInt32)
    (frameBufferBytes : Nat) :
    Holds isOpen (rawStream isOpen estimatedJPEGSize width height frameBufferBytes)
      Mailbox.empty := by
  cases isOpen <;> constructor <;> first | rfl | (intro frame impossible; cases impossible)

theorem holds_submit {isOpen : Bool} {s : Stream} {m : Mailbox Bytes} (related : Holds isOpen s m)
    (data : Bytes) : Holds isOpen (s.submitRawBuffer (some data)) (Mailbox.post data) := by
  obtain ⟨room, stored⟩ := Stream.submitRawBuffer_stored (s := s) data
  refine ⟨related.isOpen_eq, related.rawMode, rfl, rfl, ?_, ?_⟩
  · rintro frame ⟨⟩
    exact room
  · rintro frame ⟨⟩
    exact stored

/-- A capture takes the message exactly when it returns true. -/
theorem holds_capture {isOpen : Bool} {s : Stream} {m : Mailbox Bytes} (related : Holds isOpen s m)
    (outPtr : Option Bytes) (outBytes : UInt32) (actualBytes : Option UInt32) :
    Holds isOpen (s.captureFrameRaw outPtr outBytes actualBytes).2
      (m.step (act isOpen (.captureFrameRaw outPtr outBytes actualBytes))) := by
  obtain ⟨isOpenEq, rawMode, fresh, size, room, frame⟩ := related
  by_cases given : ∃ out actual, outPtr = some out ∧ actualBytes = some actual
  · obtain ⟨out, actual, rfl, rfl⟩ := given
    cases isOpen with
    | false => exact ⟨by simp [Stream.captureFrameRaw, isOpenEq], by simp [Stream.captureFrameRaw, isOpenEq, rawMode],
        by simpa [Stream.captureFrameRaw, isOpenEq, act, Mailbox.step] using fresh,
        by simpa [Stream.captureFrameRaw, isOpenEq, act, Mailbox.step] using size,
        by simpa [Stream.captureFrameRaw, isOpenEq, act, Mailbox.step] using room,
        by simpa [Stream.captureFrameRaw, isOpenEq, act, Mailbox.step] using frame⟩
    | true =>
        rw [Stream.captureFrameRaw_of_open isOpenEq rawMode]
        simp only [act, Mailbox.step, Bool.true_and, decide_eq_true_eq, ← size]
        by_cases small : outBytes < s.m_rawFrameSize
        · rw [if_pos small, if_neg (UInt32.not_le.2 small)]
          exact ⟨isOpenEq, rawMode, fresh, size, room, frame⟩
        · rw [if_neg small, if_pos (UInt32.not_lt.1 small)]
          exact ⟨isOpenEq, rawMode, rfl, size, room, frame⟩
  · have refused : (s.captureFrameRaw outPtr outBytes actualBytes).1.ok = false := by
      by_contra ok
      exact given (Stream.captureFrameRaw_ok (by simpa using ok)).2.2.2
    have looks : act isOpen (.captureFrameRaw outPtr outBytes actualBytes) = .look := by
      unfold act
      split
      · rename_i impossible; cases impossible
      · rename_i out _ actual same
        cases same
        exact absurd ⟨_, _, rfl, rfl⟩ given
      · rfl
    rw [Stream.captureFrameRaw_state, refused, looks]
    simpa [Mailbox.step] using (⟨isOpenEq, rawMode, fresh, size, room, frame⟩ : Holds isOpen s m)

theorem holds_step {isOpen : Bool} {s : Stream} {m : Mailbox Bytes} (event : RawEvent)
    (related : Holds isOpen s m) : Holds isOpen (step s event) (m.step (act isOpen event)) := by
  cases event with
  | submitRawBuffer ptr =>
      cases ptr with
      | none => exact related
      | some data => exact holds_submit related data
  | captureFrameRaw outPtr outBytes actualBytes => exact holds_capture related outPtr outBytes actualBytes
  | getFrameSize | decodeFrame | hasNewFrame => exact related

theorem posted_act (isOpen : Bool) (events : List RawEvent) :
    Mailbox.posted (events.map (act isOpen)) = submissions events := by
  simp only [Mailbox.posted, submissions, List.filterMap_map]
  congr 1
  funext event
  cases event with
  | submitRawBuffer ptr => cases ptr <;> rfl
  | captureFrameRaw outPtr outBytes actualBytes => cases outPtr <;> cases actualBytes <;> rfl
  | getFrameSize | decodeFrame | hasNewFrame => rfl

/-- After any run a raw stream holds a mailbox whose message is the last submission. -/
theorem holds_after (isOpen : Bool) (estimatedJPEGSize width height : UInt32)
    (frameBufferBytes : Nat) (events : List RawEvent) :
    ∃ m : Mailbox Bytes, m.latest = (submissions events).getLast? ∧
      Holds isOpen
        (Run.after step (rawStream isOpen estimatedJPEGSize width height frameBufferBytes) events)
        m := by
  refine ⟨Run.after (fun m event => m.step (act isOpen event)) Mailbox.empty events, ?_, ?_⟩
  · rw [← posted_act isOpen, ← Mailbox.latest_after_empty, Run.after, Run.after, List.foldl_map]
  · exact Run.after_simulation (fun s m event related => holds_step event related)
      (holds_start isOpen estimatedJPEGSize width height frameBufferBytes) events

theorem Holds.size_le {isOpen : Bool} {s : Stream} {m : Mailbox Bytes} (related : Holds isOpen s m) :
    s.m_rawFrameSize.toNat ≤ s.m_rawBuffer.length := by
  rw [related.size]
  cases latest : m.latest with
  | none => simp [frameSize]
  | some frame =>
      have room := related.room frame latest
      have truncated : (UInt32.ofNat frame.length).toNat ≤ frame.length := by
        rw [UInt32.toNat_ofNat']
        exact Nat.mod_le _ _
      exact Nat.le_trans truncated room

/-- The kept size is the length of the frame held. -/
theorem Holds.size_eq {isOpen : Bool} {s : Stream} {m : Mailbox Bytes} (related : Holds isOpen s m)
    {frame : Bytes} (latest : m.latest = some frame) (small : frame.length < 2 ^ 32) :
    s.m_rawFrameSize.toNat = frame.length := by
  rw [related.size, latest, frameSize, Option.elim_some, UInt32.toNat_ofNat']
  exact Nat.mod_eq_of_lt small

/-- What a capture copies is the frame held. -/
theorem Holds.copied {isOpen : Bool} {s : Stream} {m : Mailbox Bytes} (related : Holds isOpen s m)
    {frame out : Bytes} (latest : m.latest = some frame) (small : frame.length < 2 ^ 32)
    (room : frame.length ≤ out.length) :
    memcpy out s.m_rawBuffer s.m_rawFrameSize.toNat = frame ++ out.drop frame.length := by
  rw [related.size_eq latest small, memcpy_of_le (related.room frame latest) room,
    related.frame frame latest]

/-- **The newest frame.**  In every state of a raw-mode stream the stored size stays within the
buffer, and a capture that returns true writes exactly the most recent submission, reports its
length, and leaves the caller's bytes beyond that length alone. -/
theorem captureFrameRaw_latest (isOpen : Bool) (estimatedJPEGSize width height : UInt32)
    (frameBufferBytes : Nat) (events : List RawEvent)
    (small : ∀ frame ∈ submissions events, frame.length < 2 ^ 32) :
    let s := Run.after step (rawStream isOpen estimatedJPEGSize width height frameBufferBytes) events
    s.m_rawFrameSize.toNat ≤ s.m_rawBuffer.length ∧
      ∀ frame, (submissions events).getLast? = some frame →
        ∀ (out : Bytes) (outBytes actual : UInt32), outBytes.toNat ≤ out.length →
          let r := (s.captureFrameRaw (some out) outBytes (some actual)).1
          r.ok = true →
            r.out = some (frame ++ out.drop frame.length) ∧
              ∃ actualBytes, r.actualBytes = some actualBytes ∧ actualBytes.toNat = frame.length := by
  intro s
  obtain ⟨m, latest, related⟩ :=
    holds_after isOpen estimatedJPEGSize width height frameBufferBytes events
  refine ⟨related.size_le, ?_⟩
  intro frame last out outBytes actual room r ok
  have holdsFrame : m.latest = some frame := latest.trans last
  have short := small frame (List.mem_of_getLast? last)
  have sizeEq : s.m_rawFrameSize.toNat = frame.length := related.size_eq holdsFrame short
  obtain ⟨opened, rawMode, fits, -⟩ := Stream.captureFrameRaw_ok ok
  have captured : r = ⟨true, some (memcpy out s.m_rawBuffer s.m_rawFrameSize.toNat),
      some s.m_rawFrameSize⟩ := by
    simp only [r, Stream.captureFrameRaw_of_open opened rawMode, if_neg (UInt32.not_lt.2 fits)]
  have lengthFits : frame.length ≤ out.length := by
    have := UInt32.le_iff_toNat_le.1 fits
    omega
  rw [captured]
  exact ⟨congrArg some (related.copied holdsFrame short lengthFits), s.m_rawFrameSize, rfl, sizeEq⟩

theorem captureFrameRaw_latest_shorter_frame :
    (Run.after step (rawStream true 0 1 1 3)
        [.submitRawBuffer (some [1, 2, 3]), .submitRawBuffer (some [4])]).m_rawFrameSize.toNat ≤ 6 ∧
      ((Run.after step (rawStream true 0 1 1 3)
        [.submitRawBuffer (some [1, 2, 3]), .submitRawBuffer (some [4])]).captureFrameRaw
          (some [9, 9]) 2 (some 0)).1.out = some [4, 9] := by
  have main := captureFrameRaw_latest true 0 1 1 3
    [.submitRawBuffer (some [1, 2, 3]), .submitRawBuffer (some [4])] (by decide)
  exact ⟨main.1, (main.2 [4] rfl [9, 9] 2 0 (by decide) (by decide)).1⟩

/-! ## Is a frame there? -/

/-- The reads of a raw stream agree that a frame is there exactly when one was submitted.  The
caller's buffer has room for the current frame, and `decodeFrame` is asked with accepted
arguments. -/
structure Available (s : Stream) (submitted : List Bytes) : Prop where
  capture : ∀ (out : Bytes) (outBytes actual : UInt32), s.m_rawFrameSize ≤ outBytes →
    ((s.captureFrameRaw (some out) outBytes (some actual)).1.ok = true ↔ submitted ≠ [])
  size : ∀ outBytes, (s.getFrameSize (some outBytes)).1 = true ↔ submitted ≠ []
  decode : ∀ tj RGBbufferPtr RGBbufferBytes, s.DecodeArgs RGBbufferPtr RGBbufferBytes →
    (s.decodeFrame tj RGBbufferPtr RGBbufferBytes ≠ .refused .noFrame ↔ submitted ≠ [])
  newFrame : s.hasNewFrame = true → submitted ≠ []

theorem captureFrameRaw_ok_of_room {s : Stream} (isOpen : s.m_isOpen = true)
    (rawMode : s.m_rawMode = true) (out : Bytes) {outBytes : UInt32} (actual : UInt32)
    (room : s.m_rawFrameSize ≤ outBytes) :
    (s.captureFrameRaw (some out) outBytes (some actual)).1.ok = true := by
  rw [Stream.captureFrameRaw_of_open isOpen rawMode, if_neg (UInt32.not_lt.2 room)]

theorem getFrameSize_iff {s : Stream} (rawMode : s.m_rawMode = true) (outBytes : UInt32) :
    (s.getFrameSize (some outBytes)).1 = true ↔ s.m_rawFrameSize ≠ 0 := by
  simp only [Stream.getFrameSize, rawMode, Bool.not_true, Bool.false_eq_true, if_false,
    decide_eq_true_eq, gt_iff_lt]
  exact UInt32.pos_iff_ne_zero

theorem decodeFrame_refuses_iff {s : Stream} {tj : TurboJpeg} {RGBbufferPtr : Option Bytes}
    {RGBbufferBytes : UInt32} (args : s.DecodeArgs RGBbufferPtr RGBbufferBytes) :
    s.decodeFrame tj RGBbufferPtr RGBbufferBytes ≠ .refused .noFrame ↔ s.m_rawFrameSize ≠ 0 := by
  obtain ⟨out, rfl⟩ := Option.isSome_iff_exists.1 args.2.2.1
  rw [Stream.decodeFrame_of_args args]
  by_cases empty : s.m_rawFrameSize = 0 <;> simp [empty]

/-- **When the reads agree.**  On an open raw stream the reads agree on whether a frame is there
exactly after a last submission whose length is not a multiple of 2^32: not before the first
frame, and not after an empty one. -/
theorem available_iff (estimatedJPEGSize width height : UInt32) (frameBufferBytes : Nat)
    (events : List RawEvent) :
    Available (Run.after step (rawStream true estimatedJPEGSize width height frameBufferBytes) events)
        (submissions events) ↔
      ∃ frame, (submissions events).getLast? = some frame ∧ frame.length % 2 ^ 32 ≠ 0 := by
  obtain ⟨m, latest, related⟩ :=
    holds_after true estimatedJPEGSize width height frameBufferBytes events
  generalize Run.after step (rawStream true estimatedJPEGSize width height frameBufferBytes) events
    = s at related ⊢
  have sized : s.m_rawFrameSize ≠ 0 ↔
      ∃ frame, (submissions events).getLast? = some frame ∧ frame.length % 2 ^ 32 ≠ 0 := by
    rw [related.size, latest]
    cases (submissions events).getLast? with
    | none => simp [frameSize]
    | some frame => simp [frameSize, ← UInt32.toNat_inj]
  rw [← sized]
  constructor
  · intro agree
    -- the capture always succeeds, so agreement says that a frame was submitted
    have submitted := (agree.capture [] s.m_rawFrameSize 0 (UInt32.le_refl _)).1
      (captureFrameRaw_ok_of_room related.isOpen_eq related.rawMode _ _ (UInt32.le_refl _))
    exact (getFrameSize_iff related.rawMode 0).1 ((agree.size 0).2 submitted)
  · intro nonzero
    have submitted : submissions events ≠ [] := by
      obtain ⟨frame, last, -⟩ := sized.1 nonzero
      rintro none_
      simp [none_] at last
    exact
      { capture := fun out outBytes actual room =>
          iff_of_true (captureFrameRaw_ok_of_room related.isOpen_eq related.rawMode out actual room)
            submitted
        size := fun outBytes => iff_of_true ((getFrameSize_iff related.rawMode outBytes).2 nonzero)
          submitted
        decode := fun _ _ _ args => iff_of_true ((decodeFrame_refuses_iff args).2 nonzero) submitted
        newFrame := fun _ => submitted }

/-- Before the first frame `captureFrameRaw` returns true with zero bytes while `getFrameSize`
returns false. -/
theorem available_fails_before_first_frame :
    ¬ Available (Run.after step (rawStream true 1 2 2 12) []) (submissions []) := by
  intro agree
  exact (agree.capture [] 0 0 (by decide)).1 (by decide) rfl

end OpenpnpCapture.Common
