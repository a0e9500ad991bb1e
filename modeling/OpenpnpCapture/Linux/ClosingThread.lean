/-
# Linux.ClosingThread — closing a stream while its thread runs

`close` clears `m_width` and `m_height`, marks the stream as closed, asks the thread to quit and
joins it; only then does it shrink the frame buffer.  It takes no lock, so the thread may be
anywhere, also between reading the two arguments of a conversion.

* `close_comes_back`: once the thread has been asked to quit it takes a bounded number of steps,
  submits at most one more frame, and nothing is stuck before `close` has joined it.
* `closing_inBounds`: a conversion that runs into a `close` stays inside its two buffers, whichever
  of the two sizes it still sees.
-/
import OpenpnpCapture.Linux.BufferMappings
import OpenpnpCapture.Linux.FrameBounds

namespace OpenpnpCapture.Linux

open OpenpnpCapture.Lib OpenpnpCapture.Common

set_option autoImplicit false

/-! ## The end of the thread -/

namespace Capturing

/-- How many steps a thread that was asked to quit may still take, when the driver grants no more
than `granted` buffers. -/
def remaining (granted : Nat) : Position → Nat
  | .requestBuffers => 3 * granted + 6
  | .queryBuffer b => 2 * (granted - b) + granted + 5
  | .mapBuffer b => 2 * (granted - b) + granted + 4
  | .queueBuffer i => granted - i + 3
  | .waitFrame => 5
  | .dequeueBuffer => 4
  | .submitBuffer _ => 3
  | .requeueBuffer _ => 2
  | .streamOn => 2
  | .loopCondition => 1
  | .returned => 0

/-- How many frames it may still submit. -/
def unsubmitted : Position → Nat
  | .waitFrame | .dequeueBuffer | .submitBuffer _ => 1
  | _ => 0

/-- The step submits a frame. -/
def submits : CaptureStep → Bool
  | .thread (.submitted _) => true
  | _ => false

/-- The step is one of the thread. -/
def ofThread : CaptureStep → Bool
  | .thread _ => true
  | .close => false

section Quitting

variable {t next : Thread} {a : Answer} {granted : Nat}

theorem proceed_remaining {ok : Bool} {position : Position} {bound : Nat}
    (onward : remaining granted position < bound) :
    remaining granted (t.proceed ok position).position < bound := by
  cases ok with
  | true => exact onward
  | false => exact Nat.zero_lt_of_lt onward

theorem proceed_unsubmitted {ok : Bool} {position : Position} (none_ : unsubmitted position = 0) :
    unsubmitted (t.proceed ok position).position = 0 := by
  cases ok with
  | true => exact none_
  | false => rfl

/-- Each step of a thread that was asked to quit brings it nearer to its end. -/
theorem remaining_step (stepped : t.step true a = some next) (grants : next.buffers ≤ granted) :
    remaining granted next.position < remaining granted t.position := by
  obtain ⟨position, buffers⟩ := t
  cases position with
  | requestBuffers =>
      simp only [Thread.step] at stepped
      split at stepped
      · cases stepped
        exact Nat.succ_pos _
      · split at stepped
        · cases stepped
          exact Nat.succ_pos _
        · cases stepped
          show 2 * (granted - 0) + granted + 5 < 3 * granted + 6
          omega
      · cases stepped
  | queryBuffer b =>
      simp only [Thread.step] at stepped
      split at stepped
      · cases stepped
        exact proceed_remaining (Nat.lt_succ_self _)
      · cases stepped
  | mapBuffer b =>
      simp only [Thread.step] at stepped
      split at stepped
      · rename_i ok
        cases stepped
        have few : buffers ≤ granted := by cases ok <;> exact grants
        refine proceed_remaining ?_
        split
        · show 2 * (granted - (b + 1)) + granted + 5 < 2 * (granted - b) + granted + 4
          omega
        · show granted - 0 + 3 < 2 * (granted - b) + granted + 4
          omega
      · cases stepped
  | queueBuffer i =>
      simp only [Thread.step] at stepped
      split at stepped
      · rename_i ok
        cases stepped
        have few : buffers ≤ granted := by cases ok <;> exact grants
        refine proceed_remaining ?_
        split
        · show granted - (i + 1) + 3 < granted - i + 3
          omega
        · show 2 < granted - i + 3
          omega
      · cases stepped
  | streamOn | requeueBuffer buf =>
      simp only [Thread.step] at stepped
      split at stepped
      · cases stepped
        exact proceed_remaining (Nat.lt_succ_self 1)
      · cases stepped
  | loopCondition =>
      simp only [Thread.step] at stepped
      split at stepped
      · cases stepped
        exact Nat.succ_pos 0
      · cases stepped
  | waitFrame | dequeueBuffer | submitBuffer buf =>
      simp only [Thread.step] at stepped
      split at stepped
      all_goals cases stepped
      all_goals simp [remaining, Thread.goto]
  | returned => cases stepped

/-- A step that submits a frame uses up the one that may still be submitted; the others add none. -/
theorem unsubmitted_step (stepped : t.step true a = some next) :
    unsubmitted next.position + (if submits (.thread a) then 1 else 0) ≤ unsubmitted t.position := by
  obtain ⟨position, buffers⟩ := t
  cases position with
  | requestBuffers =>
      simp only [Thread.step] at stepped
      split at stepped
      · cases stepped
        exact Nat.le_refl 0
      · split at stepped
        · cases stepped
          exact Nat.le_refl 0
        · cases stepped
          exact Nat.le_refl 0
      · cases stepped
  | mapBuffer b | queueBuffer b =>
      simp only [Thread.step] at stepped
      split at stepped
      · cases stepped
        rw [proceed_unsubmitted (by split <;> rfl)]
        exact Nat.le_refl 0
      · cases stepped
  | queryBuffer b | streamOn | requeueBuffer buf =>
      simp only [Thread.step] at stepped
      split at stepped
      · cases stepped
        rw [proceed_unsubmitted rfl]
        exact Nat.le_refl 0
      · cases stepped
  | loopCondition =>
      simp only [Thread.step] at stepped
      split at stepped
      · cases stepped
        exact Nat.le_refl 0
      · cases stepped
  | waitFrame | dequeueBuffer | submitBuffer buf =>
      simp only [Thread.step] at stepped
      split at stepped
      all_goals cases stepped
      all_goals simp [unsubmitted, submits, Thread.goto]
  | returned => cases stepped

/-- Some end of the call at hand lets the thread go on. -/
theorem exists_answer (m_quitThread : Bool) (going : t.position ≠ .returned) :
    ∃ a next, t.step m_quitThread a = some next := by
  obtain ⟨position, buffers⟩ := t
  cases position with
  | requestBuffers => exact ⟨.reqbufs none, _, rfl⟩
  | queryBuffer b => exact ⟨.querybuf true, _, rfl⟩
  | mapBuffer b => exact ⟨.mmap true, _, rfl⟩
  | queueBuffer i => exact ⟨.qbuf true, _, rfl⟩
  | streamOn => exact ⟨.streamon true, _, rfl⟩
  | loopCondition => exact ⟨.condition, _, rfl⟩
  | waitFrame => exact ⟨.select .ready, _, rfl⟩
  | dequeueBuffer => exact ⟨.dqbuf .again, _, rfl⟩
  | submitBuffer buf => exact ⟨.submitted none, _, rfl⟩
  | requeueBuffer buf => exact ⟨.qbuf true, _, rfl⟩
  | returned => exact absurd rfl going

end Quitting

section Closed

variable {s t : Capturing} {event : CaptureStep}

/-- The request to quit is not taken back. -/
theorem quit_step (asked : s.m_quitThread = true) (ran : s.step event = .ok ((), t)) :
    t.m_quitThread = true := by
  cases event with
  | thread a =>
      obtain ⟨thread, -, rfl⟩ := step_thread ran
      exact asked
  | close =>
      simp only [step, closeStep] at ran
      cases position : s.close with
      | notCalled =>
          rw [position] at ran
          cases ran
          exact asked
      | markedClosed =>
          rw [position] at ran
          cases ran
          rfl
      | askedToQuit =>
          rw [position] at ran
          by_cases returned : s.thread.position = .returned
          · rw [if_pos returned] at ran
            cases ran
            exact asked
          · rw [if_neg returned] at ran
            cases ran
      | joined =>
          rw [position] at ran
          cases ran

/-- In every run from a state in which the thread was asked to quit. -/
theorem few_steps (asked : s.m_quitThread = true) (granted : Nat) (more : List CaptureStep)
    (grants : ∀ t ∈ Run.reached step s more, t.thread.buffers ≤ granted) :
    (Run.trace step s more).countP (fun e => ofThread e.input) ≤ remaining granted s.thread.position ∧
      (Run.trace step s more).countP (fun e => submits e.input) ≤ unsubmitted s.thread.position := by
  induction more generalizing s with
  | nil => exact ⟨Nat.zero_le _, Nat.zero_le _⟩
  | cons event more ih =>
      cases result : s.step event with
      | error stopped =>
          rw [Run.trace_cons_error more result]
          exact ⟨Nat.zero_le _, Nat.zero_le _⟩
      | ok done =>
          obtain ⟨⟨⟩, t⟩ := done
          rw [Run.reached_cons_ok more result] at grants
          have later := ih (quit_step asked result) fun u member =>
            grants u (List.mem_cons_of_mem _ member)
          rw [Run.trace_cons_ok more result, List.countP_cons, List.countP_cons]
          cases event with
          | close =>
              rw [(step_close result).1] at later
              exact later
          | thread a =>
              obtain ⟨thread, stepped, rfl⟩ := step_thread result
              rw [asked] at stepped
              have fits := grants _ (List.mem_cons_of_mem _ List.mem_cons_self)
              have nearer := remaining_step stepped fits
              have fewer := unsubmitted_step stepped
              exact ⟨(Nat.succ_le_succ later.1).trans nearer,
                (Nat.add_le_add_right later.2 _).trans fewer⟩

/-- A stream whose `close` waits for the thread is not stuck. -/
theorem not_stuck (quit : QuitAfterClosed s) (asked : s.m_quitThread = true) :
    s.close = .joined ∨ ∃ event t, s.step event = .ok ((), t) := by
  obtain ⟨called, marked⟩ := quit.asked asked
  cases position : s.close with
  | notCalled => exact absurd position called
  | markedClosed => exact absurd position marked
  | joined => exact Or.inl rfl
  | askedToQuit =>
      refine Or.inr ?_
      by_cases returned : s.thread.position = .returned
      · have joins : ∃ t, s.closeStep = some t := by
          rw [closeStep, position]
          exact ⟨_, if_pos returned⟩
        obtain ⟨t, joined⟩ := joins
        exact ⟨.close, t, by simp only [step, joined]⟩
      · obtain ⟨a, next, stepped⟩ := exists_answer s.m_quitThread returned
        exact ⟨.thread a, { s with thread := next, stream := submitted s.stream a },
          by simp only [step, stepped]⟩

theorem quitAfterClosed_reached (raw : Option UInt32) (width height : UInt32) (frameBufferBytes : Nat)
    (events : List CaptureStep) :
    ∀ s ∈ Run.reached step (opened raw width height frameBufferBytes) events, QuitAfterClosed s := by
  refine Run.reached_of_preserved ⟨fun asked => ?_, fun called => absurd rfl called⟩ ?_
  · cases asked
  · exact fun s event _ t ran quit => quitAfterClosed_step quit ran

end Closed

/-- **`close` comes back.**  From every state of an open stream in which the thread has been asked
to quit, in every further run of the thread and of `close`, whatever the calls of the thread
answer: the thread takes at most `3 * granted + 6` steps, where the driver grants at most `granted`
buffers, at most one more frame is submitted, and as long as `close` has not joined the thread,
the one or the other can go on. -/
theorem close_comes_back (raw : Option UInt32) (width height : UInt32) (frameBufferBytes : Nat)
    (events : List CaptureStep) {s : Capturing}
    (reached : s ∈ Run.reached step (opened raw width height frameBufferBytes) events)
    (asked : s.m_quitThread = true) (more : List CaptureStep) (granted : Nat)
    (grants : ∀ t ∈ Run.reached step s more, t.thread.buffers ≤ granted) :
    (Run.trace step s more).countP (fun e => ofThread e.input) ≤ 3 * granted + 6 ∧
      (Run.trace step s more).countP (fun e => submits e.input) ≤ 1 ∧
      ∀ t ∈ Run.reached step s more,
        t.close = .joined ∨ ∃ event u, t.step event = .ok ((), u) := by
  have quit := quitAfterClosed_reached raw width height frameBufferBytes events s reached
  obtain ⟨few, one⟩ := few_steps asked granted more grants
  refine ⟨few.trans ?_, one.trans ?_, ?_⟩
  · cases s.thread.position <;> simp only [remaining] <;> omega
  · cases s.thread.position <;> simp [unsubmitted]
  · intro t member
    have kept : QuitAfterClosed t ∧ t.m_quitThread = true := by
      refine Run.reached_of_preserved (J := fun s => QuitAfterClosed s ∧ s.m_quitThread = true)
        ⟨quit, asked⟩ ?_ t member
      exact fun s event _ t ran hold => ⟨quitAfterClosed_step hold.1 ran, quit_step hold.2 ran⟩
    exact not_stuck kept.1 kept.2

/-- `close` is called while the thread waits in `select`; a frame arrives. -/
theorem close_comes_back_waiting :
    ∃ s ∈ Run.reached step (opened none 2 1 6)
        [.thread (.reqbufs (some 2)),
          .thread (.querybuf true), .thread (.mmap true), .thread (.querybuf true),
          .thread (.mmap true), .thread (.qbuf true), .thread (.qbuf true), .thread (.streamon true),
          .thread .condition, .close, .close],
      (Run.trace step s [.thread (.select .ready), .thread (.dqbuf (.dequeued ⟨0, 6⟩)),
        .thread (.submitted none), .thread (.qbuf true), .thread .condition, .close]).countP
          (fun e => submits e.input) ≤ 1 := by
  refine ⟨_, List.mem_of_getLast? rfl, ?_⟩
  exact (close_comes_back none 2 1 6 _ (List.mem_of_getLast? rfl) rfl _ 2 (by decide)).2.1

end Capturing

/-! ## A conversion that runs into a close -/

/-- How far `close` has come, by the last field it wrote. -/
inductive Closed
  | nothing
  | width
  | height
  | isOpen
  | quitThread
  | joined
deriving DecidableEq, Repr

/-- The object while its thread runs, and the arguments of a conversion the thread has read. -/
structure Closing where
  m_width : UInt32
  m_height : UInt32
  m_isOpen : Bool
  m_quitThread : Bool
  /-- The size of `m_frameBuffer`. -/
  frameBuffer : Nat
  thread : Thread
  readWidth : Option UInt32
  readHeight : Option UInt32
  closed : Closed

inductive ClosingStep
  /-- A step of the thread but a call of `threadSubmitBuffer`. -/
  | thread (a : Answer)
  /-- The thread evaluates an argument of the conversion, in either order. -/
  | readWidth
  | readHeight
  /-- The conversion of the dequeued buffer, given the memory it points to. -/
  | convert (ptr : Option (Nat → UInt8))
  | close

/-- The accesses of `threadSubmitBuffer` when its converter is given this width and height. -/
def conversion (tj : TurboJpeg) (format : PixelFormat) (m_rawMode : Bool) (frameBuffer : Nat)
    (width height : UInt32) (frame : Delivered) : List Access :=
  match format with
  | .RGB24 => if frame.data.length ≤ frameBuffer then copies frame.data else []
  | .YUYV => YUYV2RGB frame.memory (.ofNat frame.bytes)
  | .NV12 => NV122RGB frame.memory width height
  | .YUV420 => YU122RGB frame.memory width height
  | .MJPG =>
      if m_rawMode then reads frame.data.length else decompressAccesses tj frame.data width height
  | .unsupported => []

/-- On an open stream these are the accesses of the call. -/
theorem threadSubmitBuffer_conversion (tj : TurboJpeg) (s : PlatformStream) (frame : Delivered) :
    (s.threadSubmitBuffer tj (some frame)).accesses =
      conversion tj s.format s.m_rawMode s.m_frameBuffer.length s.m_width s.m_height frame := by
  unfold PlatformStream.threadSubmitBuffer conversion
  cases s.format with
  | MJPG =>
      cases s.m_rawMode with
      | true => rfl
      | false => rfl
  | _ => rfl

namespace Closing

/-- A stream that was opened, with its thread at the start. -/
def opened (s : PlatformStream) : Closing where
  m_width := s.m_width
  m_height := s.m_height
  m_isOpen := true
  m_quitThread := false
  frameBuffer := s.m_frameBuffer.length
  thread := Thread.start
  readWidth := none
  readHeight := none
  closed := .nothing

/-- The next assignment of `close`, or its `join` with what follows. -/
def closeStep (s : Closing) : Option Closing :=
  match s.closed with
  | .nothing => some { s with m_width := 0, closed := .width }
  | .width => some { s with m_height := 0, closed := .height }
  | .height => some { s with m_isOpen := false, closed := .isOpen }
  | .isOpen => some { s with m_quitThread := true, closed := .quitThread }
  | .quitThread =>
      if s.thread.position = .returned then some { s with frameBuffer := 0, closed := .joined }
      else none
  | .joined => none

/-- The dequeued buffer at hand. -/
def bufferAtHand : Position → Option V4l2Buffer
  | .submitBuffer buf => some buf
  | _ => none

/-- A step, with the accesses of a conversion. -/
def step (tj : TurboJpeg) (format : PixelFormat) (m_rawMode : Bool) (s : Closing) :
    ClosingStep → Except Blocked (List Access × Closing)
  | .thread a =>
      match bufferAtHand s.thread.position, s.thread.step s.m_quitThread a with
      | none, some thread => .ok ([], { s with thread })
      | _, _ => .error .blocked
  | .readWidth =>
      if (bufferAtHand s.thread.position).isSome then .ok ([], { s with readWidth := some s.m_width })
      else .error .blocked
  | .readHeight =>
      if (bufferAtHand s.thread.position).isSome then
        .ok ([], { s with readHeight := some s.m_height })
      else .error .blocked
  | .convert ptr =>
      match bufferAtHand s.thread.position, s.readWidth, s.readHeight with
      | some buf, some width, some height =>
          .ok
            (ptr.elim [] fun memory =>
              conversion tj format m_rawMode s.frameBuffer width height
                ⟨memory, buf.bytesused.toNat⟩,
            { s with
              thread := s.thread.goto (.requeueBuffer buf)
              readWidth := none
              readHeight := none })
      | _, _, _ => .error .blocked
  | .close =>
      match s.closeStep with
      | none => .error .blocked
      | some next => .ok ([], next)

/-- The sizes seen are those of the open stream or 0, and the frame buffer is there until the thread
has returned. -/
structure Sound (stream : PlatformStream) (s : Closing) : Prop where
  width : s.m_width = stream.m_width ∨ s.m_width = 0
  height : s.m_height = stream.m_height ∨ s.m_height = 0
  readWidth : ∀ w, s.readWidth = some w → w = stream.m_width ∨ w = 0
  readHeight : ∀ h, s.readHeight = some h → h = stream.m_height ∨ h = 0
  buffer : s.thread.position ≠ .returned → s.frameBuffer = stream.m_frameBuffer.length

section Step

variable {tj : TurboJpeg} {stream : PlatformStream} {format : PixelFormat} {m_rawMode : Bool}
variable {s t : Closing} {event : ClosingStep} {accesses : List Access}

theorem sound_close (sound : Sound stream s) (ran : s.closeStep = some t) : Sound stream t := by
  obtain ⟨width, height, readWidth, readHeight, buffer⟩ := sound
  simp only [closeStep] at ran
  split at ran
  · cases ran
    exact ⟨Or.inr rfl, height, readWidth, readHeight, buffer⟩
  · cases ran
    exact ⟨width, Or.inr rfl, readWidth, readHeight, buffer⟩
  · cases ran
    exact ⟨width, height, readWidth, readHeight, buffer⟩
  · cases ran
    exact ⟨width, height, readWidth, readHeight, buffer⟩
  · split at ran
    · rename_i returned
      cases ran
      exact ⟨width, height, readWidth, readHeight, fun going => absurd returned going⟩
    · cases ran
  · cases ran

theorem sound_step (sound : Sound stream s)
    (ran : s.step tj format m_rawMode event = .ok (accesses, t)) : Sound stream t := by
  obtain ⟨width, height, readWidth, readHeight, buffer⟩ := sound
  cases event with
  | thread a =>
      simp only [step] at ran
      split at ran
      · rename_i stepped
        cases ran
        exact ⟨width, height, readWidth, readHeight, fun _ => buffer (Helper.going_of_step stepped)⟩
      · cases ran
  | readWidth =>
      simp only [step] at ran
      split at ran
      · cases ran
        refine ⟨width, height, ?_, readHeight, buffer⟩
        rintro w ⟨⟩
        exact width
      · cases ran
  | readHeight =>
      simp only [step] at ran
      split at ran
      · cases ran
        refine ⟨width, height, readWidth, ?_, buffer⟩
        rintro h ⟨⟩
        exact height
      · cases ran
  | convert ptr =>
      simp only [step] at ran
      split at ran
      · rename_i buf w h atHand _ _
        cases ran
        refine ⟨width, height, nofun, nofun, fun _ => buffer fun returned => ?_⟩
        rw [returned] at atHand
        cases atHand
      · cases ran
  | close =>
      simp only [step] at ran
      split at ran
      · cases ran
      · rename_i next stepped
        cases ran
        exact sound_close ⟨width, height, readWidth, readHeight, buffer⟩ stepped

end Step

end Closing

/-- The decoder reports no image without pixels. -/
def ReportsPixels (tj : TurboJpeg) : Prop :=
  ∀ data, (comparedSize tj data).1 ≠ 0 ∧ (comparedSize tj data).2 ≠ 0

section Conversion

variable {tj : TurboJpeg} {stream : PlatformStream} {frame : Delivered} {w h : UInt32}

theorem inBounds_mono {readable writable writable' : Nat} {accesses : List Access}
    (inBounds : InBounds readable writable accesses) (more : writable ≤ writable') :
    InBounds readable writable' accesses := by
  intro access member
  have inside := inBounds access member
  cases access with
  | read offset => exact inside
  | write offset value => exact Nat.lt_of_lt_of_le inside more

theorem product_zero (none_ : w = 0 ∨ h = 0) : (w * h * 3).toNat = 0 := by
  rcases none_ with rfl | rfl <;> simp

/-- With one of its sizes cleared a conversion that is given sizes writes nothing; the others do
not look at them. -/
theorem conversion_inBounds (pixels : ReportsPixels tj)
    (fits : stream.FrameFits tj frame) (width : w = stream.m_width ∨ w = 0)
    (height : h = stream.m_height ∨ h = 0) :
    InBounds frame.bytes stream.m_frameBuffer.length
      (conversion tj stream.format stream.m_rawMode stream.m_frameBuffer.length w h frame) := by
  have whole := PlatformStream.threadSubmitBuffer_inBounds stream frame fits
  rw [threadSubmitBuffer_conversion] at whole
  by_cases cleared : w = 0 ∨ h = 0
  · have none_ : w.toNat = 0 ∨ h.toNat = 0 := by
      rcases cleared with rfl | rfl
      · exact Or.inl rfl
      · exact Or.inr rfl
    have nothing : (w * h * 3).toNat ≤ stream.m_frameBuffer.length := by
      rw [product_zero cleared]
      exact Nat.zero_le _
    unfold conversion at whole ⊢
    cases format : stream.format with
    | NV12 =>
        exact inBounds_mono
          ((NV122RGB_inBounds_iff frame.memory w h).2 (none_.imp_right Or.inl)) nothing
    | YUV420 =>
        exact inBounds_mono
          ((YU122RGB_inBounds_iff frame.memory w h).2 (none_.imp_right Or.inl)) nothing
    | MJPG =>
        cases raw : stream.m_rawMode with
        | true =>
            rw [format, raw] at whole
            exact whole
        | false =>
            have differs : comparedSize tj frame.data ≠ (w, h) := by
              intro same
              have seen := pixels frame.data
              rw [same] at seen
              exact cleared.elim seen.1 seen.2
            simp only [Bool.false_eq_true, if_false, decompressAccesses, if_neg differs,
              List.append_nil]
            exact inBounds_reads.2 (Nat.le_of_eq frame.length_data)
    | RGB24 | YUYV | unsupported =>
        rw [format] at whole
        exact whole
  · obtain ⟨someWidth, someHeight⟩ := not_or.1 cleared
    rw [width.resolve_right someWidth, height.resolve_right someHeight]
    exact whole

end Conversion

/-- **Closing during a conversion.**  In every interleaving of the thread of an open stream with a
`close`, for every pixel format: a dequeued buffer that fits the open stream is converted within
its own bounds and those of the frame buffer, whatever `close` has cleared before or between the
evaluation of the arguments. -/
theorem closing_inBounds (tj : TurboJpeg) (pixels : ReportsPixels tj) (stream : PlatformStream)
    (events : List ClosingStep) :
    ∀ e ∈ Run.trace (Closing.step tj stream.format stream.m_rawMode) (Closing.opened stream) events,
      ∀ buf memory, e.pre.thread.position = .submitBuffer buf → e.input = .convert (some memory) →
        stream.FrameFits tj ⟨memory, buf.bytesused.toNat⟩ →
          InBounds buf.bytesused.toNat e.pre.frameBuffer e.output := by
  intro e member buf memory atHand converts fits
  have sound : Closing.Sound stream e.pre := by
    refine Run.reached_of_preserved (J := Closing.Sound stream) ?_ ?_ e.pre (Run.pre_mem_reached member)
    · exact ⟨Or.inl rfl, Or.inl rfl, nofun, nofun, fun _ => rfl⟩
    · exact fun s event accesses t ran sound => Closing.sound_step sound ran
  have ran := Run.step_of_mem_trace member
  have buffer := sound.buffer (by rw [atHand]; exact nofun)
  rw [converts] at ran
  simp only [Closing.step, Closing.bufferAtHand, atHand] at ran
  split at ran
  · rename_i _ w h same readWidth readHeight
    obtain rfl := Option.some.inj same
    obtain ⟨made, -⟩ := Prod.mk.inj (Except.ok.inj ran)
    rw [← made, buffer]
    exact conversion_inBounds pixels fits (sound.readWidth w readWidth)
      (sound.readHeight h readHeight)
  · cases ran

/-- `close` clears both sizes after the thread has read the width of an NV12 image. -/
theorem closing_inBounds_nv12 :
    let stream := PlatformStream.ofFormat 2 2 (v4l2_fourcc 'N' 'V' '1' '2')
    let events : List ClosingStep :=
      [.thread (.reqbufs (some 2)),
        .thread (.querybuf true), .thread (.mmap true), .thread (.querybuf true),
        .thread (.mmap true), .thread (.qbuf true), .thread (.qbuf true), .thread (.streamon true),
        .thread .condition, .thread (.select .ready), .thread (.dqbuf (.dequeued ⟨0, 6⟩)),
        .readWidth, .close, .close, .readHeight, .convert (some fun _ => 0)]
    ∃ e ∈ Run.trace (Closing.step whiteDecoder stream.format stream.m_rawMode)
        (Closing.opened stream) events,
      (e.pre.readWidth, e.pre.readHeight) = (some 2, some 0) ∧
        InBounds 6 e.pre.frameBuffer e.output := by
  intro stream events
  have pixels : ReportsPixels whiteDecoder := by
    intro data
    show (2 : UInt32) ≠ 0 ∧ (1 : UInt32) ≠ 0
    decide
  have fits : stream.FrameFits whiteDecoder ⟨fun _ => 0, 6⟩ := .inr (.inr (by decide))
  have converted : ∃ e ∈ Run.trace (Closing.step whiteDecoder stream.format stream.m_rawMode)
      (Closing.opened stream) events,
      e.pre.thread.position = .submitBuffer ⟨0, 6⟩ ∧ e.input = .convert (some fun _ => 0) ∧
        (e.pre.readWidth, e.pre.readHeight) = (some 2, some 0) :=
    ⟨_, List.mem_of_getLast? rfl, rfl, rfl, rfl⟩
  obtain ⟨e, member, atHand, converts, seen⟩ := converted
  exact ⟨e, member, seen, closing_inBounds whiteDecoder pixels stream events e member ⟨0, 6⟩
    (fun _ => 0) atHand converts fits⟩

end OpenpnpCapture.Linux
