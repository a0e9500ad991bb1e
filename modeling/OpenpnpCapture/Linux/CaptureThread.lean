/-
# Linux.CaptureThread — the capture thread beside the object it works for

`captureThreadFunctionAsync` as a machine: a position in the code, and at each position that
calls the system one result for every way the call can end.  `xioctl` has retried interrupted
calls already, so EINTR is a result of `select` only.  The thread's object sees the frames it
submits; `close` clears `m_isOpen`, asks the thread to quit and joins it, in this order, from
the client's thread.

The thread returns at a fatal result, or at the loop condition once it was asked to quit
(`step_returned_iff`).  Nothing tells the object of the former: `m_isOpen` belongs to `open`
and `close`.  `open_capturing_iff` is the exact condition under which a stream that is open is
capturing.
-/
import OpenpnpCapture.Common.StreamRun

namespace OpenpnpCapture.Linux

open OpenpnpCapture.Lib OpenpnpCapture.Common

set_option autoImplicit false

/-- The fields of a dequeued `v4l2_buffer` the thread reads. -/
structure V4l2Buffer where
  index : UInt32
  bytesused : UInt32
deriving DecidableEq, Repr

inductive SelectResult
  | interrupted
  | failed
  | timeout
  | ready
deriving DecidableEq, Repr

inductive DequeueResult
  | again
  | failed
  | dequeued (buf : V4l2Buffer)
deriving DecidableEq, Repr

/-- How a step of the thread ends. -/
inductive Answer
  | reqbufs (count : Option UInt32)
  | querybuf (ok : Bool)
  | mmap (ok : Bool)
  | qbuf (ok : Bool)
  | streamon (ok : Bool)
  | select (result : SelectResult)
  | dqbuf (result : DequeueResult)
  /-- `threadSubmitBuffer`, with what it submits to the shared stream. -/
  | submitted (submission : Option Submission)
  /-- The loop condition was evaluated. -/
  | condition
deriving DecidableEq, Repr

/-- Where the thread is: before this call, or returned. -/
inductive Position
  | requestBuffers
  | queryBuffer (b : Nat)
  | mapBuffer (b : Nat)
  | queueBuffer (i : Nat)
  | streamOn
  | loopCondition
  | waitFrame
  | dequeueBuffer
  | submitBuffer (buf : V4l2Buffer)
  | requeueBuffer (buf : V4l2Buffer)
  | returned
deriving DecidableEq, Repr

/-- The thread; `buffers` is the size of its helper's `m_buffers`. -/
structure Thread where
  position : Position
  buffers : Nat
deriving DecidableEq, Repr

namespace Thread

def start : Thread := ⟨.requestBuffers, 0⟩

def goto (t : Thread) (position : Position) : Thread := { t with position }

/-- Go on if the call succeeded, else return. -/
def proceed (t : Thread) (ok : Bool) (position : Position) : Thread :=
  t.goto (if ok then position else .returned)

/-- One step, given what `getThreadQuitState` answers; `none` for an answer to another call. -/
def step (m_quitThread : Bool) (t : Thread) (answer : Answer) : Option Thread :=
  match t.position with
  | .requestBuffers =>
      match answer with
      | .reqbufs none => some (t.goto .returned)
      | .reqbufs (some count) =>
          if count < 2 then some (t.goto .returned)
          else some { position := .queryBuffer 0, buffers := count.toNat }
      | _ => none
  | .queryBuffer b =>
      match answer with
      | .querybuf ok => some (t.proceed ok (.mapBuffer b))
      | _ => none
  | .mapBuffer b =>
      match answer with
      | .mmap ok =>
          some (t.proceed ok (if b + 1 < t.buffers then .queryBuffer (b + 1) else .queueBuffer 0))
      | _ => none
  | .queueBuffer i =>
      match answer with
      | .qbuf ok =>
          some (t.proceed ok (if i + 1 < t.buffers then .queueBuffer (i + 1) else .streamOn))
      | _ => none
  | .streamOn =>
      match answer with
      | .streamon ok => some (t.proceed ok .loopCondition)
      | _ => none
  | .loopCondition =>
      match answer with
      | .condition => some (t.proceed (!m_quitThread) .waitFrame)
      | _ => none
  | .waitFrame =>
      match answer with
      | .select .interrupted => some (t.goto .loopCondition)
      | .select .failed | .select .timeout => some (t.goto .returned)
      | .select .ready => some (t.goto .dequeueBuffer)
      | _ => none
  | .dequeueBuffer =>
      match answer with
      | .dqbuf .again => some (t.goto .loopCondition)
      | .dqbuf .failed => some (t.goto .returned)
      | .dqbuf (.dequeued buf) => some (t.goto (.submitBuffer buf))
      | _ => none
  | .submitBuffer buf =>
      match answer with
      | .submitted _ => some (t.goto (.requeueBuffer buf))
      | _ => none
  | .requeueBuffer _ =>
      match answer with
      | .qbuf ok => some (t.proceed ok .loopCondition)
      | _ => none
  | .returned => none

end Thread

namespace Answer

/-- The results after which the thread returns. -/
def fatal : Answer → Bool
  | .reqbufs none => true
  | .reqbufs (some count) => decide (count < 2)
  | .querybuf ok | .mmap ok | .qbuf ok | .streamon ok => !ok
  | .select .failed | .select .timeout => true
  | .dqbuf .failed => true
  | .select .interrupted | .select .ready | .dqbuf .again | .dqbuf (.dequeued _)
  | .submitted _ | .condition => false

end Answer

/-! ## The thread and the object -/

/-- How far a `close` has come. -/
inductive ClosePosition
  | notCalled
  | markedClosed
  | askedToQuit
  | joined
deriving DecidableEq, Repr

/-- The object and its capture thread. -/
structure Capturing where
  stream : Stream
  m_quitThread : Bool
  thread : Thread
  close : ClosePosition
deriving DecidableEq

/-- A step of the thread, or the next step of `close`. -/
inductive CaptureStep
  | thread (answer : Answer)
  | close

/-- The step is not enabled: an answer to another call, a join of a running thread, or nothing left
to do. -/
inductive Blocked
  | blocked
deriving DecidableEq, Repr

namespace Capturing

/-- What a successful `open` leaves: the thread has been created. -/
def opened (raw : Option UInt32) (width height : UInt32) (frameBufferBytes : Nat) : Capturing where
  stream := Stream.started raw width height frameBufferBytes
  m_quitThread := false
  thread := Thread.start
  close := .notCalled

/-- What a step of the thread does to the object. -/
def submitted (s : Stream) : Answer → Stream
  | .submitted (some submission) => s.submit submission
  | _ => s

def closeStep (s : Capturing) : Option Capturing :=
  match s.close with
  | .notCalled =>
      some { s with
        stream := { s.stream with m_width := 0, m_height := 0, m_isOpen := false }
        close := .markedClosed }
  | .markedClosed => some { s with m_quitThread := true, close := .askedToQuit }
  | .askedToQuit =>
      if s.thread.position = .returned then
        some { s with
          stream := { s.stream with m_frameBuffer := resize s.stream.m_frameBuffer 0 }
          close := .joined }
      else none
  | .joined => none

def step (s : Capturing) : CaptureStep → Except Blocked (Unit × Capturing)
  | .thread answer =>
      match s.thread.step s.m_quitThread answer with
      | none => .error .blocked
      | some thread => .ok ((), { s with thread, stream := submitted s.stream answer })
  | .close =>
      match s.closeStep with
      | none => .error .blocked
      | some next => .ok ((), next)

end Capturing

/-! ## When the thread returns -/

section Thread

variable {m_quitThread : Bool} {t next : Thread} {answer : Answer}

theorem proceed_returned_iff (t : Thread) (ok : Bool) {position : Position}
    (onward : position ≠ .returned) :
    (t.proceed ok position).position = .returned ↔ ok = false := by
  cases ok with
  | true => exact iff_of_false onward Bool.true_eq_false.mp
  | false => exact iff_of_true rfl rfl

theorem goto_returned_iff (t : Thread) (position : Position) :
    (t.goto position).position = .returned ↔ position = .returned := Iff.rfl

theorem step_returned_iff (ran : t.step m_quitThread answer = some next) :
    next.position = .returned ↔
      answer.fatal = true ∨ t.position = .loopCondition ∧ m_quitThread = true := by
  unfold Thread.step at ran
  cases at_ : t.position with
  | requestBuffers =>
      simp only [at_] at ran
      split at ran
      · obtain rfl := Option.some.inj ran
        simp [goto_returned_iff, Answer.fatal]
      · split at ran
        · rename_i few
          obtain rfl := Option.some.inj ran
          simp [goto_returned_iff, Answer.fatal, few]
        · rename_i enough
          obtain rfl := Option.some.inj ran
          simp [Answer.fatal, enough]
      · cases ran
  | mapBuffer b | queueBuffer b =>
      simp only [at_] at ran
      split at ran
      · obtain rfl := Option.some.inj ran
        rw [proceed_returned_iff t _ (by split <;> simp)]
        simp [Answer.fatal]
      · cases ran
  | queryBuffer b | streamOn | loopCondition | requeueBuffer buf =>
      simp only [at_] at ran
      split at ran
      · obtain rfl := Option.some.inj ran
        rw [proceed_returned_iff t _ (by simp)]
        simp [Answer.fatal]
      · cases ran
  | waitFrame | dequeueBuffer | submitBuffer buf =>
      simp only [at_] at ran
      split at ran
      all_goals cases ran
      all_goals simp [goto_returned_iff, Answer.fatal]
  | returned =>
      simp only [at_] at ran
      cases ran

end Thread

/-! ## Open and capturing -/

namespace Capturing

/-- A stream that is open is capturing: its thread has not returned. -/
def OpenIsCapturing (s : Capturing) : Prop :=
  s.stream.isOpen = true → s.thread.position ≠ .returned

/-- The step is no fatal result of a call made for an open stream. -/
def Harmless (s : Capturing) (event : CaptureStep) : Prop :=
  ∀ answer, event = .thread answer → s.stream.isOpen = true → answer.fatal = false

/-- The thread is asked to quit only after the stream was marked as closed. -/
structure QuitAfterClosed (s : Capturing) : Prop where
  asked : s.m_quitThread = true → s.close ≠ .notCalled ∧ s.close ≠ .markedClosed
  marked : s.close ≠ .notCalled → s.stream.isOpen = false

variable {s t : Capturing} {event : CaptureStep}

theorem submit_isOpen (s : Stream) (submission : Submission) :
    (s.submit submission).isOpen = s.isOpen := by
  cases submission with
  | submitBuffer ptr =>
      cases ptr with
      | none => rfl
      | some data =>
          simp only [Stream.submit, Stream.submitBuffer]
          split <;> rfl
  | submitRawBuffer ptr => cases ptr <;> rfl
  | converted image => rfl

theorem submitted_isOpen (s : Stream) (answer : Answer) : (submitted s answer).isOpen = s.isOpen := by
  unfold submitted
  split
  · exact submit_isOpen _ _
  · rfl

theorem step_thread {answer : Answer} (ran : s.step (.thread answer) = .ok ((), t)) :
    ∃ thread, s.thread.step s.m_quitThread answer = some thread ∧
      t = { s with thread, stream := submitted s.stream answer } := by
  simp only [step] at ran
  cases stepped : s.thread.step s.m_quitThread answer with
  | none =>
      rw [stepped] at ran
      cases ran
  | some thread =>
      rw [stepped] at ran
      exact ⟨thread, rfl, (congrArg Prod.snd (Except.ok.inj ran)).symm⟩

/-- A step of `close` leaves the thread where it is, and ends with the stream marked as closed. -/
theorem step_close (ran : s.step .close = .ok ((), t)) :
    t.thread = s.thread ∧ t.close ≠ .notCalled ∧
      (t.stream.isOpen = true → s.stream.isOpen = true ∧ s.close ≠ .notCalled) ∧
      (t.m_quitThread = true → s.m_quitThread = true ∨ s.close = .markedClosed) ∧
      (t.close = .markedClosed → s.close = .notCalled) := by
  simp only [step, closeStep] at ran
  cases position : s.close with
  | notCalled =>
      rw [position] at ran
      cases ran
      simp [Stream.isOpen]
  | markedClosed =>
      rw [position] at ran
      cases ran
      simp
  | askedToQuit =>
      rw [position] at ran
      by_cases returned : s.thread.position = .returned
      · rw [if_pos returned] at ran
        cases ran
        simp [Stream.isOpen]
      · rw [if_neg returned] at ran
        cases ran
  | joined =>
      rw [position] at ran
      cases ran

theorem quitAfterClosed_step (quit : QuitAfterClosed s) (ran : s.step event = .ok ((), t)) :
    QuitAfterClosed t := by
  cases event with
  | thread answer =>
      obtain ⟨thread, -, rfl⟩ := step_thread ran
      refine ⟨quit.asked, fun called => ?_⟩
      exact (submitted_isOpen s.stream answer).trans (quit.marked called)
  | close =>
      obtain ⟨-, called, opened, asked, marked⟩ := step_close ran
      refine ⟨fun quitting => ⟨called, fun position => ?_⟩, fun _ => ?_⟩
      · have before := marked position
        rcases asked quitting with already | markedBefore
        · exact (quit.asked already).1 before
        · rw [before] at markedBefore
          cases markedBefore
      · by_contra stillOpen
        obtain ⟨wasOpen, wasCalled⟩ := opened (Bool.not_eq_false _ ▸ stillOpen)
        rw [quit.marked wasCalled] at wasOpen
        cases wasOpen

/-- A step from a capturing stream leaves it capturing exactly if it is harmless. -/
theorem openIsCapturing_step_iff (quit : QuitAfterClosed s) (capturing : OpenIsCapturing s)
    (ran : s.step event = .ok ((), t)) : OpenIsCapturing t ↔ Harmless s event := by
  cases event with
  | close =>
      obtain ⟨thread, -, opened, -, -⟩ := step_close ran
      refine iff_of_true (fun isOpen => ?_) fun answer impossible => by cases impossible
      rw [thread]
      exact capturing (opened isOpen).1
  | thread answer =>
      obtain ⟨thread, stepped, rfl⟩ := step_thread ran
      have returned := step_returned_iff stepped
      have notQuitting (isOpen : s.stream.isOpen = true) : s.m_quitThread = false := by
        by_contra quitting
        have called := (quit.asked (Bool.not_eq_false _ ▸ quitting)).1
        rw [quit.marked called] at isOpen
        cases isOpen
      simp only [OpenIsCapturing, Harmless, submitted_isOpen, CaptureStep.thread.injEq,
        forall_eq']
      refine forall_congr' fun isOpen => ?_
      rw [ne_eq, returned, notQuitting isOpen]
      simp

/-- **Open and capturing.**  Between `open` and the end of `close`, whatever the device answers and
whatever the thread submits, a stream that is open is capturing in every state exactly if no
call made for the open stream has a fatal result. -/
theorem open_capturing_iff (raw : Option UInt32) (width height : UInt32) (frameBufferBytes : Nat)
    (events : List CaptureStep) :
    (∀ s ∈ Run.reached step (opened raw width height frameBufferBytes) events, OpenIsCapturing s) ↔
      ∀ e ∈ Run.trace step (opened raw width height frameBufferBytes) events,
        Harmless e.pre e.input := by
  refine Run.reached_iff_trace (J := QuitAfterClosed) ⟨fun asked => ?_, fun called => ?_⟩
    (fun _ => ?_) ?_ ?_ events
  · cases asked
  · exact absurd rfl called
  · intro returned
    cases returned
  · exact fun s event _ t ran quit => quitAfterClosed_step quit ran
  · exact fun s event _ t ran quit capturing => openIsCapturing_step_iff quit capturing ran

/-- The device is unplugged after the stream was opened: the stream is still open, its thread has
returned. -/
theorem open_not_capturing :
    ∃ s ∈ Run.reached step (opened none 2 1 6)
      [.thread (.reqbufs (some 2)),
        .thread (.querybuf true), .thread (.mmap true), .thread (.querybuf true), .thread (.mmap true),
        .thread (.qbuf true), .thread (.qbuf true), .thread (.streamon true),
        .thread .condition, .thread (.select .ready), .thread (.dqbuf .failed)],
      ¬ OpenIsCapturing s := by
  refine ⟨_, List.mem_of_getLast? rfl, fun capturing => ?_⟩
  exact capturing rfl rfl

end Capturing

end OpenpnpCapture.Linux
