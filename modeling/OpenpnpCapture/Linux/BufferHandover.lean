/-
# Linux.BufferHandover — the buffers between the capture thread and the driver

The capture thread beside the driver it exchanges buffers with.  A successful `VIDIOC_QBUF`
gives a buffer to the driver, a successful `VIDIOC_DQBUF` takes back one the driver holds; an
`ioctl` ended by a signal is called again by `xioctl`.  What `getThreadQuitState` answers is an
input, since a `close` may come at any time.

`Inv` says for each position of the thread which buffers the driver holds and how far the
exchange of the current one is: all of them while the thread is between two frames, all but
the dequeued one until that has been submitted and queued again.
-/
import Mathlib.Data.Finset.Range
import OpenpnpCapture.Lib.Handover
import OpenpnpCapture.Linux.CaptureThread

namespace OpenpnpCapture.Linux

open OpenpnpCapture.Lib OpenpnpCapture.Lib.Handover OpenpnpCapture.Common

set_option autoImplicit false

/-- A frame: the mapped buffer it lies in, by number, and its length. -/
structure Frame where
  start : Option Nat
  bytes : UInt32
deriving DecidableEq, Repr

/-- The frame in a buffer the driver filled. -/
def V4l2Buffer.frame (buf : V4l2Buffer) : Frame :=
  ⟨some buf.index.toNat, buf.bytesused⟩

/-- `getBufferPointer`; `none` is the null pointer. -/
def getBufferPointer (m_buffers : Nat) (index : UInt32) : Option Nat :=
  if index.toNat < m_buffers then some index.toNat else none

/-- The thread and the buffers the driver holds. -/
structure Exchange where
  thread : Thread
  queued : Finset Nat
deriving DecidableEq

inductive ExchangeEvent
  /-- The `ioctl` at hand was ended by a signal. -/
  | interrupted
  | answer (m_quitThread : Bool) (a : Answer)

namespace Exchange

def start : Exchange := ⟨Thread.start, ∅⟩

/-- The thread is in an `ioctl`. -/
def inIoctl : Position → Bool
  | .requestBuffers | .queryBuffer _ | .queueBuffer _ | .streamOn | .dequeueBuffer
  | .requeueBuffer _ => true
  | .mapBuffer _ | .loopCondition | .waitFrame | .submitBuffer _ | .returned => false

/-- The buffer a call to `VIDIOC_QBUF` gives to the driver. -/
def queues : Position → Answer → Option Nat
  | .queueBuffer i, .qbuf true => some i
  | .requeueBuffer buf, .qbuf true => some buf.index.toNat
  | _, _ => none

/-- The driver's side of a step; `none` for a dequeued buffer it does not hold. -/
def driverStep (s : Exchange) (a : Answer) : Option (Finset Nat) :=
  match a with
  | .dqbuf (.dequeued buf) =>
      if buf.index.toNat ∈ s.queued then some (s.queued.erase buf.index.toNat) else none
  | _ =>
      match queues s.thread.position a with
      | some i => some (insert i s.queued)
      | none => some s.queued

/-- What a step does with a frame. -/
def move (t : Thread) (a : Answer) : Option (Move Frame) :=
  match t.position, a with
  | .dequeueBuffer, .dqbuf (.dequeued buf) => some (.take buf.frame)
  | .submitBuffer buf, .submitted _ =>
      some (.use ⟨getBufferPointer t.buffers buf.index, buf.bytesused⟩)
  | .requeueBuffer buf, .qbuf true => some (.giveBack buf.frame)
  | _, _ => none

def step (s : Exchange) : ExchangeEvent → Except Blocked (Option (Move Frame) × Exchange)
  | .interrupted => if inIoctl s.thread.position then .ok (none, s) else .error .blocked
  | .answer m_quitThread a =>
      match s.thread.step m_quitThread a, s.driverStep a with
      | some thread, some queued => .ok (move s.thread a, { thread, queued })
      | _, _ => .error .blocked

/-- All buffers the helper created. -/
def created (s : Exchange) : Finset Nat := Finset.range s.thread.buffers

/-! ## The invariant -/

/-- Which buffers the driver holds and how far the exchange is, by the thread's position. -/
def Inv (s : Exchange) (stage : Stage Frame) : Prop :=
  match s.thread.position with
  | .requestBuffers => s.queued = ∅ ∧ stage = .idle
  | .queryBuffer _ | .mapBuffer _ => 0 < s.thread.buffers ∧ s.queued = ∅ ∧ stage = .idle
  | .queueBuffer i => i < s.thread.buffers ∧ s.queued = Finset.range i ∧ stage = .idle
  | .streamOn | .loopCondition | .waitFrame | .dequeueBuffer => s.queued = s.created ∧ stage = .idle
  | .submitBuffer buf =>
      buf.index.toNat ∈ s.created ∧ s.queued = s.created.erase buf.index.toNat ∧
        stage = .taken buf.frame
  | .requeueBuffer buf =>
      buf.index.toNat ∈ s.created ∧ s.queued = s.created.erase buf.index.toNat ∧
        stage = .used buf.frame
  | .returned => stage.unused = []

/-- The stage after a step that makes this move, if it makes one. -/
def Advances (stage : Stage Frame) : Option (Move Frame) → Stage Frame → Prop
  | none, next => next = stage
  | some m, next => Moves stage m next

section Step

variable {s t : Exchange} {stage : Stage Frame} {moved : Option (Move Frame)}

theorem step_answer {m_quitThread : Bool} {a : Answer}
    (ran : s.step (.answer m_quitThread a) = .ok (moved, t)) :
    ∃ thread queued, s.thread.step m_quitThread a = some thread ∧ s.driverStep a = some queued ∧
      moved = move s.thread a ∧ t = { thread, queued } := by
  simp only [step] at ran
  split at ran
  · rename_i thread queued stepped driven
    cases ran
    exact ⟨thread, queued, stepped, driven, rfl, rfl⟩
  · cases ran

/-- A call after which the thread goes on or returns, between two frames. -/
theorem inv_proceed {position : Position} {ok : Bool} {queued : Finset Nat} {th : Thread}
    (onward : Inv ⟨th.goto position, queued⟩ .idle) : Inv ⟨th.proceed ok position, queued⟩ .idle := by
  cases ok with
  | true => exact onward
  | false => rfl

/-- Queueing the buffers one by one. -/
theorem inv_queueNext {i buffers : Nat} (inRange : i < buffers) :
    Inv ⟨⟨if i + 1 < buffers then .queueBuffer (i + 1) else .streamOn, buffers⟩,
      insert i (Finset.range i)⟩ .idle := by
  rw [← Finset.range_add_one]
  by_cases more : i + 1 < buffers
  · rw [if_pos more]
    exact ⟨more, rfl, rfl⟩
  · rw [if_neg more]
    refine ⟨?_, rfl⟩
    show Finset.range (i + 1) = Finset.range buffers
    congr 1
    omega

/-- One step keeps the invariant and makes at most one move of the exchange. -/
theorem inv_step {event : ExchangeEvent} (inv : s.Inv stage) (ran : s.step event = .ok (moved, t)) :
    ∃ next, Advances stage moved next ∧ t.Inv next := by
  cases event with
  | interrupted =>
      simp only [step] at ran
      split at ran
      · cases ran
        exact ⟨stage, rfl, inv⟩
      · cases ran
  | answer m_quitThread a =>
      obtain ⟨thread, queued, stepped, driven, rfl, rfl⟩ := step_answer ran
      obtain ⟨⟨position, buffers⟩, held⟩ := s
      cases position with
      | requestBuffers =>
          obtain ⟨rfl, rfl⟩ := inv
          simp only [Thread.step] at stepped
          split at stepped
          · cases stepped
            cases driven
            exact ⟨_, rfl, rfl⟩
          · cases driven
            split at stepped
            · cases stepped
              exact ⟨_, rfl, rfl⟩
            · rename_i enough
              cases stepped
              refine ⟨_, rfl, ?_, rfl, rfl⟩
              have := UInt32.le_iff_toNat_le.1 (UInt32.not_lt.1 enough)
              exact Nat.lt_of_lt_of_le (by decide) this
          · cases stepped
      | queryBuffer b =>
          obtain ⟨some_, rfl, rfl⟩ := inv
          simp only [Thread.step] at stepped
          split at stepped
          · cases stepped
            cases driven
            exact ⟨_, rfl, inv_proceed ⟨some_, rfl, rfl⟩⟩
          · cases stepped
      | mapBuffer b =>
          obtain ⟨some_, rfl, rfl⟩ := inv
          simp only [Thread.step] at stepped
          split at stepped
          · cases stepped
            cases driven
            refine ⟨_, rfl, inv_proceed ?_⟩
            by_cases more : b + 1 < buffers
            · rw [if_pos more]
              exact ⟨some_, rfl, rfl⟩
            · rw [if_neg more]
              exact ⟨some_, rfl, rfl⟩
          · cases stepped
      | queueBuffer i =>
          obtain ⟨inRange, rfl, rfl⟩ := inv
          simp only [Thread.step] at stepped
          split at stepped
          · rename_i ok
            cases stepped
            cases ok with
            | true =>
                cases driven
                exact ⟨_, rfl, inv_queueNext inRange⟩
            | false => exact ⟨_, rfl, rfl⟩
          · cases stepped
      | streamOn | loopCondition =>
          obtain ⟨all, rfl⟩ := inv
          simp only [Thread.step] at stepped
          split at stepped
          · cases stepped
            cases driven
            exact ⟨_, rfl, inv_proceed ⟨all, rfl⟩⟩
          · cases stepped
      | waitFrame =>
          obtain ⟨all, rfl⟩ := inv
          simp only [Thread.step] at stepped
          split at stepped
          all_goals cases stepped
          all_goals cases driven
          · exact ⟨_, rfl, all, rfl⟩
          · exact ⟨_, rfl, rfl⟩
          · exact ⟨_, rfl, rfl⟩
          · exact ⟨_, rfl, all, rfl⟩
      | dequeueBuffer =>
          obtain ⟨all, rfl⟩ := inv
          obtain rfl : held = Finset.range buffers := all
          simp only [Thread.step] at stepped
          split at stepped
          · cases stepped
            cases driven
            exact ⟨_, rfl, rfl, rfl⟩
          · cases stepped
            exact ⟨_, rfl, rfl⟩
          · rename_i buf
            cases stepped
            simp only [driverStep] at driven
            split at driven
            · rename_i holds
              cases driven
              exact ⟨_, .take buf.frame, holds, rfl, rfl⟩
            · cases driven
          · cases stepped
      | submitBuffer buf =>
          obtain ⟨inRange, rest, rfl⟩ := inv
          obtain rfl : held = (Finset.range buffers).erase buf.index.toNat := rest
          simp only [Thread.step] at stepped
          split at stepped
          · cases stepped
            cases driven
            have mapped : getBufferPointer buffers buf.index = some buf.index.toNat :=
              if_pos (Finset.mem_range.1 inRange)
            refine ⟨.used buf.frame, ?_, inRange, rfl, rfl⟩
            simp only [move, mapped]
            exact .use buf.frame
          · cases stepped
      | requeueBuffer buf =>
          obtain ⟨inRange, rest, rfl⟩ := inv
          obtain rfl : held = (Finset.range buffers).erase buf.index.toNat := rest
          simp only [Thread.step] at stepped
          split at stepped
          · rename_i ok
            cases stepped
            cases ok with
            | true =>
                cases driven
                exact ⟨.idle, .giveBack buf.frame, Finset.insert_erase inRange, rfl⟩
            | false => exact ⟨_, rfl, rfl⟩
          · cases stepped
      | returned => cases stepped

end Step

/-! ## Over a run -/

/-- The moves the steps so far made. -/
def moves (past : List (Run.Entry Exchange ExchangeEvent (Option (Move Frame)))) : List (Move Frame) :=
  past.filterMap Run.Entry.output

/-- The thread is in the capture loop. -/
def inLoop : Position → Bool
  | .loopCondition | .waitFrame | .dequeueBuffer | .submitBuffer _ | .requeueBuffer _ => true
  | .requestBuffers | .queryBuffer _ | .mapBuffer _ | .queueBuffer _ | .streamOn | .returned => false

/-- The frame dequeued and about to be passed to `threadSubmitBuffer`. -/
def aboutToSubmit : Position → List Frame
  | .submitBuffer buf => [buf.frame]
  | _ => []

section Run

variable {s : Exchange} {stage : Stage Frame}

theorem Inv.unused (inv : s.Inv stage) : stage.unused = aboutToSubmit s.thread.position := by
  unfold Inv at inv
  cases position : s.thread.position with
  | submitBuffer buf | requeueBuffer buf =>
      rw [position] at inv
      obtain ⟨-, -, rfl⟩ := inv
      rfl
  | queryBuffer b | mapBuffer b | queueBuffer b =>
      rw [position] at inv
      obtain ⟨-, -, rfl⟩ := inv
      rfl
  | requestBuffers | streamOn | loopCondition | waitFrame | dequeueBuffer =>
      rw [position] at inv
      obtain ⟨-, rfl⟩ := inv
      rfl
  | returned =>
      rw [position] at inv
      exact inv

/-- In the loop all buffers are queued, or all but one. -/
theorem Inv.out_le_one (inv : s.Inv stage) (looping : inLoop s.thread.position = true) :
    (s.created \ s.queued).card ≤ 1 := by
  unfold Inv at inv
  cases position : s.thread.position with
  | loopCondition | waitFrame | dequeueBuffer =>
      rw [position] at inv
      rw [inv.1, Finset.sdiff_self]
      exact Nat.zero_le 1
  | submitBuffer buf | requeueBuffer buf =>
      rw [position] at inv
      rw [inv.2.1, Finset.sdiff_erase_self inv.1]
      exact Nat.le_of_eq (Finset.card_singleton _)
  | _ =>
      rw [position] at looping
      cases looping

theorem inv_start : start.Inv .idle := ⟨rfl, rfl⟩

theorem moves_snoc (past : List (Run.Entry Exchange ExchangeEvent (Option (Move Frame))))
    (e : Run.Entry Exchange ExchangeEvent (Option (Move Frame))) :
    moves (past ++ [e]) = moves past ++ e.output.toList := by
  rw [moves, List.filterMap_append, List.filterMap_cons]
  cases e.output <;> rfl

/-- What the moves so far say about the state they led to. -/
theorem follows_run (events : List ExchangeEvent)
    {past future : List (Run.Entry Exchange ExchangeEvent (Option (Move Frame)))}
    (split : Run.trace step start events = past ++ future) :
    ∃ stage, Follows (moves past) stage ∧ (Run.endState start past).Inv stage := by
  refine Run.endState_history (H := fun past s => ∃ stage, Follows (moves past) stage ∧ s.Inv stage)
    ⟨.idle, .nil, inv_start⟩ ?_ events split
  rintro past s event moved t ⟨stage, follows, inv⟩ ran
  obtain ⟨next, advances, kept⟩ := inv_step inv ran
  refine ⟨next, ?_, kept⟩
  rw [moves_snoc]
  cases moved with
  | none =>
      obtain rfl : next = stage := advances
      simpa using follows
  | some m => exact .snoc follows advances

end Run

/-- **The buffers of the capture loop.**  Whatever `select`, `VIDIOC_DQBUF` and `VIDIOC_QBUF`
answer: when the loop condition is evaluated the driver holds all buffers created, at most one is
out while the loop runs, the frames passed to `threadSubmitBuffer` are the frames dequeued, in
order and each once, and a buffer is queued again after its frame was passed. -/
theorem buffers_handed_over (events : List ExchangeEvent) :
    (∀ e ∈ Run.trace step start events, ∀ m_quitThread, e.input = .answer m_quitThread .condition →
      e.pre.queued = e.pre.created) ∧
    (∀ s ∈ Run.reached step start events, inLoop s.thread.position = true →
      (s.created \ s.queued).card ≤ 1) ∧
    (∀ past future, Run.trace step start events = past ++ future →
      taken (moves past) =
        used (moves past) ++ aboutToSubmit (Run.endState start past).thread.position) ∧
    ∀ past e future frame, Run.trace step start events = past ++ e :: future →
      e.output = some (.giveBack frame) →
      used (moves past) = taken (moves past) ∧ (taken (moves past)).getLast? = some frame := by
  refine ⟨?_, ?_, ?_, ?_⟩
  · intro e member m_quitThread evaluated
    obtain ⟨past, future, split⟩ := List.append_of_mem member
    obtain ⟨stage, -, inv⟩ := follows_run events split
    rw [← Run.pre_eq_endState split] at inv
    have ran := Run.step_of_mem_trace member
    rw [evaluated] at ran
    obtain ⟨thread, -, stepped, -⟩ := step_answer ran
    -- only the loop condition answers to its evaluation
    unfold Inv at inv
    cases position : e.pre.thread.position with
    | loopCondition =>
        rw [position] at inv
        exact inv.1
    | _ => simp [Thread.step, position] at stepped
  · intro s member looping
    have reached : ∃ stage, s.Inv stage := by
      refine Run.reached_of_preserved (J := fun s => ∃ stage, s.Inv stage) ⟨.idle, inv_start⟩ ?_ s
        member
      rintro s event moved t ran ⟨stage, inv⟩
      obtain ⟨next, -, kept⟩ := inv_step inv ran
      exact ⟨next, kept⟩
    obtain ⟨stage, inv⟩ := reached
    exact inv.out_le_one looping
  · intro past future split
    obtain ⟨stage, follows, inv⟩ := follows_run events split
    rw [follows.taken_eq, inv.unused]
  · intro past e future frame split gives
    obtain ⟨stage, follows, inv⟩ := follows_run events split
    rw [← Run.pre_eq_endState split] at inv
    have ran := Run.step_of_mem_trace (split ▸ List.mem_append_right past List.mem_cons_self)
    rw [gives] at ran
    obtain ⟨next, advances, -⟩ := inv_step inv ran
    exact follows.givenBack advances

end Exchange

end OpenpnpCapture.Linux
