/-
# Mac.FrameCount — frames delivered while `open` is still running

`open` calls `startRunning`, and then unlocks the device, creates the `UVCCtrl`, sets `m_isOpen` and
resets `m_frames`.  The dispatch queue calls the delegate from `startRunning` on, and `open` does not
hold `m_bufferMutex`.  The other platforms reset the counter before they start to capture.

A `Session` is both parties at work.  `m_frames++` is a load and a store, so that the reset can also
come between the two; the rest of a submission is seen under the mutex only and is put with the
store.  The queue is serial.  Clients have the stream once `open` has returned.

The counter is right as long as no frame is stored before the reset (`frames_counted`); a frame that
is stored before is missing for good (`short_by_early_frames`).
-/
import OpenpnpCapture.Common.StreamRun
import OpenpnpCapture.Mac.PlatformStream

namespace OpenpnpCapture.Mac

open OpenpnpCapture.Lib OpenpnpCapture.Common

set_option autoImplicit false

/-! ## The two parties -/

/-- What `open` does next, from `startRunning` on. -/
inductive OpenStep
  | unlockForConfiguration
  | createUVCCtrl
  | setIsOpen
  | resetFrames
  | returnTrue
  | returned
deriving DecidableEq, Repr

/-- The counter has been reset. -/
def OpenStep.resetDone : OpenStep → Bool
  | .returnTrue | .returned => true
  | _ => false

structure Session where
  stream : PlatformStream
  next : OpenStep
  /-- The sample buffer the delegate is submitting, and `m_frames` as it was loaded. -/
  submitting : Option (SampleBuffer × UInt32)
  /-- How many frames were stored since `startRunning`. -/
  stored : Nat

inductive SessionEvent
  | openStep
  | deliver (sampleBuffer : SampleBuffer)
  | store
  | query (q : StreamQuery)

/-- The calls that lock `m_bufferMutex`. -/
def locks : StreamQuery → Bool
  | .captureFrame _ _ | .captureFrameRaw _ _ _ | .getFrameSize _ | .decodeFrame _ _ _
  | .hasNewFrame => true
  | _ => false

namespace PlatformStream

/-- `open` on a stream up to `startRunning`. -/
def started (s : Stream) (m_tmpBuffer : Bytes) (width height fourCC : UInt32) : PlatformStream where
  toStream :=
    { s with
      m_width := width
      m_height := height
      m_frameBuffer := resize s.m_frameBuffer (width * height * 3).toNat }
  m_fourCC := fourCC
  m_tmpBuffer := resize m_tmpBuffer (width * height * 3).toNat
  sized := ⟨length_resize _ _, length_resize _ _⟩

def setIsOpen (s : PlatformStream) : PlatformStream :=
  { s with m_isOpen := true, sized := ⟨s.sized.frameBuffer, s.sized.tmpBuffer⟩ }

def setFrames (s : PlatformStream) (m_frames : UInt32) : PlatformStream :=
  { s with m_frames := m_frames, sized := ⟨s.sized.frameBuffer, s.sized.tmpBuffer⟩ }

/-- A client's call. -/
def query (s : PlatformStream) (q : StreamQuery) : PlatformStream :=
  { s with
    toStream := (q.act s.toStream).2
    sized := by
      rw [Stream.act_stream]
      exact ⟨s.sized.frameBuffer, s.sized.tmpBuffer⟩ }

/-- The delegate gets as far as storing a frame. -/
def Stores (s : PlatformStream) (sampleBuffer : SampleBuffer) : Prop :=
  ¬ sampleBuffer.numSamples < 1 ∧
    if s.m_rawMode then sampleBuffer.dataBuffer.isSome = true
    else sampleBuffer.imageBuffer.isSome = true ∧ s.m_tmpBuffer ≠ []

instance (s : PlatformStream) (sampleBuffer : SampleBuffer) : Decidable (s.Stores sampleBuffer) :=
  inferInstanceAs (Decidable (¬ sampleBuffer.numSamples < 1 ∧
    if s.m_rawMode then sampleBuffer.dataBuffer.isSome = true
    else sampleBuffer.imageBuffer.isSome = true ∧ s.m_tmpBuffer ≠ []))

/-- Without frames in between `open` ends as the steps after `startRunning` do. -/
theorem open_eq_started {s : Stream} {m_tmpBuffer : Bytes} {a : OpenAnswers}
    {width height fourCC : UInt32} {result : PlatformStream}
    (opened : «open» s m_tmpBuffer a width height fourCC = some result) :
    result = ((started s m_tmpBuffer width height fourCC).setIsOpen).setFrames 0 := by
  unfold «open» at opened
  iterate 5
    split at opened
    · cases opened
  split at opened
  · cases opened
  · rename_i bestFormat found
    split at opened
    · cases opened
    · have format := List.find?_some found
      simp only [Bool.and_eq_true, decide_eq_true_eq] at format
      obtain rfl := format.2
      exact (Option.some.inj opened).symm

/-- `callback` stores a frame of the size `open` gave both buffers, unless that is none at all. -/
theorem callback_spec (convert : Conversion) (s : PlatformStream) (ptr : Nat → UInt8)
    (bytes : UInt32) :
    (s.m_tmpBuffer ≠ [] →
      (s.callback convert ptr bytes).stream.m_frames = s.m_frames + 1 ∧
        (s.callback convert ptr bytes).stream.m_newFrame = true) ∧
      (s.m_tmpBuffer = [] → (s.callback convert ptr bytes).stream.toStream = s.toStream) := by
  unfold callback
  rw [if_neg (not_not.2 s.sized.tmpBuffer)]
  constructor
  · intro some_bytes
    have filled (accesses : List Access) : tmpData (store s.m_tmpBuffer accesses) =
        some (store s.m_tmpBuffer accesses) := by
      rw [tmpData, if_neg]
      rw [List.isEmpty_iff_length_eq_zero, length_store]
      exact fun none => some_bytes (List.eq_nil_of_length_eq_zero none)
    have room (accesses : List Access) :
        (store s.m_tmpBuffer accesses).length ≤ s.m_frameBuffer.length := by
      rw [length_store, s.sized.tmpBuffer, s.sized.frameBuffer]
    simp only [filled, Stream.submitBuffer, if_pos (room _), and_self]
  · intro empty
    have none (accesses : List Access) : tmpData (store s.m_tmpBuffer accesses) = none := by
      rw [tmpData, if_pos]
      rw [List.isEmpty_iff_length_eq_zero, length_store, empty]
      rfl
    simp only [none, Stream.submitBuffer]

/-- What a call of the delegate does to the counter and the flag. -/
theorem captureOutput_spec (convert : Conversion) (s : PlatformStream) (sampleBuffer : SampleBuffer) :
    (s.Stores sampleBuffer →
      (s.captureOutput convert sampleBuffer).stream.m_frames = s.m_frames + 1 ∧
        (s.captureOutput convert sampleBuffer).stream.m_newFrame = true) ∧
      (¬ s.Stores sampleBuffer →
        (s.captureOutput convert sampleBuffer).stream.toStream = s.toStream) := by
  unfold captureOutput Stores
  by_cases empty : sampleBuffer.numSamples < 1
  · simp [empty]
  · by_cases raw : s.m_rawMode = true
    · cases data : sampleBuffer.dataBuffer <;>
        simp [empty, raw, submitRaw, Stream.submitRawBuffer]
    · cases image : sampleBuffer.imageBuffer with
      | none => simp [empty, raw]
      | some pixelBuffer =>
          have spec := callback_spec convert s pixelBuffer.baseAddress
            (.ofNat (pixelBuffer.height * pixelBuffer.bytesPerRow))
          simpa [empty, raw] using spec

theorem length_tmpBuffer_captureOutput (convert : Conversion) (s : PlatformStream)
    (sampleBuffer : SampleBuffer) :
    (s.captureOutput convert sampleBuffer).stream.m_tmpBuffer.length = s.m_tmpBuffer.length := by
  unfold captureOutput
  split
  · rfl
  · split
    · rfl
    · split
      · rfl
      · unfold callback
        split
        · rfl
        · exact length_store _ _

/-- A call that stores nothing leaves it to the next one to store the same frames. -/
theorem stores_captureOutput {convert : Conversion} {s : PlatformStream}
    {sampleBuffer : SampleBuffer} (other : ¬ s.Stores sampleBuffer) (later : SampleBuffer) :
    (s.captureOutput convert sampleBuffer).stream.Stores later ↔ s.Stores later := by
  have length := length_tmpBuffer_captureOutput convert s sampleBuffer
  have same := (captureOutput_spec convert s sampleBuffer).2 other
  have empty : (s.captureOutput convert sampleBuffer).stream.m_tmpBuffer = [] ↔
      s.m_tmpBuffer = [] := by
    rw [← List.length_eq_zero_iff, length, List.length_eq_zero_iff]
  simp only [Stores, same, ne_eq, empty]

theorem stores_query (s : PlatformStream) (q : StreamQuery) (sampleBuffer : SampleBuffer) :
    (s.query q).Stores sampleBuffer ↔ s.Stores sampleBuffer := by
  unfold query Stores
  rw [show (q.act s.toStream).2.m_rawMode = s.m_rawMode by rw [Stream.act_stream]]

end PlatformStream

namespace Session

/-- The session when `startRunning` has been called. -/
def start (stream : PlatformStream) : Session :=
  { stream, next := .unlockForConfiguration, submitting := none, stored := 0 }

/-- One step of either party, or a client's call; an error if it is not its turn. -/
def step (convert : Conversion) (s : Session) : SessionEvent → Except Unit (Reply × Session)
  | .openStep =>
      match s.next with
      | .unlockForConfiguration => .ok (.none, { s with next := .createUVCCtrl })
      | .createUVCCtrl => .ok (.none, { s with next := .setIsOpen })
      | .setIsOpen => .ok (.none, { s with stream := s.stream.setIsOpen, next := .resetFrames })
      | .resetFrames => .ok (.none, { s with stream := s.stream.setFrames 0, next := .returnTrue })
      | .returnTrue => .ok (.none, { s with next := .returned })
      | .returned => .error ()
  | .deliver sampleBuffer =>
      if s.submitting.isSome then .error ()
      else if s.stream.Stores sampleBuffer then
        .ok (.none, { s with submitting := some (sampleBuffer, s.stream.m_frames) })
      else
        .ok (.none, { s with stream := (s.stream.captureOutput convert sampleBuffer).stream })
  | .store =>
      match s.submitting with
      | none => .error ()
      | some (sampleBuffer, m_frames) =>
          .ok (.none,
            { s with
              stream := ((s.stream.setFrames m_frames).captureOutput convert sampleBuffer).stream
              submitting := none
              stored := s.stored + 1 })
  | .query q =>
      if s.next = .returned ∧ (locks q = true → s.submitting.isNone) then
        .ok ((q.act s.stream.toStream).1, { s with stream := s.stream.query q })
      else .error ()

/-- Two sessions alike in all that counting depends on, but perhaps for the flag lowered. -/
structure Alike (s t : Session) : Prop where
  frames : t.stream.m_frames = s.stream.m_frames
  stored : t.stored = s.stored
  submitting : t.submitting = s.submitting
  stores : ∀ sampleBuffer, t.stream.Stores sampleBuffer ↔ s.stream.Stores sampleBuffer
  lowered : t.stream.m_newFrame = true → s.stream.m_newFrame = true
  resetDone : t.next.resetDone = s.next.resetDone

section Steps

variable {convert : Conversion} {s t : Session} {event : SessionEvent} {reply : Reply}

theorem alike_next {next : OpenStep} (same : next.resetDone = s.next.resetDone) :
    Alike s { s with next } :=
  ⟨rfl, rfl, rfl, fun _ => Iff.rfl, id, same⟩

/-- All a step can do to the counter: nothing, the reset, the load or the store. -/
theorem step_cases (ran : s.step convert event = .ok (reply, t)) :
    Alike s t ∨
      (event = .openStep ∧ s.next = .resetFrames ∧
        t = { s with stream := s.stream.setFrames 0, next := .returnTrue }) ∨
      (∃ sampleBuffer, event = .deliver sampleBuffer ∧ s.submitting = none ∧
        s.stream.Stores sampleBuffer ∧
          t = { s with submitting := some (sampleBuffer, s.stream.m_frames) }) ∨
      ∃ sampleBuffer m_frames, event = .store ∧ s.submitting = some (sampleBuffer, m_frames) ∧
        t = { s with
          stream := ((s.stream.setFrames m_frames).captureOutput convert sampleBuffer).stream
          submitting := none
          stored := s.stored + 1 } := by
  cases event with
  | openStep =>
      simp only [step] at ran
      cases next : s.next with
      | unlockForConfiguration =>
          rw [next] at ran
          cases ran
          exact .inl (alike_next (by rw [next]; rfl))
      | createUVCCtrl =>
          rw [next] at ran
          cases ran
          exact .inl (alike_next (by rw [next]; rfl))
      | setIsOpen =>
          rw [next] at ran
          cases ran
          exact .inl ⟨rfl, rfl, rfl, fun _ => Iff.rfl, id, by rw [next]; rfl⟩
      | resetFrames =>
          rw [next] at ran
          cases ran
          exact .inr (.inl ⟨rfl, rfl, rfl⟩)
      | returnTrue =>
          rw [next] at ran
          cases ran
          exact .inl (alike_next (by rw [next]; rfl))
      | returned =>
          rw [next] at ran
          cases ran
  | deliver sampleBuffer =>
      simp only [step] at ran
      split at ran
      · cases ran
      · rename_i idle
        split at ran
        · rename_i stores
          cases ran
          exact .inr (.inr (.inl ⟨sampleBuffer, rfl, by simpa using idle, stores, rfl⟩))
        · rename_i other
          cases ran
          have same := (PlatformStream.captureOutput_spec convert s.stream sampleBuffer).2 other
          refine .inl ⟨congrArg Stream.m_frames same, rfl, rfl,
            PlatformStream.stores_captureOutput other, fun raised => ?_, rfl⟩
          exact (congrArg Stream.m_newFrame same).symm.trans raised
  | store =>
      simp only [step] at ran
      cases submitting : s.submitting with
      | none => rw [submitting] at ran; cases ran
      | some loaded =>
          rw [submitting] at ran
          cases ran
          exact .inr (.inr (.inr ⟨_, _, rfl, rfl, rfl⟩))
  | query q =>
      simp only [step] at ran
      split at ran
      · cases ran
        refine .inl ⟨?_, rfl, rfl, s.stream.stores_query q, ?_, rfl⟩
        · show (q.act s.stream.toStream).2.m_frames = _
          rw [Stream.act_stream]
        · show (q.act s.stream.toStream).2.m_newFrame = true → _
          rw [Stream.act_stream]
          exact fun raised => (Bool.and_eq_true_iff.1 raised).1
      · cases ran

/-- Once it has been reset the counter stays so. -/
theorem resetDone_step (ran : s.step convert event = .ok (reply, t))
    (done : s.next.resetDone = true) : t.next.resetDone = true := by
  rcases step_cases ran with alike | ⟨-, next, -⟩ | ⟨_, -, -, -, rfl⟩ | ⟨_, _, -, -, rfl⟩
  · rw [alike.resetDone, done]
  · rw [next] at done
    cases done
  · exact done
  · exact done

end Steps

/-! ## Counting -/

/-- The counter is `missing` frames short, and the submission in progress has loaded it so. -/
structure Short (missing : Nat) (s : Session) : Prop where
  count : s.stream.m_frames + .ofNat missing = .ofNat s.stored
  loaded : ∀ sampleBuffer m_frames, s.submitting = some (sampleBuffer, m_frames) →
    m_frames = s.stream.m_frames ∧ s.stream.Stores sampleBuffer

section Counting

variable {convert : Conversion} {s t : Session} {event : SessionEvent} {reply : Reply}
  {missing : Nat}

theorem Short.alike (short : Short missing s) (alike : Alike s t) : Short missing t := by
  refine ⟨?_, fun sampleBuffer m_frames submitting => ?_⟩
  · rw [alike.frames, alike.stored]
    exact short.count
  · rw [alike.submitting] at submitting
    rw [alike.frames, alike.stores]
    exact short.loaded sampleBuffer m_frames submitting

theorem Short.load (short : Short missing s) {sampleBuffer : SampleBuffer}
    (stores : s.stream.Stores sampleBuffer) :
    Short missing { s with submitting := some (sampleBuffer, s.stream.m_frames) } := by
  refine ⟨short.count, fun _ _ same => ?_⟩
  obtain ⟨rfl, rfl⟩ := Prod.mk.inj (Option.some.inj same)
  exact ⟨rfl, stores⟩

/-- A store counts its frame. -/
theorem Short.store (short : Short missing s) {sampleBuffer : SampleBuffer} {m_frames : UInt32}
    (submitting : s.submitting = some (sampleBuffer, m_frames)) :
    let stream := ((s.stream.setFrames m_frames).captureOutput convert sampleBuffer).stream
    Short missing { s with stream, submitting := none, stored := s.stored + 1 } := by
  obtain ⟨rfl, stores⟩ := short.loaded _ _ submitting
  intro stream
  have counted : stream.m_frames = s.stream.m_frames + 1 :=
    ((PlatformStream.captureOutput_spec convert s.stream sampleBuffer).1 stores).1
  refine ⟨?_, fun _ _ none => by cases none⟩
  show stream.m_frames + _ = _
  rw [counted, UInt32.ofNat_add, ← short.count, UInt32.add_assoc, UInt32.add_comm 1,
    ← UInt32.add_assoc]
  rfl

/-- Whatever happens but the reset, the counter falls no further behind. -/
theorem Short.step (short : Short missing s) (ran : s.step convert event = .ok (reply, t))
    (noReset : event = .openStep → s.next ≠ .resetFrames) : Short missing t := by
  rcases step_cases ran with
    alike | ⟨reset, next, -⟩ | ⟨sampleBuffer, -, -, stores, rfl⟩ | ⟨_, _, -, submitting, rfl⟩
  · exact short.alike alike
  · exact absurd next (noReset reset)
  · exact short.load stores
  · exact short.store submitting

/-- After a reset between two submissions the counter is short by the frames stored before it, in
every state from then on. -/
theorem short_by_early_frames (next : s.next = .resetFrames) (idle : s.submitting = none)
    (reset : s.step convert .openStep = .ok (reply, t)) (events : List SessionEvent) :
    ∀ u ∈ Run.reached (Session.step convert) t events,
      u.stream.getFrameCount.toNat = u.stored % 2 ^ 32 ↔ s.stored % 2 ^ 32 = 0 := by
  simp only [step, next] at reset
  cases reset
  have kept : ∀ u ∈ Run.reached (Session.step convert)
      { s with stream := s.stream.setFrames 0, next := .returnTrue } events,
        Short s.stored u ∧ u.next.resetDone = true := by
    apply Run.reached_of_preserved
    · refine ⟨⟨UInt32.zero_add _, fun _ _ submitting => ?_⟩, rfl⟩
      rw [show s.submitting = some _ from submitting] at idle
      cases idle
    · rintro s event reply t ran ⟨short, done⟩
      refine ⟨short.step ran fun _ next => ?_, resetDone_step ran done⟩
      rw [next] at done
      cases done
  intro u member
  have count := congrArg UInt32.toNat (kept u member).1.count
  rw [UInt32.toNat_add, UInt32.toNat_ofNat', UInt32.toNat_ofNat'] at count
  have bound := u.stream.m_frames.toNat_lt
  show u.stream.m_frames.toNat = _ ↔ _
  omega

/-- What holds of a stream that `open` has returned true for. -/
structure Right (s : Session) : Prop where
  counted : s.stream.getFrameCount.toNat = s.stored % 2 ^ 32
  pending : s.stream.hasNewFrame = true → s.stored < 2 ^ 32 → s.stream.getFrameCount ≠ 0

/-- No frame is missing, and none was stored before the reset. -/
structure Good (s : Session) : Prop where
  short : Short 0 s
  early : s.next.resetDone = false → s.stored = 0
  flag : s.stream.m_newFrame = true → 0 < s.stored

theorem Good.right (good : Good s) : Right s := by
  have counted : s.stream.m_frames.toNat = s.stored % 2 ^ 32 := by
    have count := congrArg UInt32.toNat good.short.count
    rwa [show UInt32.ofNat 0 = 0 from rfl, UInt32.add_zero, UInt32.toNat_ofNat'] at count
  refine ⟨counted, fun raised room zero => ?_⟩
  have some_frame := good.flag raised
  have none := congrArg UInt32.toNat zero
  rw [show s.stream.getFrameCount.toNat = _ from counted, Nat.mod_eq_of_lt room] at none
  exact Nat.ne_of_gt some_frame none

/-- The reset does nothing as long as nothing was stored. -/
theorem Good.reset (good : Good s) (next : s.next = .resetFrames) :
    Good { s with stream := s.stream.setFrames 0, next := .returnTrue } := by
  have stored := good.early (by rw [next]; rfl)
  have zero : s.stream.m_frames = 0 := by
    have count := good.short.count
    rwa [stored, show UInt32.ofNat 0 = 0 from rfl, UInt32.add_zero] at count
  have same : s.stream.setFrames 0 = s.stream := by
    rw [← zero]
    rfl
  rw [same]
  exact ⟨⟨good.short.count, good.short.loaded⟩, nofun, good.flag⟩

theorem Good.step (good : Good s) (ran : s.step convert event = .ok (reply, t))
    (late : event = .store → s.next.resetDone = true) : Good t := by
  rcases step_cases ran with
    alike | ⟨-, next, rfl⟩ | ⟨_, -, -, stores, rfl⟩ | ⟨_, _, store, submitting, rfl⟩
  · refine ⟨good.short.alike alike, fun early => ?_, fun raised => ?_⟩
    · rw [alike.stored]
      exact good.early (alike.resetDone.symm.trans early)
    · rw [alike.stored]
      exact good.flag (alike.lowered raised)
  · exact good.reset next
  · exact ⟨good.short.load stores, good.early, good.flag⟩
  · refine ⟨good.short.store submitting, fun early => ?_, fun _ => Nat.succ_pos _⟩
    exact absurd early (by rw [late store]; decide)

/-- A stream as a client opens it: made for the purpose, in raw mode or not. -/
theorem good_start (m_width m_height : UInt32) (rawMode : Bool) (estimatedJPEGSize : UInt32)
    (m_tmpBuffer : Bytes) (width height fourCC : UInt32) :
    Good (start (PlatformStream.started
      ((Stream.new m_width m_height).setRawMode rawMode estimatedJPEGSize)
      m_tmpBuffer width height fourCC)) :=
  ⟨⟨rfl, nofun⟩, fun _ => rfl, nofun⟩

/-- If no frame is stored before the reset, then in every state after `open` has returned the count is
that of the frames stored, and a new frame is never reported with a count of zero. -/
theorem frames_counted (convert : Conversion) (m_width m_height : UInt32) (rawMode : Bool)
    (estimatedJPEGSize : UInt32) (m_tmpBuffer : Bytes) (width height fourCC : UInt32)
    (events : List SessionEvent) :
    let opening := start (PlatformStream.started
      ((Stream.new m_width m_height).setRawMode rawMode estimatedJPEGSize)
      m_tmpBuffer width height fourCC)
    (∀ e ∈ Run.trace (Session.step convert) opening events,
      e.input = .store → e.pre.next.resetDone = true) →
        ∀ s ∈ Run.reached (Session.step convert) opening events, s.next = .returned → Right s := by
  intro opening late s member _
  have good : ∀ s ∈ Run.reached (Session.step convert) opening events, Good s := by
    apply Run.reached_invariant
    · exact good_start m_width m_height rawMode estimatedJPEGSize m_tmpBuffer width height fourCC
    · intro e inTrace before
      exact before.step (Run.step_of_mem_trace inTrace) (late e inTrace)
  exact (good s member).right

end Counting

/-- A raw frame of one byte. -/
def oneByte : SampleBuffer := ⟨1, some [7], none⟩

/-- The frame is loaded before the reset, and stored after it. -/
theorem frames_counted_one_byte :
    let opening := start (PlatformStream.started ((Stream.new 0 0).setRawMode true 0) [] 1 1 0)
    ∀ s ∈ Run.reached (Session.step convertRows) opening
        [.deliver oneByte, .openStep, .openStep, .openStep, .openStep, .store, .openStep],
      s.next = .returned → Right s :=
  frames_counted convertRows 0 0 true 0 [] 1 1 0
    [.deliver oneByte, .openStep, .openStep, .openStep, .openStep, .store, .openStep] (by
      intro e member store
      change e ∈ [_, _, _, _, _, _, _] at member
      simp only [List.mem_cons, List.not_mem_nil, or_false] at member
      rcases member with rfl | rfl | rfl | rfl | rfl | rfl | rfl <;> first | rfl | cases store)

/-- The frame comes before `open` goes on. -/
theorem frames_lost :
    let opening := start (PlatformStream.started ((Stream.new 0 0).setRawMode true 0) [] 1 1 0)
    ∃ s ∈ Run.reached (Session.step convertRows) opening
        [.deliver oneByte, .store, .openStep, .openStep, .openStep, .openStep, .openStep],
      s.next = .returned ∧ s.stored = 1 ∧ s.stream.hasNewFrame = true ∧
        s.stream.getFrameCount = 0 ∧ ¬ Right s := by
  intro opening
  refine ⟨_, List.mem_of_getElem? (i := 7) (show _ = some _ from rfl), rfl, rfl, rfl, rfl, ?_⟩
  intro right
  exact right.pending rfl (by decide) rfl

end Session

end OpenpnpCapture.Mac
