/-
# Linux.DescriptorLifecycle — the device descriptor and the thread that uses it

A stream object from its constructor to the end of its destructor, as `Context` drives it: `open`
once, with the context and a device it enumerated, then, unless a failed object is left behind,
one `delete`, by `openStreamRaw` after a failure, by `removeStream` or by `~Context`.  Between
the two the capture thread takes its steps.  `close` runs at the failure exits of `open` and in
the destructor; its `join` comes back only when the thread has returned.

What the object does to the system is a list of `Deed`s.  Since `open` is called once, that list is
one of a few for each phase of the object (`recorded_step`), and everything about descriptors is
read off it.

The constructor leaves `m_deviceHandle` as the memory was.  `open` returns for a null owner, a null
device or a foreign device before it sets it, and a `delete` would then close that value
(`delete_after_rejected`); the context passes none of these.
-/
import OpenpnpCapture.Lib.Lease
import OpenpnpCapture.Linux.CaptureThread
import OpenpnpCapture.Linux.PlatformStream

namespace OpenpnpCapture.Linux

open OpenpnpCapture.Lib OpenpnpCapture.Lib.Lease OpenpnpCapture.Common

set_option autoImplicit false

/-- What an object does to its descriptor, its thread and its frame buffer. -/
inductive Deed
  /-- `::open` returned this descriptor. -/
  | opened (fd : Nat)
  | closed (handle : Int)
  | started (handle : Int)
  | joined
  /-- `m_frameBuffer.resize(0)`. -/
  | shrunk
deriving DecidableEq, Repr

/-- Where the object is in its life. -/
inductive Phase
  | constructed
  | failed
  | opened
  | closing
  | deleted
deriving DecidableEq, Repr

structure Life where
  phase : Phase
  m_deviceHandle : Int
  m_quitThread : Bool
  m_helperThread : Option Thread
deriving DecidableEq

inductive LifeEvent
  /-- `open`, with the descriptor `::open` returns if it succeeds. -/
  | open (a : OpenAnswers) (fd : Nat)
  | thread (a : Answer)
  /-- `delete`: the destructor calls `close`, which asks the thread to quit. -/
  | delete
  /-- `close` goes on once `join` has come back. -/
  | finish
deriving DecidableEq

namespace Life

/-- The object the constructor leaves; its descriptor is what the memory was. -/
def new (unset : Int) : Life := ⟨.constructed, unset, false, none⟩

/-- The end of `close`, after the thread is gone. -/
def release (s : Life) : List Deed × Life :=
  ([.shrunk, .closed s.m_deviceHandle],
    { s with m_deviceHandle := -1, m_quitThread := true, m_helperThread := none })

/-- A failure exit of `open`: no thread has been started yet. -/
def fail (s : Life) (deeds : List Deed) : List Deed × Life :=
  (deeds ++ s.release.1, { s.release.2 with phase := .failed })

/-- `open` of a new object. -/
def «open» (s : Life) (a : OpenAnswers) (fd : Nat) : List Deed × Life :=
  -- the exits for rejected arguments do not call `close`
  if !a.ownerGiven then ([], { s with phase := .failed })
  else if !a.deviceGiven then ([], { s with phase := .failed })
  else if !a.platformDevice then ([], { s with phase := .failed })
  else if !a.deviceOpened then fail { s with m_deviceHandle := -1 } []
  else
    let s := { s with m_deviceHandle := fd }
    if !a.setFormat then s.fail [.opened fd]
    else
      match a.getFormat with
      | none => s.fail [.opened fd]
      | some fmt =>
          if !fmt.videoCapture then s.fail [.opened fd]
          else if !a.setParm then s.fail [.opened fd]
          else
            ([.opened fd, .started fd],
              { s with phase := .opened, m_quitThread := false, m_helperThread := some Thread.start })

/-- The arguments `Context` passes: itself, and a device it enumerated. -/
def asContextCalls (a : OpenAnswers) : OpenAnswers :=
  { a with ownerGiven := true, deviceGiven := true, platformDevice := true }

def step (s : Life) : LifeEvent → Except Blocked (List Deed × Life)
  | .open a fd =>
      if s.phase = .constructed then .ok (s.open (asContextCalls a) fd) else .error .blocked
  | .thread a =>
      match s.m_helperThread with
      | none => .error .blocked
      | some t =>
          match t.step s.m_quitThread a with
          | none => .error .blocked
          | some t => .ok ([], { s with m_helperThread := some t })
  | .delete =>
      match s.phase with
      | .failed | .opened => .ok ([], { s with phase := .closing, m_quitThread := true })
      | .constructed | .closing | .deleted => .error .blocked
  | .finish =>
      if s.phase = .closing then
        match s.m_helperThread with
        | none => .ok (s.release.1, { s.release.2 with phase := .deleted })
        | some t =>
            if t.position = .returned then
              .ok (.joined :: s.release.1, { s.release.2 with phase := .deleted })
            else .error .blocked
      else .error .blocked

/-- Where `open` can return. -/
theorem open_cases (s : Life) (a : OpenAnswers) (fd : Nat) :
    ((a.ownerGiven = true → a.deviceGiven = true → a.platformDevice = false) ∧
      s.open a fd = ([], { s with phase := .failed })) ∨
    (a.deviceOpened = false ∧ s.open a fd = fail { s with m_deviceHandle := -1 } []) ∨
    s.open a fd = fail { s with m_deviceHandle := fd } [.opened fd] ∨
    s.open a fd =
      ([.opened fd, .started fd],
        { s with
          phase := .opened
          m_deviceHandle := fd
          m_quitThread := false
          m_helperThread := some Thread.start }) := by
  unfold Life.open
  cases a.ownerGiven with
  | false => exact Or.inl ⟨by simp, rfl⟩
  | true =>
      cases a.deviceGiven with
      | false => exact Or.inl ⟨by simp, rfl⟩
      | true =>
          cases a.platformDevice with
          | false => exact Or.inl ⟨by simp, rfl⟩
          | true =>
              refine Or.inr ?_
              cases a.deviceOpened with
              | false => exact Or.inl ⟨rfl, rfl⟩
              | true =>
                  refine Or.inr ?_
                  cases a.setFormat with
                  | false => exact Or.inl rfl
                  | true =>
                      cases a.getFormat with
                      | none => exact Or.inl rfl
                      | some fmt =>
                          simp only [Bool.not_true, Bool.false_eq_true, if_false]
                          cases fmt.videoCapture with
                          | false => exact Or.inl rfl
                          | true =>
                              cases a.setParm with
                              | false => exact Or.inl rfl
                              | true => exact Or.inr rfl

/-- `open` succeeds here exactly when it does in the model of the frame path. -/
theorem open_opened_iff (s : Life) (a : OpenAnswers) (fd : Nat) (stream : Stream) :
    (s.open a fd).2.phase = .opened ↔ (PlatformStream.open stream a).isSome = true := by
  unfold Life.open PlatformStream.open
  cases a.ownerGiven <;> cases a.deviceGiven <;> cases a.platformDevice <;>
    cases a.deviceOpened <;> cases a.setFormat <;> try simp [fail]
  cases a.getFormat with
  | none => simp
  | some fmt => cases captures : fmt.videoCapture <;> cases a.setParm <;> simp [captures]

/-! ## What an object has done -/

/-- The deeds of an `open` that failed past its arguments. -/
def FailedDeeds (deeds : List Deed) : Prop :=
  deeds = [.shrunk, .closed (-1)] ∨ ∃ fd : Nat, deeds = [.opened fd, .shrunk, .closed fd]

/-- The object owns no descriptor and has no thread. -/
def Idle (s : Life) : Prop :=
  s.m_deviceHandle = -1 ∧ s.m_helperThread = none

/-- The object has a descriptor and a thread that uses it. -/
def Captures (s : Life) (deeds : List Deed) : Prop :=
  ∃ fd : Nat, deeds = [.opened fd, .started fd] ∧ s.m_deviceHandle = fd ∧
    s.m_helperThread.isSome = true

/-- What an object has done, by its phase. -/
def Recorded (s : Life) (deeds : List Deed) : Prop :=
  match s.phase with
  | .constructed => deeds = [] ∧ s.m_helperThread = none
  | .failed => FailedDeeds deeds ∧ s.Idle
  | .opened => s.Captures deeds
  | .closing => (FailedDeeds deeds ∧ s.Idle) ∨ s.Captures deeds
  | .deleted =>
      s.Idle ∧
        ((∃ early, FailedDeeds early ∧ deeds = early ++ [.shrunk, .closed (-1)]) ∨
          ∃ fd : Nat, deeds = [.opened fd, .started fd, .joined, .shrunk, .closed fd])

section Step

variable {s t : Life} {deeds done : List Deed}

theorem recorded_open {a : OpenAnswers} {fd : Nat} (constructed : s.phase = .constructed)
    (recorded : s.Recorded deeds) :
    (s.open (asContextCalls a) fd).2.Recorded (deeds ++ (s.open (asContextCalls a) fd).1) := by
  unfold Recorded at recorded
  rw [constructed] at recorded
  obtain ⟨rfl, noThread⟩ := recorded
  rcases open_cases s (asContextCalls a) fd with ⟨rejected, -⟩ | ⟨-, ran⟩ | ran | ran
  · cases rejected rfl rfl
  · rw [ran]
    exact ⟨Or.inl rfl, rfl, rfl⟩
  · rw [ran]
    exact ⟨Or.inr ⟨fd, rfl⟩, rfl, rfl⟩
  · rw [ran]
    exact ⟨fd, rfl, rfl, rfl⟩

/-- A step of the thread does nothing to the descriptor. -/
theorem recorded_thread {thread : Thread} (running : s.m_helperThread.isSome = true)
    (recorded : s.Recorded deeds) : Recorded { s with m_helperThread := some thread } deeds := by
  unfold Recorded at recorded ⊢
  cases phase : s.phase with
  | constructed =>
      rw [phase] at recorded
      rw [recorded.2] at running
      cases running
  | failed =>
      rw [phase] at recorded
      rw [recorded.2.2] at running
      cases running
  | deleted =>
      rw [phase] at recorded
      rw [recorded.1.2] at running
      cases running
  | opened =>
      rw [phase] at recorded
      obtain ⟨fd, did, handle, -⟩ := recorded
      exact ⟨fd, did, handle, rfl⟩
  | closing =>
      rw [phase] at recorded
      rcases recorded with ⟨-, -, noThread⟩ | ⟨fd, did, handle, -⟩
      · rw [noThread] at running
        cases running
      · exact Or.inr ⟨fd, did, handle, rfl⟩

/-- One step adds its deeds to what the phase records. -/
theorem recorded_step {event : LifeEvent} (recorded : s.Recorded deeds)
    (ran : s.step event = .ok (done, t)) : t.Recorded (deeds ++ done) := by
  cases event with
  | «open» a fd =>
      simp only [step] at ran
      split at ran
      · rename_i constructed
        have opened : (s.open (asContextCalls a) fd).2.Recorded
            (deeds ++ (s.open (asContextCalls a) fd).1) := recorded_open constructed recorded
        rwa [Except.ok.inj ran] at opened
      · cases ran
  | thread a =>
      simp only [step] at ran
      split at ran
      · cases ran
      · rename_i th running
        split at ran
        · cases ran
        · cases ran
          rw [List.append_nil]
          exact recorded_thread (by rw [running]; rfl) recorded
  | delete =>
      unfold Recorded at recorded
      simp only [step] at ran
      split at ran
      · rename_i failed
        cases ran
        rw [failed] at recorded
        rw [List.append_nil]
        exact Or.inl recorded
      · rename_i opened
        cases ran
        rw [opened] at recorded
        rw [List.append_nil]
        exact Or.inr recorded
      all_goals cases ran
  | finish =>
      unfold Recorded at recorded
      simp only [step] at ran
      split at ran
      · rename_i closing
        rw [closing] at recorded
        split at ran
        · rename_i noThread
          cases ran
          rcases recorded with ⟨early, handle, -⟩ | ⟨fd, -, -, running⟩
          · refine ⟨⟨rfl, rfl⟩, Or.inl ⟨deeds, early, ?_⟩⟩
            rw [release, handle]
          · rw [noThread] at running
            cases running
        · rename_i th running
          split at ran
          · cases ran
            rcases recorded with ⟨-, -, noThread⟩ | ⟨fd, rfl, handle, -⟩
            · rw [noThread] at running
              cases running
            · refine ⟨⟨rfl, rfl⟩, Or.inr ⟨fd, ?_⟩⟩
              rw [release, handle]
              rfl
          · cases ran
      · cases ran

end Step

/-! ## Over a life -/

abbrev LifeEntry := Run.Entry Life LifeEvent (List Deed)

/-- What the steps so far did. -/
def deeds (past : List LifeEntry) : List Deed :=
  past.flatMap Run.Entry.output

/-- The descriptors obtained and closed; closing -1 closes none. -/
def descriptors (deeds : List Deed) : List (Event Int) :=
  deeds.filterMap fun
    | .opened fd => some (.acquire fd)
    | .closed handle => if handle = -1 then none else some (.release handle)
    | .started _ | .joined | .shrunk => none

section Life

variable {s : Life} {done : List Deed}

theorem clean_descriptors_failed (failed : FailedDeeds done) : Clean (descriptors done) := by
  rcases failed with rfl | ⟨fd, rfl⟩
  · exact clean_nil
  · exact clean_pair (fd : Int)

/-- A live descriptor is out, and no other. -/
theorem lease_descriptors_captures (captures : s.Captures done) (handle : Int) :
    lease handle .free (descriptors done) ≠ .broken := by
  obtain ⟨fd, rfl, -, -⟩ := captures
  show lease handle .free [.acquire (fd : Int)] ≠ .broken
  by_cases same : (fd : Int) = handle
  · subst same
    simp [lease_acquire_self, Standing.next]
  · simp [lease_acquire_other _ same]

/-- Once `open` has failed, or the object is deleted, every descriptor was closed once. -/
theorem Recorded.clean (recorded : s.Recorded done)
    (ended : s.phase = .failed ∨ s.phase = .deleted) : Clean (descriptors done) := by
  unfold Recorded at recorded
  rcases ended with phase | phase
  · rw [phase] at recorded
    exact clean_descriptors_failed recorded.1
  · rw [phase] at recorded
    obtain ⟨-, ⟨early, failed, rfl⟩ | ⟨fd, rfl⟩⟩ := recorded
    · rw [descriptors, List.filterMap_append]
      exact (clean_descriptors_failed failed).append clean_nil
    · exact clean_pair (fd : Int)

/-- No descriptor is closed that the object does not own. -/
theorem Recorded.unbroken (recorded : s.Recorded done) (handle : Int) :
    lease handle .free (descriptors done) ≠ .broken := by
  cases phase : s.phase with
  | failed =>
      rw [recorded.clean (Or.inl phase) handle]
      exact nofun
  | deleted =>
      rw [recorded.clean (Or.inr phase) handle]
      exact nofun
  | constructed =>
      unfold Recorded at recorded
      rw [phase] at recorded
      rw [recorded.1]
      exact nofun
  | opened =>
      unfold Recorded at recorded
      rw [phase] at recorded
      exact lease_descriptors_captures recorded handle
  | closing =>
      unfold Recorded at recorded
      rw [phase] at recorded
      rcases recorded with ⟨failed, -⟩ | captures
      · rw [clean_descriptors_failed failed handle]
        exact nofun
      · exact lease_descriptors_captures captures handle

/-- A started thread is joined before anything is closed or shrunk. -/
def JoinedFirst (done : List Deed) : Prop :=
  ∀ before deed after, done = before ++ deed :: after →
    (deed = .shrunk ∨ ∃ handle, deed = .closed handle) →
    (∃ handle, .started handle ∈ before) → .joined ∈ before

theorem joinedFirst_of_unstarted (unstarted : ∀ handle, .started handle ∉ done) : JoinedFirst done := by
  rintro before deed after rfl - ⟨handle, member⟩
  exact absurd (List.mem_append_left _ member) (unstarted handle)

theorem FailedDeeds.unstarted (failed : FailedDeeds done) (handle : Int) : .started handle ∉ done := by
  rcases failed with rfl | ⟨fd, rfl⟩ <;> simp

theorem Recorded.joinedFirst (recorded : s.Recorded done) : JoinedFirst done := by
  have capturing (captures : s.Captures done) : JoinedFirst done := by
    obtain ⟨fd, rfl, -, -⟩ := captures
    intro before deed after split closes started
    have member : deed ∈ [Deed.opened fd, .started fd] := by
      rw [split]
      simp
    rcases closes with rfl | ⟨handle, rfl⟩ <;> simp at member
  unfold Recorded at recorded
  cases phase : s.phase with
  | constructed =>
      rw [phase] at recorded
      exact joinedFirst_of_unstarted (by simp [recorded.1])
  | failed =>
      rw [phase] at recorded
      exact joinedFirst_of_unstarted recorded.1.unstarted
  | opened =>
      rw [phase] at recorded
      exact capturing recorded
  | closing =>
      rw [phase] at recorded
      rcases recorded with ⟨failed, -⟩ | captures
      · exact joinedFirst_of_unstarted failed.unstarted
      · exact capturing captures
  | deleted =>
      rw [phase] at recorded
      obtain ⟨-, ⟨early, failed, rfl⟩ | ⟨fd, rfl⟩⟩ := recorded
      · refine joinedFirst_of_unstarted fun handle member => ?_
        rcases List.mem_append.1 member with inEarly | inLate
        · exact failed.unstarted handle inEarly
        · simp at inLate
      · -- what stands before the first deed that closes
        intro before deed after split closes _
        rcases before with _ | ⟨first, _ | ⟨second, _ | ⟨third, rest⟩⟩⟩
        · rcases closes with rfl | ⟨handle, rfl⟩ <;> simp at split
        · rcases closes with rfl | ⟨handle, rfl⟩ <;> simp at split
        · rcases closes with rfl | ⟨handle, rfl⟩ <;> simp at split
        · obtain rfl : Deed.joined = third := by
            simp only [List.cons_append, List.cons.injEq] at split
            exact split.2.2.1
          simp

end Life

/-- **The life of a stream.**  Whatever `::open`, the driver and the thread answer and wherever the
object is in its life: it closes no descriptor but its own, aside from -1; when `open` has failed or
the object has been deleted, each descriptor it obtained has been closed exactly once; and a thread
it started is joined before the descriptor is closed and the frame buffer shrunk. -/
theorem descriptors_closed_once (unset : Int) (events : List LifeEvent) :
    let past := Run.trace step (new unset) events
    let s := Run.endState (new unset) past
    (∀ handle, lease handle .free (descriptors (deeds past)) ≠ .broken) ∧
      (s.phase = .failed ∨ s.phase = .deleted → Clean (descriptors (deeds past))) ∧
      JoinedFirst (deeds past) := by
  intro past s
  have recorded : s.Recorded (deeds past) := by
    refine Run.endState_history (H := fun past s => s.Recorded (deeds past)) ⟨rfl, rfl⟩ ?_ events
      (List.append_nil past).symm
    intro past s event done t recorded ran
    have extended := recorded_step recorded ran
    rwa [deeds, List.flatMap_append, List.flatMap_singleton]
  exact ⟨recorded.unbroken, recorded.clean, recorded.joinedFirst⟩

example :
    deeds (Run.trace step (new 7)
      [.open ⟨true, true, true, true, true, some ⟨true, 2, 1, 0⟩, true⟩ 3, .thread (.reqbufs none),
        .delete, .finish]) = [.opened 3, .started 3, .joined, .shrunk, .closed 3] := rfl

/-- With arguments that `open` rejects, which the context never passes, the destructor closes what
the memory was. -/
theorem delete_after_rejected (unset : Int) (a : OpenAnswers) (fd : Nat)
    (rejected : a.ownerGiven = false) :
    (Life.open (new unset) a fd).2.release.1 = [.shrunk, .closed unset] := by
  unfold Life.open
  rw [rejected]
  rfl

end Life

end OpenpnpCapture.Linux
