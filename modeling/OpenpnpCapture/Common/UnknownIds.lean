/-
# Common.UnknownIds — calls on a stream that is not open

Every call that takes a stream id documents an error for an id that is not open.
`ErrorOnly` is that promise with its second half, the call leaves the context alone and so
can be inserted into any run unnoticed.  Three things get in the way: the lookups with
`operator[]` add an entry, `find` lookups dereference the null entries these leave, and the
property wrappers translate an unknown id into `PROPERTYNOTSUPPORTED`.  `errorOnly_iff` says
for each call when none of them does.
-/
import OpenpnpCapture.Common.ContextStep
import OpenpnpCapture.Common.Libmain

namespace OpenpnpCapture.Common

open OpenpnpCapture.Lib OpenpnpCapture.Lib.StdMap

set_option autoImplicit false

/-- No stream is open under the id. -/
def Context.NotOpen (c : Context) (id : Int) : Prop :=
  ∀ h, c.m_streams.lookup id ≠ some (some h)

namespace Cap

/-- What the header promises for an invalid stream. -/
def documentedError : StreamCall → Returned
  | .isOpenStream | .hasNewFrame | .getStreamFrameCount => .number 0
  | _ => .result .ERR

/-- The call returns its documented error and the context it was given, and the run that goes on
from there does not notice it. -/
structure ErrorOnly (c : Context) (stream : Int) (call : StreamCall) : Prop where
  returned : ∃ out, onStream (some c) stream call = .ok ((documentedError call, out), some c)
  unnoticed : ∀ rest, ∃ out,
    Run.replies exec (some c) (.onStream stream call :: rest) =
      .ok (documentedError call, out) :: Run.replies exec (some c) rest

/-- For an id that is not open: what keeps the call from failing, adding an entry or returning the
wrong code.  An id that is a key is one with a null entry here. -/
def Harmless (c : Context) (stream : Int) : StreamCall → Prop
  | .isOpenStream => stream < 0 ∨ stream ∉ c.m_streams
  | .isDeviceStillConnected _ => stream ∉ c.m_streams
  | .hasNewFrame | .getStreamFrameCount | .captureFrame _ _ | .decodeFrame _ _ _
  | .setFrameRate _ _ => stream < 0 ∨ stream ∈ c.m_streams
  | .captureFrameRaw _ _ outBytes | .getFrameSize outBytes =>
      outBytes = none ∨ stream < 0 ∨ stream ∈ c.m_streams
  | .getStreamResolution outWidth outHeight =>
      outWidth = none ∨ outHeight = none ∨ stream < 0 ∨ stream ∈ c.m_streams
  | .getPropertyLimits _ _ | .setProperty _ _ _ | .setAutoProperty _ _ _ => False
  | .getProperty _ outValue _ => outValue = none
  | .getAutoProperty _ outValue _ => outValue = none

section NotOpen

variable {c : Context} {stream : Int}

theorem touched_eq_iff : c.touched stream = c ↔ stream ∈ c.m_streams := by
  constructor
  · intro same
    rw [← same]
    exact mem_insertNew.2 (Or.inl rfl)
  · exact Context.touched_of_mem

/-- A lookup with `operator[]` of an id that is not open. -/
theorem onStream_notOpen (notOpen : c.NotOpen stream) {α : Type} (rejectNegative : Bool)
    (unknown : α) (act : Stream → α × Stream) :
    Context.onStream rejectNegative c stream unknown act =
      .ok (unknown, if rejectNegative = true ∧ stream < 0 then c else c.touched stream) := by
  unfold Context.onStream
  split
  · rfl
  · cases stored : c.m_streams.lookup stream with
    | none =>
        rw [subscript_of_none none stored]
        simp only [Context.touched, touch, insertNew_of_notMem (Finmap.lookup_eq_none.1 stored)]
    | some p =>
        rw [subscript_of_some none stored]
        cases p with
        | none => simp only [Context.touched_of_mem (Finmap.mem_of_lookup_eq_some stored)]
        | some h => exact absurd stored (notOpen h)

theorem isOpenStream_notOpen (notOpen : c.NotOpen stream) :
    c.isOpenStream stream =
      if stream < 0 ∨ stream ∉ c.m_streams then .ok (0, c) else .error .nullDereference := by
  unfold Context.isOpenStream
  by_cases negative : stream < 0
  · simp [negative]
  · cases stored : c.m_streams.lookup stream with
    | none => simp [Finmap.lookup_eq_none.1 stored]
    | some p =>
        cases p with
        | none => simp [negative, Finmap.mem_of_lookup_eq_some stored, Context.deref]
        | some h => exact absurd stored (notOpen h)

theorem isDeviceStillConnected_notOpen (notOpen : c.NotOpen stream) (connected : Bool) :
    c.isDeviceStillConnected stream connected =
      if stream ∉ c.m_streams then .ok (false, c) else .error .nullDereference := by
  unfold Context.isDeviceStillConnected
  cases stored : c.m_streams.lookup stream with
  | none => simp [Finmap.lookup_eq_none.1 stored]
  | some p =>
      cases p with
      | none => simp [Finmap.mem_of_lookup_eq_some stored, Context.deref]
      | some h => exact absurd stored (notOpen h)

/-- The promise is about the call itself; the run that follows starts where the call left it. -/
theorem errorOnly_of_returned {call : StreamCall}
    (returned : ∃ out, onStream (some c) stream call = .ok ((documentedError call, out), some c)) :
    ErrorOnly c stream call := by
  refine ⟨returned, fun rest => ?_⟩
  obtain ⟨out, idle⟩ := returned
  have idle_step : exec (some c) (.onStream stream call) =
      .ok ((documentedError call, out), some c) := idle
  exact ⟨out, Run.replies_insert idle_step rest⟩

/-- A wrapper over a lookup with `operator[]` that answers with the documented error. -/
theorem errorOnly_lookup_iff {call : StreamCall} (rejectNegative : Bool) (out : Out)
    (ran : onStream (some c) stream call = .ok ((documentedError call, out),
      some (if rejectNegative = true ∧ stream < 0 then c else c.touched stream))) :
    ErrorOnly c stream call ↔ (rejectNegative = true ∧ stream < 0) ∨ stream ∈ c.m_streams := by
  constructor
  · intro promise
    obtain ⟨out', idle⟩ := promise.returned
    rw [ran] at idle
    simp only [Except.ok.injEq, Prod.mk.injEq, Option.some.injEq] at idle
    by_cases rejected : rejectNegative = true ∧ stream < 0
    · exact Or.inl rejected
    · rw [if_neg rejected] at idle
      exact Or.inr (touched_eq_iff.1 idle.2)
  · intro harmless
    refine errorOnly_of_returned ⟨out, ?_⟩
    rw [ran]
    by_cases rejected : rejectNegative = true ∧ stream < 0
    · rw [if_pos rejected]
    · rw [if_neg rejected, touched_eq_iff.2 (harmless.resolve_left rejected)]

/-- A wrapper that answers an unknown id with the code of an unsupported property. -/
theorem not_errorOnly_of_code {call : StreamCall}
    (ran : ∃ out after,
      onStream (some c) stream call = .ok ((.result .PROPERTYNOTSUPPORTED, out), after))
    (differs : documentedError call = .result .ERR) : ¬ ErrorOnly c stream call := by
  intro promise
  obtain ⟨out, after, code⟩ := ran
  obtain ⟨out', idle⟩ := promise.returned
  rw [code, differs] at idle
  simp only [Except.ok.injEq, Prod.mk.injEq] at idle
  exact absurd idle.1.1 (by decide)

theorem not_errorOnly_of_stop {call : StreamCall} (stop : Stop)
    (ran : onStream (some c) stream call = .error stop) : ¬ ErrorOnly c stream call := by
  intro promise
  obtain ⟨out, idle⟩ := promise.returned
  rw [ran] at idle
  cases idle

end NotOpen

/-- **Calls on an id that is not open.**  In every context, and so in every reachable one: the call
returns its documented error, changes nothing and goes unnoticed exactly when it is `Harmless`. -/
theorem errorOnly_iff {c : Context} {stream : Int} (notOpen : c.NotOpen stream)
    (call : StreamCall) : ErrorOnly c stream call ↔ Harmless c stream call := by
  have lookup : ∀ {α : Type} (rejectNegative : Bool) (unknown : α) (act : Stream → α × Stream),
      Context.onStream rejectNegative c stream unknown act = _ := fun rejectNegative unknown act =>
    onStream_notOpen notOpen rejectNegative unknown act
  cases call with
  -- the lookups with `find`
  | isOpenStream =>
      by_cases safe : stream < 0 ∨ stream ∉ c.m_streams
      · refine iff_of_true (errorOnly_of_returned ⟨.nothing, ?_⟩) safe
        simp only [onStream, Cap_isOpenStream, onContext, isOpenStream_notOpen notOpen, if_pos safe]
        rfl
      · refine iff_of_false (not_errorOnly_of_stop .nullDereference ?_) safe
        simp only [onStream, Cap_isOpenStream, onContext, isOpenStream_notOpen notOpen,
          if_neg safe, reply]
  | isDeviceStillConnected connected =>
      by_cases safe : stream ∉ c.m_streams
      · refine iff_of_true (errorOnly_of_returned ⟨.nothing, ?_⟩) safe
        simp only [onStream, Cap_isDeviceStillConnected, onContext,
          isDeviceStillConnected_notOpen notOpen, if_pos safe]
        rfl
      · refine iff_of_false (not_errorOnly_of_stop .nullDereference ?_) safe
        simp only [onStream, Cap_isDeviceStillConnected, onContext,
          isDeviceStillConnected_notOpen notOpen, if_neg safe, reply]
  -- the lookups with `operator[]` that check the sign
  | hasNewFrame =>
      refine (errorOnly_lookup_iff true .nothing ?_).trans (by simp [Harmless])
      simp only [onStream, Cap_hasNewFrame, onContext, Context.hasNewFrame, lookup]
      rfl
  | getStreamFrameCount =>
      refine (errorOnly_lookup_iff true .nothing ?_).trans (by simp [Harmless])
      simp only [onStream, Cap_getStreamFrameCount, onContext, Context.getStreamFrameCount, lookup]
      rfl
  | captureFrame RGBbufferPtr RGBbufferBytes =>
      refine (errorOnly_lookup_iff true (.bytes (some RGBbufferPtr)) ?_).trans (by simp [Harmless])
      simp only [onStream, Cap_captureFrame, onContext, Context.captureFrame, lookup]
      rfl
  | decodeFrame tj RGBbufferPtr RGBbufferBytes =>
      refine (errorOnly_lookup_iff true (.bytes RGBbufferPtr) ?_).trans (by simp [Harmless])
      simp only [onStream, Cap_decodeFrame, onContext, Context.decodeFrame, lookup]
      rfl
  | setFrameRate fps answer =>
      refine (errorOnly_lookup_iff true .nothing ?_).trans (by simp [Harmless])
      simp only [onStream, Cap_setFrameRate, onContext, Context.setStreamFrameRate, lookup]
      rfl
  -- the same, after a check of the pointers
  | captureFrameRaw jpegBufferPtr jpegBufferBytes outBytes =>
      cases outBytes with
      | none => exact iff_of_true (errorOnly_of_returned ⟨.frame jpegBufferPtr none, rfl⟩) (Or.inl rfl)
      | some before =>
          refine (errorOnly_lookup_iff true (.frame jpegBufferPtr (some before)) ?_).trans
            (by simp [Harmless])
          simp only [onStream, Cap_captureFrameRaw, onContext, Context.captureFrameRaw, lookup]
          rfl
  | getFrameSize outBytes =>
      cases outBytes with
      | none => exact iff_of_true (errorOnly_of_returned ⟨.size none, rfl⟩) (Or.inl rfl)
      | some before =>
          refine (errorOnly_lookup_iff true (.size (some before)) ?_).trans (by simp [Harmless])
          simp only [onStream, Cap_getFrameSize, onContext, Context.getFrameSize, lookup]
          rfl
  | getStreamResolution outWidth outHeight =>
      rcases outWidth with _ | width
      · exact iff_of_true (errorOnly_of_returned ⟨.resolution none outHeight, rfl⟩) (Or.inl rfl)
      rcases outHeight with _ | height
      · exact iff_of_true (errorOnly_of_returned ⟨.resolution (some width) none, rfl⟩)
          (Or.inr (Or.inl rfl))
      refine (errorOnly_lookup_iff true (.resolution (some width) (some height)) ?_).trans
        (by simp [Harmless])
      simp only [onStream, Cap_getStreamResolution, onContext, Context.getStreamResolution, lookup]
      rfl
  -- the property calls: the code of an unsupported property
  | getPropertyLimits propID answer =>
      refine iff_of_false (not_errorOnly_of_code ⟨.limits none, some (c.touched stream), ?_⟩ rfl) id
      simp only [onStream, Cap_getPropertyLimits, onContext, Context.getStreamPropertyLimits, lookup]
      rfl
  | setProperty propID value answer =>
      refine iff_of_false (not_errorOnly_of_code ⟨.nothing, some (c.touched stream), ?_⟩ rfl) id
      simp only [onStream, Cap_setProperty, onContext, Context.setStreamProperty, lookup]
      rfl
  | setAutoProperty propID bOnOff answer =>
      refine iff_of_false (not_errorOnly_of_code ⟨.nothing, some (c.touched stream), ?_⟩ rfl) id
      simp only [onStream, Cap_setAutoProperty, onContext, Context.setStreamAutoProperty, lookup]
      rfl
  | getProperty propID outValue answer =>
      cases outValue with
      | none => exact iff_of_true (errorOnly_of_returned ⟨.value none, rfl⟩) rfl
      | some before =>
          refine iff_of_false (not_errorOnly_of_code
            ⟨.value (some before), some (c.touched stream), ?_⟩ rfl) nofun
          simp only [onStream, Cap_getProperty, onContext, Context.getStreamProperty, lookup]
          rfl
  | getAutoProperty propID outValue answer =>
      cases outValue with
      | none => exact iff_of_true (errorOnly_of_returned ⟨.flag none, rfl⟩) rfl
      | some before =>
          refine iff_of_false (not_errorOnly_of_code
            ⟨.flag (some before), some (c.touched stream), ?_⟩ rfl) nofun
          simp only [onStream, Cap_getAutoProperty, onContext, Context.getStreamAutoProperty, lookup]
          rfl

/-- Once id 5 has been asked about, asking again changes nothing more. -/
theorem errorOnly_on_second_query :
    ErrorOnly ((Context.fresh []).touched 5) 5 .hasNewFrame := by
  have nullEntry : ((Context.fresh []).touched 5).NotOpen 5 := by
    intro h stored
    exact absurd (show some (some h) = some none from stored.symm) (by simp)
  exact (errorOnly_iff nullEntry .hasNewFrame).2 (Or.inr (mem_insertNew.2 (Or.inl rfl)))

/-- On an id never issued: a query for a new frame adds an entry, and a property call returns the
code of an unsupported property. -/
theorem errorOnly_fails_on_unissued_id :
    ¬ ErrorOnly (Context.fresh []) 5 .hasNewFrame ∧
      ¬ ErrorOnly (Context.fresh []) 5 (.setProperty 1 0 true) := by
  constructor
  · intro promise
    obtain ⟨out, idle⟩ := promise.returned
    have ran : onStream (some (Context.fresh [])) 5 .hasNewFrame =
        .ok ((.number 0, .nothing), some ((Context.fresh []).touched 5)) := rfl
    rw [ran] at idle
    simp only [Except.ok.injEq, Prod.mk.injEq, Option.some.injEq] at idle
    have present : (5 : Int) ∈ (Context.fresh []).m_streams := touched_eq_iff.1 idle.2
    exact absurd present Finmap.notMem_empty
  · exact not_errorOnly_of_code ⟨.nothing, some ((Context.fresh []).touched 5), rfl⟩ rfl

end Cap

end OpenpnpCapture.Common
