/-
# Common.NewFrame — what the new-frame flag tells a client

`m_newFrame` is raised by every accepted submission and cleared by every capture that returns
true; a capture that is refused and every other call leave it alone.  So it says whether a
frame was accepted since the last capture (`flag_iff`).

The capture side of a stream submits frames of one kind, raw or not; `open` settles which.  Then
what a capture hands out is the frame of the submission accepted last (`HasLast`), and a client
that captures only when the flag is raised receives frames that were accepted after its capture
before (`newFrame_run`): none twice, and in the order of submission.
-/
import OpenpnpCapture.Common.StreamRun

namespace OpenpnpCapture.Common

open OpenpnpCapture.Lib

set_option autoImplicit false

/-- Some entry stores a frame and none after it captures one. -/
def AcceptedSinceCapture (past : List StreamEntry) : Prop :=
  ∃ before e after, past = before ++ e :: after ∧ accepted e = true ∧
    ∀ later ∈ after, captured later = false

/-- What a stream in this mode can hand out of a submission: raw frames have a buffer of their
own. -/
def Submission.frame (rawMode : Bool) : Submission → Bytes
  | .submitRawBuffer ptr => if rawMode then ptr.getD [] else []
  | .submitBuffer ptr => if rawMode then [] else ptr.getD []
  | .converted image => if rawMode then [] else image

/-- The submissions of one capture side: all of one kind, and no conversion past the end of the frame
buffer. -/
structure FromOneSide (frameBufferBytes : Nat) (events : List StreamEvent) : Prop where
  kind : ∃ raw, ∀ submission, .submit submission ∈ events → submission.isRaw = raw
  inside : ∀ image, .submit (.converted image) ∈ events → image.length ≤ frameBufferBytes

/-- A capture that returned true copied out this frame: a raw one with its size, an RGB one followed
by what older frames left behind it. -/
def Receives (e : StreamEntry) (frame : Bytes) : Prop :=
  match e.input with
  | .query (.captureFrame RGBbufferPtr RGBbufferBytes) =>
      ∃ rest, (frame ++ rest).length = e.pre.m_frameBuffer.length ∧
        e.output = .frame true (some (memcpy RGBbufferPtr (frame ++ rest)
          (min RGBbufferBytes.toNat (frame ++ rest).length)))
  | .query (.captureFrameRaw (some jpegBufferPtr) _ (some _)) =>
      let size := UInt32.ofNat frame.length
      e.output = .raw ⟨true, some (memcpy jpegBufferPtr frame size.toNat), some size⟩
  | _ => False

/-- The frame an entry submits to a stream in this mode. -/
def submittedFrame (rawMode : Bool) (e : StreamEntry) : Bytes :=
  match e.input with
  | .submit submission => submission.frame rawMode
  | .query _ => []

/-- What the capture `e` receives is the submission accepted last in this part of the run. -/
def ReceivesLastOf (part : List StreamEntry) (e : StreamEntry) : Prop :=
  ∃ before a after, part = before ++ a :: after ∧ accepted a = true ∧
    (∀ later ∈ after, accepted later = false) ∧ Receives e (submittedFrame e.pre.m_rawMode a)

/-- Every capture that returns true finds the flag raised. -/
def Guarded (run : List StreamEntry) : Prop :=
  ∀ e ∈ run, captured e = true → e.pre.hasNewFrame = true

/-- Before every capture that returns true a call of `hasNewFrame` returned true, with no such
capture in between. -/
def Polled (run : List StreamEntry) : Prop :=
  ∀ past e future, run = past ++ e :: future → captured e = true →
    ∃ before poll after, past = before ++ poll :: after ∧
      poll.input = .query .hasNewFrame ∧ poll.output = .flag true ∧
      ∀ later ∈ after, captured later = false

/-! ## The flag -/

theorem not_acceptedSinceCapture_nil : ¬ AcceptedSinceCapture [] := by
  rintro ⟨before, e, after, split, -⟩
  cases before <;> cases split

theorem acceptedSinceCapture_snoc (past : List StreamEntry) (e : StreamEntry) :
    AcceptedSinceCapture (past ++ [e]) ↔
      accepted e = true ∨ AcceptedSinceCapture past ∧ captured e = false := by
  constructor
  · rintro ⟨before, first, after, split, stored, uncaptured⟩
    rcases Run.snoc_eq_append_cons split with ⟨-, rfl⟩ | ⟨rest, rfl, rfl⟩
    · exact Or.inl stored
    · refine Or.inr ⟨⟨before, first, rest, rfl, stored, fun later member => ?_⟩, ?_⟩
      · exact uncaptured later (List.mem_append_left _ member)
      · exact uncaptured e (List.mem_append_right _ List.mem_cons_self)
  · rintro (stored | ⟨⟨before, first, after, rfl, stored, uncaptured⟩, kept⟩)
    · refine ⟨past, e, [], rfl, stored, ?_⟩
      simp
    · refine ⟨before, first, after ++ [e], by simp, stored, ?_⟩
      simpa [or_imp, forall_and] using ⟨uncaptured, kept⟩

/-- The flag is raised exactly if a frame was accepted since the last capture. -/
theorem flag_extended {past : List StreamEntry} {s t : Stream} {event : StreamEvent} {reply : Reply}
    (flag : s.m_newFrame = true ↔ AcceptedSinceCapture past)
    (ran : event.step s = .ok (reply, t)) :
    t.m_newFrame = true ↔ AcceptedSinceCapture (past ++ [⟨s, event, reply, t⟩]) := by
  rw [acceptedSinceCapture_snoc, ← flag, step_newFrame ran]
  simp

section Runs

variable {s : Stream} {events : List StreamEvent} {past future : List StreamEntry} {e : StreamEntry}

theorem flag_iff (lowered : s.m_newFrame = false)
    (split : Run.trace StreamEvent.step s events = past ++ e :: future) :
    e.pre.m_newFrame = true ↔ AcceptedSinceCapture past := by
  refine Run.trace_history (H := fun past s => s.m_newFrame = true ↔ AcceptedSinceCapture past)
    ?_ (fun _ _ _ _ _ flag ran => flag_extended flag ran) events split
  rw [lowered]
  exact iff_of_false Bool.false_ne_true not_acceptedSinceCapture_nil

/-- A poll's answer is still true at the next capture. -/
theorem Polled.guarded (lowered : s.m_newFrame = false)
    (polled : Polled (Run.trace StreamEvent.step s events)) :
    Guarded (Run.trace StreamEvent.step s events) := by
  intro e member capture
  obtain ⟨past, future, split⟩ := List.append_of_mem member
  obtain ⟨before, poll, after, rfl, input, output, uncaptured⟩ := polled past e future split capture
  have atPoll : poll.pre.m_newFrame = true := by
    have ran := Run.step_of_mem_trace (show poll ∈ Run.trace StreamEvent.step s events by
      rw [split]; simp)
    rw [input, output] at ran
    exact Reply.flag.inj (congrArg Prod.fst (Except.ok.inj ran))
  have atCapture := flag_iff lowered split
  rw [List.append_assoc, List.cons_append] at split
  obtain ⟨first, stored, rest, rfl, isStored, since⟩ := (flag_iff lowered split).1 atPoll
  refine atCapture.2 ⟨first, stored, rest ++ poll :: after, by simp, isStored, ?_⟩
  intro later place
  rcases List.mem_append.1 place with early | late
  · exact since later early
  · rcases List.mem_cons.1 late with rfl | inside
    · simp [captured, input, StreamQuery.captures]
    · exact uncaptured later inside

end Runs

/-! ## What a guarded client receives -/

namespace Stream

/-- The stream has this frame to hand out. -/
structure Hands (s : Stream) (frame : Bytes) : Prop where
  shown : s.m_rawMode = false → frame <+: s.m_frameBuffer
  size : s.m_rawMode = true → s.m_rawFrameSize = .ofNat frame.length
  stored : s.m_rawMode = true → s.m_rawBuffer.take frame.length = frame

variable {s t : Stream}

theorem Hands.of_same {frame : Bytes} (hands : s.Hands frame) (same : SameFrames s t)
    (mode : t.m_rawMode = s.m_rawMode) : t.Hands frame where
  shown := fun rgb => same.frameBuffer ▸ hands.shown (mode ▸ rgb)
  size := fun raw => same.rawFrameSize ▸ hands.size (mode ▸ raw)
  stored := fun raw => same.rawBuffer ▸ hands.stored (mode ▸ raw)

theorem submit_frameBuffer_length (submission : Submission) :
    (s.submit submission).m_frameBuffer.length = s.m_frameBuffer.length := by
  cases submission with
  | submitBuffer ptr =>
      cases ptr with
      | none => rfl
      | some data =>
          simp only [submit, submitBuffer]
          split
          · exact length_memcpy (Nat.le_refl _)
          · rfl
  | submitRawBuffer ptr => cases ptr <;> rfl
  | converted image => exact length_memcpy (Nat.le_refl _)

theorem submit_rawFrameSize {submission : Submission} (rgb : submission.isRaw = false) :
    (s.submit submission).m_rawFrameSize = s.m_rawFrameSize := by
  cases submission with
  | submitBuffer ptr =>
      cases ptr with
      | none => rfl
      | some data =>
          simp only [submit, submitBuffer]
          split <;> rfl
  | submitRawBuffer ptr => cases rgb
  | converted image => rfl

/-- An image that fits the frame buffer of a stream without a raw frame. -/
theorem hands_image {data : Bytes} (room : data.length ≤ s.m_frameBuffer.length)
    (noRaw : s.m_rawFrameSize = 0) (m_newFrame : Bool) (m_frames : UInt32) :
    Hands { s with
      m_frameBuffer := memcpy s.m_frameBuffer data data.length
      m_newFrame, m_frames } (if s.m_rawMode then [] else data) where
  shown := by
    intro (rgb : s.m_rawMode = false)
    rw [rgb, if_neg Bool.false_ne_true, memcpy_all room]
    exact List.prefix_append data _
  size := by
    intro (raw : s.m_rawMode = true)
    rw [if_pos raw]
    exact noRaw
  stored := by
    intro (raw : s.m_rawMode = true)
    rw [if_pos raw]
    rfl

theorem submit_hands {submission : Submission} (accepts : s.accepts submission = true)
    (inside : ∀ image, submission = .converted image → image.length ≤ s.m_frameBuffer.length)
    (noRaw : submission.isRaw = false → s.m_rawFrameSize = 0) :
    (s.submit submission).Hands (submission.frame s.m_rawMode) := by
  cases submission with
  | submitBuffer ptr =>
      cases ptr with
      | none => cases accepts
      | some data =>
          have room : data.length ≤ s.m_frameBuffer.length := of_decide_eq_true accepts
          simp only [submit, submitBuffer, if_pos room]
          exact hands_image room (noRaw rfl) true (s.m_frames + 1)
  | converted image => exact hands_image (inside image rfl) (noRaw rfl) true (s.m_frames + 1)
  | submitRawBuffer ptr =>
      cases ptr with
      | none => cases accepts
      | some data =>
          have frame : (Submission.submitRawBuffer (some data)).frame s.m_rawMode =
              if s.m_rawMode then data else [] := rfl
          rw [frame]
          constructor
          · intro (rgb : s.m_rawMode = false)
            rw [rgb, if_neg Bool.false_ne_true]
            exact List.nil_prefix
          · intro (raw : s.m_rawMode = true)
            rw [if_pos raw]
            rfl
          · intro (raw : s.m_rawMode = true)
            rw [if_pos raw]
            exact (submitRawBuffer_stored data).2

/-- A capture that returns true was made on a stream that is not raw. -/
theorem captureFrame_ok {RGBbufferPtr : Bytes} {RGBbufferBytes : UInt32}
    (ok : (s.captureFrame RGBbufferPtr RGBbufferBytes).1.1 = true) :
    s.m_rawMode = false ∧
      (s.captureFrame RGBbufferPtr RGBbufferBytes).1.2 =
        memcpy RGBbufferPtr s.m_frameBuffer
          (min RGBbufferBytes.toNat s.m_frameBuffer.length) := by
  unfold captureFrame at ok ⊢
  split at ok
  · cases ok
  · rename_i rgb
    split at ok
    · cases ok
    · rename_i isOpen
      rw [if_neg rgb, if_neg isOpen]
      refine ⟨by simpa using rgb, ?_⟩
      simp only [← Nat.min_def]
      split
      · rfl
      · rename_i nothing
        rw [Classical.not_not.1 nothing]
        simp [memcpy]

/-- A capture that returns true copies out the frame the stream has. -/
theorem Hands.receives {frame : Bytes} (hands : s.Hands frame) {event : StreamEvent} {reply : Reply}
    (ran : event.step s = .ok (reply, t)) (capture : captured ⟨s, event, reply, t⟩ = true) :
    Receives ⟨s, event, reply, t⟩ frame := by
  cases event with
  | submit submission => cases capture
  | query q =>
      obtain rfl : reply = (q.act s).1 := congrArg Prod.fst (Except.ok.inj ran).symm
      cases q with
      | captureFrame RGBbufferPtr RGBbufferBytes =>
          have ok : (s.captureFrame RGBbufferPtr RGBbufferBytes).1.1 = true := capture
          obtain ⟨rgb, output⟩ := captureFrame_ok ok
          obtain ⟨rest, shown⟩ := hands.shown rgb
          refine ⟨rest, congrArg List.length shown, ?_⟩
          rw [shown]
          exact congrArg₂ (fun ok out => Reply.frame ok (some out)) ok output
      | captureFrameRaw jpegBufferPtr jpegBufferBytes outBytes =>
          have ok : (s.captureFrameRaw jpegBufferPtr jpegBufferBytes outBytes).1.ok = true := capture
          obtain ⟨isOpen, raw, room, out, actual, rfl, rfl⟩ := captureFrameRaw_ok ok
          have copied : s.m_rawFrameSize.toNat ≤ frame.length := by
            rw [hands.size raw, UInt32.toNat_ofNat']
            exact Nat.mod_le _ _
          have same : s.m_rawBuffer.take s.m_rawFrameSize.toNat =
              frame.take s.m_rawFrameSize.toNat := by
            rw [← hands.stored raw, List.take_take, Nat.min_eq_left copied]
          show Reply.raw (s.captureFrameRaw (some out) jpegBufferBytes (some actual)).1 = _
          rw [captureFrameRaw_of_open isOpen raw, if_neg (UInt32.not_lt.2 room), ← hands.size raw]
          simp only [memcpy, same]
      | _ => cases capture

end Stream

/-- A stream in this mode after a part of a run, its capture side submitting frames of one kind: it
has the frame to hand out that was accepted last. -/
structure HasLast (rawMode kind : Bool) (frameBufferBytes : Nat) (past : List StreamEntry)
    (s : Stream) : Prop where
  mode : s.m_rawMode = rawMode
  sized : s.m_frameBuffer.length = frameBufferBytes
  noRaw : kind = false → s.m_rawFrameSize = 0
  last : ∀ before a after, past = before ++ a :: after → accepted a = true →
    (∀ later ∈ after, accepted later = false) → s.Hands (submittedFrame rawMode a)

section OneSide

variable {rawMode kind : Bool} {frameBufferBytes : Nat} {past : List StreamEntry} {s t : Stream}
  {event : StreamEvent} {reply : Reply}

theorem hasLast_unstored (holds : HasLast rawMode kind frameBufferBytes past s)
    (ran : event.step s = .ok (reply, t)) (unstored : accepted ⟨s, event, reply, t⟩ = false) :
    HasLast rawMode kind frameBufferBytes (past ++ [⟨s, event, reply, t⟩]) t := by
  have same := step_sameFrames ran unstored
  have mode : t.m_rawMode = s.m_rawMode := step_rawMode ran
  refine ⟨mode.trans holds.mode, same.frameBuffer ▸ holds.sized,
    fun rgb => same.rawFrameSize ▸ holds.noRaw rgb, ?_⟩
  intro before a after split stored unstoredAfter
  rcases Run.snoc_eq_append_cons split with ⟨-, rfl⟩ | ⟨rest, rfl, rfl⟩
  · rw [unstored] at stored
    cases stored
  · have kept := holds.last before a rest rfl stored fun later member =>
      unstoredAfter later (List.mem_append_left _ member)
    exact kept.of_same same mode

theorem hasLast_stored {submission : Submission}
    (holds : HasLast rawMode kind frameBufferBytes past s)
    (accepts : s.accepts submission = true) (isKind : submission.isRaw = kind)
    (inside : ∀ image, submission = .converted image → image.length ≤ frameBufferBytes) :
    HasLast rawMode kind frameBufferBytes
      (past ++ [⟨s, .submit submission, .none, s.submit submission⟩]) (s.submit submission) := by
  refine ⟨(Stream.submit_rawMode submission).trans holds.mode,
    (Stream.submit_frameBuffer_length submission).trans holds.sized, fun rgb => ?_, ?_⟩
  · rw [Stream.submit_rawFrameSize (isKind.trans rgb)]
    exact holds.noRaw rgb
  · intro before a after split stored unstoredAfter
    rcases Run.snoc_eq_append_cons split with ⟨-, rfl⟩ | ⟨rest, rfl, rfl⟩
    · rw [← holds.mode]
      exact Stream.submit_hands accepts (fun image same => holds.sized ▸ inside image same)
        fun rgb => holds.noRaw (isKind.symm.trans rgb)
    · have refused := unstoredAfter _ (List.mem_append_right rest List.mem_cons_self)
      rw [show accepted _ = s.accepts submission from rfl, accepts] at refused
      cases refused

end OneSide

/-- Before each step of its run a stream has the frame to hand out that was accepted last. -/
theorem hasLast_before (raw : Option UInt32) (width height : UInt32) {frameBufferBytes : Nat}
    {events : List StreamEvent} (side : FromOneSide frameBufferBytes events)
    {past future : List StreamEntry} {e : StreamEntry}
    (split : Run.trace StreamEvent.step (Stream.started raw width height frameBufferBytes) events =
      past ++ e :: future) :
    ∃ kind, HasLast raw.isSome kind frameBufferBytes past e.pre := by
  obtain ⟨kind, oneKind⟩ := side.kind
  refine ⟨kind, ?_⟩
  have inputs : ∀ entry ∈ past, entry.input ∈ events := fun entry member =>
    Run.input_mem_of_mem_trace (split ▸ List.mem_append_left _ member)
  refine Run.trace_history (H := fun past s => (∀ entry ∈ past, entry.input ∈ events) →
    HasLast raw.isSome kind frameBufferBytes past s) ?_ ?_ events split inputs
  · intro _
    refine ⟨by cases raw <;> rfl, by cases raw <;> exact length_resize _ _,
      fun _ => by cases raw <;> rfl, ?_⟩
    intro before a after impossible
    cases before <;> cases impossible
  · intro past s event reply t holds ran inputs
    have before := holds fun entry member => inputs entry (List.mem_append_left _ member)
    cases stored : accepted ⟨s, event, reply, t⟩ with
    | false => exact hasLast_unstored before ran stored
    | true =>
        have asked : event ∈ events :=
          inputs ⟨s, event, reply, t⟩ (List.mem_append_right _ List.mem_cons_self)
        cases event with
        | query q => cases stored
        | submit submission =>
            obtain ⟨rfl, rfl⟩ := Prod.mk.inj (Except.ok.inj ran)
            refine hasLast_stored before stored (oneKind submission asked) ?_
            rintro image rfl
            exact side.inside image asked

/-- The submission accepted last lies after the captures made so far. -/
theorem exists_last_accepted {past : List StreamEntry} (since : AcceptedSinceCapture past) :
    ∃ before a after, past = before ++ a :: after ∧ accepted a = true ∧
      ∀ later ∈ after, accepted later = false ∧ captured later = false := by
  induction past using List.reverseRecOn with
  | nil => exact absurd since not_acceptedSinceCapture_nil
  | append_singleton past e ih =>
      cases stored : accepted e with
      | true => exact ⟨past, e, [], rfl, stored, fun later member => absurd member List.not_mem_nil⟩
      | false =>
          obtain ⟨earlier, uncaptured⟩ :=
            ((acceptedSinceCapture_snoc past e).1 since).resolve_left (by simp [stored])
          obtain ⟨before, a, after, rfl, isStored, rest⟩ := ih earlier
          refine ⟨before, a, after ++ [e], by simp, isStored, ?_⟩
          intro later member
          rcases List.mem_append.1 member with inside | last
          · exact rest later inside
          · obtain rfl := List.mem_singleton.1 last
            exact ⟨stored, uncaptured⟩

/-- An entry with no capture after it lies behind any capture. -/
theorem after_capture {first a : StreamEntry} {earlier between before after : List StreamEntry}
    (split : earlier ++ first :: between = before ++ a :: after) (capture : captured first = true)
    (stored : accepted a = true) (uncaptured : ∀ later ∈ after, captured later = false) :
    ∃ rest, between = rest ++ a :: after := by
  rcases List.append_eq_append_iff.1 split with ⟨mid, rfl, same⟩ | ⟨mid, rfl, same⟩
  · cases mid with
    | nil =>
        obtain ⟨rfl, -⟩ := List.cons.inj same
        cases input : first.input <;> simp [accepted, captured, input] at stored capture
    | cons head rest =>
        obtain ⟨rfl, tail⟩ := List.cons.inj same
        exact ⟨rest, tail⟩
  · cases mid with
    | nil =>
        obtain ⟨rfl, -⟩ := List.cons.inj same
        cases input : a.input <;> simp [accepted, captured, input] at stored capture
    | cons head rest =>
        obtain ⟨rfl, tail⟩ := List.cons.inj same
        have late : captured first = false := uncaptured first (tail ▸ by simp)
        rw [capture] at late
        cases late

/-- **The new-frame flag.**  In every interleaving of submissions and calls, `hasNewFrame` returns
true exactly if a frame was accepted since the last capture that returned true.  A client that
captures only when it is true receives each time the frame of the submission accepted last; of two
captures the later one receives a submission that was accepted after the earlier one. -/
theorem newFrame_run (raw : Option UInt32) (width height : UInt32) (frameBufferBytes : Nat)
    (events : List StreamEvent) :
    let run := Run.trace StreamEvent.step (Stream.started raw width height frameBufferBytes) events
    (∀ past e future, run = past ++ e :: future → e.input = .query .hasNewFrame →
      (e.output = .flag true ↔ AcceptedSinceCapture past)) ∧
    (FromOneSide frameBufferBytes events → Guarded run ∨ Polled run →
      (∀ past e future, run = past ++ e :: future → captured e = true → ReceivesLastOf past e) ∧
      ∀ past first between e future, run = past ++ first :: between ++ e :: future →
        captured first = true → captured e = true → ReceivesLastOf between e) := by
  intro run
  have lowered : (Stream.started raw width height frameBufferBytes).m_newFrame = false := by
    cases raw <;> rfl
  constructor
  · intro past e future split input
    have member : e ∈ run := by
      rw [split]
      simp
    have ran := Run.step_of_mem_trace member
    rw [input] at ran
    have output : e.output = .flag e.pre.m_newFrame :=
      congrArg Prod.fst (Except.ok.inj ran).symm
    rw [output, ← flag_iff lowered split, Reply.flag.injEq]
  · intro side careful
    have guarded : Guarded run := careful.elim id (Polled.guarded lowered)
    have received : ∀ past e future, run = past ++ e :: future → captured e = true →
        ∃ before a after, past = before ++ a :: after ∧ accepted a = true ∧
          (∀ later ∈ after, accepted later = false ∧ captured later = false) ∧
          Receives e (submittedFrame e.pre.m_rawMode a) := by
      intro past e future split capture
      have member : e ∈ run := by
        rw [split]
        simp
      obtain ⟨before, a, after, parts, stored, last⟩ :=
        exists_last_accepted ((flag_iff lowered split).1 (guarded e member capture))
      obtain ⟨kind, holds⟩ := hasLast_before raw width height side split
      have hands := holds.last before a after parts stored fun later inside => (last later inside).1
      rw [← holds.mode] at hands
      exact ⟨before, a, after, parts, stored, last,
        hands.receives (Run.step_of_mem_trace member) capture⟩
    constructor
    · intro past e future split capture
      obtain ⟨before, a, after, parts, stored, last, receives⟩ := received past e future split capture
      exact ⟨before, a, after, parts, stored, fun later inside => (last later inside).1, receives⟩
    · intro past first between e future split captureFirst capture
      obtain ⟨before, a, after, parts, stored, last, receives⟩ := received _ e future split capture
      obtain ⟨rest, within⟩ := after_capture parts captureFirst stored fun later inside =>
        (last later inside).2
      exact ⟨rest, a, after, within, stored, fun later inside => (last later inside).1, receives⟩

/-- A client that polls, and captures each of two frames. -/
def pollAndCapture : List StreamEvent :=
  [.submit (.submitBuffer (some [1, 2, 3])), .query .hasNewFrame,
    .query (.captureFrame [0, 0, 0] 3), .submit (.submitBuffer (some [4, 5, 6])),
    .query .hasNewFrame, .query (.captureFrame [1, 2, 3] 3)]

theorem pollAndCapture_fromOneSide : FromOneSide 3 pollAndCapture where
  kind := by
    refine ⟨false, fun submission member => ?_⟩
    simp only [pollAndCapture, List.mem_cons, StreamEvent.submit.injEq, reduceCtorEq, false_or,
      List.not_mem_nil, or_false] at member
    rcases member with rfl | rfl <;> rfl
  inside := by
    intro image member
    simp [pollAndCapture] at member

theorem pollAndCapture_polled :
    Polled (Run.trace StreamEvent.step (Stream.started none 1 1 3) pollAndCapture) := by
  intro past e future split capture
  rcases past with _ | ⟨a, _ | ⟨b, _ | ⟨c, _ | ⟨d, _ | ⟨f, _ | ⟨g, past⟩⟩⟩⟩⟩⟩
  · cases split; cases capture
  · cases split; cases capture
  · cases split
    exact ⟨[_], _, [], rfl, rfl, rfl, by simp⟩
  · cases split; cases capture
  · cases split; cases capture
  · cases split
    exact ⟨[_, _, _, _], _, [], rfl, rfl, rfl, by simp⟩
  · simp [Run.trace, pollAndCapture, StreamEvent.step] at split

theorem newFrame_run_two_frames :
    let run := Run.trace StreamEvent.step (Stream.started none 1 1 3) pollAndCapture
    Guarded run ∧ Polled run ∧
      ∀ past first between e future, run = past ++ first :: between ++ e :: future →
        captured first = true → captured e = true → ReceivesLastOf between e :=
  ⟨pollAndCapture_polled.guarded rfl, pollAndCapture_polled,
    ((newFrame_run none 1 1 3 pollAndCapture).2 pollAndCapture_fromOneSide
      (.inr pollAndCapture_polled)).2⟩

end OpenpnpCapture.Common
