/-
# Common.RawClient — the documented capture loop of a raw client

A client of a raw stream owns one buffer.  It asks for a frame; when the capture fails it grows
the buffer to twice the size it was told and asks again, and it keeps the buffer for the frames
after.  Whatever else happens to the stream happens between two of its calls, so a retry may
find a longer frame than the one that did not fit.

A failing call is told a size above the buffer's (`capture_cases`), so the growth at least
doubles the buffer: after `k` failures it has `2 ^ k * (b + 2) - 2` bytes or more.  No failing
call is told more than the longest frame, which bounds `k` (`client_loop`).
-/
import OpenpnpCapture.Common.Libmain
import OpenpnpCapture.Common.RawFrames

namespace OpenpnpCapture.Common

open OpenpnpCapture.Lib OpenpnpCapture.Lib.StdMap

set_option autoImplicit false

/-- The stream, the client's buffer and its `actualBytes`. -/
structure RawClient where
  stream : Stream
  jpegBuffer : Bytes
  actualBytes : UInt32

/-- The client goes once round its loop, or something else happens to the stream. -/
inductive ClientEvent
  | capture
  | stream (event : RawEvent)

namespace RawClient

/-- A capture with the current buffer, and the growth when it fails. -/
def capture (c : RawClient) : Stream.RawCapture × RawClient :=
  let r := c.stream.captureFrameRaw (some c.jpegBuffer) (.ofNat c.jpegBuffer.length)
    (some c.actualBytes)
  let jpegBuffer := r.1.out.getD c.jpegBuffer
  let actualBytes := r.1.actualBytes.getD c.actualBytes
  (r.1,
    { stream := r.2
      jpegBuffer := if r.1.ok then jpegBuffer else resize jpegBuffer (actualBytes * 2).toNat
      actualBytes })

def step (c : RawClient) : ClientEvent → Except Empty (Option Stream.RawCapture × RawClient)
  | .capture => .ok (some c.capture.1, c.capture.2)
  | .stream event => .ok (none, { c with stream := RawEvent.step c.stream event })

end RawClient

abbrev ClientEntry := Run.Entry RawClient ClientEvent (Option Stream.RawCapture)

namespace ClientEntry

/-- What an entry is to the stream. -/
def rawEvent (e : ClientEntry) : RawEvent :=
  match e.input with
  | .stream event => event
  | .capture =>
      .captureFrameRaw (some e.pre.jpegBuffer) (.ofNat e.pre.jpegBuffer.length)
        (some e.pre.actualBytes)

def failed (e : ClientEntry) : Bool :=
  e.output.any fun r => !r.ok

end ClientEntry

open RawEvent

/-- The frames submitted so far. -/
def submitted (past : List ClientEntry) : List Bytes :=
  submissions (past.map ClientEntry.rawEvent)

/-- The failing calls so far. -/
def failures (past : List ClientEntry) : Nat :=
  past.countP ClientEntry.failed

/-! ## One call -/

section Call

variable {c : RawClient} {m : Mailbox Bytes} {M : Nat}

/-- The size a stream keeps is at most the length of the frame it holds. -/
theorem Holds.size_le_frame (related : Holds true c.stream m)
    (short : ∀ frame, m.latest = some frame → frame.length ≤ M) :
    c.stream.m_rawFrameSize.toNat ≤ M := by
  rw [related.size]
  cases latest : m.latest with
  | none => exact Nat.zero_le M
  | some frame =>
      have bound := short frame latest
      have truncated : (UInt32.ofNat frame.length).toNat ≤ frame.length := by
        rw [UInt32.toNat_ofNat']
        exact Nat.mod_le _ _
      exact Nat.le_trans truncated bound

/-- A call of the client either is told a size above its buffer's and at least doubles the buffer,
or is handed the frame the stream holds in a buffer of the same size. -/
theorem capture_cases (related : Holds true c.stream m)
    (counted : c.jpegBuffer.length < 2 ^ 32) (limit : M < 2 ^ 31)
    (short : ∀ frame, m.latest = some frame → frame.length ≤ M) :
    (c.capture.1 = ⟨false, some c.jpegBuffer, some c.stream.m_rawFrameSize⟩ ∧
      c.jpegBuffer.length < c.stream.m_rawFrameSize.toNat ∧
      c.stream.m_rawFrameSize.toNat ≤ M ∧
      c.capture.2.jpegBuffer.length = c.stream.m_rawFrameSize.toNat * 2) ∨
    (c.capture.1 = ⟨true, some (memcpy c.jpegBuffer c.stream.m_rawBuffer
        c.stream.m_rawFrameSize.toNat), some c.stream.m_rawFrameSize⟩ ∧
      c.stream.m_rawFrameSize.toNat ≤ c.jpegBuffer.length ∧
      c.capture.2.jpegBuffer.length = c.jpegBuffer.length) := by
  have bound := related.size_le_frame short
  have passed : (UInt32.ofNat c.jpegBuffer.length).toNat = c.jpegBuffer.length :=
    uint32_ofNat counted
  unfold RawClient.capture
  simp only [Stream.captureFrameRaw_of_open related.isOpen_eq related.rawMode]
  by_cases small : UInt32.ofNat c.jpegBuffer.length < c.stream.m_rawFrameSize
  · have above : c.jpegBuffer.length < c.stream.m_rawFrameSize.toNat := by
      rw [← passed]
      exact UInt32.lt_iff_toNat_lt.1 small
    refine Or.inl ⟨by simp only [if_pos small], above, bound, ?_⟩
    simp only [if_pos small, Bool.false_eq_true, if_false, Option.getD_some, length_resize]
    exact uint32_mul (n := 2) rfl rfl (by omega)
  · have room : c.stream.m_rawFrameSize.toNat ≤ c.jpegBuffer.length := by
      rw [← passed]
      exact UInt32.le_iff_toNat_le.1 (UInt32.not_lt.1 small)
    refine Or.inr ⟨by simp only [if_neg small], room, ?_⟩
    simp only [if_neg small, if_true, Option.getD_some]
    exact length_memcpy related.size_le

end Call

/-! ## The loop -/

/-- What the steps so far say about the client: its stream is the raw stream they act on, its buffer
has doubled with each failure, and the last failure was told at most `M`. -/
structure Progress (start : Stream) (b M : Nat) (past : List ClientEntry) (c : RawClient) : Prop where
  stream : c.stream = Run.after RawEvent.step start (past.map ClientEntry.rawEvent)
  counted : c.jpegBuffer.length < 2 ^ 32
  doubled : 2 ^ failures past * (b + 2) ≤ c.jpegBuffer.length + 2
  bounded : 1 ≤ failures past → 2 ^ (failures past - 1) * (b + 2) ≤ M + 1

section Loop

variable {estimatedJPEGSize width height : UInt32} {frameBufferBytes b M : Nat}

theorem submitted_snoc (past : List ClientEntry) (e : ClientEntry) :
    submitted (past ++ [e]) = submitted past ++ submissions [e.rawEvent] := by
  simp [submitted, submissions]

theorem failures_snoc (past : List ClientEntry) (e : ClientEntry) :
    failures (past ++ [e]) = failures past + if e.failed then 1 else 0 := by
  simp [failures, List.countP_append, List.countP_cons]

/-- The client's stream holds the last frame submitted. -/
theorem Progress.holds {past : List ClientEntry} {c : RawClient}
    (progress : Progress (rawStream true estimatedJPEGSize width height frameBufferBytes) b M past c) :
    ∃ m : Mailbox Bytes, m.latest = (submitted past).getLast? ∧ Holds true c.stream m := by
  rw [progress.stream]
  exact holds_after true estimatedJPEGSize width height frameBufferBytes _

theorem progress_extended {past : List ClientEntry} {c next : RawClient} {event : ClientEvent}
    {output : Option Stream.RawCapture} (limit : M < 2 ^ 31)
    (short : ∀ frame ∈ submitted past, frame.length ≤ M)
    (progress : Progress (rawStream true estimatedJPEGSize width height frameBufferBytes) b M past c)
    (ran : c.step event = .ok (output, next)) :
    Progress (rawStream true estimatedJPEGSize width height frameBufferBytes) b M
      (past ++ [⟨c, event, output, next⟩]) next := by
  have extended (e : ClientEntry) (after : Stream)
      (acts : after = RawEvent.step c.stream e.rawEvent) :
      after = Run.after RawEvent.step
        (rawStream true estimatedJPEGSize width height frameBufferBytes)
        ((past ++ [e]).map ClientEntry.rawEvent) := by
    rw [List.map_append, Run.after_append, ← progress.stream]
    exact acts
  cases event with
  | stream other =>
      obtain ⟨rfl, rfl⟩ := Prod.mk.inj (Except.ok.inj ran)
      have same : failures (past ++ [⟨c, .stream other, none,
          { c with stream := RawEvent.step c.stream other }⟩]) = failures past :=
        failures_snoc past _
      exact
        { stream := extended _ _ rfl
          counted := progress.counted
          doubled := by
            rw [same]
            exact progress.doubled
          bounded := by
            rw [same]
            exact progress.bounded }
  | capture =>
      obtain ⟨rfl, rfl⟩ := Prod.mk.inj (Except.ok.inj ran)
      obtain ⟨m, latest, related⟩ := progress.holds
      have shortLatest : ∀ frame, m.latest = some frame → frame.length ≤ M := by
        intro frame holdsFrame
        exact short frame (List.mem_of_getLast? (latest.symm.trans holdsFrame))
      have doubled := progress.doubled
      have counted := progress.counted
      have stream := extended ⟨c, .capture, some c.capture.1, c.capture.2⟩ _ rfl
      rcases capture_cases related counted limit shortLatest with
        ⟨reply, above, told, grown⟩ | ⟨reply, room, kept⟩
      · -- the buffer has twice the size told, which was above its own
        have failed : failures (past ++ [⟨c, .capture, some c.capture.1, c.capture.2⟩]) =
            failures past + 1 := by
          rw [failures_snoc, ClientEntry.failed]
          simp [reply]
        refine ⟨stream, by omega, ?_, fun _ => ?_⟩
        · rw [failed, Nat.pow_succ, Nat.mul_comm _ 2, Nat.mul_assoc]
          omega
        · rw [failed, Nat.add_sub_cancel]
          omega
      · have captured : failures (past ++ [⟨c, .capture, some c.capture.1, c.capture.2⟩]) =
            failures past := by
          rw [failures_snoc, ClientEntry.failed]
          simp [reply]
        refine ⟨stream, by omega, ?_, ?_⟩
        · rw [captured]
          omega
        · rw [captured]
          exact progress.bounded

/-- Before any step of a run of the client, and after it. -/
theorem progress_run {buffer : Bytes} {events : List ClientEvent}
    (counted : buffer.length < 2 ^ 32) (limit : M < 2 ^ 31)
    (short : ∀ frame, .stream (.submitRawBuffer (some frame)) ∈ events → frame.length ≤ M)
    {actualBytes : UInt32} {past future : List ClientEntry}
    (split : Run.trace RawClient.step
      ⟨rawStream true estimatedJPEGSize width height frameBufferBytes, buffer, actualBytes⟩ events =
        past ++ future) :
    (∀ frame ∈ submitted past, frame.length ≤ M) ∧
      Progress (rawStream true estimatedJPEGSize width height frameBufferBytes) buffer.length M past
        (Run.endState
          ⟨rawStream true estimatedJPEGSize width height frameBufferBytes, buffer, actualBytes⟩
          past) := by
  have shortPast : ∀ frame ∈ submitted past, frame.length ≤ M := by
    intro frame member
    obtain ⟨raw, inRaw, posted⟩ := List.mem_filterMap.1 member
    obtain ⟨e, inPast, rfl⟩ := List.mem_map.1 inRaw
    have input := Run.input_mem_of_mem_trace (split ▸ List.mem_append_left future inPast)
    refine short frame ?_
    cases given : e.input with
    | capture => simp [ClientEntry.rawEvent, given] at posted
    | stream event =>
        cases event with
        | submitRawBuffer ptr =>
            obtain rfl : ptr = some frame := by simpa [ClientEntry.rawEvent, given] using posted
            exact given ▸ input
        | _ => simp [ClientEntry.rawEvent, given] at posted
  refine ⟨shortPast, ?_⟩
  refine Run.endState_history
    (H := fun past c => (∀ frame ∈ submitted past, frame.length ≤ M) →
      Progress (rawStream true estimatedJPEGSize width height frameBufferBytes) buffer.length M past c)
    ?_ ?_ events split shortPast
  · intro _
    exact ⟨rfl, counted, by simp [failures], fun some_ => by simp [failures] at some_⟩
  · intro past c event output next before ran all
    have earlier : ∀ frame ∈ submitted past, frame.length ≤ M := by
      intro frame member
      refine all frame ?_
      rw [submitted_snoc]
      exact List.mem_append_left _ member
    exact progress_extended limit earlier (before earlier) ran

/-- **The capture loop.**  Whatever happens to an open raw stream between the calls, a failing call is
told a size above that of the buffer it was given, the failing calls double the buffer and so
stay few, and once a frame was submitted a call that succeeds hands out the last one whole. -/
theorem client_loop (estimatedJPEGSize width height : UInt32) (frameBufferBytes : Nat)
    (buffer : Bytes) (actualBytes : UInt32) (M : Nat) (events : List ClientEvent)
    (counted : buffer.length < 2 ^ 32) (limit : M < 2 ^ 31)
    (short : ∀ frame, .stream (.submitRawBuffer (some frame)) ∈ events → frame.length ≤ M) :
    let client : RawClient :=
      ⟨rawStream true estimatedJPEGSize width height frameBufferBytes, buffer, actualBytes⟩
    (∀ past future, Run.trace RawClient.step client events = past ++ future →
        1 ≤ failures past → 2 ^ (failures past - 1) * (buffer.length + 2) ≤ M + 1) ∧
      ∀ past e future, Run.trace RawClient.step client events = past ++ e :: future →
        ∀ r, e.output = some r →
          (r.ok = false →
            ∃ told, r.actualBytes = some told ∧ e.pre.jpegBuffer.length < told.toNat) ∧
          (r.ok = true → submitted past ≠ [] →
            ∃ frame told, (submitted past).getLast? = some frame ∧
              r.out = some (frame ++ e.pre.jpegBuffer.drop frame.length) ∧
              r.actualBytes = some told ∧ told.toNat = frame.length) := by
  intro client
  refine ⟨fun past future split => (progress_run counted limit short split).2.bounded, ?_⟩
  intro past e future split r output
  obtain ⟨shortPast, progress⟩ := progress_run counted limit short split
  rw [← Run.pre_eq_endState split] at progress
  obtain ⟨m, latest, related⟩ := progress.holds
  have shortLatest : ∀ frame, m.latest = some frame → frame.length ≤ M := fun frame holdsFrame =>
    shortPast frame (List.mem_of_getLast? (latest.symm.trans holdsFrame))
  have reply : e.pre.capture.1 = r := by
    have ran := Run.step_of_mem_trace (split ▸ List.mem_append_right past List.mem_cons_self)
    rw [output] at ran
    cases input : e.input with
    | stream event =>
        rw [input] at ran
        cases ran
    | capture =>
        rw [input] at ran
        exact Option.some.inj (congrArg Prod.fst (Except.ok.inj ran))
  subst reply
  rcases capture_cases related progress.counted limit shortLatest with
    ⟨reply, above, -, -⟩ | ⟨reply, room, -⟩
  · rw [reply]
    exact ⟨fun _ => ⟨_, rfl, above⟩, fun ok => absurd ok (by simp)⟩
  · rw [reply]
    refine ⟨fun failed => absurd failed (by simp), fun _ some_ => ?_⟩
    obtain ⟨frame, last⟩ := Option.ne_none_iff_exists'.1 (mt List.getLast?_eq_none_iff.1 some_)
    have holdsFrame : m.latest = some frame := latest.trans last
    have small : frame.length < 2 ^ 32 := by
      have := shortLatest frame holdsFrame
      omega
    have size := related.size_eq holdsFrame small
    refine ⟨frame, _, last, congrArg some (related.copied holdsFrame small ?_), rfl, size⟩
    omega

/-- A frame of three bytes does not fit into one byte; the second call hands it out. -/
theorem client_loop_grows_once :
    2 ^ (1 - 1) * (1 + 2) ≤ 3 + 1 ∧
      ∃ r, (Run.trace RawClient.step ⟨rawStream true 0 1 1 3, [9], 0⟩
          [.stream (.submitRawBuffer (some [1, 2, 3])), .capture, .capture]).map
            Run.Entry.output = [none, some ⟨false, some [9], some 3⟩, some r] ∧
        r.out = some ([1, 2, 3] ++ [0, 0, 0]) := by
  have main := client_loop 0 1 1 3 [9] 0 3
    [.stream (.submitRawBuffer (some [1, 2, 3])), .capture, .capture] (by decide) (by decide)
    (by simp +contextual)
  refine ⟨main.1 _ [] (List.append_nil _).symm (by decide), _, rfl, ?_⟩
  obtain ⟨frame, told, last, out, -, -⟩ :=
    (main.2 [_, _] _ [] rfl _ rfl).2 (by decide) (by decide)
  obtain rfl : [1, 2, 3] = frame := Option.some.inj last
  exact out

end Loop

end OpenpnpCapture.Common
