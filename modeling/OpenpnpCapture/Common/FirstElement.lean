/-
# Common.FirstElement — the address of the first byte of a buffer

Five methods take `&m_frameBuffer[0]` or `&m_rawBuffer[0]`, which an empty vector does not have.
`captureFrame` asks whether there is anything to copy, and `decodeFrame` whether there is a
frame.  The other three take the address even to copy no bytes: `submitBuffer` and
`submitRawBuffer` of a frame of zero bytes, and `captureFrameRaw` of a frame that has not
arrived.

Here each method is read again with that expression failing on an empty vector.  In a run it
fails exactly at a call that copies nothing while the vector is still empty: the frame buffer
keeps the size it was opened with, and the raw buffer is empty until the first frame of one
byte or more, if it was opened with no capacity (`first_elements_iff`).
-/
import OpenpnpCapture.Common.StreamRun

namespace OpenpnpCapture.Common

open OpenpnpCapture.Lib

set_option autoImplicit false

/-- `&v[0]`: the bytes of `v` from its first one on. -/
def addressOfFirst : Bytes → Option Bytes
  | [] => none
  | byte :: rest => some (byte :: rest)

namespace Stream

/-! ## The methods, with the address checked -/

def captureFrame.checked (s : Stream) (RGBbufferPtr : Bytes) (RGBbufferBytes : UInt32) :
    Option ((Bool × Bytes) × Stream) :=
  if s.m_rawMode then some ((false, RGBbufferPtr), s)
  else if !s.m_isOpen then some ((false, RGBbufferPtr), s)
  else do
    let maxBytes :=
      if RGBbufferBytes.toNat ≤ s.m_frameBuffer.length then RGBbufferBytes.toNat
      else s.m_frameBuffer.length
    let out ←
      if maxBytes ≠ 0 then
        (addressOfFirst s.m_frameBuffer).map fun first => memcpy RGBbufferPtr first maxBytes
      else some RGBbufferPtr
    some ((true, out), { s with m_newFrame := false })

def submitBuffer.checked (s : Stream) : Option Bytes → Option Stream
  | none => some s
  | some data =>
      if data.length ≤ s.m_frameBuffer.length then do
        let first ← addressOfFirst s.m_frameBuffer
        some { s with
          m_frameBuffer := memcpy first data data.length
          m_newFrame := true
          m_frames := s.m_frames + 1 }
      else some s

def submitRawBuffer.checked (s : Stream) : Option Bytes → Option Stream
  | none => some s
  | some data => do
      let rawBuffer :=
        if data.length > s.m_rawBuffer.length then resize s.m_rawBuffer (data.length * 2)
        else s.m_rawBuffer
      let first ← addressOfFirst rawBuffer
      some { s with
        m_rawBuffer := memcpy first data data.length
        m_rawFrameSize := UInt32.ofNat data.length
        m_newFrame := true
        m_frames := s.m_frames + 1 }

def captureFrameRaw.checked (s : Stream) (outPtr : Option Bytes) (outBytes : UInt32)
    (actualBytes : Option UInt32) : Option (RawCapture × Stream) :=
  if !s.m_isOpen then some (⟨false, outPtr, actualBytes⟩, s)
  else if !s.m_rawMode then some (⟨false, outPtr, actualBytes⟩, s)
  else
    match outPtr, actualBytes with
    | some out, some _ =>
        if outBytes < s.m_rawFrameSize then
          some (⟨false, some out, some s.m_rawFrameSize⟩, s)
        else do
          let first ← addressOfFirst s.m_rawBuffer
          some (⟨true, some (memcpy out first s.m_rawFrameSize.toNat), some s.m_rawFrameSize⟩,
            { s with m_newFrame := false })
    | _, _ => some (⟨false, outPtr, actualBytes⟩, s)

def decodeFrame.checked (tj : TurboJpeg) (s : Stream) (RGBbufferPtr : Option Bytes)
    (RGBbufferBytes : UInt32) : Option Decode :=
  if !s.m_isOpen then some (.refused .notOpen)
  else if !s.m_rawMode then some (.refused .notRaw)
  else
    match RGBbufferPtr with
    | none => some (.refused .nullBuffer)
    | some out =>
        let needed := s.m_width * s.m_height * 3
        if RGBbufferBytes < needed then some (.refused .bufferTooSmall)
        else if s.m_rawFrameSize = 0 then some (.refused .noFrame)
        else do
          let first ← addressOfFirst s.m_rawBuffer
          some (.ran (decompressFrame tj (first.take s.m_rawFrameSize.toNat) out
            s.m_width s.m_height))

end Stream

/-! ## Runs of the five calls -/

inductive FrameCall
  | submitBuffer (ptr : Option Bytes)
  | submitRawBuffer (ptr : Option Bytes)
  | captureFrame (RGBbufferPtr : Bytes) (RGBbufferBytes : UInt32)
  | captureFrameRaw (outPtr : Option Bytes) (outBytes : UInt32) (actualBytes : Option UInt32)
  | decodeFrame (tj : TurboJpeg) (RGBbufferPtr : Option Bytes) (RGBbufferBytes : UInt32)

namespace FrameCall

/-- The reply to a call, and the stream afterwards. -/
def act (s : Stream) : FrameCall → Reply × Stream
  | .submitBuffer ptr => (.none, s.submitBuffer ptr)
  | .submitRawBuffer ptr => (.none, s.submitRawBuffer ptr)
  | .captureFrame RGBbufferPtr RGBbufferBytes =>
      (StreamQuery.captureFrame RGBbufferPtr RGBbufferBytes).act s
  | .captureFrameRaw outPtr outBytes actualBytes =>
      (StreamQuery.captureFrameRaw outPtr outBytes actualBytes).act s
  | .decodeFrame tj RGBbufferPtr RGBbufferBytes =>
      (StreamQuery.decodeFrame tj RGBbufferPtr RGBbufferBytes).act s

/-- The same, unless it takes the address of the first byte of an empty vector. -/
def checked (s : Stream) : FrameCall → Option (Reply × Stream)
  | .submitBuffer ptr => (Stream.submitBuffer.checked s ptr).map fun t => (.none, t)
  | .submitRawBuffer ptr => (Stream.submitRawBuffer.checked s ptr).map fun t => (.none, t)
  | .captureFrame RGBbufferPtr RGBbufferBytes =>
      (Stream.captureFrame.checked s RGBbufferPtr RGBbufferBytes).map fun r =>
        (.frame r.1.1 (some r.1.2), r.2)
  | .captureFrameRaw outPtr outBytes actualBytes =>
      (Stream.captureFrameRaw.checked s outPtr outBytes actualBytes).map fun r => (.raw r.1, r.2)
  | .decodeFrame tj RGBbufferPtr RGBbufferBytes =>
      (Stream.decodeFrame.checked tj s RGBbufferPtr RGBbufferBytes).map fun decode =>
        (.frame decode.ok (decode.buffer RGBbufferPtr), s)

def step (s : Stream) (call : FrameCall) : Stream :=
  (call.act s).2

end FrameCall

/-- The raw buffer was opened with a capacity, or has held a frame of one byte or more. -/
def RawFilled (raw : Option UInt32) (past : List FrameCall) : Prop :=
  raw.getD 0 ≠ 0 ∨ ∃ data, .submitRawBuffer (some data) ∈ past ∧ data ≠ []

/-- The calls of a run that find a first byte, by the sizes the stream was opened with and the
calls before it. -/
def FrameCall.Allowed (raw : Option UInt32) (frameBufferBytes : Nat) (past : List FrameCall) :
    FrameCall → Prop
  | .submitBuffer (some []) => frameBufferBytes ≠ 0
  | .submitRawBuffer (some []) => RawFilled raw past
  | .captureFrameRaw (some _) _ (some _) => raw.isSome = true → RawFilled raw past
  | _ => True

/-- Every `&m_frameBuffer[0]` and `&m_rawBuffer[0]` of a run is of a vector that is not empty: each
call completes with the address checked, and as it does unchecked. -/
def FindsFirst (raw : Option UInt32) (width height : UInt32) (frameBufferBytes : Nat)
    (calls : List FrameCall) : Prop :=
  ∀ past call future, calls = past ++ call :: future →
    let s := Run.after FrameCall.step (Stream.started raw width height frameBufferBytes) past
    call.checked s = some (call.act s)

/-! ## One call -/

theorem addressOfFirst_of_ne {v : Bytes} (nonempty : v ≠ []) : addressOfFirst v = some v := by
  cases v with
  | nil => exact absurd rfl nonempty
  | cons byte rest => rfl

namespace Stream

variable {s : Stream}

/-- There is something to copy only from a vector that is not empty. -/
theorem captureFrame.checked_eq (RGBbufferPtr : Bytes) (RGBbufferBytes : UInt32) :
    captureFrame.checked s RGBbufferPtr RGBbufferBytes =
      some (s.captureFrame RGBbufferPtr RGBbufferBytes) := by
  unfold captureFrame.checked captureFrame
  split
  · rfl
  split
  · rfl
  by_cases empty : s.m_frameBuffer = []
  · simp [empty]
  · simp only [addressOfFirst_of_ne empty, Option.map_some]
    generalize (if RGBbufferBytes.toNat ≤ s.m_frameBuffer.length then RGBbufferBytes.toNat
      else s.m_frameBuffer.length) = maxBytes
    by_cases copied : maxBytes ≠ 0
    · rw [if_pos copied, if_pos copied]
      rfl
    · rw [if_neg copied, if_neg copied]
      rfl

theorem submitBuffer.checked_eq (ptr : Option Bytes) :
    submitBuffer.checked s ptr =
      if ptr = some [] ∧ s.m_frameBuffer = [] then none else some (s.submitBuffer ptr) := by
  cases ptr with
  | none => rfl
  | some data =>
      unfold submitBuffer.checked submitBuffer
      by_cases empty : s.m_frameBuffer = []
      · cases data with
        | nil => simp [empty, addressOfFirst]
        | cons byte rest => simp [empty]
      · simp only [addressOfFirst_of_ne empty, empty, and_false, if_false]
        split <;> rfl

/-- A frame of one byte or more makes room for itself. -/
theorem grown_ne {rawBuffer data : Bytes} (used : ¬ (data = [] ∧ rawBuffer = [])) :
    (if data.length > rawBuffer.length then resize rawBuffer (data.length * 2) else rawBuffer)
      ≠ [] := by
  rw [← List.length_eq_zero_iff, ← List.length_eq_zero_iff] at used
  rw [Ne, ← List.length_eq_zero_iff, apply_ite List.length, length_resize]
  split <;> omega

theorem submitRawBuffer.checked_eq (ptr : Option Bytes) :
    submitRawBuffer.checked s ptr =
      if ptr = some [] ∧ s.m_rawBuffer = [] then none else some (s.submitRawBuffer ptr) := by
  cases ptr with
  | none => rfl
  | some data =>
      unfold submitRawBuffer.checked submitRawBuffer
      by_cases idle : data = [] ∧ s.m_rawBuffer = []
      · obtain ⟨rfl, empty⟩ := idle
        simp [empty, addressOfFirst]
      · have grown := addressOfFirst_of_ne (grown_ne idle)
        rw [if_neg fun both => idle ⟨Option.some.inj both.1, both.2⟩]
        simp only [grown, Option.bind_eq_bind, Option.bind_some]

/-- `captureFrameRaw` asks whether the caller's buffer is too small, not whether there is a frame. -/
theorem captureFrameRaw.checked_eq (arrived : s.m_rawBuffer = [] → s.m_rawFrameSize = 0)
    (outPtr : Option Bytes) (outBytes : UInt32) (actualBytes : Option UInt32) :
    captureFrameRaw.checked s outPtr outBytes actualBytes =
      if s.m_isOpen = true ∧ s.m_rawMode = true ∧ outPtr ≠ none ∧ actualBytes ≠ none ∧
          s.m_rawBuffer = [] then none
      else some (s.captureFrameRaw outPtr outBytes actualBytes) := by
  unfold captureFrameRaw.checked captureFrameRaw
  cases s.m_isOpen
  · rfl
  cases s.m_rawMode
  · rfl
  cases outPtr with
  | none => rfl
  | some out =>
      cases actualBytes with
      | none => rfl
      | some actual =>
          by_cases empty : s.m_rawBuffer = []
          · simp [empty, arrived empty, addressOfFirst]
          · simp only [addressOfFirst_of_ne empty, empty, and_false, if_false, Bool.not_true,
              Bool.false_eq_true]
            split <;> rfl

/-- A frame of nonzero size lies in the raw buffer. -/
theorem decodeFrame.checked_eq (arrived : s.m_rawBuffer = [] → s.m_rawFrameSize = 0)
    (tj : TurboJpeg) (RGBbufferPtr : Option Bytes) (RGBbufferBytes : UInt32) :
    decodeFrame.checked tj s RGBbufferPtr RGBbufferBytes =
      some (s.decodeFrame tj RGBbufferPtr RGBbufferBytes) := by
  unfold decodeFrame.checked decodeFrame
  split
  · rfl
  split
  · rfl
  cases RGBbufferPtr with
  | none => rfl
  | some out =>
      simp only
      split
      · rfl
      split
      · rfl
      · rename_i sized
        rw [addressOfFirst_of_ne (mt arrived sized)]
        rfl

end Stream

/-! ## Runs -/

theorem rawFilled_snoc (raw : Option UInt32) (past : List FrameCall) (call : FrameCall) :
    RawFilled raw (past ++ [call]) ↔
      RawFilled raw past ∨ ∃ data, call = .submitRawBuffer (some data) ∧ data ≠ [] := by
  simp only [RawFilled, List.mem_append, List.mem_singleton, or_and_right, exists_or, or_assoc,
    eq_comm]

/-- What a run of the five calls has left of the stream it started with. -/
structure Kept (raw : Option UInt32) (frameBufferBytes : Nat) (past : List FrameCall)
    (s : Stream) : Prop where
  isOpen : s.m_isOpen = true
  rawMode : s.m_rawMode = raw.isSome
  frameBuffer : s.m_frameBuffer.length = frameBufferBytes
  filled : s.m_rawBuffer ≠ [] ↔ RawFilled raw past
  arrived : s.m_rawBuffer = [] → s.m_rawFrameSize = 0

variable {raw : Option UInt32} {frameBufferBytes : Nat} {past : List FrameCall} {s : Stream}

theorem kept_started (raw : Option UInt32) (width height : UInt32) (frameBufferBytes : Nat) :
    Kept raw frameBufferBytes [] (Stream.started raw width height frameBufferBytes) := by
  have none_before : RawFilled raw [] ↔ raw.getD 0 ≠ 0 := by simp [RawFilled]
  cases raw with
  | none => exact ⟨rfl, rfl, length_resize _ _, by simp [none_before, Stream.started, Stream.new,
      Stream.opened], fun _ => rfl⟩
  | some estimatedJPEGSize =>
      refine ⟨rfl, rfl, length_resize _ _, ?_, fun _ => rfl⟩
      rw [none_before]
      show resize [] estimatedJPEGSize.toNat ≠ [] ↔ _
      rw [Ne, ← List.length_eq_zero_iff, length_resize]
      simp [← UInt32.toNat_inj]

/-- A call that stores no raw frame of one byte or more, and changes no buffer's size. -/
theorem Kept.same {t : Stream} {call : FrameCall} (kept : Kept raw frameBufferBytes past s)
    (noData : ∀ data, call = .submitRawBuffer (some data) → data = [])
    (isOpen : t.m_isOpen = s.m_isOpen) (rawMode : t.m_rawMode = s.m_rawMode)
    (frameBuffer : t.m_frameBuffer.length = s.m_frameBuffer.length)
    (rawBuffer : t.m_rawBuffer = s.m_rawBuffer) (rawFrameSize : t.m_rawFrameSize = s.m_rawFrameSize) :
    Kept raw frameBufferBytes (past ++ [call]) t := by
  refine ⟨isOpen.trans kept.isOpen, rawMode.trans kept.rawMode,
    frameBuffer.trans kept.frameBuffer, ?_, ?_⟩
  · rw [rawBuffer, kept.filled, rawFilled_snoc]
    refine (or_iff_left ?_).symm
    rintro ⟨data, same, nonempty⟩
    exact nonempty (noData data same)
  · rw [rawBuffer, rawFrameSize]
    exact kept.arrived

theorem Kept.submitRawBuffer (kept : Kept raw frameBufferBytes past s) (data : Bytes) :
    Kept raw frameBufferBytes (past ++ [.submitRawBuffer (some data)])
      (s.submitRawBuffer (some data)) := by
  have empty_iff : (s.submitRawBuffer (some data)).m_rawBuffer = [] ↔
      s.m_rawBuffer = [] ∧ data = [] := by
    show memcpy _ data data.length = [] ↔ _
    rw [← List.length_eq_zero_iff, length_memcpy (Nat.le_refl _), apply_ite List.length,
      length_resize, ← List.length_eq_zero_iff, ← List.length_eq_zero_iff]
    split <;> omega
  refine ⟨kept.isOpen, kept.rawMode, kept.frameBuffer, ?_, ?_⟩
  · rw [rawFilled_snoc, ← kept.filled, Ne, empty_iff, not_and_or]
    refine or_congr_right ⟨fun nonempty => ⟨data, rfl, nonempty⟩, ?_⟩
    rintro ⟨_, ⟨⟩, nonempty⟩
    exact nonempty
  · intro empty
    obtain ⟨-, rfl⟩ := empty_iff.1 empty
    rfl

/-- What one call leaves. -/
theorem Kept.step (kept : Kept raw frameBufferBytes past s) (call : FrameCall) :
    Kept raw frameBufferBytes (past ++ [call]) (call.step s) := by
  cases call with
  | submitBuffer ptr =>
      cases ptr with
      | none => exact kept.same (by simp) rfl rfl rfl rfl rfl
      | some data =>
          rw [FrameCall.step, FrameCall.act, Stream.submitBuffer]
          split
          · exact kept.same (by simp) rfl rfl (length_memcpy (Nat.le_refl _)) rfl rfl
          · exact kept.same (by simp) rfl rfl rfl rfl rfl
  | submitRawBuffer ptr =>
      cases ptr with
      | none => exact kept.same (by simp) rfl rfl rfl rfl rfl
      | some data => exact kept.submitRawBuffer data
  | captureFrame RGBbufferPtr RGBbufferBytes =>
      rw [FrameCall.step, FrameCall.act, Stream.act_stream]
      exact kept.same (by simp) rfl rfl rfl rfl rfl
  | captureFrameRaw outPtr outBytes actualBytes =>
      rw [FrameCall.step, FrameCall.act, Stream.act_stream]
      exact kept.same (by simp) rfl rfl rfl rfl rfl
  | decodeFrame tj RGBbufferPtr RGBbufferBytes =>
      exact kept.same (by simp) rfl rfl rfl rfl rfl

theorem kept_after (raw : Option UInt32) (width height : UInt32) (frameBufferBytes : Nat)
    (past : List FrameCall) :
    Kept raw frameBufferBytes past
      (Run.after FrameCall.step (Stream.started raw width height frameBufferBytes) past) :=
  Run.after_history (kept_started raw width height frameBufferBytes)
    (fun _ _ call kept => kept.step call) past

/-- A call finds every first byte it asks for exactly if it is allowed. -/
theorem Kept.checked_iff (kept : Kept raw frameBufferBytes past s) (call : FrameCall) :
    call.checked s = some (call.act s) ↔ call.Allowed raw frameBufferBytes past := by
  have noFrames : s.m_frameBuffer = [] ↔ frameBufferBytes = 0 := by
    rw [← kept.frameBuffer, List.length_eq_zero_iff]
  cases call with
  | submitBuffer ptr =>
      rw [FrameCall.checked, Stream.submitBuffer.checked_eq]
      simp only [noFrames]
      match ptr with
      | none | some (_ :: _) => simp [FrameCall.Allowed, FrameCall.act]
      | some [] => by_cases none_there : frameBufferBytes = 0 <;>
          simp [FrameCall.Allowed, FrameCall.act, none_there]
  | submitRawBuffer ptr =>
      rw [FrameCall.checked, Stream.submitRawBuffer.checked_eq]
      match ptr with
      | none | some (_ :: _) => simp [FrameCall.Allowed, FrameCall.act]
      | some [] =>
          rw [FrameCall.Allowed, ← kept.filled]
          by_cases empty : s.m_rawBuffer = [] <;> simp [FrameCall.act, empty]
  | captureFrame RGBbufferPtr RGBbufferBytes =>
      rw [FrameCall.checked, Stream.captureFrame.checked_eq]
      exact iff_of_true rfl trivial
  | captureFrameRaw outPtr outBytes actualBytes =>
      rw [FrameCall.checked, Stream.captureFrameRaw.checked_eq kept.arrived, kept.isOpen,
        kept.rawMode]
      match outPtr, actualBytes with
      | none, _ | some _, none => simp [FrameCall.Allowed, FrameCall.act, StreamQuery.act]
      | some out, some actual =>
          rw [FrameCall.Allowed, ← kept.filled]
          by_cases empty : s.m_rawBuffer = [] <;>
            simp [FrameCall.act, StreamQuery.act, empty]
  | decodeFrame tj RGBbufferPtr RGBbufferBytes =>
      rw [FrameCall.checked, Stream.decodeFrame.checked_eq kept.arrived]
      exact iff_of_true rfl trivial

/-- **First elements.**  Whatever the sizes of the two buffers and whatever calls are made, no first
byte is asked of an empty vector exactly if every call of the run is allowed. -/
theorem first_elements_iff (raw : Option UInt32) (width height : UInt32) (frameBufferBytes : Nat)
    (calls : List FrameCall) :
    FindsFirst raw width height frameBufferBytes calls ↔
      ∀ past call future, calls = past ++ call :: future →
        call.Allowed raw frameBufferBytes past :=
  forall₄_congr fun past call _ _ =>
    (kept_after raw width height frameBufferBytes past).checked_iff call

/-- A 1 x 1 raw stream, opened with the capacity `openStreamRaw` computes for it, asked for its
first frame too early. -/
theorem early_capture_finds_no_first :
    ¬ FindsFirst (some (1 * 1 * 3 / 4)) 1 1 3 [.captureFrameRaw (some [0]) 1 (some 0)] := by
  intro finds
  have found := finds [] _ [] rfl
  have missing : (FrameCall.captureFrameRaw (some [0]) 1 (some 0)).checked
      (Stream.started (some (1 * 1 * 3 / 4)) 1 1 3) = none := by decide
  cases missing.symm.trans found

end OpenpnpCapture.Common
