/-
# Common.Stream — the platform-independent stream object

`Stream` keeps the fields of the class that the frame operations read or write, and each
method is a function of the object and its arguments that returns what the method
returns, what it leaves in the caller's buffers, and the object afterwards.  Every method
holds `m_bufferMutex` for all it does to the buffers, so one call is one step.

A caller's buffer is its bytes; a pointer that may be null is an `Option`.  A delivered
frame `(ptr, bytes)` is the list of the `bytes` bytes at `ptr`.  `size_t` is `Nat`: the
only arithmetic on it, `bytes * 2`, stays below 2^64.
-/
import OpenpnpCapture.Common.MjpegHelper

namespace OpenpnpCapture.Common

open OpenpnpCapture.Lib

set_option autoImplicit false

structure Stream where
  m_width : UInt32
  m_height : UInt32
  m_isOpen : Bool
  m_newFrame : Bool
  m_frameBuffer : Bytes
  m_frames : UInt32
  m_rawMode : Bool
  m_rawBuffer : Bytes
  m_rawFrameSize : UInt32
deriving DecidableEq, Repr

namespace Stream

/-- The constructor; it leaves `m_width` and `m_height` as the memory was. -/
def new (m_width m_height : UInt32) : Stream :=
  { m_width, m_height, m_isOpen := false, m_newFrame := false, m_frameBuffer := [],
    m_frames := 0, m_rawMode := false, m_rawBuffer := [], m_rawFrameSize := 0 }

def setRawMode (s : Stream) (mode : Bool) (estimatedJPEGSize : UInt32) : Stream :=
  { s with
    m_rawMode := mode
    m_rawBuffer := if mode then resize s.m_rawBuffer estimatedJPEGSize.toNat else s.m_rawBuffer }

/-- What a successful platform `open` leaves in the base object: the negotiated size, a frame
buffer of `frameBufferBytes`, a cleared counter. -/
def opened (s : Stream) (width height : UInt32) (frameBufferBytes : Nat) : Stream :=
  { s with
    m_width := width
    m_height := height
    m_frames := 0
    m_frameBuffer := resize s.m_frameBuffer frameBufferBytes
    m_isOpen := true }

def hasNewFrame (s : Stream) : Bool := s.m_newFrame

def isOpen (s : Stream) : Bool := s.m_isOpen

def getWidth (s : Stream) : UInt32 := s.m_width

def getHeight (s : Stream) : UInt32 := s.m_height

def getFrameCount (s : Stream) : UInt32 := s.m_frames

/-! ## RGB frames -/

/-- `captureFrame`: its result, the caller's buffer, the stream. -/
def captureFrame (s : Stream) (RGBbufferPtr : Bytes) (RGBbufferBytes : UInt32) :
    (Bool × Bytes) × Stream :=
  if s.m_rawMode then ((false, RGBbufferPtr), s)
  else if !s.m_isOpen then ((false, RGBbufferPtr), s)
  else
    let maxBytes :=
      if RGBbufferBytes.toNat ≤ s.m_frameBuffer.length then RGBbufferBytes.toNat
      else s.m_frameBuffer.length
    let out := if maxBytes ≠ 0 then memcpy RGBbufferPtr s.m_frameBuffer maxBytes else RGBbufferPtr
    ((true, out), { s with m_newFrame := false })

/-- `Stream::submitBuffer`. -/
def submitBuffer (s : Stream) : Option Bytes → Stream
  | none => s
  | some data =>
      if data.length ≤ s.m_frameBuffer.length then
        { s with
          m_frameBuffer := memcpy s.m_frameBuffer data data.length
          m_newFrame := true
          m_frames := s.m_frames + 1 }
      else s

/-! ## Raw frames -/

def submitRawBuffer (s : Stream) : Option Bytes → Stream
  | none => s
  | some data =>
      let rawBuffer :=
        if data.length > s.m_rawBuffer.length then resize s.m_rawBuffer (data.length * 2)
        else s.m_rawBuffer
      { s with
        m_rawBuffer := memcpy rawBuffer data data.length
        m_rawFrameSize := UInt32.ofNat data.length
        m_newFrame := true
        m_frames := s.m_frames + 1 }

/-- What `captureFrameRaw` returned and left in `*outPtr` and `*actualBytes`. -/
structure RawCapture where
  ok : Bool
  out : Option Bytes
  actualBytes : Option UInt32
deriving DecidableEq, Repr

def captureFrameRaw (s : Stream) (outPtr : Option Bytes) (outBytes : UInt32)
    (actualBytes : Option UInt32) : RawCapture × Stream :=
  if !s.m_isOpen then (⟨false, outPtr, actualBytes⟩, s)
  else if !s.m_rawMode then (⟨false, outPtr, actualBytes⟩, s)
  else
    match outPtr, actualBytes with
    | some out, some _ =>
        if outBytes < s.m_rawFrameSize then (⟨false, some out, some s.m_rawFrameSize⟩, s)
        else
          (⟨true, some (memcpy out s.m_rawBuffer s.m_rawFrameSize.toNat), some s.m_rawFrameSize⟩,
            { s with m_newFrame := false })
    | _, _ => (⟨false, outPtr, actualBytes⟩, s)

/-- `getFrameSize`: its result and `*outBytes`. -/
def getFrameSize (s : Stream) (outBytes : Option UInt32) : Bool × Option UInt32 :=
  if !s.m_rawMode then (false, outBytes)
  else
    match outBytes with
    | none => (false, none)
    | some _ => (decide (s.m_rawFrameSize > 0), some s.m_rawFrameSize)

/-- Why `decodeFrame` returned false before it called the decoder; the log tells them apart. -/
inductive Refusal
  | notOpen
  | notRaw
  | nullBuffer
  | bufferTooSmall
  | noFrame
deriving DecidableEq, Repr

inductive Decode
  | refused (why : Refusal)
  | ran (result : Decompression)

def Decode.ok : Decode → Bool
  | .refused _ => false
  | .ran result => result.ok

/-- The caller's buffer afterwards. -/
def Decode.buffer (before : Option Bytes) : Decode → Option Bytes
  | .refused _ => before
  | .ran result => some result.buffer

def decodeFrame (tj : TurboJpeg) (s : Stream) (RGBbufferPtr : Option Bytes)
    (RGBbufferBytes : UInt32) : Decode :=
  if !s.m_isOpen then .refused .notOpen
  else if !s.m_rawMode then .refused .notRaw
  else
    match RGBbufferPtr with
    | none => .refused .nullBuffer
    | some out =>
        let needed := s.m_width * s.m_height * 3
        if RGBbufferBytes < needed then .refused .bufferTooSmall
        else if s.m_rawFrameSize = 0 then .refused .noFrame
        else
          .ran (decompressFrame tj (s.m_rawBuffer.take s.m_rawFrameSize.toNat) out
            s.m_width s.m_height)

/-- The arguments `decodeFrame` accepts on an open raw stream. -/
def DecodeArgs (s : Stream) (RGBbufferPtr : Option Bytes) (RGBbufferBytes : UInt32) : Prop :=
  s.m_isOpen = true ∧ s.m_rawMode = true ∧ RGBbufferPtr.isSome = true ∧
    s.m_width * s.m_height * 3 ≤ RGBbufferBytes

/-! ## What each operation does, once -/

section Specs

variable {s : Stream}

theorem captureFrameRaw_of_open (isOpen : s.m_isOpen = true) (rawMode : s.m_rawMode = true)
    (out : Bytes) (outBytes actual : UInt32) :
    s.captureFrameRaw (some out) outBytes (some actual) =
      if outBytes < s.m_rawFrameSize then (⟨false, some out, some s.m_rawFrameSize⟩, s)
      else
        (⟨true, some (memcpy out s.m_rawBuffer s.m_rawFrameSize.toNat), some s.m_rawFrameSize⟩,
          { s with m_newFrame := false }) := by
  simp [captureFrameRaw, isOpen, rawMode]

/-- A raw frame lies at the start of the raw buffer, which has grown if it had to. -/
theorem submitRawBuffer_stored (data : Bytes) :
    data.length ≤ (s.submitRawBuffer (some data)).m_rawBuffer.length ∧
      (s.submitRawBuffer (some data)).m_rawBuffer.take data.length = data := by
  have grown : data.length ≤
      (if data.length > s.m_rawBuffer.length then resize s.m_rawBuffer (data.length * 2)
        else s.m_rawBuffer).length := by
    split
    · rw [length_resize]
      omega
    · omega
  refine ⟨?_, take_memcpy_all grown⟩
  show _ ≤ (memcpy _ data data.length).length
  rw [length_memcpy (Nat.le_refl _)]
  exact grown

/-- A raw capture changes nothing but the new-frame flag. -/
theorem captureFrameRaw_state (outPtr : Option Bytes) (outBytes : UInt32)
    (actualBytes : Option UInt32) :
    (s.captureFrameRaw outPtr outBytes actualBytes).2 =
      { s with m_newFrame := s.m_newFrame && !(s.captureFrameRaw outPtr outBytes actualBytes).1.ok } := by
  unfold captureFrameRaw
  split
  · simp
  · split
    · simp
    · split
      · split <;> simp
      · simp

/-- A raw capture that returns true was made on an open raw stream with two buffers and room. -/
theorem captureFrameRaw_ok {outPtr : Option Bytes} {outBytes : UInt32} {actualBytes : Option UInt32}
    (ok : (s.captureFrameRaw outPtr outBytes actualBytes).1.ok = true) :
    s.m_isOpen = true ∧ s.m_rawMode = true ∧ s.m_rawFrameSize ≤ outBytes ∧
      ∃ out actual, outPtr = some out ∧ actualBytes = some actual := by
  unfold captureFrameRaw at ok
  split at ok
  · cases ok
  · rename_i isOpen
    split at ok
    · cases ok
    · rename_i rawMode
      split at ok
      · rename_i out actual
        split at ok
        · cases ok
        · rename_i room
          exact ⟨by simpa using isOpen, by simpa using rawMode, UInt32.not_lt.1 room, out, actual, rfl, rfl⟩
      · cases ok

theorem decodeFrame_of_args {tj : TurboJpeg} {out : Bytes} {RGBbufferBytes : UInt32}
    (args : s.DecodeArgs (some out) RGBbufferBytes) :
    s.decodeFrame tj (some out) RGBbufferBytes =
      if s.m_rawFrameSize = 0 then .refused .noFrame
      else
        .ran (decompressFrame tj (s.m_rawBuffer.take s.m_rawFrameSize.toNat) out
          s.m_width s.m_height) := by
  obtain ⟨isOpen, rawMode, -, room⟩ := args
  simp [decodeFrame, isOpen, rawMode, UInt32.not_lt.2 room]

/-- `decodeFrame` reaches the decoder exactly with accepted arguments and a frame of nonzero size. -/
theorem decodeFrame_ran {tj : TurboJpeg} {RGBbufferPtr : Option Bytes} {RGBbufferBytes : UInt32}
    {result : Decompression} (ran : s.decodeFrame tj RGBbufferPtr RGBbufferBytes = .ran result) :
    s.DecodeArgs RGBbufferPtr RGBbufferBytes ∧ s.m_rawFrameSize ≠ 0 := by
  unfold decodeFrame at ran
  split at ran
  · cases ran
  · rename_i isOpen
    split at ran
    · cases ran
    · rename_i rawMode
      split at ran
      · cases ran
      · rename_i out
        simp only at ran
        split at ran
        · cases ran
        · rename_i room
          split at ran
          · cases ran
          · rename_i sized
            exact ⟨⟨by simpa using isOpen, by simpa using rawMode, rfl, UInt32.not_lt.1 room⟩, sized⟩

end Specs

end Stream

end OpenpnpCapture.Common
