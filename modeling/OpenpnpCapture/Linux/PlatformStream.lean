/-
# Linux.PlatformStream — from a dequeued buffer to the frame buffer

`open` takes the size and pixel format the driver negotiated and gives the frame buffer
`m_width * m_height * 3` bytes, a `uint32_t` product; a `PlatformStream` is what it leaves
when it returns true, with that fact as a field.  `threadSubmitBuffer` hands a dequeued
buffer to the converter of the pixel format; it returns the accesses made on the way,
`threadSubmitBuffer_frameBuffer` says that they are what changes the frame buffer.

The accesses are those to the dequeued buffer and to `m_frameBuffer`; the copy into
`m_rawBuffer` counts with its reads.  A decoder that is given a buffer and its length may
read all of it.
-/
import OpenpnpCapture.Common.Stream
import OpenpnpCapture.Linux.YuvConverters

namespace OpenpnpCapture.Linux

open OpenpnpCapture.Lib OpenpnpCapture.Common

set_option autoImplicit false

/-- `v4l2_fourcc` of the kernel header. -/
def v4l2_fourcc (a b c d : Char) : UInt32 :=
  a.val ||| b.val <<< 8 ||| c.val <<< 16 ||| d.val <<< 24

/-- The labels of the switch in `threadSubmitBuffer`. -/
inductive PixelFormat
  | RGB24
  | YUYV
  | NV12
  | YUV420
  | MJPG
  | unsupported
deriving DecidableEq, Repr

def PixelFormat.ofFourCC (pixelformat : UInt32) : PixelFormat :=
  if pixelformat = v4l2_fourcc 'R' 'G' 'B' '3' then .RGB24
  else if pixelformat = v4l2_fourcc 'Y' 'U' 'Y' 'V' then .YUYV
  else if pixelformat = v4l2_fourcc 'N' 'V' '1' '2' then .NV12
  else if pixelformat = v4l2_fourcc 'Y' 'U' '1' '2' then .YUV420
  else if pixelformat = 0x47504A4D then .MJPG
  else .unsupported

/-- What `VIDIOC_G_FMT` left in `m_fmt`. -/
structure V4l2Format where
  videoCapture : Bool
  width : UInt32
  height : UInt32
  pixelformat : UInt32
deriving DecidableEq, Repr

/-- Whether each call of `open` succeeds, in the order of the source, with what it returns. -/
structure OpenAnswers where
  ownerGiven : Bool
  deviceGiven : Bool
  platformDevice : Bool
  deviceOpened : Bool
  setFormat : Bool
  getFormat : Option V4l2Format
  setParm : Bool
deriving DecidableEq, Repr

/-- A stream from a successful `open` to `close`. -/
structure PlatformStream extends Stream where
  pixelformat : UInt32
  sized : m_frameBuffer.length = (m_width * m_height * 3).toNat

/-- A dequeued buffer: the memory from its pointer on and the count the driver reports. -/
structure Delivered where
  memory : Nat → UInt8
  bytes : Nat

def Delivered.data (frame : Delivered) : Bytes :=
  (List.range frame.bytes).map frame.memory

@[simp] theorem Delivered.length_data (frame : Delivered) : frame.data.length = frame.bytes := by
  rw [data, List.length_map, List.length_range]

/-- Two states of a stream with frames of one size. -/
structure SameSize (before after : Stream) : Prop where
  width : after.m_width = before.m_width
  height : after.m_height = before.m_height
  frameBuffer : after.m_frameBuffer.length = before.m_frameBuffer.length

/-! ## The calls into the shared code -/

/-- The copy of `Stream::submitBuffer`. -/
def submitAccesses (s : Stream) (data : Bytes) : List Access :=
  if data.length ≤ s.m_frameBuffer.length then copies data else []

theorem submitBuffer_frameBuffer (s : Stream) (data : Bytes) :
    (s.submitBuffer (some data)).m_frameBuffer = store s.m_frameBuffer (submitAccesses s data) := by
  simp only [Stream.submitBuffer, submitAccesses]
  split
  · exact (store_copies s.m_frameBuffer data).symm
  · rfl

theorem submitBuffer_sameSize (s : Stream) (data : Bytes) :
    SameSize s (s.submitBuffer (some data)) := by
  refine ⟨?_, ?_, ?_⟩
  · simp only [Stream.submitBuffer]
    split <;> rfl
  · simp only [Stream.submitBuffer]
    split <;> rfl
  · rw [submitBuffer_frameBuffer, length_store]

/-- The size `decompressFrame` compares with the stream's, written by the header call or not. -/
def comparedSize (tj : TurboJpeg) (inBuffer : Bytes) : UInt32 × UInt32 :=
  (tj.tjDecompressHeader2 inBuffer).size.getD tj.unset

/-- What `decompressFrame` reads of its input and writes to its output. -/
def decompressAccesses (tj : TurboJpeg) (inBuffer : Bytes) (width height : UInt32) : List Access :=
  reads inBuffer.length ++
    if comparedSize tj inBuffer = (width, height) then
      writes 0 (tj.tjDecompress2 inBuffer width height).bytes
    else []

theorem decompressFrame_buffer (tj : TurboJpeg) (inBuffer outBuffer : Bytes)
    (width height : UInt32) :
    (decompressFrame tj inBuffer outBuffer width height).buffer =
      store outBuffer (decompressAccesses tj inBuffer width height) := by
  simp only [decompressFrame, decompressAccesses, store_append, store_reads]
  by_cases same : comparedSize tj inBuffer = (width, height)
  · have sameWidth : ((tj.tjDecompressHeader2 inBuffer).size.getD tj.unset).1 = width :=
      congrArg Prod.fst same
    have sameHeight : ((tj.tjDecompressHeader2 inBuffer).size.getD tj.unset).2 = height :=
      congrArg Prod.snd same
    rw [if_pos same, store_writes, sameWidth, sameHeight]
    simp
  · have differs : ((tj.tjDecompressHeader2 inBuffer).size.getD tj.unset).1 ≠ width ∨
        ((tj.tjDecompressHeader2 inBuffer).size.getD tj.unset).2 ≠ height :=
      not_and_or.1 fun both => same (Prod.ext both.1 both.2)
    rw [if_neg same, if_pos differs]
    rfl

/-! ## The stream -/

/-- What a call with a dequeued buffer accesses, and the stream afterwards. -/
structure Submission where
  accesses : List Access
  stream : PlatformStream

namespace PlatformStream

/-- `close` of a stream that was opened before. -/
def closed (s : Stream) : Stream :=
  { s with
    m_width := 0
    m_height := 0
    m_isOpen := false
    m_frameBuffer := resize s.m_frameBuffer 0 }

/-- `open`; `none` when it returns false. -/
def «open» (s : Stream) (a : OpenAnswers) : Option PlatformStream :=
  let s := if s.m_isOpen then closed s else s
  if !a.ownerGiven then none
  else if !a.deviceGiven then none
  else if !a.platformDevice then none
  else if !a.deviceOpened then none
  else if !a.setFormat then none
  else
    match a.getFormat with
    | none => none
    | some fmt =>
        if !fmt.videoCapture then none
        else if !a.setParm then none
        else
          some
            { toStream := s.opened fmt.width fmt.height (fmt.width * fmt.height * 3).toNat
              pixelformat := fmt.pixelformat
              sized := length_resize s.m_frameBuffer _ }

def format (s : PlatformStream) : PixelFormat :=
  .ofFourCC s.pixelformat

def withStream (s : PlatformStream) (next : Stream) (same : SameSize s.toStream next) :
    PlatformStream where
  toStream := next
  pixelformat := s.pixelformat
  sized := by
    rw [same.frameBuffer, same.width, same.height]
    exact s.sized

/-- A converter writes into the frame buffer, and the frame counts. -/
def convert (s : PlatformStream) (accesses : List Access) : Submission :=
  ⟨accesses,
    s.withStream
      { s.toStream with
        m_frameBuffer := store s.m_frameBuffer accesses
        m_newFrame := true
        m_frames := s.m_frames + 1 }
      ⟨rfl, rfl, length_store s.m_frameBuffer accesses⟩⟩

/-- The MJPG case of a stream that is not raw. -/
def decode (tj : TurboJpeg) (s : PlatformStream) (data : Bytes) : Submission :=
  let result := decompressFrame tj data s.m_frameBuffer s.m_width s.m_height
  ⟨decompressAccesses tj data s.m_width s.m_height,
    s.withStream
      { s.toStream with
        m_frameBuffer := result.buffer
        m_newFrame := if result.ok then true else s.m_newFrame
        m_frames := if result.ok then s.m_frames + 1 else s.m_frames }
      ⟨rfl, rfl, by rw [decompressFrame_buffer, length_store]⟩⟩

def threadSubmitBuffer (tj : TurboJpeg) (s : PlatformStream) : Option Delivered → Submission
  | none => ⟨[], s⟩
  | some frame =>
      match s.format with
      | .RGB24 =>
          ⟨submitAccesses s.toStream frame.data,
            s.withStream (s.submitBuffer (some frame.data))
              (submitBuffer_sameSize s.toStream frame.data)⟩
      -- `bytes` is passed as a `uint32_t`
      | .YUYV => s.convert (YUYV2RGB frame.memory (.ofNat frame.bytes))
      | .NV12 => s.convert (NV122RGB frame.memory s.m_width s.m_height)
      | .YUV420 => s.convert (YU122RGB frame.memory s.m_width s.m_height)
      | .MJPG =>
          if s.m_rawMode then
            ⟨reads frame.data.length,
              s.withStream (s.submitRawBuffer (some frame.data)) ⟨rfl, rfl, rfl⟩⟩
          else s.decode tj frame.data
      | .unsupported => ⟨[], s⟩

/-- The accesses of a call are what changes the frame buffer. -/
theorem threadSubmitBuffer_frameBuffer (tj : TurboJpeg) (s : PlatformStream)
    (ptr : Option Delivered) :
    (s.threadSubmitBuffer tj ptr).stream.m_frameBuffer =
      store s.m_frameBuffer (s.threadSubmitBuffer tj ptr).accesses := by
  cases ptr with
  | none => rfl
  | some frame =>
      unfold threadSubmitBuffer
      cases s.format with
      | RGB24 => exact submitBuffer_frameBuffer s.toStream frame.data
      | YUYV => rfl
      | NV12 => rfl
      | YUV420 => rfl
      | MJPG =>
          simp only
          split
          · exact (store_reads s.m_frameBuffer _).symm
          · exact decompressFrame_buffer tj frame.data s.m_frameBuffer s.m_width s.m_height
      | unsupported => rfl

end PlatformStream

end OpenpnpCapture.Linux
