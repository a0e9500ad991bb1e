/-
# Common.Context — the registry of open streams

`Context` owns the stream objects through `m_streams`, a `std::map<int32_t, Stream*>`.
The model keeps that map with the pointers in it (`none` is the null pointer), and beside
it what C++ leaves to the heap: the objects that are alive by address, the addresses
handed out by `createPlatformStream`, and the addresses passed to `delete`.

What the platform or the driver decides is an argument of the call: the outcome of the
platform `open`, the answers of the virtual methods, the frames that arrive while
`probeDevice` sleeps, the devices a refresh finds.  A call returns its result and the
next context, or stops: it dereferences a null pointer or a deleted object, or it has not
come back (`probeDevice` still polling when the given arrivals end).

The lookups come in two styles.  `isOpenStream`, `isDeviceStillConnected` and
`removeStream` use `find`; all others use `operator[]`, which adds a null entry for a
missing key.  They share `onStream`; `StreamQuery` lists them, and `query_eq` says that a
query is `onStream` with its own check, default and action.
-/
import OpenpnpCapture.Common.Stream
import OpenpnpCapture.Lib.MachineInt
import OpenpnpCapture.Lib.StdMap

namespace OpenpnpCapture.Common

open OpenpnpCapture.Lib OpenpnpCapture.Lib.StdMap

set_option autoImplicit false

/-- Addresses of stream objects. -/
abbrev Handle := Nat

/-- A `Stream*`; `none` is the null pointer. -/
abbrev Ptr := Option Handle

structure CapFormatInfo where
  width : UInt32
  height : UInt32
  fourcc : UInt32
  fps : UInt32
  bpp : UInt32
deriving DecidableEq, Repr

structure DeviceInfo where
  m_formats : List CapFormatInfo
deriving DecidableEq, Repr

structure Context where
  m_devices : List DeviceInfo
  m_streams : Map Int Ptr
  m_streamCounter : Int
  /-- The stream objects that are alive. -/
  heap : Handle → Option Stream
  /-- The addresses handed out so far are those below `next`. -/
  next : Handle
  /-- How often each address was deleted. -/
  deleted : Multiset Handle
  /-- The number of streams stored so far. -/
  opened : Nat

/-- The outcome of a platform `open`. -/
inductive PlatformOpen
  | failed
  | opened (width height : UInt32) (frameBufferBytes : Nat)
deriving DecidableEq, Repr

/-- Why a call has not returned. -/
inductive Stop
  | nullDereference
  | useAfterFree
  | polling
deriving DecidableEq, Repr

/-- What the capture side of a stream hands over: an RGB frame, a raw frame, or an image a
platform converter wrote over the frame buffer. -/
inductive Submission
  | submitBuffer (ptr : Option Bytes)
  | submitRawBuffer (ptr : Option Bytes)
  | converted (image : Bytes)
deriving DecidableEq, Repr

/-- A submission by the capture side of the stream at an address. -/
structure Delivery where
  stream : Handle
  submission : Submission
deriving DecidableEq, Repr

def Stream.submit (s : Stream) : Submission → Stream
  | .submitBuffer ptr => s.submitBuffer ptr
  | .submitRawBuffer ptr => s.submitRawBuffer ptr
  | .converted image =>
      { s with
        m_frameBuffer := memcpy s.m_frameBuffer image image.length
        m_newFrame := true
        m_frames := s.m_frames + 1 }

namespace Context

/-- A context just constructed, with the devices its constructor enumerated. -/
def fresh (devices : List DeviceInfo) : Context :=
  { m_devices := devices, m_streams := ∅, m_streamCounter := 0, heap := fun _ => none, next := 0,
    deleted := 0, opened := 0 }

/-! ## The heap -/

/-- `createPlatformStream()`: a new object at a new address. -/
def createPlatformStream (c : Context) : Handle × Context :=
  (c.next, { c with heap := Function.update c.heap c.next (some (Stream.new 0 0)), next := c.next + 1 })

/-- The object at `h` becomes `s`. -/
def put (c : Context) (h : Handle) (s : Stream) : Context :=
  { c with heap := Function.update c.heap h (some s) }

/-- `delete p`; deleting the null pointer does nothing. -/
def deletePtr (c : Context) : Ptr → Context
  | none => c
  | some h => { c with heap := Function.update c.heap h none, deleted := h ::ₘ c.deleted }

/-- The capture side submits a frame; a deleted stream has no capture side left. -/
def deliver (c : Context) (d : Delivery) : Context :=
  match c.heap d.stream with
  | none => c
  | some s => c.put d.stream (s.submit d.submission)

/-! ## Opening and closing -/

/-- `storeStream`: the id handed out, and the context with the stream inserted under it. -/
def storeStream (c : Context) (stream : Handle) : Int × Context :=
  let ID := c.m_streamCounter
  (ID, { c with
    m_streamCounter := int32 (c.m_streamCounter + 1)
    m_streams := insertNew c.m_streams ID (some stream)
    opened := c.opened + 1 })

def removeStream (c : Context) (ID : Int) : Bool × Context :=
  match c.m_streams.lookup ID with
  | none => (false, c)
  | some p =>
      let c := c.deletePtr p
      (true, { c with m_streams := c.m_streams.erase ID })

/-- The format a device id and a format id name. -/
def format? (c : Context) (id formatID : UInt32) : Option CapFormatInfo :=
  (c.m_devices[id.toNat]?).bind fun device => device.m_formats[formatID.toNat]?

def openStream (c : Context) (id formatID : UInt32) (platform : PlatformOpen) :
    Except Stop (Int × Context) :=
  match c.format? id formatID with
  | none => .ok (-1, c)
  | some _ =>
      let (s, c) := c.createPlatformStream
      match platform with
      -- the object is neither stored nor deleted
      | .failed => .ok (-1, c)
      | .opened width height frameBufferBytes =>
          let c := c.put s ((Stream.new 0 0).opened width height frameBufferBytes)
          .ok (c.storeStream s)

/-- The fourcc `MJPG`. -/
def MJPG : UInt32 := 0x47504A4D

def openStreamRaw (c : Context) (id formatID : UInt32) (platform : PlatformOpen) :
    Except Stop (Int × Context) :=
  match c.format? id formatID with
  | none => .ok (-1, c)
  | some format =>
      if format.fourcc ≠ MJPG then .ok (-1, c)
      else
        let (s, c) := c.createPlatformStream
        let estimatedJPEGSize := format.width * format.height * 3 / 4
        let object := (Stream.new 0 0).setRawMode true estimatedJPEGSize
        match platform with
        | .failed => .ok (-1, c.deletePtr (some s))
        | .opened width height frameBufferBytes =>
            let c := c.put s (object.opened width height frameBufferBytes)
            .ok (c.storeStream s)

def closeStream (c : Context) (streamID : Int) : Except Stop (Bool × Context) :=
  if streamID < 0 then .ok (false, c) else .ok (true, (c.removeStream streamID).2)

/-! ## Lookups with `find` -/

/-- `p->...`: the object behind a pointer. -/
def deref (c : Context) : Ptr → Except Stop Stream
  | none => .error .nullDereference
  | some h =>
      match c.heap h with
      | none => .error .useAfterFree
      | some s => .ok s

def isOpenStream (c : Context) (streamID : Int) : Except Stop (UInt32 × Context) :=
  if streamID < 0 then .ok (0, c)
  else
    match c.m_streams.lookup streamID with
    | none => .ok (0, c)
    | some p =>
        match c.deref p with
        | .error stop => .error stop
        | .ok s => .ok (if s.isOpen then 1 else 0, c)

/-- `connected` is what the platform's `isDeviceConnected` answers. -/
def isDeviceStillConnected (c : Context) (streamID : Int) (connected : Bool) :
    Except Stop (Bool × Context) :=
  match c.m_streams.lookup streamID with
  | none => .ok (false, c)
  | some p =>
      match c.deref p with
      | .error stop => .error stop
      | .ok s => .ok (s.isOpen && connected, c)

/-! ## Lookups with `operator[]` -/

/-- The lookups that use `operator[]`: an optional check for a negative id, a default for an
unknown one, and an action on the stream. -/
def onStream {α : Type} (rejectNegative : Bool) (c : Context) (streamID : Int) (unknown : α)
    (act : Stream → α × Stream) : Except Stop (α × Context) :=
  if rejectNegative = true ∧ streamID < 0 then .ok (unknown, c)
  else
    match subscript c.m_streams streamID none with
    | (none, m_streams) => .ok (unknown, { c with m_streams })
    | (some h, m_streams) =>
        match c.heap h with
        | none => .error .useAfterFree
        | some s => .ok ((act s).1, { c with m_streams }.put h (act s).2)

def captureFrame (c : Context) (streamID : Int) (RGBbufferPtr : Bytes) (RGBbufferBytes : UInt32) :
    Except Stop ((Bool × Bytes) × Context) :=
  onStream true c streamID (false, RGBbufferPtr) fun s => s.captureFrame RGBbufferPtr RGBbufferBytes

def captureFrameRaw (c : Context) (streamID : Int) (jpegBufferPtr : Option Bytes)
    (jpegBufferBytes : UInt32) (outBytes : Option UInt32) :
    Except Stop (Stream.RawCapture × Context) :=
  onStream true c streamID ⟨false, jpegBufferPtr, outBytes⟩ fun s =>
    s.captureFrameRaw jpegBufferPtr jpegBufferBytes outBytes

def getFrameSize (c : Context) (streamID : Int) (outBytes : Option UInt32) :
    Except Stop ((Bool × Option UInt32) × Context) :=
  onStream true c streamID (false, outBytes) fun s => (s.getFrameSize outBytes, s)

def decodeFrame (c : Context) (streamID : Int) (tj : TurboJpeg) (RGBbufferPtr : Option Bytes)
    (RGBbufferBytes : UInt32) : Except Stop ((Bool × Option Bytes) × Context) :=
  onStream true c streamID (false, RGBbufferPtr) fun s =>
    let decode := s.decodeFrame tj RGBbufferPtr RGBbufferBytes
    ((decode.ok, decode.buffer RGBbufferPtr), s)

def hasNewFrame (c : Context) (streamID : Int) : Except Stop (Bool × Context) :=
  onStream true c streamID false fun s => (s.hasNewFrame, s)

def getStreamFrameCount (c : Context) (streamID : Int) : Except Stop (UInt32 × Context) :=
  onStream true c streamID 0 fun s => (s.getFrameCount, s)

/-- The result, `*outWidth` and `*outHeight`; a null pointer is not written. -/
def getStreamResolution (c : Context) (streamID : Int) (outWidth outHeight : Option UInt32) :
    Except Stop ((Bool × Option UInt32 × Option UInt32) × Context) :=
  onStream true c streamID (false, outWidth, outHeight) fun s =>
    ((true, outWidth.map fun _ => s.getWidth, outHeight.map fun _ => s.getHeight), s)

def setStreamFrameRate (c : Context) (streamID : Int) (_fps : UInt32) (answer : Bool) :
    Except Stop (Bool × Context) :=
  onStream true c streamID false fun s => (answer, s)

/-- `*min`, `*max` and `*dValue` when the result is true. -/
def getStreamPropertyLimits (c : Context) (streamID : Int) (_propertyID : UInt32)
    (answer : Option (Int × Int × Int)) : Except Stop (Option (Int × Int × Int) × Context) :=
  onStream false c streamID none fun s => (answer, s)

def setStreamAutoProperty (c : Context) (streamID : Int) (_propertyID : UInt32) (_enable : Bool)
    (answer : Bool) : Except Stop (Bool × Context) :=
  onStream false c streamID false fun s => (answer, s)

def setStreamProperty (c : Context) (streamID : Int) (_propertyID : UInt32) (_value : Int)
    (answer : Bool) : Except Stop (Bool × Context) :=
  onStream false c streamID false fun s => (answer, s)

/-- `outValue` when the result is true. -/
def getStreamProperty (c : Context) (streamID : Int) (_propertyID : UInt32) (answer : Option Int) :
    Except Stop (Option Int × Context) :=
  onStream false c streamID none fun s => (answer, s)

/-- `enable` when the result is true. -/
def getStreamAutoProperty (c : Context) (streamID : Int) (_propertyID : UInt32)
    (answer : Option Bool) : Except Stop (Option Bool × Context) :=
  onStream false c streamID none fun s => (answer, s)

/-! ## Devices -/

def getDeviceCount (c : Context) : UInt32 := UInt32.ofNat c.m_devices.length

/-- The number of formats as an `int32_t`; -1 for an unknown device. -/
def getNumFormats (c : Context) (index : UInt32) : Int :=
  match c.m_devices[index.toNat]? with
  | none => -1
  | some device => int32 device.m_formats.length

/-- `*info` when the result is true. -/
def getFormatInfo (c : Context) (index formatID : UInt32) : Option CapFormatInfo :=
  match c.m_devices[index.toNat]? with
  | none => none
  | some device => device.m_formats[formatID.toNat]?

/-- `refreshDevices` with what `enumerateDevices` finds and returns. -/
def refreshDevices (c : Context) (found : List DeviceInfo) (answer : Bool) :
    Except Stop (Bool × Context) :=
  .ok (answer, { c with m_devices := found })

/-- The polling loop of `probeDevice`: `arrivals` are the frames of each 50 ms sleep. -/
def probePoll (streamID : Int) (timeoutMs : UInt32) :
    List (List Delivery) → (waited : UInt32) → Context → Except Stop (Bool × Context)
  | [], waited, c => if waited < timeoutMs then .error .polling else .ok (false, c)
  | arrived :: arrivals, waited, c =>
      if waited < timeoutMs then
        match (arrived.foldl deliver c).hasNewFrame streamID with
        | .error stop => .error stop
        | .ok (true, c) => .ok (true, c)
        | .ok (false, c) => probePoll streamID timeoutMs arrivals (waited + 50) c
      else .ok (false, c)

def probeDevice (c : Context) (id formatID timeoutMs : UInt32) (platform : PlatformOpen)
    (arrivals : List (List Delivery)) : Except Stop (Bool × Context) :=
  let timeoutMs := if timeoutMs = 0 then 2000 else timeoutMs
  match c.openStream id formatID platform with
  | .error stop => .error stop
  | .ok (streamID, c) =>
      if streamID < 0 then .ok (false, c)
      else
        match probePoll streamID timeoutMs arrivals 0 c with
        | .error stop => .error stop
        | .ok (gotFrame, c) =>
            match c.closeStream streamID with
            | .error stop => .error stop
            | .ok (_, c) => .ok (gotFrame, c)

/-- The addresses deleted once `~Context` has deleted every stream in the map. -/
def deletedByEnd (c : Context) : Multiset Handle :=
  c.deleted + values c.m_streams id

end Context

/-! ## Calls -/

/-- The calls that look a stream up with `operator[]`, with the platform's answers. -/
inductive StreamQuery
  | captureFrame (RGBbufferPtr : Bytes) (RGBbufferBytes : UInt32)
  | captureFrameRaw (jpegBufferPtr : Option Bytes) (jpegBufferBytes : UInt32)
      (outBytes : Option UInt32)
  | getFrameSize (outBytes : Option UInt32)
  | decodeFrame (tj : TurboJpeg) (RGBbufferPtr : Option Bytes) (RGBbufferBytes : UInt32)
  | hasNewFrame
  | getStreamFrameCount
  | getStreamResolution (outWidth outHeight : Option UInt32)
  | setStreamFrameRate (fps : UInt32) (answer : Bool)
  | getStreamPropertyLimits (propertyID : UInt32) (answer : Option (Int × Int × Int))
  | setStreamAutoProperty (propertyID : UInt32) (enable : Bool) (answer : Bool)
  | setStreamProperty (propertyID : UInt32) (value : Int) (answer : Bool)
  | getStreamProperty (propertyID : UInt32) (answer : Option Int)
  | getStreamAutoProperty (propertyID : UInt32) (answer : Option Bool)

/-- One call on a context, or one submission by a capture side. -/
inductive Call
  | openStream (id formatID : UInt32) (platform : PlatformOpen)
  | openStreamRaw (id formatID : UInt32) (platform : PlatformOpen)
  | closeStream (streamID : Int)
  | isOpenStream (streamID : Int)
  | isDeviceStillConnected (streamID : Int) (connected : Bool)
  | query (streamID : Int) (q : StreamQuery)
  | refreshDevices (found : List DeviceInfo) (answer : Bool)
  | probeDevice (id formatID timeoutMs : UInt32) (platform : PlatformOpen)
      (arrivals : List (List Delivery))
  | deliver (d : Delivery)

/-- The result of a call with what it wrote to the caller's buffers. -/
inductive Reply
  | streamID (id : Int)
  | flag (ok : Bool)
  | count (n : UInt32)
  | frame (ok : Bool) (buffer : Option Bytes)
  | raw (capture : Stream.RawCapture)
  | size (ok : Bool) (outBytes : Option UInt32)
  | resolution (ok : Bool) (outWidth outHeight : Option UInt32)
  | limits (answer : Option (Int × Int × Int))
  | property (answer : Option Int)
  | autoProperty (answer : Option Bool)
  | none
deriving DecidableEq, Repr

namespace StreamQuery

/-- The property calls make no check for a negative id. -/
def rejectsNegative : StreamQuery → Bool
  | getStreamPropertyLimits _ _ | setStreamAutoProperty _ _ _ | setStreamProperty _ _ _
  | getStreamProperty _ _ | getStreamAutoProperty _ _ => false
  | _ => true

/-- The reply for an unknown stream. -/
def unknown : StreamQuery → Reply
  | captureFrame RGBbufferPtr _ => .frame false (some RGBbufferPtr)
  | captureFrameRaw jpegBufferPtr _ outBytes => .raw ⟨false, jpegBufferPtr, outBytes⟩
  | getFrameSize outBytes => .size false outBytes
  | decodeFrame _ RGBbufferPtr _ => .frame false RGBbufferPtr
  | hasNewFrame => .flag false
  | getStreamFrameCount => .count 0
  | getStreamResolution outWidth outHeight => .resolution false outWidth outHeight
  | setStreamFrameRate _ _ => .flag false
  | getStreamPropertyLimits _ _ => .limits none
  | setStreamAutoProperty _ _ _ => .flag false
  | setStreamProperty _ _ _ => .flag false
  | getStreamProperty _ _ => .property none
  | getStreamAutoProperty _ _ => .autoProperty none

/-- The reply of a stream, and the stream afterwards. -/
def act : StreamQuery → Stream → Reply × Stream
  | captureFrame RGBbufferPtr RGBbufferBytes, s =>
      let r := s.captureFrame RGBbufferPtr RGBbufferBytes
      (.frame r.1.1 (some r.1.2), r.2)
  | captureFrameRaw jpegBufferPtr jpegBufferBytes outBytes, s =>
      let r := s.captureFrameRaw jpegBufferPtr jpegBufferBytes outBytes
      (.raw r.1, r.2)
  | getFrameSize outBytes, s => (.size (s.getFrameSize outBytes).1 (s.getFrameSize outBytes).2, s)
  | decodeFrame tj RGBbufferPtr RGBbufferBytes, s =>
      let decode := s.decodeFrame tj RGBbufferPtr RGBbufferBytes
      (.frame decode.ok (decode.buffer RGBbufferPtr), s)
  | hasNewFrame, s => (.flag s.hasNewFrame, s)
  | getStreamFrameCount, s => (.count s.getFrameCount, s)
  | getStreamResolution outWidth outHeight, s =>
      (.resolution true (outWidth.map fun _ => s.getWidth) (outHeight.map fun _ => s.getHeight), s)
  | setStreamFrameRate _ answer, s => (.flag answer, s)
  | getStreamPropertyLimits _ answer, s => (.limits answer, s)
  | setStreamAutoProperty _ _ answer, s => (.flag answer, s)
  | setStreamProperty _ _ answer, s => (.flag answer, s)
  | getStreamProperty _ answer, s => (.property answer, s)
  | getStreamAutoProperty _ answer, s => (.autoProperty answer, s)

end StreamQuery

namespace Context

/-- A method's result as a reply. -/
def reply {α : Type} (f : α → Reply) : Except Stop (α × Context) → Except Stop (Reply × Context)
  | .ok (a, c) => .ok (f a, c)
  | .error stop => .error stop

def query (c : Context) (streamID : Int) : StreamQuery → Except Stop (Reply × Context)
  | .captureFrame RGBbufferPtr RGBbufferBytes =>
      reply (fun r => .frame r.1 (some r.2)) (c.captureFrame streamID RGBbufferPtr RGBbufferBytes)
  | .captureFrameRaw jpegBufferPtr jpegBufferBytes outBytes =>
      reply .raw (c.captureFrameRaw streamID jpegBufferPtr jpegBufferBytes outBytes)
  | .getFrameSize outBytes => reply (fun r => .size r.1 r.2) (c.getFrameSize streamID outBytes)
  | .decodeFrame tj RGBbufferPtr RGBbufferBytes =>
      reply (fun r => .frame r.1 r.2) (c.decodeFrame streamID tj RGBbufferPtr RGBbufferBytes)
  | .hasNewFrame => reply .flag (c.hasNewFrame streamID)
  | .getStreamFrameCount => reply .count (c.getStreamFrameCount streamID)
  | .getStreamResolution outWidth outHeight =>
      reply (fun r => .resolution r.1 r.2.1 r.2.2) (c.getStreamResolution streamID outWidth outHeight)
  | .setStreamFrameRate fps answer => reply .flag (c.setStreamFrameRate streamID fps answer)
  | .getStreamPropertyLimits propertyID answer =>
      reply .limits (c.getStreamPropertyLimits streamID propertyID answer)
  | .setStreamAutoProperty propertyID enable answer =>
      reply .flag (c.setStreamAutoProperty streamID propertyID enable answer)
  | .setStreamProperty propertyID value answer =>
      reply .flag (c.setStreamProperty streamID propertyID value answer)
  | .getStreamProperty propertyID answer =>
      reply .property (c.getStreamProperty streamID propertyID answer)
  | .getStreamAutoProperty propertyID answer =>
      reply .autoProperty (c.getStreamAutoProperty streamID propertyID answer)

def exec (c : Context) : Call → Except Stop (Reply × Context)
  | .openStream id formatID platform => reply .streamID (c.openStream id formatID platform)
  | .openStreamRaw id formatID platform => reply .streamID (c.openStreamRaw id formatID platform)
  | .closeStream streamID => reply .flag (c.closeStream streamID)
  | .isOpenStream streamID => reply .count (c.isOpenStream streamID)
  | .isDeviceStillConnected streamID connected =>
      reply .flag (c.isDeviceStillConnected streamID connected)
  | .query streamID q => c.query streamID q
  | .refreshDevices found answer => reply .flag (c.refreshDevices found answer)
  | .probeDevice id formatID timeoutMs platform arrivals =>
      reply .flag (c.probeDevice id formatID timeoutMs platform arrivals)
  | .deliver d => .ok (.none, c.deliver d)

theorem reply_ok {α : Type} {f : α → Reply} {result : Except Stop (α × Context)} {r : Reply}
    {c : Context} : reply f result = .ok (r, c) ↔ ∃ a, result = .ok (a, c) ∧ r = f a := by
  rcases result with stop | ⟨a, c'⟩
  · simp [reply]
  · simp only [reply, Except.ok.injEq, Prod.mk.injEq]
    constructor
    · rintro ⟨rfl, rfl⟩
      exact ⟨a, ⟨rfl, rfl⟩, rfl⟩
    · rintro ⟨_, ⟨rfl, rfl⟩, rfl⟩
      exact ⟨rfl, rfl⟩

theorem reply_onStream {α : Type} (f : α → Reply) (rejectNegative : Bool) (c : Context)
    (streamID : Int) (unknown : α) (act : Stream → α × Stream) :
    reply f (onStream rejectNegative c streamID unknown act) =
      onStream rejectNegative c streamID (f unknown) fun s => (f (act s).1, (act s).2) := by
  unfold onStream
  split
  · rfl
  · rcases subscript c.m_streams streamID none with ⟨_ | h, m_streams⟩
    · rfl
    · simp only
      cases c.heap h <;> rfl

/-- Every query is the one lookup with its own check, default and action. -/
theorem query_eq (c : Context) (streamID : Int) (q : StreamQuery) :
    c.query streamID q = onStream q.rejectsNegative c streamID q.unknown q.act := by
  cases q <;> exact reply_onStream _ _ _ _ _ _

end Context

end OpenpnpCapture.Common
