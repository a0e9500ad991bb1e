/-
# Win.PlatformStream — opening and closing a DirectShow stream

`open` fills ten pointer fields one after the other and returns false at the first call that
fails; the destructor and one exit of `open` itself run `close`.  The calls Windows answers
are the fields of `OpenAnswers`; what they hand out and take back is logged, the local
interface pointers included, in a release build (no graph registered for GraphEdit).

The pieces of `open` are straight-line programs over the fields: `prepareSteps` to the end
of the format search, `controlSteps` the two optional control interfaces, `connectSteps` to
the renegotiation.  The media types and the decision on the final size are computed beside.
-/
import OpenpnpCapture.Common.Stream
import OpenpnpCapture.Lib.Lease
import OpenpnpCapture.Win.FormatSearch

namespace OpenpnpCapture.Win

open OpenpnpCapture.Lib OpenpnpCapture.Lib.Lease OpenpnpCapture.Common

set_option autoImplicit false

/-- What a stream acquires: its pointer fields, and the interface pointers local to `open`. -/
inductive Resource
  | m_graph
  | m_control
  | m_sourceFilter
  | m_sampleGrabberFilter
  | m_nullRenderer
  | m_sampleGrabber
  | m_capture
  | m_camControl
  | m_videoProcAmp
  | m_callbackHandler
  | pConfig
  | pConfig2
  | enumPins
  | pin (index : Nat)
  | connectedTo (index : Nat)
deriving DecidableEq, Repr

/-- `GetConnectedMediaType` with the fields of its format block. -/
structure ConnectedType where
  formatVideoInfo : Bool
  biWidth : Int32
  biHeight : Int32
deriving DecidableEq

/-- A pin of the source filter: `QueryDirection` succeeds with an output pin, `ConnectedTo`
succeeds with a pin. -/
structure PinAnswer where
  output : Bool
  connected : Bool
deriving DecidableEq, Repr

/-- Whether each call of `open` succeeds, in the order of the source, with what it returns. -/
structure OpenAnswers where
  ownerGiven : Bool
  deviceGiven : Bool
  platformDevice : Bool
  createGraph : Bool
  createCapture : Bool
  queryControl : Bool
  findCaptureDevice : Bool
  addSourceFilter : Bool
  streamConfig : Option StreamConfig
  queryCamControl : Bool
  queryVideoProcAmp : Bool
  createSampleGrabber : Bool
  querySampleGrabber : Bool
  addSampleGrabber : Bool
  setMediaType : Bool
  setCallback : Bool
  createNullRenderer : Bool
  addNullRenderer : Bool
  renderStream : Bool
  connectedType : Option ConnectedType
  streamConfig2 : Option StreamConfig
  pins : Option (List PinAnswer)
  connectedTypePost : Option ConnectedType
deriving DecidableEq

structure PlatformStream extends Stream where
  slots : Slots Resource

namespace PlatformStream

/-- The constructor; it initialises eight of the ten pointers.  `base` is the object `Stream()` and
`setRawMode` leave. -/
def new (base : Stream) : PlatformStream where
  toStream := base
  slots :=
    { ptr := fun
        | .m_capture | .m_videoProcAmp => .uninitialised
        | _ => .null
      log := [] }

/-- The pointers `close` releases, in order, and what it leaves in them: `SafeRelease` sets null,
`delete m_callbackHandler` leaves the pointer. -/
def releases : List (Resource × Pointer) :=
  [(.m_graph, .null), (.m_control, .null), (.m_capture, .null), (.m_sourceFilter, .null),
    (.m_sampleGrabberFilter, .null), (.m_sampleGrabber, .null), (.m_camControl, .null),
    (.m_nullRenderer, .null), (.m_videoProcAmp, .null), (.m_callbackHandler, .dangling)]

def close (s : PlatformStream) : PlatformStream :=
  { s with
    slots := s.slots.discardAll releases
    m_width := 0
    m_height := 0
    m_frameBuffer := resize s.m_frameBuffer 0
    m_isOpen := false }

/-! ## The steps of `open` -/

/-- From the arguments to the end of the format search. -/
def prepareSteps (a : OpenAnswers) (want : Request) : List (Op Resource) :=
  [.acquire .m_graph a.createGraph, .check a.createGraph,
    .acquire .m_capture a.createCapture, .check a.createCapture,
    .acquire .m_control a.queryControl, .check a.queryControl,
    .acquire .m_sourceFilter a.findCaptureDevice, .check a.findCaptureDevice,
    .check a.addSourceFilter,
    .acquire .pConfig a.streamConfig.isSome, .check a.streamConfig.isSome,
    .check (a.streamConfig.any fun config => config.iSize.isSome),
    .check (a.streamConfig.any fun config => config.iSize = some sizeofVideoStreamConfigCaps),
    .check (a.streamConfig.any fun config => (formatSearch config.caps want).formatSet)]

/-- Both are set to null first, and a failure is only logged. -/
def controlSteps (a : OpenAnswers) : List (Op Resource) :=
  [.acquire .m_camControl a.queryCamControl, .acquire .m_videoProcAmp a.queryVideoProcAmp]

/-- The pins of the source filter, until one is an output that is connected. -/
def reconnectPins : Nat → List PinAnswer → List (Event Resource)
  | _, [] => []
  | i, p :: pins =>
      if p.output && p.connected then
        [.acquire (.pin i), .acquire (.connectedTo i), .release (.connectedTo i), .release (.pin i)]
      else [.acquire (.pin i), .release (.pin i)] ++ reconnectPins (i + 1) pins

/-- The local interfaces of the renegotiation after `Run`. -/
def renegotiate (a : OpenAnswers) : List (Event Resource) :=
  (if a.streamConfig2.isSome then [.acquire .pConfig2, .release .pConfig2] else []) ++
    a.pins.elim [] fun pins =>
      .acquire .enumPins :: reconnectPins 0 pins ++ [.release .enumPins]

/-- From the sample grabber to the renegotiation; a null renderer that cannot be created is only
logged. -/
def connectSteps (a : OpenAnswers) : List (Op Resource) :=
  [.acquire .m_sampleGrabberFilter a.createSampleGrabber, .check a.createSampleGrabber,
    .acquire .m_sampleGrabber a.querySampleGrabber, .check a.querySampleGrabber,
    .check a.addSampleGrabber,
    .check a.setMediaType,
    .ensure .m_callbackHandler,
    .check a.setCallback,
    .acquire .m_nullRenderer a.createNullRenderer,
    .check (!a.createNullRenderer || a.addNullRenderer),
    .check a.renderStream,
    .borrow (renegotiate a)]

/-- The connected type after `RenderStream` sets the size and the frame buffer. -/
def readNegotiated (s : PlatformStream) : Option ConnectedType → PlatformStream
  | none => s
  | some vi =>
      if vi.formatVideoInfo then
        let width := vi.biWidth.toUInt32
        let height := vi.biHeight.toUInt32
        { s with
          m_width := width
          m_height := height
          m_frameBuffer := resize s.m_frameBuffer (width * height * 3).toNat }
      else s

/-- The connected type after the renegotiation sets the size only. -/
def readFinal (s : PlatformStream) : Option ConnectedType → PlatformStream
  | none => s
  | some vi =>
      if vi.formatVideoInfo then
        { s with m_width := vi.biWidth.toUInt32, m_height := vi.biHeight.toUInt32 }
      else s

/-- The scoped `pConfig` is released when `open` returns. -/
def leaveScope (s : PlatformStream) : PlatformStream :=
  { s with slots := s.slots.discard .pConfig .null }

/-- From the negotiated type to the end; a changed resolution closes the stream here already. -/
def conclude (s : PlatformStream) (a : OpenAnswers) (want : Request) : Bool × PlatformStream :=
  let s := (s.readNegotiated a.connectedType).readFinal a.connectedTypePost
  if s.m_width ≠ want.width ∨ s.m_height ≠ want.height then (false, s.close.leaveScope)
  else (true, { s with m_isOpen := true }.leaveScope)

/-- `m_frames`, `m_width` and `m_height` are reset before the first call. -/
def begin (s : PlatformStream) : PlatformStream :=
  { s with m_frames := 0, m_width := 0, m_height := 0 }

/-- The three programs, one after the other. -/
def acquireAll (s : PlatformStream) (a : OpenAnswers) (want : Request) : Bool × PlatformStream :=
  let r := run (prepareSteps a want ++ controlSteps a ++ connectSteps a) s.slots
  (r.1, { s with slots := r.2 })

def «open» (s : PlatformStream) (a : OpenAnswers) (want : Request) : Bool × PlatformStream :=
  let s := if s.m_isOpen then s.close else s
  if !a.ownerGiven then (false, s)
  else if !a.deviceGiven then (false, s)
  else if !a.platformDevice then (false, s)
  else
    let r := s.begin.acquireAll a want
    if !r.1 then (false, r.2.leaveScope) else r.2.conclude a want

section Slots

variable (s : PlatformStream)

@[simp] theorem close_slots : s.close.slots = s.slots.discardAll releases := by
  simp only [close]

@[simp] theorem leaveScope_slots : s.leaveScope.slots = s.slots.discard .pConfig .null := by
  simp only [leaveScope]

end Slots

end PlatformStream

end OpenpnpCapture.Win
