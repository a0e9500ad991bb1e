/-
# Mac.PlatformStream — from a sample buffer to the frame buffer

AVFoundation hands a sample buffer to the delegate.  A raw stream stores its bytes; otherwise
the delegate locks the 32-bit ARGB pixel buffer and `callback` converts it into `m_tmpBuffer`,
24 bits a pixel, which the shared `submitBuffer` copies.  `open` gives both buffers
`m_width * m_height * 3` bytes, a `uint32_t` product; a `PlatformStream` is what it leaves when
it returns true, with that fact as a field.

The conversion is a routine of vImage.  It is taken as the accesses it makes to the pixel buffer
and to `m_tmpBuffer`; what is relied on is `ConvertsRows`.
-/
import OpenpnpCapture.Common.Stream
import OpenpnpCapture.Lib.Access

namespace OpenpnpCapture.Mac

open OpenpnpCapture.Lib OpenpnpCapture.Common

set_option autoImplicit false

/-! ## The conversion -/

/-- A `vImage_Buffer` without its data. -/
structure VImageBuffer where
  height : Nat
  width : Nat
  rowBytes : Nat
deriving DecidableEq, Repr

/-- The accesses of a conversion, given the memory from `src.data` on. -/
abbrev Conversion := (ptr : Nat → UInt8) → (src dst : VImageBuffer) → List Access

/-- What is relied on of `vImageConvert_ARGB8888toRGB888` for two buffers of one size. -/
structure ConvertsRows (convert : Conversion) : Prop where
  reads : ∀ (ptr : Nat → UInt8) (src dst : VImageBuffer) (offset : Nat),
    src.height = dst.height → src.width = dst.width → .read offset ∈ convert ptr src dst →
      ∃ row < src.height, ∃ byte < 4 * src.width, offset = row * src.rowBytes + byte
  pixels : ∀ (ptr : Nat → UInt8) (src dst : VImageBuffer),
    src.height = dst.height → src.width = dst.width → 3 * dst.width ≤ dst.rowBytes →
      ∀ row < dst.height, ∀ col < dst.width, ∀ channel < 3,
        lastAt (row * dst.rowBytes + (3 * col + channel)) (convert ptr src dst) =
          some (ptr (row * src.rowBytes + 4 * col + 1 + channel))

/-- One pixel; the alpha byte comes first and is dropped. -/
def dropAlpha (ptr : Nat → UInt8) (source target : Nat) : List Access :=
  [.read source, .read (source + 1), .read (source + 2), .read (source + 3),
    .write target (ptr (source + 1)), .write (target + 1) (ptr (source + 2)),
    .write (target + 2) (ptr (source + 3))]

/-- A conversion that does just that. -/
def convertRows : Conversion := fun ptr src dst =>
  raster dst.height dst.width fun row col =>
    dropAlpha ptr (row * src.rowBytes + 4 * col) (row * dst.rowBytes + 3 * col)

theorem write_mem_dropAlpha {ptr : Nat → UInt8} {source target offset : Nat} {value : UInt8} :
    .write offset value ∈ dropAlpha ptr source target ↔
      ∃ channel < 3, offset = target + channel ∧ value = ptr (source + 1 + channel) := by
  rw [exists_channel]
  simp [dropAlpha]

theorem read_mem_dropAlpha {ptr : Nat → UInt8} {source target offset : Nat} :
    .read offset ∈ dropAlpha ptr source target ↔ ∃ byte < 4, offset = source + byte := by
  simp only [dropAlpha, List.mem_cons, Access.read.injEq, reduceCtorEq, List.not_mem_nil, or_false]
  constructor
  · intro member
    exact ⟨offset - source, by omega, by omega⟩
  · rintro ⟨byte, bound, rfl⟩
    omega

theorem convertRows_converts : ConvertsRows convertRows where
  reads := by
    intro ptr src dst offset sameHeight sameWidth member
    obtain ⟨row, inRows, col, inCols, here⟩ := mem_raster.1 member
    obtain ⟨byte, bound, rfl⟩ := read_mem_dropAlpha.1 here
    exact ⟨row, by omega, 4 * col + byte, by omega, Nat.add_assoc _ _ _⟩
  pixels := by
    intro ptr src dst _ _ apart row inRows col inCols channel inPixel
    apply lastAt_eq_some
    · apply mem_raster.2
      refine ⟨row, inRows, col, inCols, write_mem_dropAlpha.2 ⟨channel, inPixel, ?_, rfl⟩⟩
      rw [Nat.add_assoc]
    · intro other member
      obtain ⟨row', inRows', col', inCols', here⟩ := mem_raster.1 member
      obtain ⟨channel', inPixel', place, rfl⟩ := write_mem_dropAlpha.1 here
      -- rows of `dst` do not overlap, so the offset determines the pixel
      rw [Nat.add_assoc] at place
      obtain ⟨rfl, within⟩ := rowMajor_inj (by omega) (by omega) place
      obtain ⟨rfl, rfl⟩ : col = col' ∧ channel = channel' := by omega
      rfl

/-! ## The stream -/

/-- Both buffers have the size the callback expects. -/
structure Sized (s : Stream) (m_tmpBuffer : Bytes) : Prop where
  frameBuffer : s.m_frameBuffer.length = (s.m_width * s.m_height * 3).toNat
  tmpBuffer : m_tmpBuffer.length = (s.m_width * s.m_height * 3).toNat

namespace Sized

variable {s : Stream} {m_tmpBuffer : Bytes}

protected theorem store (sized : Sized s m_tmpBuffer) (accesses : List Access) :
    Sized s (store m_tmpBuffer accesses) :=
  ⟨sized.frameBuffer, (length_store m_tmpBuffer accesses).trans sized.tmpBuffer⟩

protected theorem submitBuffer (sized : Sized s m_tmpBuffer) (data : Option Bytes) :
    Sized (s.submitBuffer data) m_tmpBuffer := by
  cases data with
  | none => exact sized
  | some data =>
      simp only [Stream.submitBuffer]
      split
      · exact ⟨(length_memcpy (Nat.le_refl _)).trans sized.frameBuffer, sized.tmpBuffer⟩
      · exact sized

protected theorem submitRawBuffer (sized : Sized s m_tmpBuffer) (data : Option Bytes) :
    Sized (s.submitRawBuffer data) m_tmpBuffer := by
  cases data with
  | none => exact sized
  | some data => exact ⟨sized.frameBuffer, sized.tmpBuffer⟩

end Sized

/-- An entry of `m_platformFormats`; the dimensions are compared as `uint32_t`. -/
structure DeviceFormat where
  width : UInt32
  height : UInt32
  mediaSubType : UInt32
deriving DecidableEq, Repr

/-- Whether each call of `open` succeeds, in the order of the source, with what it returns. -/
structure OpenAnswers where
  ownerGiven : Bool
  deviceGiven : Bool
  platformDevice : Bool
  captureDevice : Bool
  deviceInput : Bool
  m_platformFormats : List DeviceFormat
  captureDelegate : Bool
deriving DecidableEq, Repr

/-- A stream from a successful `open` on. -/
structure PlatformStream extends Stream where
  m_fourCC : UInt32
  m_tmpBuffer : Bytes
  sized : Sized toStream m_tmpBuffer

/-- What a call with a frame accesses, and the stream afterwards. -/
structure Submission where
  accesses : List Access
  stream : PlatformStream

/-- A locked pixel buffer: the memory from its base address on, and its layout. -/
structure PixelBuffer where
  baseAddress : Nat → UInt8
  height : Nat
  bytesPerRow : Nat

/-- What the delegate asks of a sample buffer: `dataBuffer` is `none` without a block buffer or a
pointer to its bytes, `imageBuffer` if the base address cannot be locked. -/
structure SampleBuffer where
  numSamples : Int
  dataBuffer : Option Bytes
  imageBuffer : Option PixelBuffer

namespace PlatformStream

/-- `open`; `none` when it returns false.  The `close` it begins with on an open stream touches none
of these fields but `m_isOpen`. -/
def «open» (s : Stream) (m_tmpBuffer : Bytes) (a : OpenAnswers) (width height fourCC : UInt32) :
    Option PlatformStream :=
  if !a.ownerGiven then none
  else if !a.deviceGiven then none
  else if !a.platformDevice then none
  else if !a.captureDevice then none
  else if !a.deviceInput then none
  else
    match a.m_platformFormats.find? fun format =>
        format.width = width && format.height = height && format.mediaSubType = fourCC with
    | none => none
    | some bestFormat =>
        if !a.captureDelegate then none
        else
          some
            { toStream := s.opened width height (width * height * 3).toNat
              m_fourCC := bestFormat.mediaSubType
              m_tmpBuffer := resize m_tmpBuffer (width * height * 3).toNat
              sized := ⟨length_resize _ _, length_resize _ _⟩ }

/-- `&m_tmpBuffer[0]`; an empty vector has no storage. -/
def tmpData (m_tmpBuffer : Bytes) : Option Bytes :=
  if m_tmpBuffer.isEmpty then none else some m_tmpBuffer

/-- `callback`; it does not look at `bytes`, and takes the rows of the pixel buffer for packed. -/
def callback (convert : Conversion) (s : PlatformStream) (ptr : Nat → UInt8) (_bytes : UInt32) :
    Submission :=
  if s.m_tmpBuffer.length ≠ (s.m_width * s.m_height * 3).toNat then ⟨[], s⟩
  else
    let src : VImageBuffer :=
      { width := s.m_width.toNat, height := s.m_height.toNat, rowBytes := (s.m_width * 4).toNat }
    let dst : VImageBuffer :=
      { width := s.m_width.toNat, height := s.m_height.toNat, rowBytes := (s.m_width * 3).toNat }
    let accesses := convert ptr src dst
    let m_tmpBuffer := store s.m_tmpBuffer accesses
    { accesses
      stream :=
        { toStream := s.submitBuffer (tmpData m_tmpBuffer)
          m_fourCC := s.m_fourCC
          m_tmpBuffer
          sized := (s.sized.store accesses).submitBuffer _ } }

def submitRaw (s : PlatformStream) (dataBuffer : Option Bytes) : PlatformStream :=
  { s with
    toStream := s.submitRawBuffer dataBuffer
    sized := s.sized.submitRawBuffer dataBuffer }

/-- The delegate's `captureOutput` for a frame, registered with this stream. -/
def captureOutput (convert : Conversion) (s : PlatformStream) (sampleBuffer : SampleBuffer) :
    Submission :=
  if sampleBuffer.numSamples < 1 then ⟨[], s⟩
  else if s.m_rawMode then ⟨[], s.submitRaw sampleBuffer.dataBuffer⟩
  else
    match sampleBuffer.imageBuffer with
    | none => ⟨[], s⟩
    | some pixelBuffer =>
        let frameBytes := pixelBuffer.height * pixelBuffer.bytesPerRow
        s.callback convert pixelBuffer.baseAddress (.ofNat frameBytes)

end PlatformStream

end OpenpnpCapture.Mac
