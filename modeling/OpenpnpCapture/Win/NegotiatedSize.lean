/-
# Win.NegotiatedSize — does an opened stream hold one frame of its resolution?

The frame buffer is sized from the connected type read after `RenderStream`, as a `uint32_t`
product.  The type read after the renegotiation overwrites `m_width` and `m_height` only, and
the final check compares these with the request.  So a driver that reported another size
first, or none, leaves a stream that is open at the requested resolution with a frame buffer
of another size; DirectShow then writes whole frames into it.

`open_frameSized_iff` is the exact condition on the first report.
-/
import OpenpnpCapture.Win.ComLifecycle
import OpenpnpCapture.Win.SubmitBuffer

namespace OpenpnpCapture.Win

open OpenpnpCapture.Lib OpenpnpCapture.Common

set_option autoImplicit false

namespace PlatformStream

/-- The frame buffer holds one frame of the stream's resolution: a sample of that size is accepted
and converted within it, and a caller with room is handed exactly that many bytes. -/
structure FrameSized (s : PlatformStream) : Prop where
  sized : s.m_frameBuffer.length = imageBytes s.m_width s.m_height
  fits : ∀ ptr : Nat → UInt8,
    (s.submitBuffer ptr (imageBytes s.m_width s.m_height)).stream.m_newFrame = true ∧
      InBounds (imageBytes s.m_width s.m_height) s.m_frameBuffer.length
        (s.submitBuffer ptr (imageBytes s.m_width s.m_height)).accesses
  handsOut : ∀ (out : Bytes) (RGBbufferBytes : UInt32),
    imageBytes s.m_width s.m_height ≤ RGBbufferBytes.toNat → RGBbufferBytes.toNat ≤ out.length →
    (s.toStream.captureFrame out RGBbufferBytes).1 =
      (true, s.m_frameBuffer ++ out.drop (imageBytes s.m_width s.m_height))

/-- The bytes the first connected type makes of the frame buffer: none if it reports no size. -/
def firstBytes (a : OpenAnswers) : Nat :=
  match ConnectedType.size? a.connectedType with
  | none => 0
  | some (width, height) => (width * height * 3).toNat

/-- The first connected type is worth one frame of the requested resolution. -/
def FirstFits (a : OpenAnswers) (want : Request) : Prop :=
  firstBytes a = imageBytes want.width want.height

section Open

variable {s : PlatformStream} {a : OpenAnswers} {want : Request}

theorem readFinal_frameBuffer (s : PlatformStream) (t : Option ConnectedType) :
    (s.readFinal t).m_frameBuffer = s.m_frameBuffer := by
  cases t with
  | none => rfl
  | some vi =>
      unfold readFinal
      dsimp only
      split <;> rfl

/-- Only the first report sizes the frame buffer. -/
theorem length_negotiated (empty : s.m_frameBuffer = []) (a : OpenAnswers) :
    ((s.readNegotiated a.connectedType).readFinal a.connectedTypePost).m_frameBuffer.length =
      firstBytes a := by
  rw [readFinal_frameBuffer]
  unfold firstBytes ConnectedType.size?
  rcases a.connectedType with _ | ⟨_ | _, width, height⟩ <;>
    simp [readNegotiated, empty]

theorem negotiated_rawMode (s : PlatformStream) (t t' : Option ConnectedType) :
    ((s.readNegotiated t).readFinal t').m_rawMode = s.m_rawMode := by
  rcases t with _ | ⟨_ | _, width, height⟩ <;> rcases t' with _ | ⟨_ | _, width', height'⟩ <;> rfl

/-- What an `open` that succeeds leaves. -/
structure OpenedAt (want : Request) (bytes : Nat) (s : PlatformStream) : Prop where
  isOpen : s.m_isOpen = true
  rgb : s.m_rawMode = false
  width : s.m_width = want.width
  height : s.m_height = want.height
  bytes : s.m_frameBuffer.length = bytes

theorem conclude_openedAt (zero : s.m_width = 0 ∧ s.m_height = 0) (empty : s.m_frameBuffer = [])
    (rgb : s.m_rawMode = false) (kept : SizeKept a want) :
    OpenedAt want (firstBytes a) (s.conclude a want).2 := by
  obtain ⟨width, height⟩ := (readFinal_size s zero a want).2 kept
  have bytes := length_negotiated empty a
  have raw := (negotiated_rawMode s a.connectedType a.connectedTypePost).trans rgb
  unfold conclude
  dsimp only
  generalize (s.readNegotiated a.connectedType).readFinal a.connectedTypePost = t
    at width height bytes raw
  rw [if_neg (by rw [width, height]; simp)]
  exact ⟨rfl, raw, width, height, bytes⟩

/-- When `open` returns true. -/
theorem open_true_iff (closed : s.m_isOpen = false) :
    (s.open a want).1 = true ↔
      Given a ∧ (stepped a want s.slots).1 = true ∧ SizeKept a want := by
  rcases open_cases closed a want with ⟨refused, ran⟩ | ⟨-, stopped, failed, -⟩ |
      ⟨-, -, resized, failed, -⟩ | ⟨given, completed, kept, opened, -⟩
  · rw [ran]
    exact iff_of_false Bool.false_ne_true fun all => refused all.1
  · rw [failed, stopped]
    exact iff_of_false Bool.false_ne_true fun all => Bool.false_ne_true all.2.1
  · rw [failed]
    exact iff_of_false Bool.false_ne_true fun all => resized all.2.2
  · exact iff_of_true opened ⟨given, completed, kept⟩

theorem new_open_openedAt (width height : UInt32)
    (opened : ((new (base .openStream width height 0)).open a want).1 = true) :
    OpenedAt want (firstBytes a) ((new (base .openStream width height 0)).open a want).2 := by
  have closed : (new (base .openStream width height 0)).m_isOpen = false := rfl
  obtain ⟨⟨owner, device, platform⟩, completed, kept⟩ := (open_true_iff closed).1 opened
  have concluded : (new (base .openStream width height 0)).open a want =
      PlatformStream.conclude
        { (new (base .openStream width height 0)).begin with
          slots := (stepped a want (new (base .openStream width height 0)).slots).2 } a want := by
    unfold PlatformStream.open
    simp only [closed, owner, device, platform, Bool.false_eq_true, if_false, Bool.not_true]
    exact if_neg (by rw [Bool.not_eq_true', Bool.not_eq_false]; exact completed)
  rw [concluded]
  exact conclude_openedAt ⟨rfl, rfl⟩ rfl rfl kept

theorem OpenedAt.frameSized {bytes : Nat} (opened : OpenedAt want bytes s)
    (whole : bytes = imageBytes want.width want.height) (small : bytes < 2 ^ 32) : FrameSized s := by
  have sized : s.m_frameBuffer.length = imageBytes s.m_width s.m_height := by
    rw [opened.bytes, whole, opened.width, opened.height]
  have room : imageBytes s.m_width s.m_height < 2 ^ 32 := by
    rw [← sized, opened.bytes]
    exact small
  refine ⟨sized, fun ptr => ?_, fun out RGBbufferBytes enough inside => ?_⟩
  · rw [submitBuffer, if_pos (Nat.le_of_eq sized.symm), sized]
    exact ⟨rfl, flipRows_inBounds ptr room⟩
  · have taken : (if RGBbufferBytes.toNat ≤ s.m_frameBuffer.length then RGBbufferBytes.toNat
        else s.m_frameBuffer.length) = s.m_frameBuffer.length := by
      split <;> omega
    rw [Stream.captureFrame, opened.rgb, opened.isOpen, taken, ← sized]
    simp only [Bool.false_eq_true, if_false, Bool.not_true]
    refine Prod.ext rfl ?_
    rw [memcpy_all (by omega)]
    split
    · rfl
    · rename_i nothing
      have empty : s.m_frameBuffer = [] := List.eq_nil_of_length_eq_zero (by omega)
      rw [empty]
      rfl

end Open

/-- An open that returns true leaves one frame's worth of buffer exactly if the first connected type
is worth one frame of the request. -/
theorem open_frameSized_iff (width height : UInt32) (a : OpenAnswers) (want : Request) :
    (((new (base .openStream width height 0)).open a want).1 = true →
      FrameSized ((new (base .openStream width height 0)).open a want).2) ↔
      (Given a → Prepared a want → Connects a → SizeKept a want → FirstFits a want) := by
  have closed : (new (base .openStream width height 0)).m_isOpen = false := rfl
  have steps := stepped_completes_iff a want (new (base .openStream width height 0)).slots
  have bound : firstBytes a < 2 ^ 32 := by
    unfold firstBytes
    split
    · exact Nat.two_pow_pos 32
    · exact UInt32.toNat_lt _
  constructor
  · intro holds given prepared connects kept
    have opened : ((new (base .openStream width height 0)).open a want).1 = true :=
      (open_true_iff closed).2 ⟨given, steps.2 ⟨prepared, connects⟩, kept⟩
    have at_ := new_open_openedAt width height opened
    have sized := (holds opened).sized
    rw [at_.bytes, at_.width, at_.height] at sized
    exact sized
  · intro fits opened
    obtain ⟨given, completed, kept⟩ := (open_true_iff closed).1 opened
    obtain ⟨prepared, connects⟩ := steps.1 completed
    have whole : FirstFits a want := fits given prepared connects kept
    exact (new_open_openedAt width height opened).frameSized whole bound

/-- The first connected type reports 2 x 1, the one after the renegotiation the requested 1 x 1. -/
def settlingCamera : OpenAnswers :=
  { oneByOneCamera true 2 with connectedTypePost := some ⟨true, 1, 1⟩ }

/-- The stream opens at 1 x 1 with a frame buffer of six bytes. -/
theorem open_not_frameSized :
    ((new (base .openStream 0 0 0)).open settlingCamera ⟨1, 1, 0x47504A4D, 30⟩).1 = true ∧
      ¬ FrameSized ((new (base .openStream 0 0 0)).open settlingCamera ⟨1, 1, 0x47504A4D, 30⟩).2 := by
  refine ⟨by decide, fun framed => ?_⟩
  exact absurd framed.sized (by decide)

end PlatformStream

end OpenpnpCapture.Win
