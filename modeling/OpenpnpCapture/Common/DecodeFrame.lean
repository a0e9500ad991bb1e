/-
# Common.DecodeFrame — what a true result of `decodeFrame` says

The error-handling table of the raw-access design lets a decode failure return
`CAPRESULT_ERR`.  `decompressFrame` drops the status of both library calls, so the table
holds for some decoder behaviours only; `decodeTruthful_iff` says for which.
-/
import OpenpnpCapture.Common.Stream

namespace OpenpnpCapture.Common

open OpenpnpCapture.Lib

set_option autoImplicit false

namespace Stream

/-- The bytes of the stored frame. -/
def storedFrame (s : Stream) : Bytes :=
  s.m_rawBuffer.take s.m_rawFrameSize.toNat

/-- A true result of `decodeFrame` means that both decoder calls reported success for the stored
frame and that the caller's buffer `out` now starts with the complete image; and the size check
compared values the decoder had written. -/
structure DecodeTruthful (tj : TurboJpeg) (s : Stream) (RGBbufferPtr : Option Bytes)
    (RGBbufferBytes : UInt32) : Prop where
  header : (s.decodeFrame tj RGBbufferPtr RGBbufferBytes).ok = true →
    (tj.tjDecompressHeader2 s.storedFrame).status = 0
  decompress : (s.decodeFrame tj RGBbufferPtr RGBbufferBytes).ok = true →
    (tj.tjDecompress2 s.storedFrame s.m_width s.m_height).status = 0
  image : (s.decodeFrame tj RGBbufferPtr RGBbufferBytes).ok = true →
    ∃ out, (s.decodeFrame tj RGBbufferPtr RGBbufferBytes).buffer RGBbufferPtr = some out ∧
      imageBytes s.m_width s.m_height ≤ out.length ∧
      out.take (imageBytes s.m_width s.m_height) =
        (tj.tjDecompress2 s.storedFrame s.m_width s.m_height).bytes
  compared : ∀ result, s.decodeFrame tj RGBbufferPtr RGBbufferBytes = .ran result →
    result.readUnset = false

/-- The decoder behaves on the stored frame: it writes the size, and if it names the stream's
size it reports success twice and the image fits the buffer the caller really passed. -/
def DecoderBehaves (tj : TurboJpeg) (s : Stream) (out : Bytes) : Prop :=
  (tj.tjDecompressHeader2 s.storedFrame).size ≠ none ∧
    ((tj.tjDecompressHeader2 s.storedFrame).size = some (s.m_width, s.m_height) →
      (tj.tjDecompressHeader2 s.storedFrame).status = 0 ∧
        (tj.tjDecompress2 s.storedFrame s.m_width s.m_height).status = 0 ∧
        imageBytes s.m_width s.m_height ≤ out.length)

variable {tj : TurboJpeg} {s : Stream} {RGBbufferPtr : Option Bytes} {RGBbufferBytes : UInt32}

/-- A refused call returns false and compares nothing. -/
theorem decodeTruthful_of_refused {why : Refusal}
    (refused : s.decodeFrame tj RGBbufferPtr RGBbufferBytes = .refused why) :
    DecodeTruthful tj s RGBbufferPtr RGBbufferBytes := by
  have not_ok : ¬ (s.decodeFrame tj RGBbufferPtr RGBbufferBytes).ok = true := by
    rw [refused]
    exact Bool.false_ne_true
  exact ⟨fun ok => absurd ok not_ok, fun ok => absurd ok not_ok, fun ok => absurd ok not_ok,
    fun result ran => by rw [refused] at ran; cases ran⟩

theorem decodeTruthful_of_behaves {out : Bytes}
    (ran : s.decodeFrame tj (some out) RGBbufferBytes =
      .ran (decompressFrame tj s.storedFrame out s.m_width s.m_height))
    (behaves : DecoderBehaves tj s out) : DecodeTruthful tj s (some out) RGBbufferBytes := by
  obtain ⟨sized, onMatch⟩ := behaves
  obtain ⟨size, known⟩ := Option.ne_none_iff_exists'.1 sized
  by_cases same : size = (s.m_width, s.m_height)
  · subst same
    obtain ⟨headerOk, scanOk, fits⟩ := onMatch known
    have complete := (tj.tjDecompress2 s.storedFrame s.m_width s.m_height).complete scanOk
    rw [decompressFrame_match out known] at ran
    refine ⟨fun _ => headerOk, fun _ => scanOk, fun _ => ?_, ?_⟩
    · refine ⟨_, by rw [ran]; rfl, ?_, ?_⟩
      · rw [length_memcpy (Nat.le_refl _)]
        exact fits
      · rw [← complete]
        exact take_memcpy_all (complete ▸ fits)
    · intro result ran'
      rw [ran] at ran'
      cases ran'
      rfl
  · rw [decompressFrame_mismatch out known same] at ran
    have not_ok : ¬ (s.decodeFrame tj (some out) RGBbufferBytes).ok = true := by
      rw [ran]
      exact Bool.false_ne_true
    exact ⟨fun ok => absurd ok not_ok, fun ok => absurd ok not_ok, fun ok => absurd ok not_ok,
      fun result ran' => by rw [ran] at ran'; cases ran'; rfl⟩

theorem behaves_of_decodeTruthful {out : Bytes}
    (ran : s.decodeFrame tj (some out) RGBbufferBytes =
      .ran (decompressFrame tj s.storedFrame out s.m_width s.m_height))
    (truthful : DecodeTruthful tj s (some out) RGBbufferBytes) : DecoderBehaves tj s out := by
  constructor
  · intro unset
    have stale := decompressFrame_unset out s.m_width s.m_height unset
    rw [truthful.compared _ ran] at stale
    cases stale
  · intro known
    have ok : (s.decodeFrame tj (some out) RGBbufferBytes).ok = true := by
      rw [ran, decompressFrame_match out known]
      rfl
    obtain ⟨after, left, fits, -⟩ := truthful.image ok
    rw [ran, decompressFrame_match out known] at left
    cases left
    rw [length_memcpy (Nat.le_refl _)] at fits
    exact ⟨truthful.header ok, truthful.decompress ok, fits⟩

/-- **When `decodeFrame` tells the truth.**  For every stored frame, resolution, buffer and
decoder: exactly when the call is refused before the decoder, or the decoder behaves. -/
theorem decodeTruthful_iff (tj : TurboJpeg) (s : Stream) (RGBbufferPtr : Option Bytes)
    (RGBbufferBytes : UInt32) :
    DecodeTruthful tj s RGBbufferPtr RGBbufferBytes ↔
      ∀ out, RGBbufferPtr = some out → s.DecodeArgs RGBbufferPtr RGBbufferBytes →
        s.m_rawFrameSize ≠ 0 → DecoderBehaves tj s out := by
  cases outcome : s.decodeFrame tj RGBbufferPtr RGBbufferBytes with
  | refused why =>
      refine iff_of_true (decodeTruthful_of_refused outcome) ?_
      rintro out rfl args sized
      rw [decodeFrame_of_args args, if_neg sized] at outcome
      cases outcome
  | ran result =>
      obtain ⟨args, sized⟩ := decodeFrame_ran outcome
      obtain ⟨out, rfl⟩ := Option.isSome_iff_exists.1 args.2.2.1
      have ran : s.decodeFrame tj (some out) RGBbufferBytes =
          .ran (decompressFrame tj s.storedFrame out s.m_width s.m_height) := by
        rw [decodeFrame_of_args args, if_neg sized]
        rfl
      constructor
      · rintro truthful _ ⟨⟩ - -
        exact behaves_of_decodeTruthful ran truthful
      · intro behaves
        exact decodeTruthful_of_behaves ran (behaves out rfl args sized)

/-- A grey 1 x 1 JPEG that is cut off inside its scan: a quantization table, two Huffman tables of one
code each, and the first of two bytes of the scan. -/
def cutFrame : Bytes :=
  [0xFF, 0xD8] ++
    ([0xFF, 0xDB, 0x00, 0x43, 0x00] ++ List.replicate 64 1) ++
    [0xFF, 0xC0, 0x00, 0x0B, 0x08, 0x00, 0x01, 0x00, 0x01, 0x01, 0x01, 0x11, 0x00] ++
    ([0xFF, 0xC4, 0x00, 0x14, 0x00, 0x01] ++ List.replicate 15 0 ++ [0x0B]) ++
    ([0xFF, 0xC4, 0x00, 0x14, 0x10, 0x01] ++ List.replicate 16 0) ++
    [0xFF, 0xDA, 0x00, 0x08, 0x01, 0x01, 0x00, 0x00, 0x3F, 0x00] ++ [0x3F]

/-- A decoder that reads the size, and warns of the missing data after it has filled in black. -/
def truncatedDecoder : TurboJpeg where
  tjDecompressHeader2 _ := ⟨0, some (1, 1), fun _ => rfl⟩
  tjDecompress2 _ width height :=
    ⟨-1, List.replicate (imageBytes width height) 0, Nat.le_of_eq List.length_replicate, by simp⟩
  unset := (0, 0)

/-- A decoder that finds no header, with the size of an earlier 1 x 1 frame left over in the two
locals. -/
def headerlessDecoder : TurboJpeg where
  tjDecompressHeader2 _ := ⟨-1, none, by simp⟩
  tjDecompress2 _ _ _ := ⟨-1, [], Nat.zero_le _, by simp⟩
  unset := (1, 1)

/-- An open 1 x 1 raw stream that was handed this frame. -/
def holding (frame : Bytes) : Stream :=
  (((new 0 0).setRawMode true 0).opened 1 1 3).submitRawBuffer (some frame)

/-- The scan of a frame that is cut off is not decoded, and `decodeFrame` returns true over a black
pixel; for a frame without a header it does so over an untouched buffer when the locals happen to
hold the right size. -/
theorem decodeTruthful_fails_on_truncated_frame :
    ((holding cutFrame).decodeFrame truncatedDecoder (some [7, 7, 7]) 3).buffer none =
        some [0, 0, 0] ∧
      ¬ DecodeTruthful truncatedDecoder (holding cutFrame) (some [7, 7, 7]) 3 ∧
      ¬ DecodeTruthful headerlessDecoder (holding [0, 0]) (some [7, 7, 7]) 3 := by
  have sized : (holding cutFrame).m_rawFrameSize = 139 := rfl
  have ran : (holding cutFrame).decodeFrame truncatedDecoder (some [7, 7, 7]) 3 =
      .ran ⟨true, [0, 0, 0], false⟩ := by
    rw [decodeFrame_of_args ⟨rfl, rfl, rfl, by decide⟩, sized, if_neg (by decide)]
    exact congrArg Decode.ran (decompressFrame_match [7, 7, 7] rfl)
  have ok : ((holding cutFrame).decodeFrame truncatedDecoder (some [7, 7, 7]) 3).ok = true := by
    rw [ran]
    rfl
  have headerless : ((holding [0, 0]).decodeFrame headerlessDecoder (some [7, 7, 7]) 3).ok = true := by
    decide
  refine ⟨by rw [ran]; rfl, fun truthful => ?_, fun truthful => ?_⟩
  · exact absurd (truthful.decompress ok) (by decide)
  · exact absurd (truthful.header headerless) (by decide)

end Stream

end OpenpnpCapture.Common
