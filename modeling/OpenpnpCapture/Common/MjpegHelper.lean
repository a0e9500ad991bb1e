/-
# Common.MjpegHelper — `MJPEGHelper::decompressFrame` over an abstract decoder

libjpeg-turbo is taken by its two calls.  `tjDecompressHeader2` returns a status and may
leave `width` and `height` unwritten when it fails; `tjDecompress2` returns a status and
may have written only part of the image when it fails.  A status of 0 promises the out
parameters, respectively the complete image: both promises are fields of the results, so
a decoder that breaks them cannot be built.

`width` and `height` are `int32_t` locals compared with `uint32_t` arguments, hence kept
as `UInt32`.  What they hold before any write is `unset`.
-/
import Mathlib.Algebra.Ring.Nat
import OpenpnpCapture.Lib.Bytes

namespace OpenpnpCapture.Common

open OpenpnpCapture.Lib

set_option autoImplicit false

/-- The result of `tjDecompressHeader2`: `size` is what it wrote to `width` and `height`. -/
structure Header where
  status : Int
  size : Option (UInt32 × UInt32)
  size_of_ok : status = 0 → size.isSome = true

/-- The bytes of a 24-bit RGB image. -/
def imageBytes (width height : UInt32) : Nat :=
  3 * width.toNat * height.toNat

section Product

variable (width height : UInt32)

/-- The `uint32_t` product is the number of bytes, reduced. -/
theorem product_toNat : (width * height * 3).toNat = imageBytes width height % 2 ^ 32 := by
  have three : UInt32.toNat 3 = 3 := rfl
  rw [UInt32.toNat_mul, UInt32.toNat_mul, Nat.mod_mul_mod, imageBytes, three,
    Nat.mul_comm _ 3, Nat.mul_assoc]

/-- The product is large enough exactly if it does not wrap. -/
theorem imageBytes_le_product_iff :
    imageBytes width height ≤ (width * height * 3).toNat ↔ imageBytes width height < 2 ^ 32 := by
  rw [product_toNat]
  constructor
  · intro room
    have wrapped : imageBytes width height % 2 ^ 32 < 2 ^ 32 := Nat.mod_lt _ (by decide)
    omega
  · intro small
    exact Nat.le_of_eq (Nat.mod_eq_of_lt small).symm

end Product

/-- The result of `tjDecompress2`: `bytes` is what it wrote to the start of the output buffer. -/
structure Scan (width height : UInt32) where
  status : Int
  bytes : Bytes
  bounded : bytes.length ≤ imageBytes width height
  complete : status = 0 → bytes.length = imageBytes width height

/-- One behaviour of the decoder, with the prior contents of the two locals. -/
structure TurboJpeg where
  tjDecompressHeader2 : Bytes → Header
  tjDecompress2 : Bytes → (width height : UInt32) → Scan width height
  unset : UInt32 × UInt32

/-- What `decompressFrame` returned and left in the output buffer; `readUnset` when its
comparison used a width and height nobody had written. -/
structure Decompression where
  ok : Bool
  buffer : Bytes
  readUnset : Bool

def decompressFrame (tj : TurboJpeg) (inBuffer outBuffer : Bytes)
    (outBufWidth outBufHeight : UInt32) : Decompression :=
  let header := tj.tjDecompressHeader2 inBuffer
  -- the status of the header call is not looked at
  let size := header.size.getD tj.unset
  let readUnset := header.size.isNone
  if size.1 ≠ outBufWidth ∨ size.2 ≠ outBufHeight then
    ⟨false, outBuffer, readUnset⟩
  else
    let scan := tj.tjDecompress2 inBuffer size.1 size.2
    let written := memcpy outBuffer scan.bytes scan.bytes.length
    -- "we suppress the warnings and errors completely": both outcomes return true
    if scan.status ≠ 0 then ⟨true, written, readUnset⟩ else ⟨true, written, readUnset⟩

section Outcomes

variable {tj : TurboJpeg} {inBuffer : Bytes}

theorem decompressFrame_unset (outBuffer : Bytes) (w h : UInt32)
    (unset : (tj.tjDecompressHeader2 inBuffer).size = none) :
    (decompressFrame tj inBuffer outBuffer w h).readUnset = true := by
  simp only [decompressFrame, unset, Option.isNone_none]
  split
  · rfl
  · split <;> rfl

theorem decompressFrame_mismatch (outBuffer : Bytes) {w h : UInt32} {size : UInt32 × UInt32}
    (known : (tj.tjDecompressHeader2 inBuffer).size = some size) (differs : size ≠ (w, h)) :
    decompressFrame tj inBuffer outBuffer w h = ⟨false, outBuffer, false⟩ := by
  have apart : size.1 ≠ w ∨ size.2 ≠ h := by
    rw [ne_eq, Prod.ext_iff, not_and_or] at differs
    exact differs
  simp only [decompressFrame, known, Option.getD_some, Option.isNone_some, if_pos apart]

/-- A call that returns false leaves the output buffer alone. -/
theorem decompressFrame_refused {outBuffer : Bytes} {w h : UInt32}
    (refused : (decompressFrame tj inBuffer outBuffer w h).ok = false) :
    (decompressFrame tj inBuffer outBuffer w h).buffer = outBuffer := by
  unfold decompressFrame at refused ⊢
  simp only at refused ⊢
  split at refused
  · rename_i apart
    rw [if_pos apart]
  · split at refused <;> cases refused

/-- The header names the expected size: the call returns true whatever the decoder reports. -/
theorem decompressFrame_match (outBuffer : Bytes) {w h : UInt32}
    (known : (tj.tjDecompressHeader2 inBuffer).size = some (w, h)) :
    decompressFrame tj inBuffer outBuffer w h =
      ⟨true, memcpy outBuffer (tj.tjDecompress2 inBuffer w h).bytes
        (tj.tjDecompress2 inBuffer w h).bytes.length, false⟩ := by
  unfold decompressFrame
  generalize tj.tjDecompressHeader2 inBuffer = header at known ⊢
  obtain ⟨status, size, sizeOfOk⟩ := header
  cases known
  simp

end Outcomes

end OpenpnpCapture.Common
