/-
# Win.SubmitBuffer — a DirectShow sample becomes an RGB frame

`PlatformStream::submitBuffer` replaces the shared one: DirectShow delivers the rows bottom
up and each pixel as B, G, R, so the sample is reversed on the way into the frame buffer.

The row index is a `size_t` of 64 bits, the byte length of a source row a `uint32_t`
product; within a row both pointers are advanced.
-/
import OpenpnpCapture.Lib.Access
import OpenpnpCapture.Lib.MachineInt
import OpenpnpCapture.Win.PlatformStream

namespace OpenpnpCapture.Win

open OpenpnpCapture.Lib OpenpnpCapture.Common

set_option autoImplicit false

/-- The body of the inner loop, `src` and `dst` being where the two pointers stand. -/
def flipPixel (ptr : Nat → UInt8) (src dst : Nat) : List Access :=
  let b := ptr src
  let g := ptr (src + 1)
  let r := ptr (src + 2)
  [.read src, .read (src + 1), .read (src + 2),
    .write dst r, .write (dst + 1) g, .write (dst + 2) b]

/-- The two loops over a sample of `m_height` rows. -/
def flipRows (ptr : Nat → UInt8) (m_width m_height : UInt32) : List Access :=
  raster m_height.toNat m_width.toNat fun y x =>
    flipPixel ptr ((m_width * 3).toNat * (m_height.toNat - y - 1) + 3 * x)
      (sizeT (sizeT (y * m_width.toNat) * 3) + 3 * x)

/-- What a call with a sample accesses, and the stream afterwards. -/
structure Submission where
  accesses : List Access
  stream : PlatformStream

namespace PlatformStream

def submitBuffer (s : PlatformStream) (ptr : Nat → UInt8) (bytes : Nat) : Submission :=
  if bytes ≤ s.m_frameBuffer.length then
    let accesses := flipRows ptr s.m_width s.m_height
    ⟨accesses,
      { s with
        m_frameBuffer := store s.m_frameBuffer accesses
        m_newFrame := true
        m_frames := s.m_frames + 1 }⟩
  else ⟨[], s⟩

end PlatformStream

section Bounds

variable {readable writable : Nat}

theorem flipPixel_inBounds (ptr : Nat → UInt8) (src dst : Nat) :
    InBounds readable writable (flipPixel ptr src dst) ↔ src + 2 < readable ∧ dst + 2 < writable := by
  simp only [flipPixel, inBounds_cons, inBounds_nil, Access.within_read, Access.within_write,
    and_true]
  omega

theorem imageBytes_rowMajor (m_width m_height : UInt32) :
    imageBytes m_width m_height = m_height.toNat * m_width.toNat * 3 := by
  rw [imageBytes, Nat.mul_assoc, Nat.mul_comm 3, Nat.mul_comm m_width.toNat]

/-- A sample of a whole frame is converted within a buffer of a whole frame. -/
theorem flipRows_inBounds (ptr : Nat → UInt8) {m_width m_height : UInt32}
    (small : imageBytes m_width m_height < 2 ^ 32) :
    InBounds (imageBytes m_width m_height) (imageBytes m_width m_height)
      (flipRows ptr m_width m_height) := by
  rw [flipRows, inBounds_raster]
  intro y inRows x inCols
  have frame := imageBytes_rowMajor m_width m_height
  have cell := rowMajor_lt inRows inCols
  have source := rowMajor_lt (show m_height.toNat - y - 1 < m_height.toNat by omega) inCols
  have rowBytes : (m_width * 3).toNat ≤ m_width.toNat * 3 := by
    rw [UInt32.toNat_mul]
    exact Nat.mod_le _ _
  have sourceRow : (m_width * 3).toNat * (m_height.toNat - y - 1) ≤
      (m_height.toNat - y - 1) * m_width.toNat * 3 :=
    calc (m_width * 3).toNat * (m_height.toNat - y - 1)
        ≤ m_width.toNat * 3 * (m_height.toNat - y - 1) := Nat.mul_le_mul_right _ rowBytes
      _ = (m_height.toNat - y - 1) * m_width.toNat * 3 := by
        rw [Nat.mul_comm, Nat.mul_assoc]
  have targetRow : sizeT (sizeT (y * m_width.toNat) * 3) = y * m_width.toNat * 3 := by
    rw [sizeT_of_lt (n := y * m_width.toNat) (by omega), sizeT_of_lt (by omega)]
  rw [flipPixel_inBounds, targetRow]
  omega

end Bounds

end OpenpnpCapture.Win
