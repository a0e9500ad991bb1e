/-
# Lib.Bytes — byte buffers

A buffer is the list of its bytes.  `memcpy` overwrites the first `n` bytes of a
destination of fixed size; what would land past its end does not lie in it.
`resize` is the growth and truncation of a zero-filled vector.
-/
import Mathlib.Data.List.TakeDrop

namespace OpenpnpCapture.Lib

set_option autoImplicit false

abbrev Bytes := List UInt8

/-- `dst` after `n` bytes of `src` were copied to its start. -/
def memcpy (dst src : Bytes) (n : Nat) : Bytes :=
  (src.take n ++ dst.drop n).take dst.length

/-- A vector resized to `n` bytes; new ones are zero. -/
def resize (v : Bytes) (n : Nat) : Bytes :=
  v.take n ++ List.replicate (n - v.length) 0

@[simp] theorem length_resize (v : Bytes) (n : Nat) : (resize v n).length = n := by
  simp only [resize, List.length_append, List.length_take, List.length_replicate]
  omega

theorem length_memcpy {dst src : Bytes} {n : Nat} (source : n ≤ src.length) :
    (memcpy dst src n).length = dst.length := by
  simp only [memcpy, List.length_take, List.length_append, List.length_drop]
  omega

/-- A copy that fits replaces a prefix and leaves the rest. -/
theorem memcpy_of_le {dst src : Bytes} {n : Nat} (source : n ≤ src.length) (room : n ≤ dst.length) :
    memcpy dst src n = src.take n ++ dst.drop n := by
  apply List.take_of_length_le
  simp only [List.length_append, List.length_take, List.length_drop]
  omega

/-- Copying a whole source that fits. -/
theorem memcpy_all {dst src : Bytes} (room : src.length ≤ dst.length) :
    memcpy dst src src.length = src ++ dst.drop src.length := by
  rw [memcpy_of_le (Nat.le_refl _) room, List.take_length]

theorem take_memcpy_all {dst src : Bytes} (room : src.length ≤ dst.length) :
    (memcpy dst src src.length).take src.length = src := by
  rw [memcpy_all room, List.take_left']
  rfl

/-- A source of the destination's length replaces it. -/
theorem memcpy_same {dst src : Bytes} (same : src.length = dst.length) :
    memcpy dst src src.length = src := by
  rw [memcpy_all (Nat.le_of_eq same), same, List.drop_length, List.append_nil]

end OpenpnpCapture.Lib
