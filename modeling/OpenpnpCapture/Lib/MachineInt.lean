/-
# Lib.MachineInt — machine integers

A signed value of `n` bits is an integer in `[-2^(n-1), 2^(n-1))`; `int32`, `int16` and `int8`
bring the exact result of an operation back into that range, as hardware does.  Unsigned
values are `UInt32`; while the exact result stays below `2^32`, the machine computes it.  A
`size_t` of 64 bits that may wrap is `sizeT` of the exact result.
-/
import Mathlib.Algebra.Ring.Int.Defs
import Mathlib.Algebra.Ring.Nat

namespace OpenpnpCapture.Lib

set_option autoImplicit false

/-- Two's complement `int32_t`. -/
def int32 (n : Int) : Int := Int.bmod n (2 ^ 32)

theorem int32_of_bounds {n : Int} (low : -2 ^ 31 ≤ n) (high : n < 2 ^ 31) : int32 n = n := by
  rw [int32]
  apply Int.bmod_eq_of_le <;> omega

theorem int32_add (m n : Int) : int32 (int32 m + n) = int32 (m + n) := by
  rw [int32, int32, Int.bmod_add_bmod]
  rfl

theorem int32_emod (n : Int) : int32 (n % 2 ^ 32) = int32 n :=
  Int.emod_bmod n (2 ^ 32)

/-- Two's complement `int16_t`. -/
def int16 (n : Int) : Int := Int.bmod n (2 ^ 16)

/-- Two's complement `int8_t`. -/
def int8 (n : Int) : Int := Int.bmod n (2 ^ 8)

/-- A `size_t` of 64 bits. -/
def sizeT (n : Nat) : Nat := n % 2 ^ 64

theorem sizeT_of_lt {n : Nat} (room : n < 2 ^ 64) : sizeT n = n :=
  Nat.mod_eq_of_lt room

/-! ## `uint32_t` without a wrap -/

theorem uint32_add {a b : UInt32} {m n : Nat} (left : a.toNat = m) (right : b.toNat = n)
    (room : m + n < 2 ^ 32) : (a + b).toNat = m + n := by
  rw [UInt32.toNat_add, left, right, Nat.mod_eq_of_lt room]

theorem uint32_mul {a b : UInt32} {m n : Nat} (left : a.toNat = m) (right : b.toNat = n)
    (room : m * n < 2 ^ 32) : (a * b).toNat = m * n := by
  rw [UInt32.toNat_mul, left, right, Nat.mod_eq_of_lt room]

theorem uint32_div {a b : UInt32} {m n : Nat} (left : a.toNat = m) (right : b.toNat = n) :
    (a / b).toNat = m / n := by
  rw [UInt32.toNat_div, left, right]

theorem uint32_ofNat {n : Nat} (room : n < 2 ^ 32) : (UInt32.ofNat n).toNat = n :=
  UInt32.toNat_ofNat_of_lt' room

end OpenpnpCapture.Lib
