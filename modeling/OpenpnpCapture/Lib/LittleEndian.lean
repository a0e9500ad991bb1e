/-
# Lib.LittleEndian — numbers as bytes, the least significant first

`littleEndian n value` are the low `n` bytes of a number, `ofLittleEndian` is the number some bytes
are.  A prefix of the bytes is the number modulo a power of 256, so what a control of few bytes
holds of a longer integer is a congruence (`ofLittleEndian_littleEndian`).
-/
import Mathlib.Data.Nat.Digits.Defs
import OpenpnpCapture.Lib.Bytes

namespace OpenpnpCapture.Lib

set_option autoImplicit false

def littleEndian (n value : Nat) : Bytes :=
  (List.range n).map fun i => UInt8.ofNat (value / 256 ^ i)

def ofLittleEndian (bytes : Bytes) : Nat :=
  Nat.ofDigits 256 (bytes.map UInt8.toNat)

@[simp] theorem length_littleEndian (n value : Nat) : (littleEndian n value).length = n := by
  simp [littleEndian]

theorem take_littleEndian {k n : Nat} (few : k ≤ n) (value : Nat) :
    (littleEndian n value).take k = littleEndian k value := by
  rw [littleEndian, ← List.map_take, List.take_range, Nat.min_eq_left few]
  rfl

theorem ofLittleEndian_append (low high : Bytes) :
    ofLittleEndian (low ++ high) = ofLittleEndian low + 256 ^ low.length * ofLittleEndian high := by
  rw [ofLittleEndian, List.map_append, Nat.ofDigits_append, List.length_map]
  rfl

theorem ofLittleEndian_littleEndian (n value : Nat) :
    ofLittleEndian (littleEndian n value) = value % 256 ^ n := by
  induction n with
  | zero => rw [Nat.pow_zero, Nat.mod_one]; rfl
  | succ n ih =>
      have last : littleEndian (n + 1) value =
          littleEndian n value ++ [UInt8.ofNat (value / 256 ^ n)] := by
        rw [littleEndian, List.range_succ, List.map_append]
        rfl
      have digit : ofLittleEndian [UInt8.ofNat (value / 256 ^ n)] = value / 256 ^ n % 256 := by
        rw [ofLittleEndian, List.map_singleton, Nat.ofDigits_singleton]
        rfl
      rw [last, ofLittleEndian_append, ih, length_littleEndian, digit, Nat.pow_succ, Nat.mod_mul]

end OpenpnpCapture.Lib
