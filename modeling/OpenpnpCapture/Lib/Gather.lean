/-
# Lib.Gather — conversions that only move bytes

A conversion `Gathers` if it leaves, at every offset of its destination, the byte its source has
at the `place` of that offset, whatever the source holds.  Two such conversions after each other
are one again (`Gathers.trans`), so where `place` is its own inverse the second undoes the first
(`Gathers.store_store`).
-/
import OpenpnpCapture.Lib.Access

namespace OpenpnpCapture.Lib

set_option autoImplicit false

/-- The memory from a pointer on begins with `data`. -/
def PointsTo (ptr : Nat → UInt8) (data : Bytes) : Prop :=
  ∀ offset < data.length, data[offset]? = some (ptr offset)

instance (ptr : Nat → UInt8) (data : Bytes) : Decidable (PointsTo ptr data) :=
  inferInstanceAs (Decidable (∀ offset < data.length, data[offset]? = some (ptr offset)))

def Gathers (size : Nat) (place : Nat → Nat) (conversion : (Nat → UInt8) → List Access) : Prop :=
  ∀ ptr, ∀ offset < size, lastAt offset (conversion ptr) = some (ptr (place offset))

/-- A rearrangement of the first `size` numbers that is its own inverse. -/
structure SelfInverse (size : Nat) (place : Nat → Nat) : Prop where
  lt : ∀ offset < size, place offset < size
  twice : ∀ offset < size, place (place offset) = offset

namespace Gathers

variable {size : Nat} {place place' : Nat → Nat}
  {conversion conversion' : (Nat → UInt8) → List Access} {buffer buffer' : Bytes} {ptr ptr' : Nat → UInt8}

theorem getElem?_store (gathers : Gathers size place conversion) (sized : buffer.length = size)
    {offset : Nat} (inside : offset < size) :
    (store buffer (conversion ptr))[offset]? = some (ptr (place offset)) :=
  getElem?_store_of_lastAt (sized.symm ▸ inside) (gathers ptr offset inside)

/-- A second conversion of what the first one stored. -/
theorem trans (first : Gathers size place conversion) (second : Gathers size place' conversion')
    (lt : ∀ offset < size, place' offset < size) (sized : buffer.length = size)
    (sized' : buffer'.length = size) (stored : PointsTo ptr' (store buffer (conversion ptr)))
    {offset : Nat} (inside : offset < size) :
    (store buffer' (conversion' ptr'))[offset]? = some (ptr (place (place' offset))) := by
  have moved := stored (place' offset) ((length_store _ _).trans sized ▸ lt offset inside)
  rw [second.getElem?_store sized' inside, ← moved, first.getElem?_store sized (lt offset inside)]

/-- Converting twice gives the source back. -/
theorem store_store (gathers : Gathers size place conversion) (selfInverse : SelfInverse size place)
    (sized : buffer.length = size) (sized' : buffer'.length = size) {source : Bytes}
    (whole : source.length = size) (holds : PointsTo ptr source)
    (stored : PointsTo ptr' (store buffer (conversion ptr))) :
    store buffer' (conversion ptr') = source := by
  apply List.ext_getElem?
  intro offset
  rcases Nat.lt_or_ge offset size with inside | outside
  · rw [gathers.trans gathers selfInverse.lt sized sized' stored inside,
      selfInverse.twice offset inside, holds offset (whole.symm ▸ inside)]
  · rw [List.getElem?_eq_none (by rw [length_store]; omega), List.getElem?_eq_none (by omega)]

end Gathers

end OpenpnpCapture.Lib
