/-
# Lib.Checked — arithmetic that refuses to wrap

The machine's operations wrap silently.  The operations here give `none` where the machine
would not hold the exact result, so a routine rewritten with them returns something exactly if
none of its intermediate results wraps, and then it returns what the machine computes.
-/
import OpenpnpCapture.Lib.Access
import OpenpnpCapture.Lib.MachineInt

namespace OpenpnpCapture.Lib

set_option autoImplicit false

def add32 (a b : UInt32) : Option UInt32 :=
  if a.toNat + b.toNat < 2 ^ 32 then some (a + b) else none

def mul32 (a b : UInt32) : Option UInt32 :=
  if a.toNat * b.toNat < 2 ^ 32 then some (a * b) else none

/-- An `int` stored in an `int16_t`. -/
def narrow16 (n : Int) : Option Int :=
  if -2 ^ 15 ≤ n ∧ n < 2 ^ 15 then some (int16 n) else none

/-- `raster` over bodies that may refuse. -/
def rasterM (rows cols : Nat) (body : Nat → Nat → Option (List Access)) : Option (List Access) :=
  ((List.range rows).mapM fun row =>
    ((List.range cols).mapM fun col => body row col).map List.flatten).map List.flatten

/-! ## Nothing is refused while nothing wraps -/

theorem add32_eq {a b : UInt32} {m n : Nat} (left : a.toNat = m) (right : b.toNat = n)
    (room : m + n < 2 ^ 32) : add32 a b = some (a + b) := by
  subst left right
  exact if_pos room

theorem mul32_eq {a b : UInt32} {m n : Nat} (left : a.toNat = m) (right : b.toNat = n)
    (room : m * n < 2 ^ 32) : mul32 a b = some (a * b) := by
  subst left right
  exact if_pos room

theorem narrow16_eq {n : Int} (low : -2 ^ 15 ≤ n) (high : n < 2 ^ 15) :
    narrow16 n = some (int16 n) :=
  if_pos ⟨low, high⟩

theorem mapM_eq_some {α β : Type} {items : List α} {attempt : α → Option β} {result : α → β}
    (each : ∀ item ∈ items, attempt item = some (result item)) :
    items.mapM attempt = some (items.map result) := by
  induction items with
  | nil => rfl
  | cons item rest ih =>
      rw [List.mapM_cons, each item List.mem_cons_self,
        ih fun later member => each later (List.mem_cons_of_mem _ member)]
      rfl

theorem rasterM_eq {rows cols : Nat} {attempt : Nat → Nat → Option (List Access)}
    {body : Nat → Nat → List Access}
    (each : ∀ row < rows, ∀ col < cols, attempt row col = some (body row col)) :
    rasterM rows cols attempt = some (raster rows cols body) := by
  have inner (row : Nat) (inRows : row ∈ List.range rows) :
      ((List.range cols).mapM fun col => attempt row col).map List.flatten =
        some ((List.range cols).flatMap fun col => body row col) := by
    rw [mapM_eq_some fun col inCols =>
      each row (List.mem_range.1 inRows) col (List.mem_range.1 inCols)]
    rfl
  rw [rasterM, mapM_eq_some inner]
  rfl

end OpenpnpCapture.Lib
