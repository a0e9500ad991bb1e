/-
# Lib.Doubling — a buffer that grows to twice what it must hold

`grow` is the capacity after a request: unchanged if the request fits, else twice the request.
Each growth doubles `capacity + 2` (`growths_doubles`), and no growth goes past twice the largest
request (`capacity_le`), so a run of requests grows the buffer a logarithmic number of times.
-/
import Mathlib.Data.Nat.Log
import Mathlib.Tactic.Ring

namespace OpenpnpCapture.Lib.Doubling

set_option autoImplicit false

/-- The capacity after a request. -/
def grow (capacity request : Nat) : Nat :=
  if request > capacity then request * 2 else capacity

/-- The capacity after some requests. -/
def grown (capacity : Nat) (requests : List Nat) : Nat :=
  requests.foldl grow capacity

/-- How many of the requests change the capacity. -/
def growths : Nat → List Nat → Nat
  | _, [] => 0
  | capacity, request :: rest =>
      (if grow capacity request = capacity then 0 else 1) + growths (grow capacity request) rest

variable {capacity : Nat}

theorem le_grow (request : Nat) : capacity ≤ grow capacity request := by
  unfold grow
  split <;> omega

theorem grow_le {request bound : Nat} (bounded : request ≤ bound) :
    grow capacity request ≤ max capacity (2 * bound) := by
  unfold grow
  split <;> omega

/-- A request that changes the capacity at least doubles it. -/
theorem grow_doubles {request : Nat} (grew : grow capacity request ≠ capacity) :
    2 * (capacity + 2) ≤ grow capacity request + 2 := by
  unfold grow at grew ⊢
  split
  · omega
  · rename_i fits
    rw [if_neg fits] at grew
    exact absurd rfl grew

theorem le_grown (requests : List Nat) : capacity ≤ grown capacity requests := by
  induction requests generalizing capacity with
  | nil => exact Nat.le_refl _
  | cons request rest ih => exact Nat.le_trans (le_grow request) ih

theorem grown_append (first second : List Nat) :
    grown capacity (first ++ second) = grown (grown capacity first) second :=
  List.foldl_append

theorem grown_le {requests : List Nat} {bound : Nat}
    (bounded : ∀ request ∈ requests, request ≤ bound) :
    grown capacity requests ≤ max capacity (2 * bound) := by
  induction requests generalizing capacity with
  | nil => exact Nat.le_max_left _ _
  | cons request rest ih =>
      have first : grow capacity request ≤ max capacity (2 * bound) :=
        grow_le (bounded request List.mem_cons_self)
      have later : grown (grow capacity request) rest ≤ max (grow capacity request) (2 * bound) :=
        ih fun next member => bounded next (List.mem_cons_of_mem _ member)
      show grown (grow capacity request) rest ≤ _
      omega

/-- Every growth doubles what two more than the capacity is. -/
theorem growths_doubles (requests : List Nat) :
    2 ^ growths capacity requests * (capacity + 2) ≤ grown capacity requests + 2 := by
  induction requests generalizing capacity with
  | nil =>
      rw [growths, Nat.pow_zero, Nat.one_mul]
      exact Nat.le_refl _
  | cons request rest ih =>
      have later := @ih (grow capacity request)
      show _ ≤ grown (grow capacity request) rest + 2
      rw [growths]
      split
      · rename_i same
        rw [same] at later ⊢
        rwa [Nat.zero_add]
      · rename_i grew
        calc 2 ^ (1 + growths (grow capacity request) rest) * (capacity + 2)
            = 2 ^ growths (grow capacity request) rest * (2 * (capacity + 2)) := by ring
          _ ≤ 2 ^ growths (grow capacity request) rest * (grow capacity request + 2) :=
              Nat.mul_le_mul_left _ (grow_doubles grew)
          _ ≤ grown (grow capacity request) rest + 2 := later

/-- The last growth answers a request of at most the bound. -/
theorem growths_le {requests : List Nat} {bound : Nat}
    (bounded : ∀ request ∈ requests, request ≤ bound) (some_grew : 1 ≤ growths capacity requests) :
    2 ^ (growths capacity requests - 1) * (capacity + 2) ≤ bound + 1 := by
  have doubles := @growths_doubles capacity requests
  have top : grown capacity requests ≤ max capacity (2 * bound) := grown_le bounded
  obtain ⟨k, count⟩ := Nat.exists_eq_add_of_le' some_grew
  rw [count] at doubles ⊢
  rw [Nat.pow_succ, Nat.mul_comm (2 ^ k), Nat.mul_assoc] at doubles
  have positive : 1 * (capacity + 2) ≤ 2 ^ k * (capacity + 2) :=
    Nat.mul_le_mul_right _ Nat.one_le_two_pow
  rw [Nat.add_sub_cancel]
  omega

/-- So their number is logarithmic in the bound. -/
theorem growths_le_log {requests : List Nat} {bound : Nat}
    (bounded : ∀ request ∈ requests, request ≤ bound) :
    growths capacity requests ≤ Nat.log 2 ((bound + 1) / (capacity + 2)) + 1 := by
  rcases Nat.eq_zero_or_pos (growths capacity requests) with none_grew | some_grew
  · omega
  · have room := growths_le bounded some_grew
    have fits : 2 ^ (growths capacity requests - 1) ≤ (bound + 1) / (capacity + 2) :=
      (Nat.le_div_iff_mul_le (by omega)).2 room
    have exponent := Nat.le_log_of_pow_le (by decide) fits
    omega

end OpenpnpCapture.Lib.Doubling
