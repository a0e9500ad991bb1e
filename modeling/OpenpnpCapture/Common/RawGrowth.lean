/-
# Common.RawGrowth — how often the raw buffer is reallocated

`submitRawBuffer` resizes `m_rawBuffer` only for a frame that does not fit, and then to twice the
frame: its size is the capacity of `Lib.Doubling`, the frame lengths being the requests.  So
whatever the frames, the number of reallocations is logarithmic in the longest one.
-/
import OpenpnpCapture.Common.Stream
import OpenpnpCapture.Lib.Doubling
import OpenpnpCapture.Lib.Run

namespace OpenpnpCapture.Common

open OpenpnpCapture.Lib

set_option autoImplicit false

namespace Stream

/-- A stream after a `submitRawBuffer` for each of the frames, some of which may be null. -/
def storedRaw (s : Stream) (frames : List (Option Bytes)) : Stream :=
  Run.after submitRawBuffer s frames

/-- `m_rawBuffer.size()`. -/
def rawCapacity (s : Stream) : Nat :=
  s.m_rawBuffer.length

/-- How many of the calls leave `m_rawBuffer` with another size. -/
def rawResizes : Stream → List (Option Bytes) → Nat
  | _, [] => 0
  | s, ptr :: rest =>
      (if (s.submitRawBuffer ptr).rawCapacity = s.rawCapacity then 0 else 1) +
        rawResizes (s.submitRawBuffer ptr) rest

/-- What a call needs room for. -/
def requested (ptr : Option Bytes) : Nat :=
  (ptr.getD []).length

theorem rawCapacity_submit (s : Stream) (ptr : Option Bytes) :
    (s.submitRawBuffer ptr).rawCapacity = Doubling.grow s.rawCapacity (requested ptr) := by
  cases ptr with
  | none =>
      have fits : ¬ requested none > s.rawCapacity := Nat.not_lt_zero _
      rw [Doubling.grow, if_neg fits]
      rfl
  | some data =>
      show (memcpy _ data data.length).length = _
      rw [length_memcpy (Nat.le_refl _), apply_ite List.length, length_resize]
      rfl

/-- The raw buffer grows as a doubling buffer does. -/
theorem rawCapacity_storedRaw (s : Stream) (frames : List (Option Bytes)) :
    (s.storedRaw frames).rawCapacity = Doubling.grown s.rawCapacity (frames.map requested) := by
  induction frames generalizing s with
  | nil => rfl
  | cons ptr rest ih =>
      have later := ih (s.submitRawBuffer ptr)
      rw [rawCapacity_submit] at later
      exact later

theorem rawResizes_eq (s : Stream) (frames : List (Option Bytes)) :
    s.rawResizes frames = Doubling.growths s.rawCapacity (frames.map requested) := by
  induction frames generalizing s with
  | nil => rfl
  | cons ptr rest ih =>
      rw [rawResizes, ih, rawCapacity_submit]
      rfl

/-- The longest frame bounds every request. -/
theorem requested_le {frames : List (Option Bytes)} {M : Nat}
    (bounded : ∀ data, some data ∈ frames → data.length ≤ M) :
    ∀ request ∈ frames.map requested, request ≤ M := by
  intro request member
  obtain ⟨ptr, submitted, rfl⟩ := List.mem_map.1 member
  cases ptr with
  | none => exact Nat.zero_le M
  | some data => exact bounded data submitted

/-- **Raw buffer growth.**  Over any frames of at most `M` bytes the size of the raw buffer never
decreases and never exceeds the larger of its first size and `2 * M`; and a number `k` of
reallocations needs a frame of about `2^(k-1)` times the first size. -/
theorem rawBuffer_growth (s : Stream) {frames : List (Option Bytes)} {M : Nat}
    (bounded : ∀ data, some data ∈ frames → data.length ≤ M) :
    (∀ earlier next later, frames = earlier ++ next ++ later →
        (s.storedRaw earlier).rawCapacity ≤ (s.storedRaw (earlier ++ next)).rawCapacity) ∧
      (∀ earlier later, frames = earlier ++ later →
        (s.storedRaw earlier).rawCapacity ≤ max s.rawCapacity (2 * M)) ∧
      (1 ≤ s.rawResizes frames → 2 ^ (s.rawResizes frames - 1) * (s.rawCapacity + 2) ≤ M + 1) ∧
      s.rawResizes frames ≤ Nat.log 2 ((M + 1) / (s.rawCapacity + 2)) + 1 := by
  have requests := requested_le bounded
  refine ⟨?_, ?_, ?_, ?_⟩
  · intro earlier next later split
    rw [rawCapacity_storedRaw, rawCapacity_storedRaw, List.map_append, Doubling.grown_append]
    exact Doubling.le_grown _
  · intro earlier later split
    rw [rawCapacity_storedRaw]
    apply Doubling.grown_le
    intro request member
    apply requests
    rw [split, List.map_append]
    exact List.mem_append_left _ member
  · rw [rawResizes_eq]
    exact Doubling.growths_le requests
  · rw [rawResizes_eq]
    exact Doubling.growths_le_log requests

/-- From an empty buffer the first and the last of these frames cause a reallocation. -/
theorem rawBuffer_growth_twice :
    (Stream.new 0 0).rawResizes [some [1], some [1, 2], none, some [1, 2, 3]] = 2 ∧
      2 ^ (2 - 1) * ((Stream.new 0 0).rawCapacity + 2) ≤ 3 + 1 := by
  have bounded : ∀ data : Bytes, some data ∈ [some [1], some [1, 2], none, some [1, 2, 3]] →
      data.length ≤ 3 := by
    intro data submitted
    simp only [List.mem_cons, Option.some.injEq, List.not_mem_nil, or_false, reduceCtorEq,
      false_or] at submitted
    rcases submitted with rfl | rfl | rfl <;> decide
  have twice : (Stream.new 0 0).rawResizes [some [1], some [1, 2], none, some [1, 2, 3]] = 2 := by
    decide
  have bound := ((Stream.new 0 0).rawBuffer_growth bounded).2.2.1
  rw [twice] at bound
  exact ⟨twice, bound (by decide)⟩

end Stream

end OpenpnpCapture.Common
