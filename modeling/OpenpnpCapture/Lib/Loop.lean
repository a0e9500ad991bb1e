/-
# Lib.Loop — a loop that may never end

One turn of a loop emits events and either goes on in a next state or is done with a result.
`run` follows the loop for a number of turns; `Returns` and `Emits` are what it does for some number.

A loop is understood once the states of its turns are known as a sequence, and which turn goes
on: a `Path`.  It then returns from the first turn that does not go on, so it halts exactly if there
is one (`Path.halts_iff`), and emits what the turns up to there emit (`Path.emits_iff`).
-/
import Mathlib.Data.Nat.Find

namespace OpenpnpCapture.Lib.Loop

set_option autoImplicit false

variable {σ ω ρ : Type}

/-- How a turn ends. -/
inductive Next (σ ρ : Type)
  | again (s : σ)
  | done (result : ρ)

structure Turn (σ ω ρ : Type) where
  emitted : List ω
  next : Next σ ρ

/-- What the first `fuel` turns emit, and the result if the loop is done by then. -/
def run (turn : σ → Turn σ ω ρ) : (fuel : Nat) → σ → List ω × Option ρ
  | 0, _ => ([], none)
  | fuel + 1, s =>
      match (turn s).next with
      | .done result => ((turn s).emitted, some result)
      | .again t =>
          let later := run turn fuel t
          ((turn s).emitted ++ later.1, later.2)

def Returns (turn : σ → Turn σ ω ρ) (s : σ) (result : ρ) : Prop :=
  ∃ fuel, (run turn fuel s).2 = some result

def Halts (turn : σ → Turn σ ω ρ) (s : σ) : Prop :=
  ∃ result, Returns turn s result

def Emits (turn : σ → Turn σ ω ρ) (s : σ) (event : ω) : Prop :=
  ∃ fuel, event ∈ (run turn fuel s).1

section Rules

variable {turn : σ → Turn σ ω ρ}

theorem run_done {s : σ} {result : ρ} (done : (turn s).next = .done result) (fuel : Nat) :
    run turn (fuel + 1) s = ((turn s).emitted, some result) := by
  simp only [run, done]

theorem run_again {s t : σ} (again : (turn s).next = .again t) (fuel : Nat) :
    run turn (fuel + 1) s = ((turn s).emitted ++ (run turn fuel t).1, (run turn fuel t).2) := by
  simp only [run, again]

/-- The states of the turns, one after the other, and the turns that go on. -/
structure Path (turn : σ → Turn σ ω ρ) (path : Nat → σ) (goesOn : Nat → Prop) : Prop where
  again : ∀ n, goesOn n → (turn (path n)).next = .again (path (n + 1))
  done : ∀ n, ¬ goesOn n → ∃ result, (turn (path n)).next = .done result

namespace Path

variable {path : Nat → σ} {goesOn : Nat → Prop}

theorem tail (along : Path turn path goesOn) :
    Path turn (fun n => path (n + 1)) fun n => goesOn (n + 1) where
  again n := along.again (n + 1)
  done n := along.done (n + 1)

theorem returns_iff (along : Path turn path goesOn) (result : ρ) :
    Returns turn (path 0) result ↔
      ∃ n, (∀ m < n, goesOn m) ∧ (turn (path n)).next = .done result := by
  constructor
  · rintro ⟨fuel, returned⟩
    induction fuel generalizing path goesOn with
    | zero => cases returned
    | succ fuel ih =>
        by_cases on : goesOn 0
        · rw [run_again (along.again 0 on)] at returned
          obtain ⟨n, before, done⟩ := ih along.tail returned
          exact ⟨n + 1, Nat.forall_lt_succ_left.2 ⟨on, before⟩, done⟩
        · obtain ⟨other, done⟩ := along.done 0 on
          rw [run_done done] at returned
          obtain rfl := Option.some.inj returned
          exact ⟨0, by omega, done⟩
  · rintro ⟨n, before, done⟩
    induction n generalizing path goesOn with
    | zero => exact ⟨1, by rw [run_done done]⟩
    | succ n ih =>
        obtain ⟨on, later⟩ := Nat.forall_lt_succ_left.1 before
        obtain ⟨fuel, returned⟩ := ih along.tail later done
        refine ⟨fuel + 1, ?_⟩
        rw [run_again (along.again 0 on)]
        exact returned

/-- The loop halts exactly if some turn does not go on. -/
theorem halts_iff (along : Path turn path goesOn) :
    Halts turn (path 0) ↔ ∃ n, ¬ goesOn n := by
  classical
  constructor
  · rintro ⟨result, returned⟩
    obtain ⟨n, -, done⟩ := (along.returns_iff result).1 returned
    refine ⟨n, fun on => ?_⟩
    rw [along.again n on] at done
    cases done
  · intro some_last
    obtain ⟨result, done⟩ := along.done (Nat.find some_last) (Nat.find_spec some_last)
    refine ⟨result, (along.returns_iff result).2 ⟨Nat.find some_last, fun m earlier => ?_, done⟩⟩
    exact not_not.1 (Nat.find_min some_last earlier)

/-- The loop emits what the turns up to its last emit. -/
theorem emits_iff (along : Path turn path goesOn) (event : ω) :
    Emits turn (path 0) event ↔
      ∃ n, (∀ m < n, goesOn m) ∧ event ∈ (turn (path n)).emitted := by
  constructor
  · rintro ⟨fuel, emitted⟩
    induction fuel generalizing path goesOn with
    | zero => cases emitted
    | succ fuel ih =>
        by_cases on : goesOn 0
        · rw [run_again (along.again 0 on)] at emitted
          rcases List.mem_append.1 emitted with now | later
          · exact ⟨0, by omega, now⟩
          · obtain ⟨n, before, member⟩ := ih along.tail later
            exact ⟨n + 1, Nat.forall_lt_succ_left.2 ⟨on, before⟩, member⟩
        · obtain ⟨result, done⟩ := along.done 0 on
          rw [run_done done] at emitted
          exact ⟨0, by omega, emitted⟩
  · rintro ⟨n, before, member⟩
    induction n generalizing path goesOn with
    | zero =>
        by_cases on : goesOn 0
        · refine ⟨1, ?_⟩
          rw [run_again (along.again 0 on)]
          exact List.mem_append_left _ member
        · obtain ⟨result, done⟩ := along.done 0 on
          refine ⟨1, ?_⟩
          rw [run_done done]
          exact member
    | succ n ih =>
        obtain ⟨on, later⟩ := Nat.forall_lt_succ_left.1 before
        obtain ⟨fuel, emitted⟩ := ih along.tail later member
        refine ⟨fuel + 1, ?_⟩
        rw [run_again (along.again 0 on)]
        exact List.mem_append_right _ emitted

end Path

end Rules

end OpenpnpCapture.Lib.Loop
