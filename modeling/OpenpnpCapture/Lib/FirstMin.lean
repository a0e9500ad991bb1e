/-
# Lib.FirstMin — the first of the smallest keys

A pass over a list keeps the best entry so far by its index and replaces it by a strictly
smaller key only, so that of several smallest keys the first one stays.  Entries without a key
are skipped.  `Best` is what holds after any part of the pass, `best_snoc` the step; `firstMin_iff` says what the
pass ends with without speaking of the pass.
-/
import Mathlib.Data.List.Induction
import Mathlib.Order.Lattice

namespace OpenpnpCapture.Lib

set_option autoImplicit false

variable {κ : Type*} [LinearOrder κ]

/-- Entry `i` has the key `k`; no entry has a smaller key, and none before it the same. -/
structure FirstMin (keys : List (Option κ)) (i : Nat) (k : κ) : Prop where
  here : keys[i]? = some (some k)
  least : ∀ j other, keys[j]? = some (some other) → k ≤ other ∧ (j < i → k < other)

/-- Another entry has a smaller key than `k` at `i`, or the same one earlier. -/
def Outdone (keys : List (Option κ)) (i : Nat) (k : κ) : Prop :=
  ∃ j other, keys[j]? = some (some other) ∧ (other < k ∨ other = k ∧ j < i)

/-- The best entry so far, given the next one. -/
def closer (best : Option (Nat × κ)) (i : Nat) : Option κ → Option (Nat × κ)
  | none => best
  | some k =>
      match best with
      | none => some (i, k)
      | some b => if k < b.2 then some (i, k) else some b

/-- `best` is the first smallest key, or none if no entry has a key. -/
def Best (keys : List (Option κ)) : Option (Nat × κ) → Prop
  | none => ∀ key ∈ keys, key = none
  | some b => FirstMin keys b.1 b.2

theorem best_nil : Best ([] : List (Option κ)) none :=
  fun _ member => absurd member List.not_mem_nil

omit [LinearOrder κ] in
/-- The keys of items some of which are missing: an entry is the key of an item that is there. -/
theorem getElem?_keyed {α : Type*} {items : List (Option α)} {key : α → Option κ} {j : Nat} {k : κ} :
    (items.map fun item => item.bind key)[j]? = some (some k) ↔
      ∃ a, items[j]? = some (some a) ∧ key a = some k := by
  rw [List.getElem?_map, Option.map_eq_some_iff]
  constructor
  · rintro ⟨found, here, some_k⟩
    obtain ⟨a, rfl, keyed⟩ := Option.bind_eq_some_iff.1 some_k
    exact ⟨a, here, keyed⟩
  · rintro ⟨a, here, keyed⟩
    exact ⟨some a, here, keyed⟩

section Snoc

variable {keys : List (Option κ)} {key : Option κ} {i j : Nat} {k other : κ}

omit [LinearOrder κ] in
theorem getElem?_snoc (found : (keys ++ [key])[j]? = some (some other)) :
    keys[j]? = some (some other) ∨ j = keys.length ∧ key = some other := by
  rcases Nat.lt_trichotomy j keys.length with before | rfl | after
  · rw [List.getElem?_append_left before] at found
    exact Or.inl found
  · rw [List.getElem?_concat_length] at found
    exact Or.inr ⟨rfl, Option.some.inj found⟩
  · have past : (keys ++ [key]).length ≤ j := by
      rw [List.length_append, List.length_singleton]
      exact after
    rw [List.getElem?_eq_none past] at found
    cases found

omit [LinearOrder κ] in
theorem lt_length (found : keys[j]? = some (some other)) : j < keys.length :=
  (List.getElem?_eq_some_iff.1 found).1

/-- A key that is not smaller leaves the best entry. -/
theorem FirstMin.kept (best : FirstMin keys i k) (notSmaller : ∀ k', key = some k' → k ≤ k') :
    FirstMin (keys ++ [key]) i k where
  here := by
    rw [List.getElem?_append_left (lt_length best.here)]
    exact best.here
  least := by
    intro j other found
    rcases getElem?_snoc found with before | ⟨rfl, last⟩
    · exact best.least j other before
    · exact ⟨notSmaller other last, fun after => absurd (lt_length best.here) (Nat.lt_asymm after)⟩

/-- A key smaller than all before it is the best entry. -/
theorem firstMin_last (smaller : ∀ (j : Nat) (other : κ), keys[j]? = some (some other) → k < other) :
    FirstMin (keys ++ [some k]) keys.length k where
  here := List.getElem?_concat_length
  least := by
    intro j other found
    rcases getElem?_snoc found with before | ⟨rfl, last⟩
    · exact ⟨le_of_lt (smaller j other before), fun _ => smaller j other before⟩
    · exact ⟨le_of_eq (Option.some.inj last), fun after => absurd after (Nat.lt_irrefl _)⟩

end Snoc

/-- One step of the pass. -/
theorem best_snoc {keys : List (Option κ)} {best : Option (Nat × κ)} (so : Best keys best)
    (key : Option κ) : Best (keys ++ [key]) (closer best keys.length key) := by
  cases key with
  | none =>
      cases best with
      | none =>
          intro key member
          rcases List.mem_append.1 member with before | last
          · exact so key before
          · exact List.mem_singleton.1 last
      | some b => exact FirstMin.kept so fun k' impossible => by cases impossible
  | some k =>
      cases best with
      | none =>
          refine firstMin_last fun j other found => ?_
          cases so _ (List.mem_of_getElem? found)
      | some b =>
          by_cases smaller : k < b.2
          · rw [closer, if_pos smaller]
            exact firstMin_last fun j other found => lt_of_lt_of_le smaller (so.least j other found).1
          · rw [closer, if_neg smaller]
            refine FirstMin.kept so fun k' same => ?_
            obtain rfl := Option.some.inj same
            exact not_lt.1 smaller

theorem firstMin_iff {keys : List (Option κ)} {i : Nat} {k : κ} :
    FirstMin keys i k ↔ keys[i]? = some (some k) ∧ ¬ Outdone keys i k := by
  constructor
  · intro first
    refine ⟨first.here, ?_⟩
    rintro ⟨j, other, found, smaller | ⟨rfl, earlier⟩⟩
    · exact not_lt_of_ge (first.least j other found).1 smaller
    · exact lt_irrefl _ ((first.least j other found).2 earlier)
  · rintro ⟨here, best⟩
    refine ⟨here, fun j other found => ?_⟩
    have notSmaller : k ≤ other := not_lt.1 fun smaller => best ⟨j, other, found, Or.inl smaller⟩
    refine ⟨notSmaller, fun earlier => lt_of_le_of_ne notSmaller fun same => ?_⟩
    exact best ⟨j, other, found, Or.inr ⟨same.symm, earlier⟩⟩

theorem FirstMin.unique {keys : List (Option κ)} {i j : Nat} {k k' : κ} (first : FirstMin keys i k)
    (second : FirstMin keys j k') : i = j ∧ k = k' := by
  have same : k = k' :=
    le_antisymm (first.least j k' second.here).1 (second.least i k first.here).1
  refine ⟨?_, same⟩
  rcases Nat.lt_trichotomy i j with before | equal | after
  · exact absurd ((second.least i k first.here).2 before) (by rw [same]; exact lt_irrefl _)
  · exact equal
  · exact absurd ((first.least j k' second.here).2 after) (by rw [same]; exact lt_irrefl _)

/-- What the pass ends with is the first smallest key. -/
theorem best_eq_some_iff {keys : List (Option κ)} {best : Option (Nat × κ)} (so : Best keys best)
    {i : Nat} {k : κ} : best = some (i, k) ↔ FirstMin keys i k := by
  constructor
  · rintro rfl
    exact so
  · intro first
    cases best with
    | none => cases so _ (List.mem_of_getElem? first.here)
    | some b =>
        obtain ⟨index, key⟩ := FirstMin.unique so first
        exact congrArg some (Prod.ext index key)

/-- The pass always ends with something to say. -/
theorem exists_best (keys : List (Option κ)) : ∃ best, Best keys best := by
  induction keys using List.reverseRecOn with
  | nil => exact ⟨none, best_nil⟩
  | append_singleton keys key ih =>
      obtain ⟨best, so⟩ := ih
      exact ⟨_, best_snoc so key⟩

theorem exists_firstMin {keys : List (Option κ)} {j : Nat} {other : κ}
    (entry : keys[j]? = some (some other)) : ∃ i k, FirstMin keys i k := by
  obtain ⟨best, so⟩ := exists_best keys
  cases best with
  | none => cases so _ (List.mem_of_getElem? entry)
  | some b => exact ⟨b.1, b.2, so⟩

/-- Two lists that differ in entries of one key `k` only: the longer one has the same first minimum
exactly if the shorter one outdoes each of the others. -/
theorem firstMin_without_iff {keys fewer : List (Option κ)} {extra : Nat → Prop} {k : κ}
    (mixed : ∀ j other, keys[j]? = some (some other) ↔
      fewer[j]? = some (some other) ∨ extra j ∧ other = k)
    (apart : ∀ j other, extra j → fewer[j]? ≠ some (some other)) :
    (∀ i, (∃ least, FirstMin keys i least) ↔ ∃ least, FirstMin fewer i least) ↔
      ∀ i, extra i → Outdone fewer i k := by
  constructor
  · intro same i isExtra
    obtain ⟨first, least, best⟩ := exists_firstMin ((mixed i k).2 (.inr ⟨isExtra, rfl⟩))
    obtain ⟨least', best'⟩ := (same first).1 ⟨least, best⟩
    obtain rfl : least = least' := by
      have here := best.here
      rw [(mixed first least').2 (.inl best'.here)] at here
      exact (Option.some.inj (Option.some.inj here)).symm
    obtain ⟨below, before⟩ := best.least i k ((mixed i k).2 (.inr ⟨isExtra, rfl⟩))
    refine ⟨first, least, best'.here, ?_⟩
    rcases lt_or_eq_of_le below with smaller | rfl
    · exact .inl smaller
    · refine .inr ⟨rfl, ?_⟩
      rcases Nat.lt_trichotomy i first with after | rfl | earlier
      · exact absurd (before after) (lt_irrefl _)
      · exact absurd best'.here (apart i least isExtra)
      · exact earlier
  · intro outdone i
    constructor
    · rintro ⟨least, best⟩
      rcases (mixed i least).1 best.here with here | ⟨isExtra, rfl⟩
      · exact ⟨least, here, fun j other found => best.least j other ((mixed j other).2 (.inl found))⟩
      · exact absurd (outdone i isExtra) fun ⟨j, other, found, nearer⟩ =>
          (firstMin_iff.1 best).2 ⟨j, other, (mixed j other).2 (.inl found), nearer⟩
    · rintro ⟨least, best⟩
      refine ⟨least, (mixed i least).2 (.inl best.here), fun j other found => ?_⟩
      rcases (mixed j other).1 found with inFewer | ⟨isExtra, rfl⟩
      · exact best.least j other inFewer
      · obtain ⟨j', nearer, found', smaller | ⟨rfl, earlier⟩⟩ := outdone j isExtra
        · have below := (best.least j' nearer found').1
          exact ⟨le_of_lt (lt_of_le_of_lt below smaller), fun _ => lt_of_le_of_lt below smaller⟩
        · obtain ⟨below, before⟩ := best.least j' nearer found'
          exact ⟨below, fun after => before (Nat.lt_trans earlier after)⟩

end OpenpnpCapture.Lib
