/-
# Lib.StdMap — `std::map` over finite maps

The three ways a `std::map` gains or loses a key, over Mathlib's `Finmap`:

* `insertNew` is `insert`, which keeps an existing entry;
* `subscript` is `operator[]`, which adds a default entry for a missing key and returns
  the entry;
* `erase` is Mathlib's.

`values_count` counts how often a value is stored when no two keys share it.
-/
import Mathlib.Data.Finmap

namespace OpenpnpCapture.Lib.StdMap

set_option autoImplicit false

variable {K V : Type*} [DecidableEq K]

abbrev Map (K V : Type*) := Finmap fun _ : K => V

/-- `map::insert`: an existing key keeps its entry. -/
def insertNew (m : Map K V) (k : K) (v : V) : Map K V :=
  if k ∈ m then m else m.insert k v

/-- The map after `m[k]` was evaluated. -/
def touch (m : Map K V) (k : K) (default_ : V) : Map K V :=
  insertNew m k default_

/-- `m[k]`: the entry, and the map after the lookup. -/
def subscript (m : Map K V) (k : K) (default_ : V) : V × Map K V :=
  ((m.lookup k).getD default_, touch m k default_)

theorem insertNew_of_mem {m : Map K V} {k : K} (present : k ∈ m) (v : V) : insertNew m k v = m :=
  if_pos present

theorem insertNew_of_notMem {m : Map K V} {k : K} (absent : k ∉ m) (v : V) :
    insertNew m k v = m.insert k v :=
  if_neg absent

@[simp] theorem mem_insertNew {m : Map K V} {k k' : K} {v : V} :
    k' ∈ insertNew m k v ↔ k' = k ∨ k' ∈ m := by
  by_cases present : k ∈ m
  · rw [insertNew_of_mem present]
    exact ⟨Or.inr, fun h => h.elim (fun same => same ▸ present) id⟩
  · rw [insertNew_of_notMem present, Finmap.mem_insert]

theorem lookup_insertNew_ne {m : Map K V} {k k' : K} (v : V) (differs : k' ≠ k) :
    (insertNew m k v).lookup k' = m.lookup k' := by
  by_cases present : k ∈ m
  · rw [insertNew_of_mem present]
  · rw [insertNew_of_notMem present, Finmap.lookup_insert_of_ne m differs]

theorem lookup_insertNew_self {m : Map K V} {k : K} (absent : k ∉ m) (v : V) :
    (insertNew m k v).lookup k = some v := by
  rw [insertNew_of_notMem absent, Finmap.lookup_insert]

/-- An entry that was there before an insertion is there after it. -/
theorem lookup_insertNew_of_some {m : Map K V} {k k' : K} {v w : V} (stored : m.lookup k' = some w) :
    (insertNew m k v).lookup k' = some w := by
  by_cases same : k' = k
  · subst same
    rw [insertNew_of_mem (Finmap.mem_of_lookup_eq_some stored), stored]
  · rw [lookup_insertNew_ne v same, stored]

/-- Every entry after an insertion was there before or is the inserted one. -/
theorem lookup_insertNew_cases {m : Map K V} {k k' : K} {v w : V}
    (stored : (insertNew m k v).lookup k' = some w) :
    m.lookup k' = some w ∨ (k' = k ∧ w = v ∧ k ∉ m) := by
  by_cases present : k ∈ m
  · rw [insertNew_of_mem present] at stored
    exact Or.inl stored
  · by_cases same : k' = k
    · subst same
      rw [lookup_insertNew_self present, Option.some.injEq] at stored
      exact Or.inr ⟨rfl, stored.symm, present⟩
    · rw [lookup_insertNew_ne v same] at stored
      exact Or.inl stored

theorem subscript_of_some {m : Map K V} {k : K} {v : V} (default_ : V) (stored : m.lookup k = some v) :
    subscript m k default_ = (v, m) := by
  simp only [subscript, touch, stored, Option.getD_some,
    insertNew_of_mem (Finmap.mem_of_lookup_eq_some stored)]

theorem subscript_of_none {m : Map K V} {k : K} (default_ : V) (absent : m.lookup k = none) :
    subscript m k default_ = (default_, m.insert k default_) := by
  simp only [subscript, touch, absent, Option.getD_none,
    insertNew_of_notMem (Finmap.lookup_eq_none.1 absent)]

/-- The entries after an erasure are the others. -/
theorem lookup_erase_some {m : Map K V} {k k' : K} {v : V} :
    (m.erase k).lookup k' = some v ↔ k' ≠ k ∧ m.lookup k' = some v := by
  by_cases same : k' = k
  · subst same
    simp
  · rw [Finmap.lookup_erase_ne same]
    exact ⟨fun stored => ⟨same, stored⟩, fun h => h.2⟩

/-! ## The values stored -/

section Values

variable {W : Type*}

/-- The values of all entries that `f` keeps. -/
def values (m : Map K V) (f : V → Option W) : Multiset W :=
  m.entries.filterMap fun entry => f entry.2

theorem mem_values {m : Map K V} {f : V → Option W} {w : W} :
    w ∈ values m f ↔ ∃ k v, m.lookup k = some v ∧ f v = some w := by
  induction m using Finmap.induction_on with
  | H a =>
      simp only [values, AList.toFinmap_entries, Finmap.lookup_toFinmap, Multiset.mem_filterMap,
        Multiset.mem_coe]
      constructor
      · rintro ⟨⟨k, v⟩, member, kept⟩
        exact ⟨k, v, AList.mem_lookup_iff.2 member, kept⟩
      · rintro ⟨k, v, stored, kept⟩
        exact ⟨⟨k, v⟩, AList.mem_lookup_iff.1 stored, kept⟩

variable [DecidableEq W]

theorem count_values_of_absent {m : Map K V} {f : V → Option W} {w : W}
    (absent : ∀ k v, m.lookup k = some v → f v ≠ some w) : (values m f).count w = 0 := by
  rw [Multiset.count_eq_zero, mem_values]
  rintro ⟨k, v, stored, kept⟩
  exact absent k v stored kept

theorem count_filterMap_le_one {E : Type*} {f : E → Option W} {w : W} {l : List E} (nodup : l.Nodup)
    (once : ∀ a ∈ l, ∀ b ∈ l, f a = some w → f b = some w → a = b) :
    (l.filterMap f).count w ≤ 1 := by
  induction l with
  | nil => simp
  | cons a l ih =>
      obtain ⟨fresh, rest⟩ := List.nodup_cons.1 nodup
      have tail := ih rest fun b hb c hc => once b (List.mem_cons_of_mem _ hb) c (List.mem_cons_of_mem _ hc)
      by_cases kept : f a = some w
      · have none_left : w ∉ l.filterMap f := by
          rw [List.mem_filterMap]
          rintro ⟨b, member, keptB⟩
          have same := once a List.mem_cons_self b (List.mem_cons_of_mem _ member) kept keptB
          exact fresh (same ▸ member)
        rw [List.filterMap_cons_some kept, List.count_cons_self, List.count_eq_zero.2 none_left]
      · cases image : f a with
        | none => rwa [List.filterMap_cons_none image]
        | some v =>
            have differs : v ≠ w := fun same => kept (same ▸ image)
            rwa [List.filterMap_cons_some image, List.count_cons_of_ne differs]

/-- A value stored under exactly one key occurs exactly once among the values. -/
theorem count_values_of_once {m : Map K V} {f : V → Option W} {k : K} {v : V} {w : W}
    (stored : m.lookup k = some v) (kept : f v = some w)
    (once : ∀ k' v', m.lookup k' = some v' → f v' = some w → k' = k) :
    (values m f).count w = 1 := by
  refine Nat.le_antisymm ?_ (Multiset.one_le_count_iff_mem.2 (mem_values.2 ⟨k, v, stored, kept⟩))
  induction m using Finmap.induction_on with
  | H a =>
      simp only [Finmap.lookup_toFinmap] at once
      have bound : (a.entries.filterMap fun entry => f entry.2).count w ≤ 1 := by
        refine count_filterMap_le_one a.nodupKeys.nodup ?_
        rintro ⟨k₁, v₁⟩ member₁ ⟨k₂, v₂⟩ member₂ kept₁ kept₂
        have stored₁ : a.lookup k₁ = some v₁ := AList.mem_lookup_iff.2 member₁
        have stored₂ : a.lookup k₂ = some v₂ := AList.mem_lookup_iff.2 member₂
        obtain rfl := once k₁ v₁ stored₁ kept₁
        obtain rfl := once k₂ v₂ stored₂ kept₂
        rw [stored₁, Option.some.injEq] at stored₂
        rw [stored₂]
      simpa only [values, AList.toFinmap_entries, Multiset.filterMap_coe, Multiset.coe_count] using bound

end Values

end OpenpnpCapture.Lib.StdMap
