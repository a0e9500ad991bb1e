/-
# Win.NearestRate — is the selected capability the nearest one?

`open` and `setFrameRate` select by `abs((int)formatFps - (int)fps)` among the matches whose frame
time is not 0, and then write `10000000 / fps`.  A frame time is signed: a negative one counts as
the rate 0 and competes.  A rate above 10000000 makes the written frame time 0, and one from
`2^31` on turns negative as an `int`.

`nearestRate_iff` is the exact condition under which the pass ends with the first of the nearest
matches with a positive frame time, no `int` overflows, and the written frame time is at least 1.
-/
import OpenpnpCapture.Win.RateSearches
import OpenpnpCapture.Win.WrittenInterval

namespace OpenpnpCapture.Win

open OpenpnpCapture.Lib

set_option autoImplicit false

/-- The header of a capability of the requested size and code. -/
def matched (want : Request) (cap : StreamCaps) : Option VideoInfoHeader :=
  (Search.examined cap.pmtConfig).filter (Search.sizeAndCodeMatch want)

/-- `|10000000 / AvgTimePerFrame - fps|`, as integers, of a match with a positive frame time. -/
def exactDistance (want : Request) (cap : StreamCaps) : Option Int :=
  match matched want cap with
  | none => none
  | some pVih =>
      if 0 < pVih.AvgTimePerFrame then
        some (((10000000 / pVih.AvgTimePerFrame.toNat : Nat) : Int) - want.fps.toNat).natAbs
      else none

def exactDistances (want : Request) (caps : List (Option StreamCaps)) : List (Option Int) :=
  caps.map fun cap => cap.bind (exactDistance want)

/-- `(int)formatFps - (int)fps` and its `abs` are values of an `int`. -/
def FitsInt (pVih : VideoInfoHeader) (fps : UInt32) : Prop :=
  let difference := int32 (formatFps pVih).toNat - int32 fps.toNat
  difference < 2 ^ 31 ∧ -2 ^ 31 ≤ difference ∧ (difference.natAbs : Int) < 2 ^ 31

/-- What a search should do for a rate. -/
structure NearestRate (caps : List (Option StreamCaps)) (want : Request) (picked : Option Nat) :
    Prop where
  nearest : ∀ i, picked = some i ↔ ∃ k, FirstMin (exactDistances want caps) i k
  selects : (∃ (j : Nat) (k : Int), (exactDistances want caps)[j]? = some (some k)) → picked ≠ none
  fitsInt : ∀ cap pVih, some cap ∈ caps → matched want cap = some pVih →
    pVih.AvgTimePerFrame ≠ 0 → FitsInt pVih want.fps
  written : ∀ i, picked = some i → ∀ pVih, 1 ≤ (writeRate want.fps pVih).AvgTimePerFrame

/-- Capability `j` matches with a positive, respectively a negative frame time. -/
def Positive (want : Request) (caps : List (Option StreamCaps)) (j : Nat) : Prop :=
  ∃ cap pVih, caps[j]? = some (some cap) ∧ matched want cap = some pVih ∧ 0 < pVih.AvgTimePerFrame

def Negative (want : Request) (caps : List (Option StreamCaps)) (j : Nat) : Prop :=
  ∃ cap pVih, caps[j]? = some (some cap) ∧ matched want cap = some pVih ∧ pVih.AvgTimePerFrame < 0

/-- The rate can be written, and each match with a negative frame time, which counts as the rate 0,
is outdone by one with a positive frame time.  (At distance `INT_MAX` nothing is selected.) -/
structure RateFits (caps : List (Option StreamCaps)) (want : Request) : Prop where
  writable : ∀ j, Positive want caps j → want.fps.toNat ≤ 10000000
  outdone : ∀ i, Negative want caps i →
    want.fps.toNat = 2 ^ 31 - 1 ∨ want.fps.toNat = 2 ^ 31 + 1 ∨
      Outdone (exactDistances want caps) i (want.fps.toNat : Int)

section Distances

variable {want : Request} {cap : StreamCaps} {pVih : VideoInfoHeader}

theorem formatFps_positive (positive : 0 < pVih.AvgTimePerFrame) :
    (formatFps pVih).toNat = 10000000 / pVih.AvgTimePerFrame.toNat := by
  have small : 10000000 / pVih.AvgTimePerFrame.toNat ≤ 10000000 := Nat.div_le_self _ _
  rw [formatFps, if_pos positive]
  exact uint32_ofNat (by omega)

theorem formatFps_negative (negative : pVih.AvgTimePerFrame < 0) : formatFps pVih = 0 :=
  if_neg (by omega)

/-- While the rate is below `2^31`, the difference is computed exactly. -/
theorem fitsInt_of_small (small : want.fps.toNat < 2 ^ 31) : FitsInt pVih want.fps := by
  have rate := formatFps_le pVih
  unfold FitsInt
  rw [int32_of_bounds (n := (formatFps pVih).toNat) (by omega) (by omega),
    int32_of_bounds (n := want.fps.toNat) (by omega) (by omega)]
  omega

theorem distance_eq {f fps : UInt32} (low : f.toNat ≤ 10000000) (small : fps.toNat < 2 ^ 31) :
    distance f fps = ((f.toNat : Int) - fps.toNat).natAbs := by
  unfold distance
  rw [int32_of_bounds (n := f.toNat) (by omega) (by omega),
    int32_of_bounds (n := fps.toNat) (by omega) (by omega),
    int32_of_bounds (n := (f.toNat : Int) - fps.toNat) (by omega) (by omega),
    int32_of_bounds (by omega) (by omega)]

/-- A rate that turns negative as an `int`. -/
theorem int32_large {fps : UInt32} (large : 2 ^ 31 ≤ fps.toNat) :
    int32 fps.toNat = (fps.toNat : Int) - 2 ^ 32 := by
  have bound := fps.toNat_lt
  have wrapped : int32 ((fps.toNat : Int) - 2 ^ 32) = int32 fps.toNat := Int.sub_bmod_right ..
  rw [← wrapped]
  exact int32_of_bounds (by omega) (by omega)

theorem int32_zero_rate : int32 (UInt32.toNat 0 : Nat) = 0 :=
  int32_of_bounds (by decide) (by decide)

/-- The distance of the rate 0 to it. -/
theorem distance_zero_large {fps : UInt32} (large : 2 ^ 31 < fps.toNat) :
    distance 0 fps = 2 ^ 32 - fps.toNat := by
  have bound := fps.toNat_lt
  have negative := int32_large (Nat.le_of_lt large)
  unfold distance
  rw [int32_zero_rate, negative, int32_of_bounds (n := 0 - ((fps.toNat : Int) - 2 ^ 32)) (by omega) (by omega),
    int32_of_bounds (by omega) (by omega)]
  omega

/-- The rate 0 is nearer than `INT_MAX` to every rate but two, as far as the difference exists. -/
theorem distance_zero_lt_iff {fps : UInt32} (exists_ : fps.toNat ≠ 2 ^ 31) :
    distance 0 fps < INT_MAX ↔ ¬ (fps.toNat = 2 ^ 31 - 1 ∨ fps.toNat = 2 ^ 31 + 1) := by
  have zero : UInt32.toNat 0 = 0 := rfl
  rw [INT_MAX]
  rcases Nat.lt_or_gt_of_ne exists_ with less | more
  · rw [distance_eq (by decide) less]
    omega
  · rw [distance_zero_large more]
    omega

/-- The difference to the rate 0 overflows at one rate only. -/
theorem fitsInt_negative_iff (negative : pVih.AvgTimePerFrame < 0) :
    FitsInt pVih want.fps ↔ want.fps.toNat ≠ 2 ^ 31 := by
  have bound := want.fps.toNat_lt
  rw [FitsInt, formatFps_negative negative, int32_zero_rate]
  rcases Nat.lt_or_ge want.fps.toNat (2 ^ 31) with less | more
  · rw [int32_of_bounds (n := want.fps.toNat) (by omega) (by omega)]
    omega
  · rw [int32_large more]
    omega

/-- A capability competes with the distance the code computes, if that is below `INT_MAX`. -/
theorem competes_matched (here : matched want cap = some pVih) :
    competes want cap =
      if pVih.AvgTimePerFrame ≠ 0 ∧ distance (formatFps pVih) want.fps < INT_MAX then
        some (distance (formatFps pVih) want.fps)
      else none := by
  obtain ⟨checked, fits⟩ := Option.filter_eq_some_iff.1 here
  unfold competes
  rw [checked]
  simp only [fits, true_and]

theorem competes_negative (here : matched want cap = some pVih) (negative : pVih.AvgTimePerFrame < 0) :
    competes want cap =
      if distance 0 want.fps < INT_MAX then some (distance 0 want.fps) else none := by
  rw [competes_matched here, formatFps_negative negative]
  exact if_congr (and_iff_right (by omega)) rfl rfl

/-- Up to 10000000 frames in a second every match with a frame time competes, at the distance of its
rate. -/
theorem competes_small (small : want.fps.toNat ≤ 10000000) (here : matched want cap = some pVih)
    (timed : pVih.AvgTimePerFrame ≠ 0) :
    competes want cap = some ((((formatFps pVih).toNat : Int) - want.fps.toNat).natAbs : Int) := by
  have low := formatFps_le pVih
  have near : distance (formatFps pVih) want.fps < INT_MAX := by
    rw [distance_eq low (by omega), INT_MAX]
    omega
  rw [competes_matched here, if_pos ⟨timed, near⟩, distance_eq low (by omega)]

theorem competes_unmatched (nowhere : matched want cap = none) : competes want cap = none := by
  unfold competes
  cases checked : Search.examined cap.pmtConfig with
  | none => rfl
  | some pVih =>
      have misfit : ¬ Search.sizeAndCodeMatch want pVih = true := by
        intro fits
        rw [matched, checked, Option.filter_some_pos fits] at nowhere
        cases nowhere
      exact if_neg fun holds => misfit holds.1

end Distances

/-! ## Where the lists of distances have entries -/

section Entries

variable {want : Request} {caps : List (Option StreamCaps)}

theorem sameCap {j : Nat} {cap cap' : StreamCaps} (here : caps[j]? = some (some cap))
    (here' : caps[j]? = some (some cap')) : cap = cap' :=
  Option.some.inj (Option.some.inj (here.symm.trans here'))

/-- Each has an entry where a capability could be read and has a key. -/
theorem getElem?_exactDistances {j : Nat} {k : Int} :
    (exactDistances want caps)[j]? = some (some k) ↔
      ∃ cap, caps[j]? = some (some cap) ∧ exactDistance want cap = some k :=
  getElem?_keyed

theorem getElem?_competes {j : Nat} {k : Int} :
    (distances want caps)[j]? = some (some k) ↔
      ∃ cap, caps[j]? = some (some cap) ∧ competes want cap = some k :=
  getElem?_keyed

/-- An exact distance is that of a match with a positive frame time. -/
theorem exactDistance_eq_some_iff {cap : StreamCaps} {k : Int} :
    exactDistance want cap = some k ↔
      ∃ pVih, matched want cap = some pVih ∧ 0 < pVih.AvgTimePerFrame ∧
        (((10000000 / pVih.AvgTimePerFrame.toNat : Nat) : Int) - want.fps.toNat).natAbs = k := by
  unfold exactDistance
  cases matched want cap with
  | none => simp
  | some pVih => simp

theorem positive_iff {j : Nat} :
    Positive want caps j ↔ ∃ k, (exactDistances want caps)[j]? = some (some k) := by
  simp only [Positive, getElem?_exactDistances, exactDistance_eq_some_iff]
  constructor
  · rintro ⟨cap, pVih, here, fits, positive⟩
    exact ⟨_, cap, here, pVih, fits, positive, rfl⟩
  · rintro ⟨k, cap, here, pVih, fits, positive, -⟩
    exact ⟨cap, pVih, here, fits, positive⟩

theorem not_positive_of_negative {j : Nat} (negative : Negative want caps j) (k : Int) :
    (exactDistances want caps)[j]? ≠ some (some k) := by
  intro entry
  obtain ⟨cap, pVih, here, fits, below⟩ := negative
  obtain ⟨cap', pVih', here', fits', above⟩ := positive_iff.2 ⟨k, entry⟩
  obtain rfl := sameCap here here'
  rw [fits] at fits'
  obtain rfl := Option.some.inj fits'
  omega

/-- What competes has a positive or a negative frame time. -/
theorem positive_or_negative {j : Nat} {k : Int}
    (entry : (distances want caps)[j]? = some (some k)) :
    Positive want caps j ∨ Negative want caps j := by
  obtain ⟨cap, here, competing⟩ := getElem?_competes.1 entry
  cases fits : matched want cap with
  | none =>
      rw [competes_unmatched fits] at competing
      cases competing
  | some pVih =>
      rw [competes_matched fits] at competing
      split at competing
      · rename_i timed
        rcases Int.lt_or_gt_of_ne timed.1 with below | above
        · exact .inr ⟨cap, pVih, here, fits, below⟩
        · exact .inl ⟨cap, pVih, here, fits, above⟩
      · cases competing

/-- Up to 10000000 frames in a second the code competes by the exact distances, and by `fps` for a
negative frame time. -/
theorem mixed_distances (small : want.fps.toNat ≤ 10000000) (j : Nat) (k : Int) :
    (distances want caps)[j]? = some (some k) ↔
      (exactDistances want caps)[j]? = some (some k) ∨ Negative want caps j ∧ k = want.fps.toNat := by
  constructor
  · intro entry
    obtain ⟨cap, here, competing⟩ := getElem?_competes.1 entry
    rcases positive_or_negative entry with ⟨cap', pVih, here', fits, above⟩ | negative
    · obtain rfl := sameCap here here'
      rw [competes_small small fits (by omega)] at competing
      refine .inl (getElem?_exactDistances.2 ⟨cap, here, exactDistance_eq_some_iff.2 ⟨pVih, fits, above, ?_⟩⟩)
      rw [← formatFps_positive above]
      exact Option.some.inj competing
    · have isNegative := negative
      obtain ⟨cap', pVih, here', fits, below⟩ := negative
      obtain rfl := sameCap here here'
      rw [competes_small small fits (by omega), formatFps_negative below] at competing
      have value := Option.some.inj competing
      have zero : UInt32.toNat 0 = 0 := rfl
      rw [zero] at value
      exact .inr ⟨isNegative, by omega⟩
  · rintro (entry | ⟨⟨cap, pVih, here, fits, below⟩, rfl⟩)
    · obtain ⟨cap, here, exact_⟩ := getElem?_exactDistances.1 entry
      obtain ⟨pVih, fits, above, rfl⟩ := exactDistance_eq_some_iff.1 exact_
      refine getElem?_competes.2 ⟨cap, here, ?_⟩
      rw [competes_small small fits (by omega), formatFps_positive above]
    · refine getElem?_competes.2 ⟨cap, here, ?_⟩
      have zero : UInt32.toNat 0 = 0 := rfl
      rw [competes_small small fits (by omega), formatFps_negative below, zero]
      congr 1
      omega

end Entries

/-! ## When the search is right -/

section Searches

variable {want : Request} {caps : List (Option StreamCaps)}

theorem searchBeforeRender_picked (rated : want.fps ≠ 0) (caps : List (Option StreamCaps)) :
    (searchBeforeRender caps want).picked = (formatSearch caps want).selectedConfig := by
  have sound := (loop_mirrors rated 0 caps (Mirrors.start want)).sound
  have set_ : (formatSearch caps want).formatSet = (formatSearch caps want).selectedConfig.isSome :=
    sound.formatSet
  rw [searchBeforeRender, Search.finish, set_]
  cases (formatSearch caps want).selectedConfig <;> rfl

theorem written_iff (rated : want.fps ≠ 0) (pVih : VideoInfoHeader) :
    1 ≤ (writeRate want.fps pVih).AvgTimePerFrame ↔ want.fps.toNat ≤ 10000000 := by
  have positive : 0 < want.fps := UInt32.pos_iff_ne_zero.2 rated
  have nonzero : 0 < want.fps.toNat := positive
  have quotient := Nat.le_div_iff_mul_le nonzero (x := 1) (y := 10000000)
  rw [writeRate, if_pos positive]
  show (1 : Int) ≤ (10000000 / want.fps.toNat : Nat) ↔ _
  omega

/-- Up to 10000000 frames in a second only negative frame times can go wrong. -/
theorem nearestRate_small (rated : want.fps ≠ 0) (small : want.fps.toNat ≤ 10000000) :
    NearestRate caps want (formatSearch caps want).selectedConfig ↔
      ∀ i, Negative want caps i → Outdone (exactDistances want caps) i (want.fps.toNat : Int) := by
  rw [← firstMin_without_iff (mixed_distances small)
    fun j k negative => not_positive_of_negative negative k]
  have selected := formatSearch_selected_iff rated caps
  constructor
  · intro right i
    rw [← selected, right.nearest]
  · intro same
    have nearest (i : Nat) : (formatSearch caps want).selectedConfig = some i ↔
        ∃ k, FirstMin (exactDistances want caps) i k := (selected i).trans (same i)
    refine ⟨nearest, ?_, fun _ pVih _ _ _ => fitsInt_of_small (by omega),
      fun _ _ pVih => (written_iff rated pVih).2 small⟩
    rintro ⟨j, k, entry⟩ nothing
    obtain ⟨i, first⟩ := exists_firstMin entry
    rw [(nearest i).2 first] at nothing
    cases nothing

/-- Nothing is selected exactly if nothing competes. -/
theorem selectedConfig_eq_none_iff (rated : want.fps ≠ 0) :
    (formatSearch caps want).selectedConfig = none ↔
      ∀ (j : Nat) (k : Int), (distances want caps)[j]? ≠ some (some k) := by
  have selected := formatSearch_selected_iff rated caps
  constructor
  · intro nothing j k entry
    obtain ⟨i, first⟩ := exists_firstMin entry
    rw [(selected i).2 first] at nothing
    cases nothing
  · intro noEntry
    cases picked : (formatSearch caps want).selectedConfig with
    | none => rfl
    | some i =>
        obtain ⟨k, first⟩ := (selected i).1 picked
        exact absurd first.here (noEntry i k)

/-- Without a match with a positive frame time, nothing competes exactly if the rate 0 is too far
away for each match with a negative one. -/
theorem distances_empty_iff (noPositive : ∀ j, ¬ Positive want caps j)
    (exists_ : ∀ i, Negative want caps i → want.fps.toNat ≠ 2 ^ 31) :
    (∀ (j : Nat) (k : Int), (distances want caps)[j]? ≠ some (some k)) ↔
      ∀ i, Negative want caps i → want.fps.toNat = 2 ^ 31 - 1 ∨ want.fps.toNat = 2 ^ 31 + 1 := by
  constructor
  · intro noEntry i negative
    by_contra near
    have nearer := (distance_zero_lt_iff (exists_ i negative)).2 near
    obtain ⟨cap, pVih, here, fits, below⟩ := negative
    refine noEntry i (distance 0 want.fps) (getElem?_competes.2 ⟨cap, here, ?_⟩)
    rw [competes_negative fits below, if_pos nearer]
  · intro edges j k entry
    have negative := (positive_or_negative entry).resolve_left (noPositive j)
    have far : ¬ distance 0 want.fps < INT_MAX := by
      rw [distance_zero_lt_iff (exists_ j negative), not_not]
      exact edges j negative
    obtain ⟨cap, pVih, here, fits, below⟩ := negative
    obtain ⟨cap', here', competing⟩ := getElem?_competes.1 entry
    obtain rfl := sameCap here here'
    rw [competes_negative fits below, if_neg far] at competing
    cases competing

/-- Above, anything selected is wrong. -/
theorem nearestRate_large (rated : want.fps ≠ 0) (large : 10000000 < want.fps.toNat) :
    NearestRate caps want (formatSearch caps want).selectedConfig ↔
      (∀ j, ¬ Positive want caps j) ∧
        ∀ i, Negative want caps i →
          want.fps.toNat = 2 ^ 31 - 1 ∨ want.fps.toNat = 2 ^ 31 + 1 := by
  constructor
  · intro right
    have nothing : (formatSearch caps want).selectedConfig = none := by
      cases picked : (formatSearch caps want).selectedConfig with
      | none => rfl
      | some i =>
          have bound := (written_iff rated ⟨0, 0, 0, 0, 0⟩).1 (right.written i picked _)
          omega
    have noPositive (j : Nat) : ¬ Positive want caps j := by
      intro positive
      obtain ⟨k, entry⟩ := positive_iff.1 positive
      exact right.selects ⟨j, k, entry⟩ nothing
    have exists_ (i : Nat) (negative : Negative want caps i) : want.fps.toNat ≠ 2 ^ 31 := by
      obtain ⟨cap, pVih, here, fits, below⟩ := negative
      apply (fitsInt_negative_iff below).1
      exact right.fitsInt cap pVih (List.mem_of_getElem? here) fits (by omega)
    exact ⟨noPositive,
      (distances_empty_iff noPositive exists_).1 ((selectedConfig_eq_none_iff rated).1 nothing)⟩
  · rintro ⟨noPositive, edges⟩
    have noExact (j : Nat) (k : Int) : (exactDistances want caps)[j]? ≠ some (some k) :=
      fun entry => noPositive j (positive_iff.2 ⟨k, entry⟩)
    have exists_ (i : Nat) (negative : Negative want caps i) : want.fps.toNat ≠ 2 ^ 31 := by
      rcases edges i negative with max | min <;> omega
    have nothing : (formatSearch caps want).selectedConfig = none :=
      (selectedConfig_eq_none_iff rated).2 ((distances_empty_iff noPositive exists_).2 edges)
    rw [nothing]
    refine ⟨fun i => ⟨fun found => ?_, ?_⟩, ?_, ?_, fun i found => ?_⟩
    · cases found
    · rintro ⟨k, first⟩
      exact absurd first.here (noExact i k)
    · rintro ⟨j, k, entry⟩
      exact absurd entry (noExact j k)
    · intro cap pVih member fits timed
      obtain ⟨i, here⟩ := List.getElem?_of_mem member
      rcases Int.lt_or_gt_of_ne timed with below | above
      · exact (fitsInt_negative_iff below).2 (exists_ i ⟨cap, pVih, here, fits, below⟩)
      · exact absurd ⟨cap, pVih, here, fits, above⟩ (noPositive i)
    · cases found

theorem formatSearch_nearest_iff (rated : want.fps ≠ 0) :
    NearestRate caps want (formatSearch caps want).selectedConfig ↔ RateFits caps want := by
  rcases Nat.lt_or_ge 10000000 want.fps.toNat with large | small
  · rw [nearestRate_large rated large]
    constructor
    · rintro ⟨noPositive, edges⟩
      exact ⟨fun j positive => absurd positive (noPositive j),
        fun i negative => (edges i negative).imp_right .inl⟩
    · intro fits
      have noPositive (j : Nat) : ¬ Positive want caps j :=
        fun positive => absurd (fits.writable j positive) (Nat.not_le.2 large)
      refine ⟨noPositive, fun i negative => ?_⟩
      rcases fits.outdone i negative with max | min | ⟨j, k, entry, -⟩
      · exact .inl max
      · exact .inr min
      · exact absurd (positive_iff.2 ⟨k, entry⟩) (noPositive j)
  · rw [nearestRate_small rated small]
    constructor
    · exact fun outdone => ⟨fun _ _ => small, fun i negative => .inr (.inr (outdone i negative))⟩
    · intro fits i negative
      rcases fits.outdone i negative with max | min | outdone
      · omega
      · omega
      · exact outdone

end Searches

/-- **When the nearest rate is selected.**  For every list and every rate above 0, in `open` and in
`setFrameRate`. -/
theorem nearestRate_iff (caps : List (Option StreamCaps)) {want : Request} (rated : 0 < want.fps) :
    (NearestRate caps want (searchBeforeRender caps want).picked ↔ RateFits caps want) ∧
      (NearestRate caps want (searchSetFrameRate caps want).picked ↔ RateFits caps want) := by
  have nonzero := UInt32.pos_iff_ne_zero.1 rated
  rw [searchSetFrameRate_eq caps nonzero, searchBeforeRender_picked nonzero]
  exact ⟨formatSearch_nearest_iff nonzero, formatSearch_nearest_iff nonzero⟩

/-- Of 15 and 30 frames in a second the second is the nearer to 25. -/
theorem nearestRate_between :
    NearestRate [some (mjpgCaps 666666 0 0), some (mjpgCaps 333333 0 0)] ⟨640, 480, 0x47504A4D, 25⟩
      (searchSetFrameRate [some (mjpgCaps 666666 0 0), some (mjpgCaps 333333 0 0)]
        ⟨640, 480, 0x47504A4D, 25⟩).picked := by
  refine (nearestRate_iff _ (by decide)).2.2 ⟨fun _ _ => by decide, ?_⟩
  rintro i ⟨cap, pVih, here, fits, below⟩
  have member := List.mem_of_getElem? here
  simp only [List.mem_cons, Option.some.injEq, List.not_mem_nil, or_false] at member
  rcases member with rfl | rfl
  · obtain rfl := Option.some.inj fits
    exact absurd below (by decide)
  · obtain rfl := Option.some.inj fits
    exact absurd below (by decide)

/-- For 20000000 frames in a second the frame time written is 0. -/
theorem nearestRate_unwritable :
    (searchBeforeRender [some (mjpgCaps 333333 0 0)] ⟨640, 480, 0x47504A4D, 20000000⟩).picked = some 0 ∧
      (writeRate 20000000 ⟨333333, 640, 480, 24, 0x47504A4D⟩).AvgTimePerFrame = 0 ∧
      ¬ NearestRate [some (mjpgCaps 333333 0 0)] ⟨640, 480, 0x47504A4D, 20000000⟩
        (searchBeforeRender [some (mjpgCaps 333333 0 0)] ⟨640, 480, 0x47504A4D, 20000000⟩).picked := by
  have picked : (searchBeforeRender [some (mjpgCaps 333333 0 0)]
      ⟨640, 480, 0x47504A4D, 20000000⟩).picked = some 0 := by decide
  have written : (writeRate 20000000 ⟨333333, 640, 480, 24, 0x47504A4D⟩).AvgTimePerFrame = 0 := by
    decide
  refine ⟨picked, written, fun right => ?_⟩
  have bound := right.written 0 picked ⟨333333, 640, 480, 24, 0x47504A4D⟩
  exact absurd bound (by decide)

end OpenpnpCapture.Win
