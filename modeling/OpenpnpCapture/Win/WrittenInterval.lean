/-
# Win.WrittenInterval — is the written frame time within the capability's range?

`PlatformStream::open` writes `10000000 / fps` into the header it gives to `SetFormat`.  The rates
of the list are rounded down, the own rate of a capability as well as the two ends of its range,
and the capability selected is the one with the nearest rate, whichever the entry came from; the
frame time is not compared with `MinFrameInterval` and `MaxFrameInterval` again.

`written_inRange_iff`: the frame time is in range exactly if every capability that stands in for the
entry covers its rate or is outdone by a nearer one.
-/
import OpenpnpCapture.Win.ListedFormats

namespace OpenpnpCapture.Win

open OpenpnpCapture.Lib OpenpnpCapture.Common

set_option autoImplicit false

/-- The frame time written into the selected header, if a rate is requested. -/
def writeRate (fps : UInt32) (pVih : VideoInfoHeader) : VideoInfoHeader :=
  if 0 < fps then { pVih with AvgTimePerFrame := (10000000 / fps.toNat : Nat) } else pVih

/-- The capability that the search selects and the header `SetFormat` is given. -/
def setFormat (config : StreamConfig) (want : Request) : Option (StreamCaps × VideoInfoHeader) :=
  if config.iSize.getD 0 = sizeofVideoStreamConfigCaps then do
    let selectedConfig ← (formatSearch config.caps want).selectedConfig
    let cap ← (config.caps[selectedConfig]?).join
    let pVih ← cap.pmtConfig.pbFormat
    return (cap, writeRate want.fps pVih)
  else none

/-- What `open` sets lies within the range of the capability it was written into. -/
def WritesInRange (config : StreamConfig) (want : Request) : Prop :=
  ∀ cap pVih, setFormat config want = some (cap, pVih) →
    cap.MinFrameInterval ≤ pVih.AvgTimePerFrame ∧ pVih.AvgTimePerFrame ≤ cap.MaxFrameInterval

/-- Each capability's own frame time lies within its range. -/
def TimesInRange (caps : List (Option StreamCaps)) : Prop :=
  ∀ cap pVih, some cap ∈ caps → cap.pmtConfig.header? = some pVih →
    cap.MinFrameInterval ≤ pVih.AvgTimePerFrame ∧ pVih.AvgTimePerFrame ≤ cap.MaxFrameInterval

/-- The capability can run at `fps` frames in a second. -/
def Covers (cap : StreamCaps) (fps : UInt32) : Prop :=
  cap.MinFrameInterval * fps.toNat ≤ 10000000 ∧ 10000000 < (cap.MaxFrameInterval + 1) * fps.toNat

/-- Among those that stand in for the entry another one is nearer to its rate, or as near and listed
earlier. -/
def OutdoneBy (caps : List (Option StreamCaps)) (e : CapFormatInfo) (i : Nat) (cap : StreamCaps) :
    Prop :=
  ∃ j other, caps[j]? = some (some other) ∧ StandsIn e other ∧
    (distance (capFps other) e.fps < distance (capFps cap) e.fps ∨
      distance (capFps other) e.fps = distance (capFps cap) e.fps ∧ j < i)

section Written

variable {scc : StreamCaps} {e : CapFormatInfo} {caps : List (Option StreamCaps)}

theorem fps_ne_zero (rated : 0 < e.fps) : (requestOf e).fps ≠ 0 := by
  intro zero
  rw [show e.fps = 0 from zero] at rated
  cases rated

theorem covers_iff {cap : StreamCaps} {fps : UInt32} (rated : 0 < fps) :
    Covers cap fps ↔ cap.MinFrameInterval ≤ (10000000 / fps.toNat : Nat) ∧
      ((10000000 / fps.toNat : Nat) : Int) ≤ cap.MaxFrameInterval := by
  have positive : (0 : Int) < fps.toNat := by
    have : 0 < fps.toNat := rated
    omega
  rw [Covers, Int.natCast_div]
  refine and_congr (Int.le_ediv_iff_mul_le positive).symm ?_
  rw [← Int.lt_add_one_iff]
  exact (Int.ediv_lt_iff_lt_mul positive).symm

/-- Where the distances of a list have an entry. -/
theorem getElem?_distances (entry : e ∈ frameInfos scc) (rated : 0 < e.fps) (i : Nat) (k : Int) :
    (distances (requestOf e) caps)[i]? = some (some k) ↔
      ∃ cap, caps[i]? = some (some cap) ∧ StandsIn e cap ∧ distance (capFps cap) e.fps = k := by
  rw [distances, getElem?_keyed]
  apply exists_congr
  intro cap
  rw [competes_eq_some_iff (fps_ne_zero rated), candidate_iff_standsIn entry]
  rfl

theorem outdone_iff (entry : e ∈ frameInfos scc) (rated : 0 < e.fps) (i : Nat) (cap : StreamCaps) :
    Outdone (distances (requestOf e) caps) i (distance (capFps cap) e.fps) ↔
      OutdoneBy caps e i cap := by
  unfold Outdone OutdoneBy
  simp only [getElem?_distances entry rated]
  constructor
  · rintro ⟨j, k, ⟨other, here, standsIn, rfl⟩, nearer⟩
    exact ⟨j, other, here, standsIn, nearer⟩
  · rintro ⟨j, other, here, standsIn, nearer⟩
    exact ⟨j, _, ⟨other, here, standsIn, rfl⟩, nearer⟩

/-- The search selects what stands in for the entry and is not outdone. -/
theorem selected_iff (entry : e ∈ frameInfos scc) (rated : 0 < e.fps) (i : Nat) :
    (formatSearch caps (requestOf e)).selectedConfig = some i ↔
      ∃ cap, caps[i]? = some (some cap) ∧ StandsIn e cap ∧ ¬ OutdoneBy caps e i cap := by
  have nonzero := fps_ne_zero rated
  rw [formatSearch_selected_iff nonzero]
  simp only [firstMin_iff, getElem?_distances entry rated]
  constructor
  · rintro ⟨k, ⟨cap, here, standsIn, rfl⟩, best⟩
    exact ⟨cap, here, standsIn, fun outdone => best ((outdone_iff entry rated i cap).2 outdone)⟩
  · rintro ⟨cap, here, standsIn, best⟩
    exact ⟨_, ⟨cap, here, standsIn, rfl⟩, fun outdone =>
      best ((outdone_iff entry rated i cap).1 outdone)⟩

/-- A capability that stands in for an entry has a format block. -/
theorem StandsIn.pbFormat {cap : StreamCaps} (standsIn : StandsIn e cap) :
    ∃ pVih, cap.pmtConfig.pbFormat = some pVih := by
  obtain ⟨pVih, checked, -⟩ := standsIn
  refine ⟨pVih, ?_⟩
  unfold Search.examined MediaType.header? at checked
  split at checked
  · split at checked
    · exact checked
    · cases checked
  · cases checked

end Written

/-- Entries are listed, and formats searched, for the same structure size only. -/
theorem iSize_of_listed {config : StreamConfig} {e : CapFormatInfo}
    (listed : e ∈ (enumerateFrameInfo (some config)).2) :
    config.iSize.getD 0 = sizeofVideoStreamConfigCaps := by
  by_contra other
  rw [enumerateFrameInfo, if_neg other] at listed
  cases listed

/-- For every listed entry with a rate: what `open` writes is within the range of the capability it
selects exactly if each capability that stands in for the entry covers its rate, or is outdone. -/
theorem written_inRange_iff {config : StreamConfig} {e : CapFormatInfo}
    (listed : e ∈ (enumerateFrameInfo (some config)).2) (rated : 0 < e.fps) :
    WritesInRange config (requestOf e) ↔
      ∀ i cap, config.caps[i]? = some (some cap) → StandsIn e cap →
        Covers cap e.fps ∨ OutdoneBy config.caps e i cap := by
  obtain ⟨scc, -, entry⟩ := mem_enumerateFrameInfo listed
  have sized := iSize_of_listed listed
  constructor
  · intro holds i cap here standsIn
    by_contra neither
    obtain ⟨misses, best⟩ := not_or.1 neither
    have selected := (selected_iff entry rated i).2 ⟨cap, here, standsIn, best⟩
    obtain ⟨pVih, block⟩ := standsIn.pbFormat
    have given : setFormat config (requestOf e) = some (cap, writeRate e.fps pVih) := by
      rw [setFormat, if_pos sized]
      simp [selected, here, block]
      rfl
    have inRange := holds cap _ given
    rw [writeRate, if_pos rated] at inRange
    exact misses ((covers_iff rated).2 inRange)
  · intro covered cap pVih given
    rw [setFormat, if_pos sized] at given
    simp only [Option.bind_eq_bind, Option.bind_eq_some_iff, Option.pure_def, Option.some.injEq,
      Prod.mk.injEq] at given
    obtain ⟨i, selected, cap', joined, header, -, rfl, rfl⟩ := given
    obtain ⟨cap, here, standsIn, best⟩ := (selected_iff entry rated i).1 selected
    obtain rfl : cap = cap' := by simpa [here] using joined
    have covers := (covered i cap here standsIn).resolve_right best
    rw [writeRate, if_pos (show 0 < (requestOf e).fps from rated)]
    exact (covers_iff rated).1 covers

/-! ## Witnesses -/

/-- A video capability of 640 x 480 in Motion JPEG. -/
def mjpgCaps (AvgTimePerFrame MinFrameInterval MaxFrameInterval : Int) : StreamCaps where
  pmtConfig :=
    { majorVideo := true, formatVideoInfo := true, cbFormat := 88,
      pbFormat := some ⟨AvgTimePerFrame, 640, 480, 24, 0x47504A4D⟩ }
  MinFrameInterval := MinFrameInterval
  MaxFrameInterval := MaxFrameInterval

/-- A camera with the frame time of NTSC video, 29.97 frames in a second. -/
def ntscCamera (MinFrameInterval MaxFrameInterval : Int) : StreamConfig :=
  ⟨some 128, [some (mjpgCaps 333667 MinFrameInterval MaxFrameInterval)]⟩

/-- Its own entry. -/
def ntscEntry : CapFormatInfo := ⟨640, 480, 0x47504A4D, 29, 24⟩

theorem trunc_eq {q : ℚ} {n : Nat} (low : (n : ℚ) ≤ q) (high : q < n + 1) : trunc q = n := by
  have nonneg : 0 ≤ q := le_trans (Nat.cast_nonneg n) low
  rw [trunc, if_pos nonneg, Int.floor_eq_iff]
  exact ⟨by exact_mod_cast low, by exact_mod_cast high⟩

/-- The two roundings move the rate by less than a thousandth. -/
theorem trunc_ntsc_rate :
    trunc (Binary32.round (10000000 / Binary32.round (333667 : ℚ))) = (29 : Nat) := by
  have divisor := Binary32.abs_round_sub_le_scaled (333667 : ℚ)
  rw [abs_of_pos (by norm_num : (0 : ℚ) < 333667), abs_le] at divisor
  generalize Binary32.round (333667 : ℚ) = d at divisor
  have low : (333666 : ℚ) ≤ d := by linarith
  have high : d ≤ 333668 := by linarith
  have positive : 0 < d := by linarith
  have rateLow : (29969 / 1000 : ℚ) ≤ 10000000 / d := by
    rw [le_div_iff₀ positive]
    linarith
  have rateHigh : (10000000 : ℚ) / d ≤ 29971 / 1000 := by
    rw [div_le_iff₀ positive]
    linarith
  have moved := Binary32.abs_round_sub_le_scaled ((10000000 : ℚ) / d)
  rw [abs_of_pos (by linarith : (0 : ℚ) < 10000000 / d), abs_le] at moved
  apply trunc_eq
  · push_cast
    linarith
  · push_cast
    linarith

theorem fpsDefault_ntsc : fpsDefault ⟨333667, 640, 480, 24, 0x47504A4D⟩ = 29 := by
  rw [fpsDefault, if_pos (by decide), uint32OfFloat]
  push_cast
  rw [trunc_ntsc_rate]
  rfl

theorem ntscCamera_caps {MinFrameInterval MaxFrameInterval : Int} {cap : StreamCaps}
    (member : some cap ∈ (ntscCamera MinFrameInterval MaxFrameInterval).caps) :
    cap = mjpgCaps 333667 MinFrameInterval MaxFrameInterval :=
  Option.some.inj (List.mem_singleton.1 member)

theorem ntscEntry_listed (MinFrameInterval MaxFrameInterval : Int) :
    ntscEntry ∈ (enumerateFrameInfo (some (ntscCamera MinFrameInterval MaxFrameInterval))).2 := by
  have own : newFrameInfo ⟨333667, 640, 480, 24, 0x47504A4D⟩ = ntscEntry := by
    rw [newFrameInfo, fpsDefault_ntsc]
    rfl
  have sized : (ntscCamera MinFrameInterval MaxFrameInterval).iSize.getD 0 =
      sizeofVideoStreamConfigCaps := rfl
  rw [enumerateFrameInfo, if_pos sized, ← own]
  exact List.mem_flatMap_of_mem List.mem_cons_self List.mem_cons_self

/-- With a range from 25 to 30 frames the entry writes 344827 units. -/
theorem written_inRange_ntsc : WritesInRange (ntscCamera 333333 400000) (requestOf ntscEntry) := by
  refine (written_inRange_iff (ntscEntry_listed 333333 400000) (by decide)).2 ?_
  intro i cap here _
  rw [ntscCamera_caps (List.mem_of_getElem? here)]
  exact Or.inl (by constructor <;> decide)

/-- With this frame time only, 344827 units are longer than the longest interval. -/
theorem written_not_inRange :
    TimesInRange (ntscCamera 333667 333667).caps ∧
      ¬ ∀ e ∈ (enumerateFrameInfo (some (ntscCamera 333667 333667))).2, 0 < e.fps →
        WritesInRange (ntscCamera 333667 333667) (requestOf e) := by
  constructor
  · intro cap pVih member header
    rw [ntscCamera_caps member] at header ⊢
    cases header
    decide
  · intro all
    have written := all ntscEntry (ntscEntry_listed 333667 333667) (by decide)
      (mjpgCaps 333667 333667 333667) ⟨344827, 640, 480, 24, 0x47504A4D⟩ (by decide)
    exact absurd written.2 (by decide)

end OpenpnpCapture.Win
