/-
# Win.PlatformContext — `enumerateFrameInfo`

One pass over the capabilities of the capture pin.  Each video-info capability gives an
entry with its own frame rate, computed in single precision, and one entry for each
breakpoint inside the range of its frame intervals.

The cast of a `float` to `uint32_t` truncates and keeps the low 32 bits; a rate is outside
`uint32_t` only for a negative frame time.
-/
import OpenpnpCapture.Common.Context
import OpenpnpCapture.Lib.Binary32
import OpenpnpCapture.Win.DirectShow

namespace OpenpnpCapture.Win

open OpenpnpCapture.Lib OpenpnpCapture.Common

set_option autoImplicit false

/-- Truncation towards zero. -/
def trunc (q : ℚ) : Int :=
  if 0 ≤ q then ⌊q⌋ else ⌈q⌉

/-- `static_cast<uint32_t>` of a `float`. -/
def uint32OfFloat (q : ℚ) : UInt32 := UInt32.ofInt (trunc q)

/-- The entry's frame rate: `10.0e6f / AvgTimePerFrame` in single precision. -/
def fpsDefault (pVih : VideoInfoHeader) : UInt32 :=
  if pVih.AvgTimePerFrame ≠ 0 then
    uint32OfFloat (Binary32.round (10000000 / Binary32.round pVih.AvgTimePerFrame))
  else 0

/-- The four-character code of an entry. -/
def listedFourCC (biCompression : UInt32) : UInt32 :=
  if biCompression = BI_RGB then MAKEFOURCC 'R' 'G' 'B' ' '
  else if biCompression = BI_BITFIELDS then MAKEFOURCC ' ' ' ' ' ' ' '
  else biCompression

def breakpoints : List UInt32 := [5, 10, 15, 20, 25, 30, 50, 60, 90, 100, 120, 180, 240]

/-- The rates added for the range of frame intervals. -/
def rangeRates (scc : StreamCaps) (fpsDefault : UInt32) : List UInt32 :=
  if 0 < scc.MinFrameInterval ∧ 0 < scc.MaxFrameInterval ∧
      scc.MinFrameInterval < scc.MaxFrameInterval then
    let fpsMax := UInt32.ofNat (10000000 / scc.MinFrameInterval.toNat)
    let fpsMin := UInt32.ofNat (10000000 / scc.MaxFrameInterval.toNat)
    if fpsMax > fpsMin then
      breakpoints.filter fun bp => bp ≥ fpsMin ∧ bp ≤ fpsMax ∧ bp ≠ fpsDefault
    else []
  else []

/-- The entry of a capability with its own rate. -/
def newFrameInfo (pVih : VideoInfoHeader) : CapFormatInfo where
  width := pVih.biWidth.toUInt32
  height := pVih.biHeight.toUInt32
  fourcc := listedFourCC pVih.biCompression
  fps := fpsDefault pVih
  bpp := pVih.biBitCount.toUInt32

/-- The entries of one capability. -/
def frameInfos (scc : StreamCaps) : List CapFormatInfo :=
  if scc.pmtConfig.formatVideoInfo then
    match scc.pmtConfig.header? with
    | none => []
    | some pVih =>
        newFrameInfo pVih ::
          (rangeRates scc (fpsDefault pVih)).map fun bp => { newFrameInfo pVih with fps := bp }
  else []

/-- `enumerateFrameInfo`: its result and what it appends to `m_formats`; `none` when one of the
calls that lead to the `IAMStreamConfig` of the capture pin fails. -/
def enumerateFrameInfo : Option StreamConfig → Bool × List CapFormatInfo
  | none => (false, [])
  | some config =>
      if config.iSize.getD 0 = sizeofVideoStreamConfigCaps then
        (true, config.caps.flatMap fun cap => cap.elim [] frameInfos)
      else (true, [])

/-! ## What an entry says -/

section Entries

variable {scc : StreamCaps} {e : CapFormatInfo}

/-- An entry comes from a capability with a header, with its own rate or a breakpoint. -/
theorem mem_frameInfos (member : e ∈ frameInfos scc) :
    ∃ pVih, scc.pmtConfig.formatVideoInfo = true ∧ scc.pmtConfig.header? = some pVih ∧
      e.width = pVih.biWidth.toUInt32 ∧ e.height = pVih.biHeight.toUInt32 ∧
      e.fourcc = listedFourCC pVih.biCompression ∧ (e.fps = fpsDefault pVih ∨ e.fps ∈ breakpoints) := by
  unfold frameInfos at member
  split at member
  · rename_i videoInfo
    cases header : scc.pmtConfig.header? with
    | none => simp [header] at member
    | some pVih =>
        simp only [header, List.mem_cons, List.mem_map] at member
        refine ⟨pVih, videoInfo, rfl, ?_⟩
        rcases member with rfl | ⟨bp, rate, rfl⟩
        · exact ⟨rfl, rfl, rfl, Or.inl rfl⟩
        · refine ⟨rfl, rfl, rfl, Or.inr ?_⟩
          unfold rangeRates at rate
          split at rate
          · simp only at rate
            split at rate
            · exact List.mem_of_mem_filter rate
            · cases rate
          · cases rate
  · cases member

theorem mem_enumerateFrameInfo {config : StreamConfig}
    (member : e ∈ (enumerateFrameInfo (some config)).2) :
    ∃ scc, some scc ∈ config.caps ∧ e ∈ frameInfos scc := by
  unfold enumerateFrameInfo at member
  simp only at member
  split at member
  · obtain ⟨cap, reported, entry⟩ := List.mem_flatMap.1 member
    cases cap with
    | none => cases entry
    | some scc => exact ⟨scc, reported, entry⟩
  · cases member

theorem abs_trunc_le (q : ℚ) : |(trunc q : ℚ)| ≤ |q| := by
  unfold trunc
  split_ifs with nonneg
  · have floor_nonneg : (0 : ℚ) ≤ ⌊q⌋ := by exact_mod_cast Int.floor_nonneg.2 nonneg
    rw [abs_of_nonneg floor_nonneg, abs_of_nonneg nonneg]
    exact Int.floor_le q
  · have negative : q ≤ 0 := le_of_lt (not_le.1 nonneg)
    have ceil_nonpos : ((⌈q⌉ : ℤ) : ℚ) ≤ 0 := by
      exact_mod_cast Int.ceil_le.2 (by simpa using negative)
    rw [abs_of_nonpos ceil_nonpos, abs_of_nonpos negative, neg_le_neg_iff]
    exact Int.le_ceil q

/-- The rate before its cast is at most 8 * 10^7 in magnitude: the shortest frame time is one
unit, and a rounding at most doubles or halves. -/
theorem abs_rate_le {AvgTimePerFrame : Int} (timed : AvgTimePerFrame ≠ 0) :
    |trunc (Binary32.round (10000000 / Binary32.round AvgTimePerFrame))| ≤ 80000000 := by
  have one_le : (1 : ℚ) ≤ |(AvgTimePerFrame : ℚ)| := by
    exact_mod_cast Int.one_le_abs timed
  have divisor := Binary32.le_abs_round (AvgTimePerFrame : ℚ)
  have half_le : (1 / 2 : ℚ) ≤ |Binary32.round (AvgTimePerFrame : ℚ)| := by linarith
  have quotient : |(10000000 : ℚ) / Binary32.round (AvgTimePerFrame : ℚ)| ≤ 20000000 := by
    rw [abs_div, abs_of_pos (by norm_num : (0 : ℚ) < 10000000),
      div_le_iff₀ (lt_of_lt_of_le (by norm_num) half_le)]
    linarith
  have rounded := Binary32.abs_round_le ((10000000 : ℚ) / Binary32.round (AvgTimePerFrame : ℚ))
  have truncated := abs_trunc_le (Binary32.round (10000000 / Binary32.round (AvgTimePerFrame : ℚ)))
  have bound : |(trunc (Binary32.round (10000000 / Binary32.round (AvgTimePerFrame : ℚ))) : ℚ)| ≤
      80000000 := by linarith
  exact_mod_cast bound

end Entries

end OpenpnpCapture.Win
