/-
# Win.ListedFormats — can a listed format be opened?

`enumerateFrameInfo` lists formats and the search of `PlatformStream::open` looks them up
again, each with its own reading of the driver's data.  They spell two things differently:
the codes of uncompressed video (`MAKEFOURCC` against a character constant, and bit fields
only on one side), and a missing frame time, which the list turns into breakpoint entries
while the search skips it.  `listed_found_iff` says which entries survive.
-/
import OpenpnpCapture.Win.FormatSearch
import OpenpnpCapture.Win.PlatformContext

namespace OpenpnpCapture.Win

open OpenpnpCapture.Lib OpenpnpCapture.Common

set_option autoImplicit false

/-- What `Context::openStream` passes on for an entry. -/
def requestOf (e : CapFormatInfo) : Request :=
  { width := e.width, height := e.height, fourCC := e.fourcc, fps := e.fps }

/-- The entry's own capability is one that both sides spell alike: compressed video, with a frame
time if the entry has a rate. -/
def SpelledAlike (scc : StreamCaps) (e : CapFormatInfo) : Prop :=
  scc.pmtConfig.majorVideo = true ∧
    ∃ pVih, scc.pmtConfig.header? = some pVih ∧ pVih.biCompression ≠ BI_RGB ∧
      pVih.biCompression ≠ BI_BITFIELDS ∧ (e.fps = 0 ∨ pVih.AvgTimePerFrame ≠ 0)

/-- A capability of the entry's size whose code, as the search spells it, is the entry's. -/
def StandsIn (e : CapFormatInfo) (cap : StreamCaps) : Prop :=
  ∃ pVih, Search.examined cap.pmtConfig = some pVih ∧ pVih.biWidth.toUInt32 = e.width ∧
    pVih.biHeight.toUInt32 = e.height ∧ format4CC pVih.biCompression = e.fourcc ∧
    (e.fps = 0 ∨ pVih.AvgTimePerFrame ≠ 0)

section Rates

variable {scc : StreamCaps} {e : CapFormatInfo}

theorem int32_uint32OfFloat {q : ℚ} (bound : |trunc q| ≤ 80000000) :
    int32 (uint32OfFloat q).toNat = trunc q := by
  obtain ⟨low, high⟩ := abs_le.1 bound
  have nonneg : 0 ≤ trunc q % 2 ^ 32 := Int.emod_nonneg _ (by norm_num)
  have below : trunc q % 2 ^ 32 < 2 ^ 32 := Int.emod_lt_of_pos _ (by norm_num)
  have stored : ((uint32OfFloat q).toNat : Int) = trunc q % 2 ^ 32 := by
    rw [uint32OfFloat, UInt32.ofInt, UInt32.toNat_ofNat']
    omega
  rw [stored, int32_emod, int32_of_bounds] <;> omega

/-- As an `int`, an entry's rate is small. -/
theorem abs_int32_fps_le (entry : e ∈ frameInfos scc) : |int32 e.fps.toNat| ≤ 80000000 := by
  obtain ⟨pVih, -, -, -, -, -, own | bp⟩ := mem_frameInfos entry
  · rw [own, fpsDefault]
    split
    · rename_i timed
      rw [int32_uint32OfFloat (abs_rate_le timed)]
      exact abs_rate_le timed
    · simp [int32]
  · have known : (breakpoints.all fun bp => decide (bp.toNat ≤ 240)) = true := by decide
    have rate : e.fps.toNat ≤ 240 := of_decide_eq_true (List.all_eq_true.1 known _ bp)
    rw [int32_of_bounds (by omega) (by omega), Nat.abs_cast]
    omega

theorem formatFps_le (pVih : VideoInfoHeader) : (formatFps pVih).toNat ≤ 10000000 := by
  unfold formatFps
  split
  · rw [UInt32.toNat_ofNat']
    exact le_trans (Nat.mod_le _ _) (Nat.div_le_self _ _)
  · exact Nat.zero_le _

/-- Every listed rate is near enough to be selected. -/
theorem distance_lt_INT_MAX (entry : e ∈ frameInfos scc) (pVih : VideoInfoHeader) :
    distance (formatFps pVih) e.fps < INT_MAX := by
  obtain ⟨low, high⟩ := abs_le.1 (abs_int32_fps_le entry)
  have rate := formatFps_le pVih
  have asInt : int32 (formatFps pVih).toNat = (formatFps pVih).toNat := by
    apply int32_of_bounds <;> omega
  have difference : int32 (int32 (formatFps pVih).toNat - int32 e.fps.toNat) =
      (formatFps pVih).toNat - int32 e.fps.toNat := by
    rw [asInt]
    apply int32_of_bounds <;> omega
  rw [distance, difference, int32_of_bounds, INT_MAX] <;> omega

/-- The candidates for an entry are those that stand in for it. -/
theorem candidate_iff_standsIn (entry : e ∈ frameInfos scc) (cap : StreamCaps) :
    Candidate (requestOf e) cap ↔ StandsIn e cap := by
  have near := distance_lt_INT_MAX entry
  constructor
  · rintro ⟨pVih, checked, fits, rate⟩
    obtain ⟨width, height, code⟩ := of_decide_eq_true fits
    exact ⟨pVih, checked, width, height, code, rate.imp_right And.left⟩
  · rintro ⟨pVih, checked, width, height, code, rate⟩
    exact ⟨pVih, checked, decide_eq_true ⟨width, height, code⟩,
      rate.imp_right fun timed => ⟨timed, near pVih⟩⟩

theorem standsIn_of_spelledAlike (entry : e ∈ frameInfos scc) (alike : SpelledAlike scc e) :
    StandsIn e scc := by
  obtain ⟨video, pVih, header, notRgb, notBitfields, timed⟩ := alike
  obtain ⟨pVih', videoInfo, header', width, height, code, -⟩ := mem_frameInfos entry
  rw [header, Option.some.injEq] at header'
  subst header'
  refine ⟨pVih, ?_, width.symm, height.symm, ?_, timed⟩
  · rw [Search.examined, if_pos ⟨video, videoInfo⟩, header]
  · rw [code, format4CC, listedFourCC, if_neg notRgb, if_neg notRgb, if_neg notBitfields]

end Rates

/-- **Listed and found.**  For every capability list and every entry listed from it: the search with
the entry's size, code and rate sets a format exactly when the capability it comes from is spelled
alike, or another one stands in for it. -/
theorem listed_found_iff {config : StreamConfig} {e : CapFormatInfo}
    (listed : e ∈ (enumerateFrameInfo (some config)).2) :
    (formatSearch config.caps (requestOf e)).formatSet = true ↔
      (∃ scc, some scc ∈ config.caps ∧ e ∈ frameInfos scc ∧ SpelledAlike scc e) ∨
        ∃ other, some other ∈ config.caps ∧ StandsIn e other := by
  obtain ⟨own, -, ofOwn⟩ := mem_enumerateFrameInfo listed
  rw [formatSearch_found_iff]
  constructor
  · rintro ⟨cap, member, candidate⟩
    exact Or.inr ⟨cap, member, (candidate_iff_standsIn ofOwn cap).1 candidate⟩
  · rintro (⟨scc, reported, entry, alike⟩ | ⟨other, member, standsIn⟩)
    · have standsIn := standsIn_of_spelledAlike entry alike
      exact ⟨scc, reported, (candidate_iff_standsIn entry scc).2 standsIn⟩
    · exact ⟨other, member, (candidate_iff_standsIn ofOwn other).2 standsIn⟩

/-- A video capability of 640 x 480 without a frame time, and a range of 10 to 30 frames. -/
def vgaCaps (biCompression : UInt32) : StreamCaps where
  pmtConfig :=
    { majorVideo := true, formatVideoInfo := true, cbFormat := 88,
      pbFormat := some ⟨0, 640, 480, 24, biCompression⟩ }
  MinFrameInterval := 333333
  MaxFrameInterval := 1000000

theorem listed_found_mjpg :
    (formatSearch [some (vgaCaps 0x47504A4D)] ⟨640, 480, 0x47504A4D, 0⟩).formatSet = true := by
  have listed : (⟨640, 480, 0x47504A4D, 0, 24⟩ : CapFormatInfo) ∈
      (enumerateFrameInfo (some ⟨some 128, [some (vgaCaps 0x47504A4D)]⟩)).2 := by decide
  exact (listed_found_iff listed).2 (Or.inl ⟨vgaCaps 0x47504A4D, List.mem_cons_self, by decide, rfl, _,
    rfl, by decide, by decide, Or.inl rfl⟩)

/-- Uncompressed RGB is listed as `'RGB '` and never found; a breakpoint entry without a frame time
is not found either. -/
theorem listed_not_found_rgb :
    (¬ ∀ e ∈ (enumerateFrameInfo (some ⟨some 128, [some (vgaCaps BI_RGB)]⟩)).2,
        (formatSearch [some (vgaCaps BI_RGB)] (requestOf e)).formatSet = true) ∧
      ¬ ∀ e ∈ (enumerateFrameInfo (some ⟨some 128, [some (vgaCaps 0x47504A4D)]⟩)).2,
        (formatSearch [some (vgaCaps 0x47504A4D)] (requestOf e)).formatSet = true := by
  constructor
  · intro all
    exact absurd (all ⟨640, 480, 0x20424752, 0, 24⟩ (by decide)) (by decide)
  · intro all
    exact absurd (all ⟨640, 480, 0x47504A4D, 15, 24⟩ (by decide)) (by decide)

end OpenpnpCapture.Win
