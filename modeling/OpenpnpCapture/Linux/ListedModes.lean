/-
# Linux.ListedModes — is a listed format a mode of the driver?

`open` asks the driver for the size and pixel format of an entry and for the frame interval
`1 / fps`.  Between the driver's lists and that request an interval becomes an integer rate, a
size that is no discrete one becomes 0 x 0, and a size without a rate gets the rate 0, which
`open` passes on as a denominator.

`listed_modes_iff` is the exact condition on the driver: every size it lists is a discrete one,
each with a rate, and the rates survive the rounding.
-/
import OpenpnpCapture.Linux.PlatformContext
import OpenpnpCapture.Linux.PlatformStream
import Mathlib.Algebra.Order.Field.Rat
import Mathlib.Tactic.NormNum

namespace OpenpnpCapture.Linux

open OpenpnpCapture.Lib OpenpnpCapture.Common

set_option autoImplicit false

/-- What `open` writes into `m_fmt` for `VIDIOC_S_FMT` and into `sparam` for `VIDIOC_S_PARM`. -/
structure ModeRequest where
  width : UInt32
  height : UInt32
  pixelformat : UInt32
  timeperframe : Fraction
deriving DecidableEq, Repr

/-- The request for an entry, as `Context::openStream` passes it to `open`. -/
def modeRequest (format : CapFormatInfo) : ModeRequest where
  width := format.width
  height := format.height
  pixelformat := format.fourcc
  timeperframe := ⟨1, format.fps⟩

/-! ## What a driver's answers mean -/

def Fraction.value (interval : Fraction) : ℚ :=
  (interval.numerator.toNat : ℚ) / interval.denominator.toNat

/-- The sizes an answer reports. -/
def FrameSize.Reports (width height : UInt32) : FrameSize → Prop
  | .discrete w h => width = w ∧ height = h
  | .continuous min_width max_width min_height max_height =>
      (min_width ≤ width ∧ width ≤ max_width) ∧ min_height ≤ height ∧ height ≤ max_height
  | .stepwise min_width max_width step_width min_height max_height step_height =>
      (min_width ≤ width ∧ width ≤ max_width ∧
        step_width.toNat ∣ width.toNat - min_width.toNat) ∧
      min_height ≤ height ∧ height ≤ max_height ∧
        step_height.toNat ∣ height.toNat - min_height.toNat

/-- The intervals an answer reports. -/
def FrameInterval.Reports (interval : ℚ) : FrameInterval → Prop
  | .discrete fraction => interval = fraction.value
  | .continuous min max => min.value ≤ interval ∧ interval ≤ max.value
  | .stepwise min max step =>
      interval ≤ max.value ∧ ∃ steps : Nat, interval = min.value + steps * step.value

/-- The request names a mode of the driver. -/
structure DenotesMode (driver : Driver) (request : ModeRequest) : Prop where
  format : request.pixelformat ∈ driver.formats
  width : 0 < request.width
  height : 0 < request.height
  size : ∃ size ∈ driver.frameSizes request.pixelformat, size.Reports request.width request.height
  denominator : request.timeperframe.denominator ≠ 0
  interval : ∃ ival ∈ driver.frameIntervals request.pixelformat request.width request.height,
    ival.Reports request.timeperframe.value

/-- Some discrete interval is at most a second, and for each such interval the driver also reports
the reciprocal of its integer rate. -/
def ExactRates (ivals : List FrameInterval) : Prop :=
  (∃ interval, .discrete interval ∈ ivals ∧ interval.numerator ≤ interval.denominator) ∧
    ∀ interval, .discrete interval ∈ ivals → interval.numerator ≤ interval.denominator →
      ∃ ival ∈ ivals, ival.Reports (Fraction.value ⟨1, interval.denominator / interval.numerator⟩)

/-- Every size the driver lists is discrete and positive, with exact rates. -/
def RoundTrips (driver : Driver) : Prop :=
  ∀ pixelformat ∈ driver.formats, ∀ size ∈ driver.frameSizes pixelformat,
    ∃ width height, size = .discrete width height ∧ 0 < width ∧ 0 < height ∧
      ExactRates (driver.frameIntervals pixelformat width height)

/-- Every discrete interval of a driver is a fraction. -/
def Driver.Fractions (driver : Driver) : Prop :=
  ∀ pixelformat width height, Linux.Fractions (driver.frameIntervals pixelformat width height)

section Rates

variable {interval : Fraction} {ivals : List FrameInterval}

theorem rate_pos_iff (fraction : interval.numerator ≠ 0) :
    0 < interval.denominator / interval.numerator ↔ interval.numerator ≤ interval.denominator := by
  have positive : 0 < interval.numerator.toNat :=
    Nat.pos_of_ne_zero fun zero => fraction (UInt32.toNat.inj zero)
  rw [UInt32.lt_iff_toNat_lt, UInt32.le_iff_toNat_le, UInt32.toNat_div]
  exact Nat.div_pos_iff.trans (and_iff_right positive)

/-- Exact rates, told of the rates that are listed. -/
theorem exactRates_iff (fractions : Fractions ivals) {rates : List UInt32}
    (listed : ∀ fps, fps ∈ rates ↔ 0 < fps ∧ ∃ interval, .discrete interval ∈ ivals ∧
      interval.denominator / interval.numerator = fps) :
    ExactRates ivals ↔ rates ≠ [] ∧
      ∀ fps ∈ rates, ∃ ival ∈ ivals, ival.Reports (Fraction.value ⟨1, fps⟩) := by
  constructor
  · rintro ⟨⟨interval, member, short⟩, exact_⟩
    constructor
    · refine List.ne_nil_of_mem (a := interval.denominator / interval.numerator) ?_
      exact (listed _).2 ⟨(rate_pos_iff (fractions interval member)).2 short, interval, member, rfl⟩
    · intro fps rate
      obtain ⟨positive, interval, member, rfl⟩ := (listed fps).1 rate
      exact exact_ interval member ((rate_pos_iff (fractions interval member)).1 positive)
  · rintro ⟨nonempty, exact_⟩
    constructor
    · obtain ⟨fps, rate⟩ := List.exists_mem_of_ne_nil rates nonempty
      obtain ⟨positive, interval, member, rfl⟩ := (listed fps).1 rate
      exact ⟨interval, member, (rate_pos_iff (fractions interval member)).1 positive⟩
    · intro interval member short
      refine exact_ _ ((listed _).2 ⟨?_, interval, member, rfl⟩)
      exact (rate_pos_iff (fractions interval member)).2 short

end Rates

/-! ## One device -/

section Device

variable {driver : Driver}

/-- The entries of a size denote modes exactly if it is a discrete one with exact rates. -/
theorem size_modes_iff (bpp : UInt32) (fractions : driver.Fractions) {pixelformat : UInt32}
    (format : pixelformat ∈ driver.formats) {size : FrameSize}
    (reported : size ∈ driver.frameSizes pixelformat) :
    ∃ entries, sizeFormats bpp driver pixelformat size = some entries ∧
      ((∀ entry ∈ entries, DenotesMode driver (modeRequest entry)) ↔
        ∃ width height, size = .discrete width height ∧ 0 < width ∧ 0 < height ∧
          ExactRates (driver.frameIntervals pixelformat width height)) := by
  obtain ⟨rates, collected, listed⟩ := enumerateFrameRates_rates
    (fractions pixelformat (queryFrameSize size).1 (queryFrameSize size).2)
  refine ⟨_, by rw [sizeFormats, collected, Option.map_some], ?_⟩
  have exact_ := exactRates_iff (fractions _ _ _) listed
  rw [List.forall_mem_map]
  constructor
  · intro denotes
    have someRate : ∃ fps, fps ∈ (if rates = [] then [0] else rates) := by
      split
      · exact ⟨0, List.mem_cons_self⟩
      · rename_i nonempty
        exact List.exists_mem_of_ne_nil rates nonempty
    obtain ⟨fps, rate⟩ := someRate
    cases size with
    | continuous | stepwise => exact absurd (denotes fps rate).width (by simp [modeRequest, queryFrameSize])
    | discrete width height =>
        refine ⟨width, height, rfl, (denotes fps rate).width, (denotes fps rate).height, exact_.2 ?_⟩
        have nonempty : rates ≠ [] := by
          intro none_
          rw [if_pos none_] at denotes
          exact (denotes 0 List.mem_cons_self).denominator rfl
        rw [if_neg nonempty] at denotes
        exact ⟨nonempty, fun fps rate => (denotes fps rate).interval⟩
  · rintro ⟨width, height, rfl, width_pos, height_pos, rates_⟩
    obtain ⟨nonempty, reports⟩ := exact_.1 rates_
    rw [if_neg nonempty]
    intro fps rate
    exact
      { format := format
        width := width_pos
        height := height_pos
        size := ⟨.discrete width height, reported, rfl, rfl⟩
        denominator := fun zero => absurd ((listed fps).1 rate).1 (by
          rw [show fps = 0 from zero]
          exact UInt32.lt_irrefl 0)
        interval := reports fps rate }

theorem device_modes_iff (bpp : UInt32) (fractions : driver.Fractions) :
    ∃ entries, enumerateFormats bpp driver = some entries ∧
      ((∀ entry ∈ entries, DenotesMode driver (modeRequest entry)) ↔ RoundTrips driver) := by
  have perSize : ∀ pixelformat ∈ driver.formats, ∃ here,
      appendEach (sizeFormats bpp driver pixelformat) (driver.frameSizes pixelformat) = some here :=
    fun pixelformat format => appendEach_isSome fun size reported =>
      (size_modes_iff bpp fractions format reported).imp fun _ => And.left
  obtain ⟨entries, collected⟩ := appendEach_isSome perSize
  refine ⟨entries, collected, ?_⟩
  constructor
  · intro denotes pixelformat format size reported
    obtain ⟨ofSize, sized, modes⟩ := size_modes_iff bpp fractions format reported
    obtain ⟨ofFormat, formatted⟩ := perSize pixelformat format
    refine modes.1 fun entry member => denotes entry ((mem_appendEach collected).2 ?_)
    exact ⟨pixelformat, format, ofFormat, formatted,
      (mem_appendEach formatted).2 ⟨size, reported, ofSize, sized, member⟩⟩
  · intro trips entry member
    obtain ⟨pixelformat, format, ofFormat, formatted, inFormat⟩ := (mem_appendEach collected).1 member
    obtain ⟨size, reported, ofSize, sized, inSize⟩ := (mem_appendEach formatted).1 inFormat
    obtain ⟨ofSize', sized', modes⟩ := size_modes_iff bpp fractions format reported
    obtain rfl := Option.some.inj (sized.symm.trans sized')
    exact modes.2 (trips pixelformat format size reported) entry inSize

end Device

/-! ## All devices -/

theorem forall₂_iff {α β : Type} {R P : α → β → Prop} {Q : α → Prop} {items : List α}
    {out : List β} (related : List.Forall₂ R items out)
    (each : ∀ a ∈ items, ∀ b, R a b → (P a b ↔ Q a)) :
    List.Forall₂ P items out ↔ ∀ a ∈ items, Q a := by
  induction related with
  | nil => simp
  | cons first rest ih =>
      have later := ih fun a member => each a (List.mem_cons_of_mem _ member)
      rw [List.forall₂_cons, List.forall_mem_cons, later, each _ List.mem_cons_self _ first]

theorem enumerateDevices_isSome (bpp : UInt32) {nodes : Nat → Node}
    (fractions : ∀ driver ∈ captureDrivers nodes, driver.Fractions) :
    ∃ devices, enumerateDevices bpp nodes = some devices := by
  refine appendEach_isSome fun dcount inRange => ?_
  cases node : nodes dcount with
  | absent | noCapabilities => exact ⟨[], rfl⟩
  | capabilities videoCapture card bus_info driver =>
      cases videoCapture with
      | false => exact ⟨[], rfl⟩
      | true =>
          have capture : driver ∈ captureDrivers nodes :=
            List.mem_filterMap.2 ⟨dcount, inRange, by rw [node]; rfl⟩
          obtain ⟨entries, listed, -⟩ := device_modes_iff bpp (fractions driver capture)
          exact ⟨_, by rw [enumerateNode, listed, Option.map_some]⟩

/-- Every format recorded for a device denotes a mode of its driver. -/
def AllModes (nodes : Nat → Node) (devices : List PlatformDeviceInfo) : Prop :=
  List.Forall₂
    (fun driver device => ∀ entry ∈ device.m_formats, DenotesMode driver (modeRequest entry))
    (captureDrivers nodes) devices

/-- **Listed formats and modes.**  Whatever the drivers of the device nodes report, every format
recorded for a device denotes a mode of its driver exactly if the driver lists discrete positive
sizes only, each with exact rates. -/
theorem listed_modes_iff (bpp : UInt32) (nodes : Nat → Node)
    (fractions : ∀ driver ∈ captureDrivers nodes, driver.Fractions) :
    ∃ devices, enumerateDevices bpp nodes = some devices ∧
      (AllModes nodes devices ↔ ∀ driver ∈ captureDrivers nodes, RoundTrips driver) := by
  obtain ⟨devices, recorded⟩ := enumerateDevices_isSome bpp fractions
  refine ⟨devices, recorded, ?_⟩
  refine forall₂_iff (enumerateDevices_formats recorded) fun driver capture device listed => ?_
  obtain ⟨entries, listed', modes⟩ := device_modes_iff bpp (fractions driver capture)
  obtain rfl := Option.some.inj (listed.symm.trans listed')
  exact modes

/-! ## One camera -/

/-- A driver with one size and one interval. -/
def oneModeDriver (size : FrameSize) (interval : Fraction) : Driver where
  formats := [v4l2_fourcc 'Y' 'U' 'Y' 'V']
  frameSizes := fun _ => [size]
  frameIntervals := fun _ _ _ => [.discrete interval]

/-- Its camera at `/dev/video0`. -/
def oneModeNodes (size : FrameSize) (interval : Fraction) : Nat → Node
  | 0 => .capabilities true "camera" "usb-1" (oneModeDriver size interval)
  | _ => .absent

theorem captureDrivers_oneMode (size : FrameSize) (interval : Fraction) :
    captureDrivers (oneModeNodes size interval) = [oneModeDriver size interval] := rfl

theorem oneMode_fractions (size : FrameSize) {interval : Fraction} (fraction : interval.numerator ≠ 0) :
    ∀ driver ∈ captureDrivers (oneModeNodes size interval), driver.Fractions := by
  simpa [captureDrivers_oneMode, Driver.Fractions, Fractions, oneModeDriver] using fraction

theorem listed_modes_thirty :
    ∃ devices, enumerateDevices 0 (oneModeNodes (.discrete 640 480) ⟨1, 30⟩) = some devices ∧
      AllModes (oneModeNodes (.discrete 640 480) ⟨1, 30⟩) devices := by
  obtain ⟨devices, recorded, modes⟩ := listed_modes_iff 0
    (oneModeNodes (.discrete 640 480) ⟨1, 30⟩) (oneMode_fractions (.discrete 640 480) (by decide))
  refine ⟨devices, recorded, modes.2 ?_⟩
  rw [captureDrivers_oneMode, List.forall_mem_singleton]
  intro pixelformat format size reported
  obtain rfl := List.mem_singleton.1 reported
  refine ⟨640, 480, rfl, by decide, by decide, ⟨⟨1, 30⟩, List.mem_cons_self, by decide⟩, ?_⟩
  intro interval member _
  obtain rfl := FrameInterval.discrete.inj (List.mem_singleton.1 member)
  exact ⟨.discrete ⟨1, 30⟩, List.mem_cons_self, rfl⟩

/-- The list of that camera holds an entry that is no mode of it. -/
def ListsNoMode (size : FrameSize) (interval : Fraction) : Prop :=
  ∃ devices, enumerateDevices 0 (oneModeNodes size interval) = some devices ∧
    ¬ AllModes (oneModeNodes size interval) devices

theorem listsNoMode_of_entry (size : FrameSize) (interval : Fraction) (entry : CapFormatInfo)
    (fraction : interval.numerator ≠ 0)
    (listed : enumerateFormats 0 (oneModeDriver size interval) = some [entry])
    (noMode : ¬ DenotesMode (oneModeDriver size interval) (modeRequest entry)) :
    ListsNoMode size interval := by
  obtain ⟨devices, recorded⟩ := enumerateDevices_isSome 0 (oneMode_fractions size fraction)
  refine ⟨devices, recorded, fun modes => ?_⟩
  have formats := enumerateDevices_formats recorded
  rw [AllModes, captureDrivers_oneMode] at modes
  rw [captureDrivers_oneMode] at formats
  cases formats with
  | cons sameFormats rest =>
      obtain same := Option.some.inj (listed.symm.trans sameFormats)
      refine noMode ((List.forall₂_cons.1 modes).1 entry ?_)
      rw [← same]
      exact List.mem_cons_self

/-- A stepwise size is listed as 0 x 0; an interval of two seconds makes `open` ask for the
denominator 0; and 1001/30000 makes it ask for 1/29. -/
theorem listed_not_modes :
    ListsNoMode (.stepwise 16 1920 16 16 1080 16) ⟨1, 30⟩ ∧ ListsNoMode (.discrete 640 480) ⟨2, 1⟩ ∧
      ListsNoMode (.discrete 640 480) ⟨1001, 30000⟩ := by
  refine ⟨?_, ?_, ?_⟩
  · apply listsNoMode_of_entry _ _ ⟨0, 0, v4l2_fourcc 'Y' 'U' 'Y' 'V', 30, 0⟩ (by decide) rfl
    exact fun mode => absurd mode.width (by decide)
  · apply listsNoMode_of_entry _ _ ⟨640, 480, v4l2_fourcc 'Y' 'U' 'Y' 'V', 0, 0⟩ (by decide) rfl
    exact fun mode => absurd mode.denominator (by decide)
  · apply listsNoMode_of_entry _ _ ⟨640, 480, v4l2_fourcc 'Y' 'U' 'Y' 'V', 29, 0⟩ (by decide) rfl
    intro mode
    obtain ⟨ival, member, reports⟩ := mode.interval
    obtain rfl := List.mem_singleton.1 member
    simp only [FrameInterval.Reports, Fraction.value, modeRequest, UInt32.reduceToNat] at reports
    norm_num at reports

end OpenpnpCapture.Linux
