/-
# Linux.PlatformContext — enumerating V4L2 devices

`enumerateDevices` tries `/dev/video0` to `/dev/video63`; for every capture device it lists the
pixel formats, the frame sizes of each, and the integer frame rates of each size.  The answers
of the `VIDIOC_ENUM_…` calls are lists, each up to the first call that fails.

A frame rate is the quotient of two `uint32_t` and a zero numerator stops the program, so the
result is an `Option`.  `cinfo` is not initialised and its `bpp` never written: what the
memory held is an argument.
-/
import Mathlib.Data.List.Forall2
import OpenpnpCapture.Common.Context

namespace OpenpnpCapture.Linux

open OpenpnpCapture.Lib OpenpnpCapture.Common

set_option autoImplicit false

/-- `v4l2_fract`. -/
structure Fraction where
  numerator : UInt32
  denominator : UInt32
deriving DecidableEq, Repr

/-- `v4l2_frmsizeenum`. -/
inductive FrameSize
  | discrete (width height : UInt32)
  | continuous (min_width max_width min_height max_height : UInt32)
  | stepwise (min_width max_width step_width min_height max_height step_height : UInt32)
deriving DecidableEq, Repr

/-- `v4l2_frmivalenum`. -/
inductive FrameInterval
  | discrete (interval : Fraction)
  | continuous (min max : Fraction)
  | stepwise (min max step : Fraction)
deriving DecidableEq, Repr

/-- What a driver lists: pixel formats, the sizes of a format, the intervals of a format and size. -/
structure Driver where
  formats : List UInt32
  frameSizes : UInt32 → List FrameSize
  frameIntervals : UInt32 → UInt32 → UInt32 → List FrameInterval

/-- What happens at a device node. -/
inductive Node
  | absent
  | noCapabilities
  | capabilities (videoCapture : Bool) (card bus_info : String) (driver : Driver)

structure PlatformDeviceInfo extends DeviceInfo where
  m_name : String
  m_devicePath : String
  m_uniqueID : String
deriving DecidableEq, Repr

/-- A loop that appends what each item gives, until one of them gives nothing. -/
def appendEach {α β : Type} (f : α → Option (List β)) : List α → Option (List β)
  | [] => some []
  | item :: rest =>
      match f item with
      | none => none
      | some here => (appendEach f rest).map fun later => here ++ later

/-- `queryFrameSize`: the width and height of an entry. -/
def queryFrameSize : FrameSize → UInt32 × UInt32
  | .discrete width height => (width, height)
  | .continuous .. | .stepwise .. => (0, 0)

def enumerateFrameRates.loop : List FrameInterval → List UInt32 → Option (List UInt32)
  | [], fpsValues => some fpsValues
  | .discrete interval :: ivals, fpsValues =>
      if interval.numerator = 0 then none
      else
        let fps := interval.denominator / interval.numerator
        if fps > 0 ∧ fps ∉ fpsValues then loop ivals (fpsValues ++ [fps])
        else loop ivals fpsValues
  | .continuous .. :: ivals, fpsValues | .stepwise .. :: ivals, fpsValues => loop ivals fpsValues

def enumerateFrameRates (ivals : List FrameInterval) : Option (List UInt32) :=
  enumerateFrameRates.loop ivals []

/-- The entries of one frame size. -/
def sizeFormats (bpp : UInt32) (driver : Driver) (pixelformat : UInt32) (size : FrameSize) :
    Option (List CapFormatInfo) :=
  let cinfo := queryFrameSize size
  (enumerateFrameRates (driver.frameIntervals pixelformat cinfo.1 cinfo.2)).map fun fpsValues =>
    (if fpsValues = [] then [0] else fpsValues).map fun fps =>
      { width := cinfo.1, height := cinfo.2, fourcc := pixelformat, fps, bpp }

/-- The formats of one device. -/
def enumerateFormats (bpp : UInt32) (driver : Driver) : Option (List CapFormatInfo) :=
  appendEach (fun pixelformat =>
    appendEach (sizeFormats bpp driver pixelformat) (driver.frameSizes pixelformat)) driver.formats

def maxDevices : Nat := 64

/-- What one device node adds to `m_devices`. -/
def enumerateNode (bpp : UInt32) (dcount : Nat) : Node → Option (List PlatformDeviceInfo)
  | .absent | .noCapabilities | .capabilities false .. => some []
  | .capabilities true card bus_info driver =>
      (enumerateFormats bpp driver).map fun m_formats =>
        [{ m_formats
           m_name := card
           m_devicePath := "/dev/video" ++ toString dcount
           m_uniqueID := card ++ " " ++ bus_info }]

def enumerateDevices (bpp : UInt32) (nodes : Nat → Node) : Option (List PlatformDeviceInfo) :=
  appendEach (fun dcount => enumerateNode bpp dcount (nodes dcount)) (List.range maxDevices)

/-! ## What is listed -/

section AppendEach

variable {α β : Type} {f : α → Option (List β)}

theorem appendEach_isSome {items : List α} (all : ∀ item ∈ items, ∃ here, f item = some here) :
    ∃ out, appendEach f items = some out := by
  induction items with
  | nil => exact ⟨[], rfl⟩
  | cons item rest ih =>
      obtain ⟨here, given⟩ := all item List.mem_cons_self
      obtain ⟨later, collected⟩ := ih fun next member => all next (List.mem_cons_of_mem item member)
      exact ⟨here ++ later, by simp only [appendEach, given, collected, Option.map_some]⟩

theorem mem_appendEach {items : List α} {out : List β} (collected : appendEach f items = some out)
    {b : β} : b ∈ out ↔ ∃ item ∈ items, ∃ here, f item = some here ∧ b ∈ here := by
  induction items generalizing out with
  | nil =>
      obtain rfl := Option.some.inj collected
      simp
  | cons item rest ih =>
      cases given : f item with
      | none => simp [appendEach, given] at collected
      | some here =>
          simp only [appendEach, given] at collected
          obtain ⟨later, collectedLater, rfl⟩ := Option.map_eq_some_iff.1 collected
          simp [ih collectedLater, given]

end AppendEach

/-- Every discrete interval is a fraction. -/
def Fractions (ivals : List FrameInterval) : Prop :=
  ∀ interval, .discrete interval ∈ ivals → interval.numerator ≠ 0

/-- The quotient of a discrete interval. -/
def FrameInterval.rate? : FrameInterval → Option UInt32
  | .discrete interval => some (interval.denominator / interval.numerator)
  | .continuous .. | .stepwise .. => none

/-- The positive quotients of the discrete intervals, as they are seen. -/
def positiveRates (ivals : List FrameInterval) : List UInt32 :=
  (ivals.filterMap FrameInterval.rate?).filter fun fps => 0 < fps

/-- Each of them where it is first seen. -/
def distinctRates (ivals : List FrameInterval) : List UInt32 :=
  (positiveRates ivals).eraseDups

theorem positiveRates_discrete (interval : Fraction) (ivals : List FrameInterval) :
    positiveRates (.discrete interval :: ivals) =
      if 0 < interval.denominator / interval.numerator then
        interval.denominator / interval.numerator :: positiveRates ivals
      else positiveRates ivals := by
  simp only [positiveRates, FrameInterval.rate?, List.filterMap_cons, List.filter_cons,
    decide_eq_true_eq]

/-- The loop adds the rates it has not seen to those it has. -/
theorem loop_rates {ivals : List FrameInterval} (fractions : Fractions ivals)
    (fpsValues : List UInt32) :
    enumerateFrameRates.loop ivals fpsValues =
      some (fpsValues ++
        ((positiveRates ivals).filter fun fps => fps ∉ fpsValues).eraseDups) := by
  induction ivals generalizing fpsValues with
  | nil => simp [enumerateFrameRates.loop, positiveRates]
  | cons ival ivals ih =>
      have later : Fractions ivals := fun interval member =>
        fractions interval (List.mem_cons_of_mem _ member)
      cases ival with
      | continuous | stepwise => exact ih later fpsValues
      | discrete interval =>
          have nonzero := fractions interval List.mem_cons_self
          rw [enumerateFrameRates.loop, if_neg nonzero, positiveRates_discrete]
          generalize interval.denominator / interval.numerator = fps
          by_cases fresh : fps > 0 ∧ fps ∉ fpsValues
          · obtain ⟨positive, unseen⟩ := fresh
            simp only [gt_iff_lt, positive, unseen, not_false_eq_true, and_self, if_true,
              ih later, decide_true, List.filter_cons_of_pos, List.eraseDups_cons, List.filter_filter,
              List.append_assoc, List.singleton_append]
            congr 4
            apply List.filter_congr
            intro next _
            by_cases same : next = fps
            · simp [same]
            · simp [same]
          · rw [if_neg fresh, ih later]
            split
            · rename_i positive
              have seen : fps ∈ fpsValues := by
                by_contra unseen
                exact fresh ⟨positive, unseen⟩
              rw [List.filter_cons_of_neg (by simpa using seen)]
            · rfl

/-- The rates listed are the positive quotients of the discrete intervals. -/
theorem enumerateFrameRates_eq {ivals : List FrameInterval} (fractions : Fractions ivals) :
    enumerateFrameRates ivals = some (distinctRates ivals) := by
  rw [enumerateFrameRates, loop_rates fractions]
  simp [distinctRates]

theorem mem_distinctRates {ivals : List FrameInterval} {fps : UInt32} :
    fps ∈ distinctRates ivals ↔ 0 < fps ∧ ∃ interval, .discrete interval ∈ ivals ∧
      interval.denominator / interval.numerator = fps := by
  rw [distinctRates, List.mem_eraseDups, positiveRates, List.mem_filter, List.mem_filterMap,
    decide_eq_true_eq, and_comm]
  refine and_congr_right fun _ => ?_
  constructor
  · rintro ⟨ival, listed, rate⟩
    cases ival with
    | continuous | stepwise => cases rate
    | discrete interval => exact ⟨interval, listed, Option.some.inj rate⟩
  · rintro ⟨interval, listed, rate⟩
    exact ⟨_, listed, congrArg some rate⟩

theorem enumerateFrameRates_rates {ivals : List FrameInterval} (fractions : Fractions ivals) :
    ∃ rates, enumerateFrameRates ivals = some rates ∧
      ∀ fps, fps ∈ rates ↔ 0 < fps ∧ ∃ interval, .discrete interval ∈ ivals ∧
        interval.denominator / interval.numerator = fps :=
  ⟨_, enumerateFrameRates_eq fractions, fun _ => mem_distinctRates⟩

/-- A loop that appends at most one item each time gives them in order. -/
theorem appendEach_filterMap {α β γ : Type} {f : α → Option (List β)} {g : α → Option γ}
    {R : γ → β → Prop}
    (each : ∀ item here, f item = some here →
      match g item with
      | none => here = []
      | some c => ∃ b, here = [b] ∧ R c b)
    {items : List α} {out : List β} (collected : appendEach f items = some out) :
    List.Forall₂ R (items.filterMap g) out := by
  induction items generalizing out with
  | nil =>
      obtain rfl := Option.some.inj collected
      exact .nil
  | cons item rest ih =>
      cases given : f item with
      | none => simp [appendEach, given] at collected
      | some here =>
          simp only [appendEach, given] at collected
          obtain ⟨later, collectedLater, rfl⟩ := Option.map_eq_some_iff.1 collected
          have shape := each item here given
          cases kept : g item with
          | none =>
              rw [kept] at shape
              rw [List.filterMap_cons_none kept, shape]
              exact ih collectedLater
          | some c =>
              rw [kept] at shape
              obtain ⟨b, rfl, related⟩ := shape
              rw [List.filterMap_cons_some kept]
              exact .cons related (ih collectedLater)

/-- The driver behind a capture node. -/
def Node.driver? : Node → Option Driver
  | .capabilities true _ _ driver => some driver
  | .absent | .noCapabilities | .capabilities false .. => none

/-- The drivers of the devices recorded, in order. -/
def captureDrivers (nodes : Nat → Node) : List Driver :=
  (List.range maxDevices).filterMap fun dcount => (nodes dcount).driver?

/-- Each device recorded carries the formats of its driver. -/
theorem enumerateDevices_formats {bpp : UInt32} {nodes : Nat → Node}
    {devices : List PlatformDeviceInfo} (recorded : enumerateDevices bpp nodes = some devices) :
    List.Forall₂ (fun driver device => enumerateFormats bpp driver = some device.m_formats)
      (captureDrivers nodes) devices := by
  refine appendEach_filterMap (fun dcount here given => ?_) recorded
  cases node : nodes dcount with
  | absent | noCapabilities =>
      rw [node] at given
      exact (Option.some.inj given).symm
  | capabilities videoCapture card bus_info driver =>
      rw [node] at given
      cases videoCapture with
      | false => exact (Option.some.inj given).symm
      | true =>
          obtain ⟨m_formats, listed, rfl⟩ := Option.map_eq_some_iff.1 given
          exact ⟨_, rfl, listed⟩

end OpenpnpCapture.Linux
