/-
# Linux.FormatBlocks — the rates of a size, the formats of a device

`enumerateFrameRates` divides by a numerator the driver chose.  It returns, and then the distinct
positive rates in the order they are first seen, exactly if no discrete interval has the
numerator 0 (`enumerateFrameRates_iff`).

Around it run the loops over the sizes and the pixel formats.  On a driver that lists discrete
sizes and proper fractions they record one block for each pixel format and size, in the driver's
order (`enumerateDevices_blocks`).  `getNumFormats` counts the entries in an `int32_t`.
-/
import OpenpnpCapture.Linux.PlatformContext

namespace OpenpnpCapture.Linux

open OpenpnpCapture.Lib OpenpnpCapture.Common

set_option autoImplicit false

/-! ## The rates of a size -/

/-- A numerator of 0 is divided by, wherever it stands in the list. -/
theorem loop_divides_by_zero {ivals : List FrameInterval} (improper : ¬ Fractions ivals)
    (fpsValues : List UInt32) : enumerateFrameRates.loop ivals fpsValues = none := by
  induction ivals generalizing fpsValues with
  | nil => exact absurd (fun _ member => nomatch member) improper
  | cons ival ivals ih =>
      cases ival with
      | continuous | stepwise =>
          refine ih (fun later => improper fun interval member => ?_) fpsValues
          exact later interval ((List.mem_cons.1 member).resolve_left (by rintro ⟨⟩))
      | discrete interval =>
          rw [enumerateFrameRates.loop]
          split
          · rfl
          · rename_i nonzero
            have improperLater : ¬ Fractions ivals := by
              intro later
              refine improper fun other member => ?_
              rcases List.mem_cons.1 member with same | inRest
              · obtain rfl := FrameInterval.discrete.inj same
                exact nonzero
              · exact later other inRest
            simp only
            split
            · exact ih improperLater _
            · exact ih improperLater _

/-- **When the rates are enumerated.**  The function returns the distinct positive rates, in order of
first occurrence, exactly if no discrete interval has the numerator 0. -/
theorem enumerateFrameRates_iff (ivals : List FrameInterval) :
    enumerateFrameRates ivals = some (distinctRates ivals) ↔
      ∀ interval, .discrete interval ∈ ivals → interval.numerator ≠ 0 := by
  constructor
  · intro returns
    by_contra improper
    rw [enumerateFrameRates, loop_divides_by_zero improper] at returns
    cases returns
  · exact enumerateFrameRates_eq

/-- An interval of 0/30 s between two proper ones. -/
theorem enumerateFrameRates_zero_numerator :
    enumerateFrameRates [.discrete ⟨1, 30⟩, .discrete ⟨0, 30⟩, .discrete ⟨1, 15⟩] = none ∧
      enumerateFrameRates [.discrete ⟨1, 30⟩, .discrete ⟨0, 30⟩, .discrete ⟨1, 15⟩] ≠
        some (distinctRates [.discrete ⟨1, 30⟩, .discrete ⟨0, 30⟩, .discrete ⟨1, 15⟩]) := by
  decide

/-! ## The formats of a device -/

/-- The sizes and intervals a driver lists are discrete, and the intervals proper fractions. -/
structure DiscreteTree (driver : Driver) : Prop where
  sizes : ∀ pixelformat ∈ driver.formats, ∀ size ∈ driver.frameSizes pixelformat,
    ∃ width height, size = .discrete width height
  intervals : ∀ pixelformat ∈ driver.formats, ∀ width height,
    .discrete width height ∈ driver.frameSizes pixelformat →
      ∀ ival ∈ driver.frameIntervals pixelformat width height,
        ∃ interval, ival = .discrete interval ∧ interval.numerator ≠ 0

/-- A pixel format and size with each of its rates, or with the rate 0 if it has none. -/
def formatBlock (bpp : UInt32) (driver : Driver) (pixelformat : UInt32) :
    FrameSize → List CapFormatInfo
  | .discrete width height =>
      let rates := distinctRates (driver.frameIntervals pixelformat width height)
      (if rates = [] then [0] else rates).map fun fps =>
        { width, height, fourcc := pixelformat, fps, bpp }
  | .continuous .. | .stepwise .. => []

/-- One block for each pixel format and size, in the driver's order. -/
def formatBlocks (bpp : UInt32) (driver : Driver) : List (List CapFormatInfo) :=
  driver.formats.flatMap fun pixelformat =>
    (driver.frameSizes pixelformat).map (formatBlock bpp driver pixelformat)

theorem appendEach_eq {α β : Type} {f : α → Option (List β)} {g : α → List β} {items : List α}
    (each : ∀ item ∈ items, f item = some (g item)) :
    appendEach f items = some (items.flatMap g) := by
  induction items with
  | nil => rfl
  | cons item rest ih =>
      rw [appendEach, each item List.mem_cons_self,
        ih fun next member => each next (List.mem_cons_of_mem item member)]
      rfl

section Formats

variable {bpp : UInt32} {driver : Driver}

theorem sizeFormats_eq (tree : DiscreteTree driver) {pixelformat : UInt32}
    (listed : pixelformat ∈ driver.formats) {size : FrameSize}
    (sized : size ∈ driver.frameSizes pixelformat) :
    sizeFormats bpp driver pixelformat size = some (formatBlock bpp driver pixelformat size) := by
  obtain ⟨width, height, rfl⟩ := tree.sizes pixelformat listed size sized
  have fractions : Fractions (driver.frameIntervals pixelformat width height) := by
    intro interval member
    obtain ⟨_, same, nonzero⟩ := tree.intervals pixelformat listed width height sized _ member
    obtain rfl := FrameInterval.discrete.inj same
    exact nonzero
  simp only [sizeFormats, queryFrameSize, enumerateFrameRates_eq fractions, Option.map_some,
    formatBlock]

/-- No size is lost. -/
theorem formatBlock_ne_nil (tree : DiscreteTree driver) {block : List CapFormatInfo}
    (recorded : block ∈ formatBlocks bpp driver) : block ≠ [] := by
  obtain ⟨pixelformat, listed, inFormat⟩ := List.mem_flatMap.1 recorded
  obtain ⟨size, sized, rfl⟩ := List.mem_map.1 inFormat
  obtain ⟨width, height, rfl⟩ := tree.sizes pixelformat listed size sized
  rw [formatBlock, ne_eq, List.map_eq_nil_iff]
  split
  · exact List.cons_ne_nil _ _
  · assumption

/-- The three loops record the blocks one behind the other. -/
theorem enumerateFormats_eq (tree : DiscreteTree driver) :
    enumerateFormats bpp driver = some (formatBlocks bpp driver).flatten := by
  have perFormat (pixelformat : UInt32) (listed : pixelformat ∈ driver.formats) :
      appendEach (sizeFormats bpp driver pixelformat) (driver.frameSizes pixelformat) =
        some ((driver.frameSizes pixelformat).flatMap (formatBlock bpp driver pixelformat)) :=
    appendEach_eq fun _ sized => sizeFormats_eq tree listed sized
  rw [enumerateFormats, appendEach_eq perFormat, formatBlocks]
  simp only [List.flatMap_def, List.flatten_flatten, List.map_map]
  rfl

theorem enumerateDevices_returns {nodes : Nat → Node}
    (trees : ∀ driver ∈ captureDrivers nodes, DiscreteTree driver) :
    ∃ devices, enumerateDevices bpp nodes = some devices := by
  refine appendEach_isSome fun dcount inRange => ?_
  cases node : nodes dcount with
  | absent | noCapabilities => exact ⟨[], rfl⟩
  | capabilities videoCapture card bus_info driver =>
      cases videoCapture with
      | false => exact ⟨[], rfl⟩
      | true =>
          have listed : driver ∈ captureDrivers nodes :=
            List.mem_filterMap.2 ⟨dcount, inRange, by rw [node]; rfl⟩
          exact ⟨_, congrArg (Option.map _) (enumerateFormats_eq (trees driver listed))⟩

end Formats

/-- A count in an `int32_t` is the count itself while that is below `2^31`. -/
theorem int32_count_iff (n : Nat) : int32 n = n ↔ n < 2 ^ 31 := by
  constructor
  · intro same
    have bound : int32 n < 2 ^ 31 := by
      have below := Int.bmod_lt (x := n) (m := 2 ^ 32) (by decide)
      rw [int32]
      omega
    omega
  · intro small
    exact int32_of_bounds (by omega) (by omega)

/-- The count of the entries of a device that carries these blocks. -/
theorem getNumFormats_eq {c : Context} {index : UInt32} {device : DeviceInfo}
    (held : c.m_devices[index.toNat]? = some device) {blocks : List (List CapFormatInfo)}
    (recorded : device.m_formats = blocks.flatten) :
    c.getNumFormats index = int32 ((blocks.map List.length).sum : Nat) := by
  simp only [Context.getNumFormats, held, recorded, List.length_flatten]

/-- What a capture device carries. -/
theorem device_formats {bpp : UInt32} {nodes : Nat → Node} {devices : List PlatformDeviceInfo}
    (recorded : enumerateDevices bpp nodes = some devices) {index : Nat} {driver : Driver}
    (here : (captureDrivers nodes)[index]? = some driver) (tree : DiscreteTree driver) :
    ∃ device, devices[index]? = some device ∧
      device.m_formats = (formatBlocks bpp driver).flatten := by
  obtain ⟨sameLength, each⟩ := List.forall₂_iff_get.1 (enumerateDevices_formats recorded)
  obtain ⟨inside, rfl⟩ := List.getElem?_eq_some_iff.1 here
  have inDevices : index < devices.length := by omega
  have listed := each index inside inDevices
  rw [List.get_eq_getElem, List.get_eq_getElem, enumerateFormats_eq tree] at listed
  exact ⟨devices[index], List.getElem?_eq_getElem inDevices, (Option.some.inj listed).symm⟩

theorem getNumFormats_recorded {c : Context} {devices : List PlatformDeviceInfo}
    (held : c.m_devices = devices.map PlatformDeviceInfo.toDeviceInfo) {index : UInt32}
    {device : PlatformDeviceInfo} (there : devices[index.toNat]? = some device)
    {blocks : List (List CapFormatInfo)} (recorded : device.m_formats = blocks.flatten) :
    c.getNumFormats index = int32 ((blocks.map List.length).sum : Nat) := by
  have heldDevice : c.m_devices[index.toNat]? = some device.toDeviceInfo := by
    rw [held, List.getElem?_map, there]
    rfl
  exact getNumFormats_eq heldDevice recorded

/-- **The formats of a device.**  On discrete sizes and proper fractions the enumeration comes to an
end; and each capture device then carries one nonempty block for each pixel format and size its
driver lists, in order.  `getNumFormats` is the sum of the lengths of the blocks as an `int32_t`,
and that sum while it is below `2^31`. -/
theorem enumerateDevices_blocks (bpp : UInt32) (nodes : Nat → Node) :
    ((∀ driver ∈ captureDrivers nodes, DiscreteTree driver) →
        ∃ devices, enumerateDevices bpp nodes = some devices) ∧
      ∀ devices, enumerateDevices bpp nodes = some devices →
        ∀ (index : UInt32) (driver : Driver), (captureDrivers nodes)[index.toNat]? = some driver →
          DiscreteTree driver →
            ∃ device, devices[index.toNat]? = some device ∧
              device.m_formats = (formatBlocks bpp driver).flatten ∧
              (∀ block ∈ formatBlocks bpp driver, block ≠ []) ∧
              ∀ c : Context, c.m_devices = devices.map PlatformDeviceInfo.toDeviceInfo →
                c.getNumFormats index =
                    int32 (((formatBlocks bpp driver).map List.length).sum : Nat) ∧
                  (c.getNumFormats index = (((formatBlocks bpp driver).map List.length).sum : Nat) ↔
                    ((formatBlocks bpp driver).map List.length).sum < 2 ^ 31) := by
  refine ⟨enumerateDevices_returns, fun devices recorded index driver here tree => ?_⟩
  obtain ⟨device, there, carried⟩ := device_formats recorded here tree
  refine ⟨device, there, carried, fun _ => formatBlock_ne_nil tree, fun c held => ?_⟩
  have counted := getNumFormats_recorded held there carried
  refine ⟨counted, ?_⟩
  rw [counted]
  exact int32_count_iff _

/-- A driver with `n` sizes and no rates. -/
def sizesOnly (n : Nat) : Driver where
  formats := [0x56595559]
  frameSizes _ := List.replicate n (.discrete 1 1)
  frameIntervals _ _ _ := []

theorem sizesOnly_tree (n : Nat) : DiscreteTree (sizesOnly n) where
  sizes := fun _ _ _ sized => ⟨1, 1, List.eq_of_mem_replicate sized⟩
  intervals := fun _ _ _ _ _ _ member => nomatch member

theorem sizesOnly_blocks (bpp : UInt32) (n : Nat) :
    formatBlocks bpp (sizesOnly n) = List.replicate n [⟨1, 1, 0x56595559, 0, bpp⟩] := by
  simp only [formatBlocks, sizesOnly, List.flatMap_singleton, List.map_replicate]
  rfl

/-- The only device is `/dev/video0`. -/
def onlyNode (driver : Driver) : Nat → Node
  | 0 => .capabilities true "camera" "usb-1" driver
  | _ => .absent

theorem captureDrivers_onlyNode (driver : Driver) : captureDrivers (onlyNode driver) = [driver] :=
  rfl

theorem onlyNode_trees {driver : Driver} (tree : DiscreteTree driver) :
    ∀ other ∈ captureDrivers (onlyNode driver), DiscreteTree other := by
  intro other listed
  obtain rfl := List.mem_singleton.1 listed
  exact tree

/-- A device with 2^31 sizes has a negative number of formats. -/
theorem getNumFormats_wraps :
    ¬ ∀ (bpp : UInt32) (nodes : Nat → Node) (devices : List PlatformDeviceInfo) (index : UInt32)
      (driver : Driver) (c : Context), enumerateDevices bpp nodes = some devices →
        (captureDrivers nodes)[index.toNat]? = some driver → DiscreteTree driver →
          c.m_devices = devices.map PlatformDeviceInfo.toDeviceInfo →
            c.getNumFormats index = (((formatBlocks bpp driver).map List.length).sum : Nat) := by
  intro sums
  have tree := sizesOnly_tree (2 ^ 31)
  have here : (captureDrivers (onlyNode (sizesOnly (2 ^ 31))))[UInt32.toNat 0]? =
      some (sizesOnly (2 ^ 31)) := by rw [captureDrivers_onlyNode]; rfl
  obtain ⟨devices, recorded⟩ := @enumerateDevices_returns 0 _ (onlyNode_trees tree)
  obtain ⟨device, there, carried⟩ := device_formats recorded here tree
  have counted := sums 0 _ devices 0 _ (.fresh (devices.map PlatformDeviceInfo.toDeviceInfo)) recorded
    here tree rfl
  rw [getNumFormats_recorded rfl there carried, sizesOnly_blocks, List.map_replicate,
    List.sum_replicate, int32_count_iff] at counted
  exact absurd counted (by decide)

theorem enumerateDevices_one_size :
    ∃ devices device, enumerateDevices 24 (onlyNode (sizesOnly 1)) = some devices ∧
      devices[0]? = some device ∧ device.m_formats = [⟨1, 1, 0x56595559, 0, 24⟩] := by
  obtain ⟨returns, records⟩ := enumerateDevices_blocks 24 (onlyNode (sizesOnly 1))
  obtain ⟨devices, recorded⟩ := returns (onlyNode_trees (sizesOnly_tree 1))
  obtain ⟨device, there, formats, -⟩ := records devices recorded 0 (sizesOnly 1) rfl (sizesOnly_tree 1)
  exact ⟨devices, device, recorded, there, formats⟩

end OpenpnpCapture.Linux
