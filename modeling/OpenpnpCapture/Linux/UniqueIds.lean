/-
# Linux.UniqueIds — do the unique ids tell the devices apart?

The unique id of a device is the card text and the bus text of its node with a blank between.
Nothing is escaped and nothing else of the node goes in, so two capture nodes get one id when a
driver gives both the same texts, as for a camera with several capture nodes, and when the
blank can be read in two places (`uniqueID_eq_iff`).  `uniqueIDs_iff` is the exact condition.

A refresh deletes the devices, clears the list and enumerates again, so over unchanged hardware
it gives the same ids in the same order (`refreshDevices_ids`).
-/
import OpenpnpCapture.Linux.PlatformContext

namespace OpenpnpCapture.Linux

open OpenpnpCapture.Lib OpenpnpCapture.Common

set_option autoImplicit false

/-- `enumerateDevices` pushes what it finds to the back of `m_devices`. -/
def pushDevices (bpp : UInt32) (nodes : Nat → Node) (m_devices : List PlatformDeviceInfo) :
    Option (List PlatformDeviceInfo) :=
  (enumerateDevices bpp nodes).map fun found => m_devices ++ found

/-- `refreshDevices` deletes the devices there are and clears the list first. -/
def refreshDevices (bpp : UInt32) (nodes : Nat → Node) (_m_devices : List PlatformDeviceInfo) :
    Option (List PlatformDeviceInfo) :=
  pushDevices bpp nodes []

/-- The `m_uniqueID` strings of a device list. -/
def uniqueIDs (m_devices : List PlatformDeviceInfo) : List String :=
  m_devices.map PlatformDeviceInfo.m_uniqueID

/-- The `card` and `bus_info` a capture node answers. -/
def Node.answers? : Node → Option (String × String)
  | .capabilities true card bus_info _ => some (card, bus_info)
  | .absent | .noCapabilities | .capabilities false .. => none

/-- The id made of these answers. -/
def uniqueID (answers : String × String) : String :=
  answers.1 ++ " " ++ answers.2

/-- Two pairs of answers that run together: they are the same, or the bus of one begins with text
that stands at the end of the other's card. -/
def RunTogether (a b : String × String) : Prop :=
  a = b ∨ (∃ t, b.1 = a.1 ++ " " ++ t ∧ a.2 = t ++ " " ++ b.2) ∨
    ∃ t, a.1 = b.1 ++ " " ++ t ∧ b.2 = t ++ " " ++ a.2

/-! ## Texts joined by a separator -/

/-- Two texts around a separator are those of another pair, or the separator was read elsewhere. -/
theorem append_separator_eq_iff {α : Type} {a b c d : List α} {separator : α} :
    a ++ separator :: b = c ++ separator :: d ↔
      (a = c ∧ b = d) ∨ (∃ t, c = a ++ separator :: t ∧ b = t ++ separator :: d) ∨
        ∃ t, a = c ++ separator :: t ∧ d = t ++ separator :: b := by
  rw [List.append_eq_append_iff]
  constructor
  · rintro (⟨between, rfl, rest⟩ | ⟨between, rfl, rest⟩)
    · cases between with
      | nil => exact Or.inl ⟨(List.append_nil a).symm, (List.cons.inj rest).2⟩
      | cons first t =>
          obtain ⟨rfl, tail⟩ := List.cons.inj rest
          exact Or.inr (Or.inl ⟨t, rfl, tail⟩)
    · cases between with
      | nil => exact Or.inl ⟨List.append_nil c, (List.cons.inj rest).2.symm⟩
      | cons first t =>
          obtain ⟨rfl, tail⟩ := List.cons.inj rest
          exact Or.inr (Or.inr ⟨t, rfl, tail⟩)
  · rintro (⟨rfl, rfl⟩ | ⟨t, rfl, rfl⟩ | ⟨t, rfl, rfl⟩)
    · exact Or.inl ⟨[], (List.append_nil a).symm, rfl⟩
    · exact Or.inl ⟨separator :: t, rfl, rfl⟩
    · exact Or.inr ⟨separator :: t, rfl, rfl⟩

theorem toList_joined (a b : String) : (a ++ " " ++ b).toList = a.toList ++ ' ' :: b.toList := by
  simp

/-- The id is the same exactly if the answers run together. -/
theorem uniqueID_eq_iff (a b : String × String) : uniqueID a = uniqueID b ↔ RunTogether a b := by
  have asLists {s t : String} : s = t ↔ s.toList = t.toList := String.toList_inj.symm
  have asText {P : List Char → Prop} : (∃ t, P t) ↔ ∃ t : String, P t.toList :=
    ⟨fun ⟨t, holds⟩ => ⟨String.ofList t, by rwa [String.toList_ofList]⟩, fun ⟨t, holds⟩ => ⟨_, holds⟩⟩
  unfold uniqueID RunTogether
  rw [asLists, toList_joined, toList_joined, append_separator_eq_iff, asText, asText, Prod.ext_iff]
  simp only [asLists, toList_joined]

example : uniqueID ("HD camera", "usb-1") = uniqueID ("HD", "camera usb-1") := by decide

/-! ## The ids of a pass -/

theorem appendEach_isSome_congr {α β γ : Type} {f : α → Option (List β)} {g : α → Option (List γ)}
    (same : ∀ item, (f item).isSome = (g item).isSome) (items : List α) :
    (appendEach f items).isSome = (appendEach g items).isSome := by
  induction items with
  | nil => rfl
  | cons item rest ih =>
      have here := same item
      cases first : f item with
      | none =>
          rw [first, Option.isSome_none] at here
          have other : g item = none := Option.not_isSome_iff_eq_none.1 (by rw [← here]; nofun)
          simp only [appendEach, first, other, Option.isSome_none]
      | some found =>
          rw [first, Option.isSome_some] at here
          obtain ⟨foundToo, other⟩ := Option.isSome_iff_exists.1 here.symm
          simp only [appendEach, first, other, Option.isSome_map]
          exact ih

/-- What the uninitialised `bpp` holds does not decide whether the pass gets through. -/
theorem enumerateDevices_isSome_bpp (bpp bpp' : UInt32) (nodes : Nat → Node) :
    (enumerateDevices bpp nodes).isSome = (enumerateDevices bpp' nodes).isSome := by
  have formats (driver : Driver) :
      (enumerateFormats bpp driver).isSome = (enumerateFormats bpp' driver).isSome :=
    appendEach_isSome_congr (fun pixelformat => appendEach_isSome_congr
      (fun size => by simp only [sizeFormats, Option.isSome_map]) _) _
  refine appendEach_isSome_congr (fun dcount => ?_) _
  match nodes dcount with
  | .absent | .noCapabilities | .capabilities false .. => rfl
  | .capabilities true card bus_info driver =>
      simp only [enumerateNode, Option.isSome_map]
      exact formats driver

/-- The answers of the capture nodes, in the order in which a pass asks them. -/
def captureAnswers (nodes : Nat → Node) : List (String × String) :=
  (List.range maxDevices).filterMap fun dcount => (nodes dcount).answers?

/-- A pass records one id for each capture node. -/
theorem enumerateDevices_ids {bpp : UInt32} {nodes : Nat → Node} {devices : List PlatformDeviceInfo}
    (recorded : enumerateDevices bpp nodes = some devices) :
    uniqueIDs devices = (captureAnswers nodes).map uniqueID := by
  have each : List.Forall₂ (fun answers device => uniqueID answers = device.m_uniqueID)
      (captureAnswers nodes) devices := by
    refine appendEach_filterMap (fun dcount here given => ?_) recorded
    match node : nodes dcount with
    | .absent | .noCapabilities | .capabilities false .. =>
        rw [node] at given
        exact (Option.some.inj given).symm
    | .capabilities true card bus_info driver =>
        rw [node] at given
        obtain ⟨m_formats, -, rfl⟩ := Option.map_eq_some_iff.1 given
        exact ⟨_, rfl, rfl⟩
  have mapped := List.forall₂_map_left_iff.2 (List.forall₂_map_right_iff.2 each)
  rw [List.forall₂_eq_eq_eq] at mapped
  exact mapped.symm

theorem pushDevices_ids {bpp : UInt32} {nodes : Nat → Node} {before devices : List PlatformDeviceInfo}
    (recorded : pushDevices bpp nodes before = some devices) :
    uniqueIDs devices = uniqueIDs before ++ (captureAnswers nodes).map uniqueID := by
  obtain ⟨found, pass, rfl⟩ := Option.map_eq_some_iff.1 recorded
  rw [← enumerateDevices_ids pass]
  exact List.map_append

/-- Over unchanged hardware a refresh gives the ids of the first pass again, in their order. -/
theorem refreshDevices_ids {bpp : UInt32} {nodes : Nat → Node} {devices : List PlatformDeviceInfo}
    (recorded : pushDevices bpp nodes [] = some devices) (bpp' : UInt32) :
    ∃ refreshed, refreshDevices bpp' nodes devices = some refreshed ∧
      uniqueIDs refreshed = uniqueIDs devices := by
  have again : (pushDevices bpp' nodes []).isSome := by
    rw [pushDevices, Option.isSome_map, ← enumerateDevices_isSome_bpp bpp, ← Option.isSome_map,
      ← pushDevices, recorded, Option.isSome_some]
  obtain ⟨refreshed, second⟩ := Option.isSome_iff_exists.1 again
  refine ⟨refreshed, second, ?_⟩
  rw [pushDevices_ids second, pushDevices_ids recorded]

/-- The ids a pass records are pairwise distinct, and a refresh gives them again, exactly if the
answers of no two capture nodes run together. -/
theorem uniqueIDs_iff {bpp : UInt32} {nodes : Nat → Node} {devices : List PlatformDeviceInfo}
    (recorded : pushDevices bpp nodes [] = some devices) (bpp' : UInt32) :
    ((uniqueIDs devices).Nodup ∧
        ∃ refreshed, refreshDevices bpp' nodes devices = some refreshed ∧
          uniqueIDs refreshed = uniqueIDs devices) ↔
      ∀ i j, i < j → j < maxDevices → ∀ a b, (nodes i).answers? = some a →
        (nodes j).answers? = some b → ¬ RunTogether a b := by
  rw [and_iff_left (refreshDevices_ids recorded bpp'), pushDevices_ids recorded]
  show ((captureAnswers nodes).map uniqueID).Nodup ↔ _
  rw [captureAnswers, List.Nodup, List.pairwise_map, List.pairwise_filterMap,
    List.pairwise_iff_getElem]
  simp only [List.getElem_range, List.length_range, ne_eq, uniqueID_eq_iff]
  constructor
  · intro apart i j before bound a b first second
    exact apart i j (before.trans bound) bound before a first b second
  · intro apart i j _ bound before a first b second
    exact apart i j before bound a b first second

/-- Two cameras of one kind on different ports. -/
def twoCameras : Nat → Node
  | 0 => .capabilities true "camera" "usb-1" ⟨[], fun _ => [], fun _ _ _ => []⟩
  | 2 => .capabilities true "camera" "usb-2" ⟨[], fun _ => [], fun _ _ _ => []⟩
  | _ => .absent

theorem uniqueIDs_iff_two_cameras :
    ∃ devices, pushDevices 0 twoCameras [] = some devices ∧ (uniqueIDs devices).Nodup := by
  refine ⟨_, rfl, ((uniqueIDs_iff (rfl : pushDevices 0 twoCameras [] = some _) 0).2 ?_).1⟩
  intro i j before _ a b first second together
  have answers (n : Nat) (c : String × String) (given : (twoCameras n).answers? = some c) :
      (n = 0 ∧ c = ("camera", "usb-1")) ∨ (n = 2 ∧ c = ("camera", "usb-2")) := by
    match n with
    | 0 => exact Or.inl ⟨rfl, (Option.some.inj given).symm⟩
    | 2 => exact Or.inr ⟨rfl, (Option.some.inj given).symm⟩
    | 1 | _ + 3 => simp [twoCameras, Node.answers?] at given
  have same := (uniqueID_eq_iff a b).2 together
  obtain ⟨rfl, rfl⟩ | ⟨rfl, rfl⟩ := answers i a first <;>
    obtain ⟨rfl, rfl⟩ | ⟨rfl, rfl⟩ := answers j b second
  · exact absurd before (by decide)
  · exact absurd same (by decide)
  · exact absurd before (by decide)
  · exact absurd before (by decide)

/-- A stereo camera: both its capture nodes answer the same card and the same bus. -/
def stereoCamera : Nat → Node
  | 0 | 2 => .capabilities true "stereo" "usb-1" ⟨[], fun _ => [], fun _ _ _ => []⟩
  | _ => .absent

theorem uniqueIDs_stereo_camera :
    ∃ devices, pushDevices 0 stereoCamera [] = some devices ∧
      uniqueIDs devices = ["stereo usb-1", "stereo usb-1"] ∧ ¬ (uniqueIDs devices).Nodup :=
  ⟨_, rfl, rfl, by decide⟩

end OpenpnpCapture.Linux
