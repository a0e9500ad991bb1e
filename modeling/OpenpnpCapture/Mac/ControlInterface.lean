/-
# Mac.ControlInterface — which camera a stream's controls belong to

`UVCCtrl::create` looks for the USB device of a camera among the services of IOKit, by the numbers
`enumerateDevices` recorded, and makes a control interface for it.

* `control_of_camera`: when the device it finds is the camera's own.  A camera with a location of
  eight digits is told from its likes by it; of the others it finds the first of the model.
* `out_create`: the objects a call leaves behind, whatever the calls answer.  The iterator over the
  interfaces is never released, the device interface only if there is no control interface, and the
  plug-in of an interface not if the service of the interface could not be released.

A call that fails makes nothing, and an object is released by the call that releases it, whatever
that call answers.
-/
import OpenpnpCapture.Lib.Lease
import OpenpnpCapture.Mac.PlatformContext

namespace OpenpnpCapture.Mac.IOKit

open OpenpnpCapture.Lib.Lease OpenpnpCapture.Lib.Text

set_option autoImplicit false

/-- A service of class `kIOUSBDeviceClassName`: whether a plug-in and a device interface can be made
for it, and what that reports. -/
structure UsbService where
  plugInInterface : Bool
  deviceInterface : Bool
  vendorID : UInt16
  productID : UInt16
  locationID : UInt32
deriving DecidableEq, Repr

/-- How the calls of `createControlInterface` end; `objectRelease` is whether `IOObjectRelease` of the
interface's service gives `kIOReturnSuccess`. -/
structure InterfaceAnswers where
  interfaceIterator : Bool
  usbInterface : Bool
  plugInInterface : Bool
  objectRelease : Bool
  controlInterface : Bool
deriving DecidableEq, Repr

/-- What is acquired and has to be released, by a stream and its `UVCCtrl`; the objects made for a
service have its number. -/
inductive Object
  | session
  /-- `lockForConfiguration`. -/
  | configuration
  | output
  | queue
  | captureDelegate
  | serviceIterator
  | device (i : Nat)
  | plugInInterface (i : Nat)
  | deviceInterface (i : Nat)
  | interfaceIterator
  | usbInterface
  | interfacePlugIn
  | controlInterface
deriving DecidableEq, Repr

/-- The service has the numbers; a location 0 is not compared. -/
def matchesDevice (vid pid : UInt16) (location : UInt32) (service : UsbService) : Bool :=
  let locationID := if location = 0 then 0 else service.locationID
  service.vendorID = vid && service.productID = pid && locationID = location

/-- The number of the service found, and what was acquired and released. -/
def findDevice.loop (vid pid : UInt16) (location : UInt32) :
    List UsbService → (i : Nat) → Option Nat × List (Event Object)
  | [], _ => (none, [.release .serviceIterator])
  | service :: rest, i =>
      let later := loop vid pid location rest (i + 1)
      if !service.plugInInterface then
        (later.1, [.acquire (.device i), .release (.device i)] ++ later.2)
      else if !service.deviceInterface then
        (later.1, [.acquire (.device i), .acquire (.plugInInterface i),
          .release (.plugInInterface i), .release (.device i)] ++ later.2)
      else if matchesDevice vid pid location service then
        (some i, [.acquire (.device i), .acquire (.plugInInterface i),
          .acquire (.deviceInterface i), .release (.plugInInterface i), .release (.device i),
          .release .serviceIterator])
      else
        (later.1, [.acquire (.device i), .acquire (.plugInInterface i),
          .acquire (.deviceInterface i), .release (.deviceInterface i),
          .release (.plugInInterface i), .release (.device i)] ++ later.2)

/-- `services` is `none` if `IOServiceGetMatchingServices` fails. -/
def findDevice (vid pid : UInt16) (location : UInt32) :
    (services : Option (List UsbService)) → Option Nat × List (Event Object)
  | none => (none, [])
  | some services =>
      let search := findDevice.loop vid pid location services 0
      (search.1, .acquire .serviceIterator :: search.2)

/-- The result of `IOObjectRelease` takes the place of that of the plug-in call: a missing plug-in is
told by its null pointer, and a plug-in that was made is forgotten if the release failed. -/
def createControlInterface (a : InterfaceAnswers) : Bool × List (Event Object) :=
  if !a.interfaceIterator then (false, [])
  else if !a.usbInterface then (false, [.acquire .interfaceIterator])
  else
    let log : List (Event Object) := [.acquire .interfaceIterator, .acquire .usbInterface] ++
      (if a.plugInInterface then [.acquire .interfacePlugIn] else []) ++ [.release .usbInterface]
    if !a.objectRelease || !a.plugInInterface then (false, log)
    else if !a.controlInterface then (false, log ++ [.release .interfacePlugIn])
    else (true, log ++ [.acquire .controlInterface, .release .interfacePlugIn])

/-- Whether there is a `UVCCtrl`, and what was acquired and released on the way. -/
def create (vid pid : UInt16) (location : UInt32) (services : Option (List UsbService))
    (a : InterfaceAnswers) : Bool × List (Event Object) :=
  match findDevice vid pid location services with
  | (none, log) => (false, log)
  | (some i, log) =>
      match createControlInterface a with
      | (true, made) => (true, log ++ made)
      | (false, made) => (false, log ++ made ++ [.release (.deviceInterface i)])

/-- `~UVCCtrl`. -/
def destroy : List (Event Object) := [.release .controlInterface]

/-! ## The service that is found -/

/-- A service of this vendor and product that an interface can be made for. -/
def Answers (vid pid : UInt16) (service : UsbService) : Prop :=
  service.plugInInterface = true ∧ service.deviceInterface = true ∧ service.vendorID = vid ∧
    service.productID = pid

/-- What the loop stops at. -/
def fits (vid pid : UInt16) (location : UInt32) (service : UsbService) : Bool :=
  service.plugInInterface && service.deviceInterface && matchesDevice vid pid location service

/-- The objects made for a service and released again. -/
def examined (service : UsbService) (i : Nat) : List (Event Object) :=
  if !service.plugInInterface then [.acquire (.device i), .release (.device i)]
  else if !service.deviceInterface then
    [.acquire (.device i), .acquire (.plugInInterface i), .release (.plugInInterface i),
      .release (.device i)]
  else
    [.acquire (.device i), .acquire (.plugInInterface i), .acquire (.deviceInterface i),
      .release (.deviceInterface i), .release (.plugInInterface i), .release (.device i)]

section Search

variable {vid pid : UInt16} {location : UInt32}

theorem findDevice.loop_cons (service : UsbService) (rest : List UsbService) (i : Nat) :
    loop vid pid location (service :: rest) i =
      if fits vid pid location service = true then
        (some i, [.acquire (.device i), .acquire (.plugInInterface i),
          .acquire (.deviceInterface i), .release (.plugInInterface i), .release (.device i),
          .release .serviceIterator])
      else
        ((loop vid pid location rest (i + 1)).1,
          examined service i ++ (loop vid pid location rest (i + 1)).2) := by
  rw [loop, fits, examined]
  cases service.plugInInterface <;> cases service.deviceInterface <;>
    cases matchesDevice vid pid location service <;> rfl

theorem fits_iff {service : UsbService} : fits vid pid location service = true ↔
    Answers vid pid service ∧ (location = 0 ∨ service.locationID = location) := by
  unfold fits matchesDevice Answers
  by_cases unknown : location = 0
  · simp [unknown, and_assoc]
  · simp [unknown, and_assoc]

theorem findDevice.loop_found (services : List UsbService) (i : Nat) :
    (loop vid pid location services i).1 =
      (services.findIdx? (fits vid pid location)).map (i + ·) := by
  induction services generalizing i with
  | nil => rfl
  | cons service rest ih =>
      rw [loop_cons, List.findIdx?_cons]
      by_cases here : fits vid pid location service = true
      · rw [if_pos here, if_pos here]
        rfl
      · rw [if_neg here, if_neg here, Option.map_map, ih]
        congr 1
        funext j
        simp only [Function.comp_apply]
        omega

/-- The first service that fits. -/
theorem findDevice_eq_some_iff {services : List UsbService} {k : Nat} :
    (findDevice vid pid location (some services)).1 = some k ↔
      (∃ service, services[k]? = some service ∧ fits vid pid location service = true) ∧
        ∀ j < k, ∀ service, services[j]? = some service →
          fits vid pid location service = false := by
  show (findDevice.loop vid pid location services 0).1 = some k ↔ _
  simp only [findDevice.loop_found, Nat.zero_add, Option.map_id_fun', id,
    List.findIdx?_eq_some_iff_getElem]
  constructor
  · rintro ⟨bound, here, before⟩
    refine ⟨⟨services[k], List.getElem?_eq_getElem bound, here⟩, fun j earlier service at_j => ?_⟩
    obtain ⟨inside, rfl⟩ := List.getElem?_eq_some_iff.1 at_j
    exact Bool.eq_false_iff.2 (before j earlier)
  · rintro ⟨⟨service, at_k, here⟩, before⟩
    obtain ⟨bound, rfl⟩ := List.getElem?_eq_some_iff.1 at_k
    refine ⟨bound, here, fun j earlier => ?_⟩
    have inside : j < services.length := by omega
    rw [before j earlier _ (List.getElem?_eq_getElem inside)]
    exact Bool.false_ne_true

/-- Where one fits, one is found. -/
theorem exists_findDevice {services : List UsbService} {k : Nat} {service : UsbService}
    (listed : services[k]? = some service) (fitting : fits vid pid location service = true) :
    ∃ j, (findDevice vid pid location (some services)).1 = some j := by
  show ∃ j, (findDevice.loop vid pid location services 0).1 = some j
  simp only [findDevice.loop_found, Nat.zero_add, Option.map_id_fun', id]
  refine Option.isSome_iff_exists.1 ?_
  rw [List.findIdx?_isSome]
  exact List.any_eq_true.2 ⟨service, List.mem_of_getElem? listed, fitting⟩

end Search

/-- **The controls of the camera itself.**  A camera is one of the services, interfaces can be made
for it, and AVFoundation writes its numbers into the strings of its device.  What is recorded from
them finds this service exactly if each earlier one of the same vendor and product that interfaces
can be made for stands elsewhere, and that can be told: the location was written with eight digits
and is not 0.  Otherwise it finds such an earlier one. -/
theorem control_of_camera (bpp : UInt32) {device : CaptureDevice} {model : UsbModel}
    {services : List UsbService} {k width : Nat} {camera : UsbService}
    (listed : services[k]? = some camera)
    (usable : camera.plugInInterface = true ∧ camera.deviceInterface = true)
    (modelID : device.modelID.toList = model.modelID camera.vendorID camera.productID)
    (uniqueID : device.uniqueID.toList =
      usbUniqueID width camera.locationID camera.vendorID camera.productID) :
    let info := recordDevice bpp device
    let found := (findDevice info.m_vid info.m_pid info.m_busLocation (some services)).1
    (found = some k ↔
      ∀ j < k, ∀ other, services[j]? = some other →
        Answers camera.vendorID camera.productID other →
          (width = 8 ∧ camera.locationID ≠ 0) ∧ other.locationID ≠ camera.locationID) ∧
      (found ≠ some k → ∃ j < k, found = some j ∧
        ∃ other, services[j]? = some other ∧ Answers camera.vendorID camera.productID other) := by
  intro info found
  obtain ⟨vendor, product, located⟩ := recordDevice_usb bpp modelID uniqueID
  have own : fits info.m_vid info.m_pid info.m_busLocation camera = true := by
    rw [fits_iff, vendor, product, located]
    refine ⟨⟨usable.1, usable.2, rfl, rfl⟩, ?_⟩
    split
    · exact .inr rfl
    · exact .inl rfl
  have passes : ∀ other, fits info.m_vid info.m_pid info.m_busLocation other = false ↔
      (Answers camera.vendorID camera.productID other →
        (width = 8 ∧ camera.locationID ≠ 0) ∧ other.locationID ≠ camera.locationID) := by
    intro other
    rw [Bool.eq_false_iff, ne_eq, fits_iff, vendor, product, located, not_and, not_or]
    refine imp_congr_right fun _ => ?_
    by_cases eight : width = 8
    · simp [eight]
    · simp [eight]
  constructor
  · rw [findDevice_eq_some_iff]
    simp only [passes]
    exact ⟨fun first => first.2, fun before => ⟨⟨camera, listed, own⟩, before⟩⟩
  · intro another
    obtain ⟨j, first⟩ := exists_findDevice listed own
    obtain ⟨⟨other, there, fitting⟩, before⟩ := findDevice_eq_some_iff.1 first
    obtain ⟨answers, -⟩ := fits_iff.1 fitting
    rw [vendor, product] at answers
    refine ⟨j, Nat.lt_of_le_of_ne (Nat.le_of_not_lt fun later => ?_) fun same => ?_, first, other,
      there, answers⟩
    · rw [before k later camera listed] at own
      cases own
    · exact another (same ▸ first)

theorem space_stops : ∀ next ∈ [' '].head?, next.isDigit = false := by
  intro next first
  rw [← Option.some.inj first]
  rfl

/-- Two cameras of one model, told apart by where they are. -/
theorem control_of_second_camera :
    let near : UsbService := ⟨true, true, 0x046d, 0x0825, 0x14200000⟩
    let far : UsbService := ⟨true, true, 0x046d, 0x0825, 0x26210000⟩
    let info := recordDevice 0 ⟨"HD", "Maker", "0x26210000046d0825",
      "UVC Camera VendorID_1133 ProductID_2085", []⟩
    (findDevice info.m_vid info.m_pid info.m_busLocation (some [near, far])).1 = some 1 := by
  intro near far info
  let model : UsbModel :=
    ⟨"UVC Camera ".toList, [' '], [], by decide, by decide, space_stops, nofun⟩
  have modelID : "UVC Camera VendorID_1133 ProductID_2085".toList =
      model.modelID far.vendorID far.productID := by decide
  have uniqueID : "0x26210000046d0825".toList =
      usbUniqueID 8 far.locationID far.vendorID far.productID := by decide
  refine (control_of_camera (k := 1) 0 rfl ⟨rfl, rfl⟩ modelID uniqueID).1.2 ?_
  rintro j earlier other listed -
  obtain rfl : j = 0 := by omega
  obtain rfl := Option.some.inj listed
  exact ⟨⟨rfl, by decide⟩, by decide⟩

/-! ## What a call leaves behind -/

/-- A control interface is made. -/
def InterfaceAnswers.all (a : InterfaceAnswers) : Bool :=
  a.interfaceIterator && a.usbInterface && a.plugInInterface && a.objectRelease && a.controlInterface

/-- What `createControlInterface` leaves. -/
def kept (a : InterfaceAnswers) : List Object :=
  if !a.interfaceIterator then []
  else if a.all then [.interfaceIterator, .controlInterface]
  else if a.usbInterface && a.plugInInterface && !a.objectRelease then
    [.interfaceIterator, .interfacePlugIn]
  else [.interfaceIterator]

/-- What `create` leaves, when it finds this service. -/
def remains (found : Option Nat) (a : InterfaceAnswers) : List Object :=
  match found with
  | none => []
  | some i => if a.all then .deviceInterface i :: kept a else kept a

section Leavings

variable {vid pid : UInt16} {location : UInt32}

theorem createControlInterface_fst (a : InterfaceAnswers) :
    (createControlInterface a).1 = a.all := by
  obtain ⟨interfaceIterator, usbInterface, plugInInterface, objectRelease, controlInterface⟩ := a
  cases interfaceIterator <;> cases usbInterface <;> cases plugInInterface <;>
    cases objectRelease <;> cases controlInterface <;> rfl

theorem out_createControlInterface (a : InterfaceAnswers) :
    Out (createControlInterface a).2 (kept a) := by
  obtain ⟨interfaceIterator, usbInterface, plugInInterface, objectRelease, controlInterface⟩ := a
  intro k
  cases interfaceIterator <;> cases usbInterface <;> cases plugInInterface <;>
    cases objectRelease <;> cases controlInterface <;> cases k <;> rfl

theorem clean_examined (service : UsbService) (i : Nat) : Clean (examined service i) := by
  unfold examined
  have plugged : Clean [Event.acquire (Object.plugInInterface i), .release (.plugInInterface i)] :=
    clean_pair _
  have interfaced : Clean [Event.acquire (Object.plugInInterface i), .acquire (.deviceInterface i),
      .release (.deviceInterface i), .release (.plugInInterface i)] :=
    (clean_pair (Object.deviceInterface i)).around fun e member => by
      rcases List.mem_pair.1 member with rfl | rfl <;> exact nofun
  split
  · exact clean_pair _
  · split
    · exact plugged.around fun e member => by
        rcases List.mem_pair.1 member with rfl | rfl <;> exact nofun
    · refine interfaced.around fun e member => ?_
      simp only [List.mem_cons, List.not_mem_nil, or_false] at member
      rcases member with rfl | rfl | rfl | rfl <;> exact nofun

theorem key_examined (service : UsbService) (i : Nat) : ∀ e ∈ examined service i,
    e.key ∈ [Object.device i, .plugInInterface i, .deviceInterface i] := by
  unfold examined
  cases service.plugInInterface <;> cases service.deviceInterface <;> simp [Event.key]

/-- The search keeps the device interface it returns and nothing else. -/
theorem findDevice.out_loop (services : List UsbService) (i : Nat) {log : List (Event Object)}
    (out : Out log [.serviceIterator]) :
    Out (log ++ (loop vid pid location services i).2)
      ((loop vid pid location services i).1.toList.map .deviceInterface) := by
  induction services generalizing log i with
  | nil => exact out.release (List.nodup_singleton _) List.mem_cons_self
  | cons service rest ih =>
      rw [loop_cons]
      split
      · have opened := ((out.acquire (k := .device i) (by simp)).acquire
          (k := .plugInInterface i) (by simp)).acquire (k := .deviceInterface i) (by simp)
        have closed := ((opened.release (k := .plugInInterface i) (by simp) (by simp)).release
          (k := .device i) (by simp) (by simp)).release (k := .serviceIterator) (by simp) (by simp)
        simpa using closed
      · have after : Out (log ++ examined service i) ([.serviceIterator] ++ []) :=
          out.append (out_nil_iff.2 (clean_examined service i)) fun e member listed => by
            have other := key_examined service i e member
            rw [List.mem_singleton.1 listed] at other
            simp at other
        rw [← List.append_assoc]
        exact ih (i + 1) after

theorem out_findDevice (services : Option (List UsbService)) :
    Out (findDevice vid pid location services).2
      ((findDevice vid pid location services).1.toList.map .deviceInterface) := by
  cases services with
  | none => exact out_nil
  | some services => exact findDevice.out_loop services 0 (out_nil.acquire List.not_mem_nil)

theorem key_createControlInterface (a : InterfaceAnswers) :
    ∀ e ∈ (createControlInterface a).2,
      e.key ∈ [Object.interfaceIterator, .usbInterface, .interfacePlugIn, .controlInterface] := by
  obtain ⟨interfaceIterator, usbInterface, plugInInterface, objectRelease, controlInterface⟩ := a
  cases interfaceIterator <;> cases usbInterface <;> cases plugInInterface <;>
    cases objectRelease <;> cases controlInterface <;> decide

theorem nodup_kept (a : InterfaceAnswers) (i : Nat) : (.deviceInterface i :: kept a).Nodup := by
  unfold kept
  split
  · simp
  · split
    · simp
    · split <;> simp

/-- **What a call leaves behind.** -/
theorem out_create (services : Option (List UsbService)) (a : InterfaceAnswers) :
    Out (create vid pid location services a).2
      (remains (findDevice vid pid location services).1 a) := by
  have searched := @out_findDevice vid pid location services
  unfold create
  split
  · rename_i log same
    rw [same] at searched ⊢
    exact searched
  · rename_i i log same
    rw [same] at searched ⊢
    have made : Out (log ++ (createControlInterface a).2) (.deviceInterface i :: kept a) := by
      refine searched.append (out_createControlInterface a) fun e member listed => ?_
      have other := key_createControlInterface a e member
      rw [List.mem_singleton.1 listed] at other
      simp at other
    have result := createControlInterface_fst a
    split
    · rename_i made_ answered
      rw [answered] at made result
      rw [remains, ← result]
      exact made
    · rename_i made_ answered
      rw [answered] at made result
      have released := made.release (nodup_kept a i) List.mem_cons_self
      rw [List.erase_cons_head] at released
      rw [remains, ← result]
      exact released

theorem create_fst (services : Option (List UsbService)) (a : InterfaceAnswers) :
    (create vid pid location services a).1 =
      ((findDevice vid pid location services).1.isSome && a.all) := by
  have result := createControlInterface_fst a
  unfold create
  split
  · rename_i log same
    rw [same]
    rfl
  · rename_i i log same
    rw [same]
    split <;> rename_i answered <;> rw [answered] at result <;> simp [← result]

/-- The objects of IOKit. -/
def Object.usb : Object → Bool
  | .session | .configuration | .output | .queue | .captureDelegate => false
  | _ => true

theorem findDevice.usb_loop (services : List UsbService) (i : Nat) :
    ∀ e ∈ (loop vid pid location services i).2, e.key.usb = true := by
  induction services generalizing i with
  | nil => simp [loop, Event.key, Object.usb]
  | cons service rest ih =>
      intro e member
      rw [loop_cons] at member
      split at member
      · revert e
        simp [Event.key, Object.usb]
      · rcases List.mem_append.1 member with here | later
        · have made := key_examined service i e here
          simp only [List.mem_cons, List.not_mem_nil, or_false] at made
          rcases made with same | same | same <;> rw [same] <;> rfl
        · exact ih (i + 1) e later

/-- A call does not touch what is not of IOKit. -/
theorem usb_create (services : Option (List UsbService)) (a : InterfaceAnswers) :
    ∀ e ∈ (create vid pid location services a).2, e.key.usb = true := by
  have searched : ∀ e ∈ (findDevice vid pid location services).2, e.key.usb = true := by
    cases services with
    | none => exact fun e member => absurd member List.not_mem_nil
    | some services =>
        intro e member
        rcases List.mem_cons.1 member with rfl | later
        · rfl
        · exact findDevice.usb_loop services 0 e later
  have made : ∀ e ∈ (createControlInterface a).2, e.key.usb = true := by
    intro e member
    have keys := key_createControlInterface a e member
    simp only [List.mem_cons, List.not_mem_nil, or_false] at keys
    rcases keys with same | same | same | same <;> rw [same] <;> rfl
  intro e member
  unfold create at member
  split at member
  · rename_i log same
    rw [same] at searched
    exact searched e member
  · rename_i i log same
    rw [same] at searched
    split at member <;> rename_i log' answered <;> rw [answered] at made
    · rcases List.mem_append.1 member with here | here
      · exact searched e here
      · exact made e here
    · rcases List.mem_append.1 member with here | here
      · rcases List.mem_append.1 here with here | here
        · exact searched e here
        · exact made e here
      · rw [List.mem_singleton.1 here]
        rfl

end Leavings

end OpenpnpCapture.Mac.IOKit
