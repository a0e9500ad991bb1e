/-
# Mac.PropertyStore — a property reads back what it was set to

A camera as `UVCCtrl` uses it is a store: for each control, addressed by unit and selector, a value
of as many bytes as the control has, or nothing if the control is not there (`Device`).  A property
is then one place of the store (`address`), and no two properties share one as long as the
processing unit has another id than the input terminal (`address_inj`): the selectors alone would
collide.

A value goes out as its low bytes and comes back sign-extended, so what is read is the value set
modulo a power of 256 (`wrapped`), and a value between the limits of the property is read as it
is.  `reading_run` says it for any sequence of calls.
-/
import Mathlib.Logic.Function.Basic
import OpenpnpCapture.Mac.UvcControls

namespace OpenpnpCapture.Mac.UVCCtrl

open OpenpnpCapture.Lib

set_option autoImplicit false

/-! ## Places of the store -/

structure Address where
  unit : UInt8
  selector : UInt8
deriving DecidableEq, Repr

/-- The unit and the selector are the high bytes. -/
def IOUSBDevRequest.address (req : IOUSBDevRequest) : Address :=
  ⟨(req.wIndex >>> 8).toUInt8, (req.wValue >>> 8).toUInt8⟩

theorem highByte (n : UInt32) : ((n <<< 8).toUInt16 >>> 8).toUInt8 = n.toUInt8 := by
  apply UInt8.toNat_inj.1
  simp [Nat.shiftLeft_eq, Nat.shiftRight_eq_div_pow]
  omega

theorem address_classRequest (direction bRequest : UInt8) (selector unit length : UInt32)
    (pData : Bytes) :
    (classRequest direction bRequest selector unit length pData).address =
      ⟨unit.toUInt8, selector.toUInt8⟩ := by
  simp only [IOUSBDevRequest.address, classRequest, highByte]

@[simp] theorem classRequest_pData (direction bRequest : UInt8) (selector unit length : UInt32)
    (pData : Bytes) : (classRequest direction bRequest selector unit length pData).pData = pData :=
  rfl

/-- The properties there are. -/
def IsProperty (propID : UInt32) : Prop := 0 < propID.toNat ∧ propID < CAPPROPID_LAST

instance (propID : UInt32) : Decidable (IsProperty propID) :=
  inferInstanceAs (Decidable (_ ∧ _))

theorem row_lt {propID : UInt32} (inTable : propID < CAPPROPID_LAST) : propID.toNat < 14 :=
  UInt32.lt_iff_toNat_lt.1 inTable

section Table

theorem unit_cases : ∀ p < 14, (propertyInfo.getD p ⟨0, 0, 0⟩).unit = 0 ∨
    (propertyInfo.getD p ⟨0, 0, 0⟩).unit = 1 := by
  decide

theorem length_cases : ∀ p < 14, 0 < p → (propertyInfo.getD p ⟨0, 0, 0⟩).length = 1 ∨
    (propertyInfo.getD p ⟨0, 0, 0⟩).length = 2 ∨ (propertyInfo.getD p ⟨0, 0, 0⟩).length = 4 := by
  decide

/-- The controls of the properties have one, two or four bytes. -/
theorem length_info {propID : UInt32} (property : IsProperty propID) :
    (info propID).length = 1 ∨ (info propID).length = 2 ∨ (info propID).length = 4 :=
  length_cases propID.toNat (row_lt property.2) property.1

/-- Within a unit the selectors differ. -/
theorem selector_inj : ∀ p < 14, ∀ q < 14,
    (propertyInfo.getD p ⟨0, 0, 0⟩).unit = (propertyInfo.getD q ⟨0, 0, 0⟩).unit ∧
      (propertyInfo.getD p ⟨0, 0, 0⟩).selector.toUInt8 =
        (propertyInfo.getD q ⟨0, 0, 0⟩).selector.toUInt8 → p = q := by
  decide

end Table

section Address

variable {σ : Type} (u : UVCCtrl σ)

def address (propID : UInt32) : Address :=
  ⟨(u.unitOf propID).toUInt8, (info propID).selector.toUInt8⟩

theorem unit_inj {p q : UInt32} (other : u.m_pud ≠ UVC_INPUT_TERMINAL_ID)
    (row : p < CAPPROPID_LAST) (row' : q < CAPPROPID_LAST)
    (same : (u.unitOf p).toUInt8 = (u.unitOf q).toUInt8) : (info p).unit = (info q).unit := by
  have apart : u.m_pud.toUInt8 ≠ UVC_INPUT_TERMINAL_ID.toUInt8 := by
    intro low
    apply other
    have byte := congrArg UInt8.toNat low
    rw [UInt32.toNat_toUInt8, Nat.mod_eq_of_lt u.m_pud_lt] at byte
    exact UInt32.toNat_inj.1 byte
  rcases unit_cases p.toNat (row_lt row) with terminal | processing <;>
    rcases unit_cases q.toNat (row_lt row') with terminal' | processing'
  · exact terminal.trans terminal'.symm
  · rw [unitOf, unitOf, info, info, if_pos terminal, if_neg (by rw [processing']; decide)] at same
    exact absurd same.symm apart
  · rw [unitOf, unitOf, info, info, if_neg (by rw [processing]; decide), if_pos terminal'] at same
    exact absurd same apart
  · exact processing.trans processing'.symm

/-- No two rows are about one place. -/
theorem address_inj {p q : UInt32} (other : u.m_pud ≠ UVC_INPUT_TERMINAL_ID)
    (row : p < CAPPROPID_LAST) (row' : q < CAPPROPID_LAST) (same : u.address p = u.address q) :
    p = q := by
  obtain ⟨units, selectors⟩ := Address.mk.inj same
  exact UInt32.toNat_inj.1 (selector_inj p.toNat (row_lt row) q.toNat (row_lt row')
    ⟨unit_inj u other row row' units, selectors⟩)

end Address

/-! ## What fits into a control -/

/-- A value as a control of so many bytes holds it. -/
def wrapped (length : UInt32) (value : Int) : Int := Int.bmod value (256 ^ length.toNat)

section Width

/-- What lies between two values of a control is a value of the control. -/
theorem wrapped_of_between {length : UInt32} {low high value : Int}
    (atLeast : wrapped length low ≤ value) (atMost : value ≤ wrapped length high) :
    wrapped length value = value := by
  have positive : 0 < 256 ^ length.toNat := Nat.pow_pos (by decide)
  have least := @Int.le_bmod low (256 ^ length.toNat) positive
  have greatest := @Int.bmod_lt high (256 ^ length.toNat) positive
  unfold wrapped at atLeast atMost ⊢
  apply Int.bmod_eq_of_le <;> omega

variable {length : UInt32} (width : length = 1 ∨ length = 2 ∨ length = 4)

include width

theorem signExtend_int32 (n : Int) : signExtend length (int32 n) = wrapped length n := by
  rcases width with rfl | rfl | rfl
  · exact Int.bmod_bmod_of_dvd (by decide)
  · exact Int.bmod_bmod_of_dvd (by decide)
  · rfl

/-- The length fits into a request. -/
theorem toUInt16_length : length.toUInt16.toNat = length.toNat := by
  rcases width with rfl | rfl | rfl <;> rfl

theorem length_le_four : length.toNat ≤ 4 := by
  rcases width with rfl | rfl | rfl <;> decide

theorem dvd_two_pow : 256 ^ length.toNat ∣ 2 ^ 32 := by
  rcases width with rfl | rfl | rfl <;> decide

/-- The low bytes that are sent are all that counts. -/
theorem wrapped_bytesOf (value : Int) :
    wrapped length (ofLittleEndian ((bytesOf value).take length.toNat)) = wrapped length value := by
  have nonneg : 0 ≤ value % 2 ^ 32 := Int.emod_nonneg _ (by decide)
  have dvd : ((256 ^ length.toNat : Nat) : Int) ∣ 2 ^ 32 :=
    Int.natCast_dvd_natCast.2 (dvd_two_pow width)
  rw [bytesOf, take_littleEndian (length_le_four width), ofLittleEndian_littleEndian, wrapped, Int.natCast_emod,
    Int.toNat_of_nonneg nonneg, Int.emod_emod_of_dvd _ dvd, Int.emod_bmod]
  rfl

/-- Reading a control overwrites the low bytes of the variable; the others do not count. -/
theorem signExtend_ofBytes {value : Bytes} (whole : value.length = length.toNat) (rest : Bytes) :
    signExtend length (ofBytes (value ++ rest)) = wrapped length (ofLittleEndian value) := by
  rw [ofBytes, signExtend_int32 width, ofLittleEndian_append, whole, wrapped, Int.natCast_add,
    Int.natCast_mul, Int.add_mul_bmod_self_left]
  rfl

end Width

/-! ## The camera -/

/-- A camera whose controls are a store: a value set is the value got. -/
structure Device (σ : Type) where
  interface : IOUSBInterface σ
  /-- The value of each control that is there. -/
  cur : σ → Address → Option Bytes
  controlLength : Address → Nat
  sized : ∀ s place value, cur s place = some value → value.length = controlLength place
  open_ok : ∀ s, (interface.USBInterfaceOpen s).1 = kIOReturnSuccess
  open_cur : ∀ s, cur (interface.USBInterfaceOpen s).2 = cur s
  close_cur : ∀ s, cur (interface.USBInterfaceClose s).2 = cur s
  /-- Reading, whatever is read, changes no control. -/
  in_cur : ∀ req s, req.bmRequestType = USBmakebmRequestType kUSBIn kUSBClass kUSBInterface →
    cur (interface.ControlRequest req s).2.2 = cur s
  get_cur : ∀ req s value,
    req.bmRequestType = USBmakebmRequestType kUSBIn kUSBClass kUSBInterface →
      req.bRequest = UVC_GET_CUR → req.wLength.toNat = controlLength req.address →
        cur s req.address = some value →
          (interface.ControlRequest req s).1 = kIOReturnSuccess ∧
            (interface.ControlRequest req s).2.1 = memcpy req.pData value value.length
  get_missing : ∀ req s,
    req.bmRequestType = USBmakebmRequestType kUSBIn kUSBClass kUSBInterface →
      req.bRequest = UVC_GET_CUR → cur s req.address = none →
        (interface.ControlRequest req s).1 ≠ kIOReturnSuccess
  set_cur : ∀ req s, req.bmRequestType = USBmakebmRequestType kUSBOut kUSBClass kUSBInterface →
    req.bRequest = UVC_SET_CUR →
      cur (interface.ControlRequest req s).2.2 =
        if (interface.ControlRequest req s).1 = kIOReturnSuccess then
          Function.update (cur s) req.address (some (req.pData.take req.wLength.toNat))
        else cur s

/-- What the caller gets. -/
def Answer.reading {σ : Type} (answer : Answer σ) : Option Int :=
  if answer.ok then some answer.data else none

section Camera

variable {σ : Type} (available : Bool) {u : UVCCtrl σ} {device : Device σ}
  (connected : u.m_controller = some device.interface)

include connected

/-- A request reaches the camera with the controls as they were, and its effect is all there is. -/
theorem sendControlRequest_spec (req : IOUSBDevRequest) (s : σ) :
    ∃ t, device.cur t = device.cur s ∧
      let sent := u.sendControlRequest available req s
      (sent.ok = true ↔ (device.interface.ControlRequest req t).1 = kIOReturnSuccess) ∧
        sent.pData = (device.interface.ControlRequest req t).2.1 ∧
          device.cur sent.state = device.cur (device.interface.ControlRequest req t).2.2 := by
  unfold sendControlRequest
  rw [connected]
  cases available with
  | true => exact ⟨s, rfl, by simp [kIOReturnSuccess]⟩
  | false =>
      refine ⟨(device.interface.USBInterfaceOpen s).2, device.open_cur s, ?_⟩
      simp [device.open_ok, device.close_cur]

theorem readData_cur (bRequest : UInt8) (selector unit length : UInt32) (data : Int) (s : σ) :
    device.cur (u.readData available bRequest selector unit length data s).state =
      device.cur s := by
  obtain ⟨t, same, -, -, left⟩ := sendControlRequest_spec available connected
    (classRequest kUSBIn bRequest selector unit length (bytesOf data)) s
  rw [readData, left, device.in_cur _ _ rfl, same]

omit connected in
/-- Only properties of the table are set. -/
theorem lt_of_setProperty {propID : UInt32} {value : Int} {s : σ}
    (sent : (u.setProperty available propID value s).1 = true) : propID < CAPPROPID_LAST := by
  by_contra outside
  rw [setProperty, if_neg outside] at sent
  split at sent <;> cases sent

theorem setProperty_cur (propID : UInt32) (value : Int) (s : σ) :
    device.cur (u.setProperty available propID value s).2 =
      if (u.setProperty available propID value s).1 = true then
        Function.update (device.cur s) (u.address propID)
          (some ((bytesOf value).take (info propID).length.toUInt16.toNat))
      else device.cur s := by
  unfold setProperty
  rw [connected, if_neg (by simp)]
  split
  · obtain ⟨t, same, ok, -, left⟩ := sendControlRequest_spec available connected
      (classRequest kUSBOut UVC_SET_CUR (info propID).selector (u.unitOf propID)
        (info propID).length (bytesOf value)) s
    rw [setData, left, device.set_cur _ _ rfl rfl, address_classRequest, same]
    exact if_congr ok.symm rfl rfl
  · rfl

theorem getProperty_cur (propID : UInt32) (value : Int) (s : σ) :
    device.cur (u.getProperty available propID value s).state = device.cur s := by
  unfold getProperty
  rw [connected, if_neg (by simp)]
  split
  · simp only [getData, readData_cur available connected]
  · rfl

theorem getPropertyLimits_cur (propID : UInt32) (emin emax dValue : Int) (s : σ) :
    device.cur (u.getPropertyLimits available propID emin emax dValue s).state = device.cur s := by
  unfold getPropertyLimits
  rw [connected, if_neg (by simp)]
  split
  · simp only [getDefault, getMaxData, getMinData, readData_cur available connected]
  · rfl

/-- A limit that was returned is a value of the control, whatever the camera answered. -/
theorem getPropertyLimits_wrapped {propID : UInt32} (property : IsProperty propID)
    (emin emax dValue : Int) (s : σ) :
    ∃ least greatest,
      (u.getPropertyLimits available propID emin emax dValue s).emin =
          wrapped (info propID).length least ∧
        (u.getPropertyLimits available propID emin emax dValue s).emax =
          wrapped (info propID).length greatest := by
  have cast (bytes : Bytes) : signExtend (info propID).length (ofBytes bytes) =
      wrapped (info propID).length (ofLittleEndian bytes) :=
    signExtend_int32 (length_info property) _
  unfold getPropertyLimits
  rw [connected, if_neg (by simp), if_pos property.2]
  simp only [getMinData, getMaxData, readData, cast]
  exact ⟨_, _, rfl, rfl⟩

/-- `getData` fetches the place of the store over the low bytes of the variable. -/
theorem getData_of_some {selector unit length : UInt32}
    (fits : length.toUInt16.toNat = device.controlLength ⟨unit.toUInt8, selector.toUInt8⟩)
    (few : length.toUInt16.toNat ≤ 4) (data : Int) {s : σ} {stored : Bytes}
    (there : device.cur s ⟨unit.toUInt8, selector.toUInt8⟩ = some stored) :
    (u.getData available selector unit length data s).ok = true ∧
      (u.getData available selector unit length data s).data =
        ofBytes (stored ++ (bytesOf data).drop stored.length) := by
  obtain ⟨t, same, ok, fetched, -⟩ := sendControlRequest_spec available connected
    (classRequest kUSBIn UVC_GET_CUR selector unit length (bytesOf data)) s
  have place := address_classRequest kUSBIn UVC_GET_CUR selector unit length (bytesOf data)
  rw [← place, ← same] at there
  rw [← place] at fits
  obtain ⟨success, left⟩ := device.get_cur
    (classRequest kUSBIn UVC_GET_CUR selector unit length (bytesOf data)) t stored rfl rfl fits
    there
  have room : stored.length ≤ (bytesOf data).length := by
    have whole := device.sized _ _ _ there
    rw [bytesOf, length_littleEndian]
    omega
  simp only [getData, readData, fetched, left, classRequest_pData, memcpy_all room, and_true]
  exact ok.2 success

theorem getData_of_none {selector unit : UInt32} (length : UInt32) (data : Int) {s : σ}
    (missing : device.cur s ⟨unit.toUInt8, selector.toUInt8⟩ = none) :
    (u.getData available selector unit length data s).ok = false := by
  obtain ⟨t, same, ok, -, -⟩ := sendControlRequest_spec available connected
    (classRequest kUSBIn UVC_GET_CUR selector unit length (bytesOf data)) s
  have place := address_classRequest kUSBIn UVC_GET_CUR selector unit length (bytesOf data)
  rw [← place, ← same] at missing
  have failed := device.get_missing
    (classRequest kUSBIn UVC_GET_CUR selector unit length (bytesOf data)) t rfl rfl missing
  rw [getData, readData]
  exact Bool.eq_false_iff.2 fun sent => failed (ok.1 sent)

variable (lengths : ∀ propID, IsProperty propID →
  device.controlLength (u.address propID) = (info propID).length.toNat)

include lengths

/-- A property is read as its place of the store. -/
theorem getProperty_reading {propID : UInt32} (property : IsProperty propID) (value : Int)
    (s : σ) :
    (u.getProperty available propID value s).reading =
      (device.cur s (u.address propID)).map fun stored =>
        wrapped (info propID).length (ofLittleEndian stored) := by
  have width := length_info property
  have short := toUInt16_length width
  have few := length_le_four width
  have fits : (info propID).length.toUInt16.toNat = device.controlLength (u.address propID) :=
    short.trans (lengths propID property).symm
  have present : ¬ u.m_controller.isNone = true := by
    rw [connected]
    exact Bool.false_ne_true
  unfold getProperty
  rw [if_neg present, if_pos property.2]
  unfold Answer.reading
  cases stored : device.cur s (u.address propID) with
  | none =>
      have failed := getData_of_none available connected (info propID).length value stored
      simp only [failed, Bool.false_eq_true, if_false, Option.map_none]
  | some bytes =>
      obtain ⟨ok, data⟩ := getData_of_some available connected fits (by omega) value stored
      have whole := (device.sized _ _ _ stored).trans (lengths _ property)
      simp only [ok, data, if_true, signExtend_ofBytes width whole, Option.map_some]

end Camera

/-! ## Sequences of calls -/

inductive Call
  | setProperty (propID : UInt32) (value : Int)
  | getProperty (propID : UInt32) (value : Int)
  | getPropertyLimits (propID : UInt32) (emin emax dValue : Int)

section Calls

variable {σ : Type} (available : Bool) (u : UVCCtrl σ)

def step (s : σ) : Call → σ
  | .setProperty propID value => (u.setProperty available propID value s).2
  | .getProperty propID value => (u.getProperty available propID value s).state
  | .getPropertyLimits propID emin emax dValue =>
      (u.getPropertyLimits available propID emin emax dValue s).state

def after (s : σ) (calls : List Call) : σ := calls.foldl (u.step available) s

/-- The value a call sets a property to, if it does. -/
def setValue (propID : UInt32) (s : σ) : Call → Option Int
  | .setProperty p value =>
      if p = propID ∧ (u.setProperty available p value s).1 = true then some value else none
  | _ => none

/-- The value a property was last set to. -/
def lastSet (propID : UInt32) : σ → List Call → Option Int
  | _, [] => none
  | s, call :: rest =>
      (lastSet propID (u.step available s call) rest).or (u.setValue available propID s call)

/-- A value between the limits that were returned for a property, whenever that was. -/
def InLimits (propID : UInt32) (value : Int) : Prop :=
  ∃ emin emax dValue s,
    (u.getPropertyLimits available propID emin emax dValue s).ok = true ∧
      (u.getPropertyLimits available propID emin emax dValue s).emin ≤ value ∧
        value ≤ (u.getPropertyLimits available propID emin emax dValue s).emax

variable {u} {device : Device σ} (connected : u.m_controller = some device.interface)

include connected

theorem wrapped_of_inLimits {propID : UInt32} (property : IsProperty propID) {value : Int}
    (limits : u.InLimits available propID value) :
    wrapped (info propID).length value = value := by
  obtain ⟨emin, emax, dValue, s, -, atLeast, atMost⟩ := limits
  obtain ⟨least, greatest, low, high⟩ :=
    getPropertyLimits_wrapped available connected property emin emax dValue s
  exact wrapped_of_between (low ▸ atLeast) (high ▸ atMost)

variable (other : u.m_pud ≠ UVC_INPUT_TERMINAL_ID)
  (lengths : ∀ propID, IsProperty propID →
    device.controlLength (u.address propID) = (info propID).length.toNat)

include other lengths

/-- A call changes what a property is read as only if it sets the property, and then to the value
set as the control holds it. -/
theorem reading_step {propID : UInt32} (property : IsProperty propID) (value : Int) (s : σ)
    (call : Call) :
    (u.getProperty available propID value (u.step available s call)).reading =
      ((u.setValue available propID s call).map (wrapped (info propID).length)).or
        (u.getProperty available propID value s).reading := by
  rw [getProperty_reading available connected lengths property,
    getProperty_reading available connected lengths property]
  cases call with
  | setProperty p v =>
      rw [step, setProperty_cur available connected, setValue]
      by_cases sent : (u.setProperty available p v s).1 = true
      · rw [if_pos sent]
        by_cases same : p = propID
        · subst same
          have width := length_info property
          rw [Function.update_self, if_pos ⟨rfl, sent⟩, Option.map_some, toUInt16_length width,
            wrapped_bytesOf width]
          rfl
        · have apart : u.address propID ≠ u.address p := fun equal =>
            same (address_inj u other (lt_of_setProperty available sent) property.2 equal.symm)
          rw [Function.update_of_ne apart, if_neg fun both => same both.1]
          rfl
      · rw [if_neg sent, if_neg fun both => sent both.2]
        rfl
  | getProperty p v => rw [step, getProperty_cur available connected]; rfl
  | getPropertyLimits p emin emax dValue =>
      rw [step, getPropertyLimits_cur available connected]; rfl

/-- After any calls a property is read as the value it was last set to, or as before. -/
theorem reading_run {propID : UInt32} (property : IsProperty propID) (value : Int) (s : σ)
    (calls : List Call) :
    (u.getProperty available propID value (u.after available s calls)).reading =
      ((u.lastSet available propID s calls).map (wrapped (info propID).length)).or
        (u.getProperty available propID value s).reading := by
  induction calls generalizing s with
  | nil => rfl
  | cons call rest ih =>
      show (u.getProperty available propID value
        (u.after available (u.step available s call) rest)).reading = _
      rw [ih, reading_step available connected other lengths property, lastSet, ← Option.or_assoc,
        Option.map_or]

omit connected other lengths in
/-- The last value set comes from one of the calls. -/
theorem call_of_lastSet {propID : UInt32} {value : Int} {s : σ} {calls : List Call}
    (last : u.lastSet available propID s calls = some value) :
    .setProperty propID value ∈ calls := by
  induction calls generalizing s with
  | nil => cases last
  | cons call rest ih =>
      rcases Option.or_eq_some_iff.1 last with later | ⟨-, here⟩
      · exact List.mem_cons_of_mem _ (ih later)
      · cases call with
        | setProperty p v =>
            obtain ⟨⟨rfl, -⟩, same⟩ := Option.ite_none_right_eq_some.1 here
            obtain rfl := Option.some.inj same
            exact List.mem_cons_self
        | getProperty p v => cases here
        | getPropertyLimits p emin emax dValue => cases here

/-- A value between the limits of its property is read back, no other property changes, and after
any calls each property reads the value it was last set to. -/
theorem setProperty_reads_back :
    (∀ p, IsProperty p → ∀ v, u.InLimits available p v → ∀ s,
      (u.setProperty available p v s).1 = true → ∀ value,
        (u.getProperty available p value (u.setProperty available p v s).2).reading = some v ∧
          ∀ q, IsProperty q → q ≠ p →
            (u.getProperty available q value (u.setProperty available p v s).2).reading =
              (u.getProperty available q value s).reading) ∧
      ∀ calls s, (∀ p v, .setProperty p v ∈ calls → IsProperty p → u.InLimits available p v) →
        ∀ p, IsProperty p → ∀ value,
          (u.getProperty available p value (u.after available s calls)).reading =
            (u.lastSet available p s calls).or (u.getProperty available p value s).reading := by
  constructor
  · intro p property v limits s sent value
    have changed (q : UInt32) (property' : IsProperty q) :=
      reading_step available connected other lengths property' value s (.setProperty p v)
    refine ⟨?_, fun q property' apart => ?_⟩
    · have here := changed p property
      rw [setValue, if_pos ⟨rfl, sent⟩, Option.map_some,
        wrapped_of_inLimits available connected property limits] at here
      exact here
    · have there := changed q property'
      rw [setValue, if_neg fun both => apart both.1.symm] at there
      exact there
  · intro calls s limits p property value
    rw [reading_run available connected other lengths property]
    cases last : u.lastSet available p s calls with
    | none => rfl
    | some v =>
        rw [Option.map_some, wrapped_of_inLimits available connected property
          (limits p v (call_of_lastSet available last) property)]

end Calls

/-! ## A camera -/

namespace Camera

/-- The controls of a camera with processing unit 2. -/
def controlLength (place : Address) : Nat :=
  if place = ⟨1, 4⟩ then 4 else if place = ⟨2, 5⟩ then 1 else 2

def Sized (cur : Address → Option Bytes) : Prop :=
  ∀ place value, cur place = some value → value.length = controlLength place

def Store : Type := { cur : Address → Option Bytes // Sized cur }

theorem sized_update {cur : Address → Option Bytes} (sized : Sized cur) {place : Address}
    {value : Bytes} (fits : value.length = controlLength place) :
    Sized (Function.update cur place (some value)) := by
  intro other stored there
  rw [Function.update_apply] at there
  split at there
  · rename_i same
    rw [← Option.some.inj there, same, fits]
  · exact sized other stored there

/-- The least value of each control is 0, the greatest the greatest positive one. -/
def answer (bRequest : UInt8) (value : Bytes) : Bytes :=
  if bRequest = UVC_GET_CUR then value
  else if bRequest = UVC_GET_MAX then List.replicate (value.length - 1) 0xFF ++ [0x7F]
  else List.replicate value.length 0

def interface : IOUSBInterface Store where
  USBInterfaceOpen s := (kIOReturnSuccess, s)
  USBInterfaceClose s := (kIOReturnSuccess, s)
  ControlRequest req s :=
    if req.bmRequestType = USBmakebmRequestType kUSBOut kUSBClass kUSBInterface then
      if fits : (req.pData.take req.wLength.toNat).length = controlLength req.address then
        (kIOReturnSuccess, req.pData, ⟨_, sized_update s.2 fits⟩)
      else (1, req.pData, s)
    else
      match s.1 req.address with
      | some value =>
          (kIOReturnSuccess, memcpy req.pData (answer req.bRequest value) value.length, s)
      | none => (1, req.pData, s)

theorem in_ne_out : USBmakebmRequestType kUSBIn kUSBClass kUSBInterface ≠
    USBmakebmRequestType kUSBOut kUSBClass kUSBInterface := by
  decide

def device : Device Store where
  interface := interface
  cur s := s.1
  controlLength := controlLength
  sized s := s.2
  open_ok _ := rfl
  open_cur _ := rfl
  close_cur _ := rfl
  in_cur req s incoming := by
    simp only [interface, incoming, in_ne_out, if_false]
    split <;> rfl
  get_cur req s value incoming request _ there := by
    simp only [interface, incoming, in_ne_out, if_false, there, request, answer, if_true, true_and]
  get_missing req s incoming _ missing := by
    simp only [interface, incoming, in_ne_out, if_false, missing]
    decide
  set_cur req s outgoing _ := by
    simp only [interface, outgoing, if_true]
    split <;> rfl

def controls : UVCCtrl Store := ⟨2, some interface, by decide⟩

theorem lengths (propID : UInt32) (property : IsProperty propID) :
    device.controlLength (controls.address propID) = (info propID).length.toNat := by
  have rows : ∀ p < 14, 0 < p → controlLength
      ⟨(if (propertyInfo.getD p ⟨0, 0, 0⟩).unit = 0 then UVC_INPUT_TERMINAL_ID else 2).toUInt8,
        (propertyInfo.getD p ⟨0, 0, 0⟩).selector.toUInt8⟩ =
      (propertyInfo.getD p ⟨0, 0, 0⟩).length.toNat := by
    decide
  exact rows propID.toNat (row_lt property.2) property.1

/-- All controls at 0. -/
def zeros : Store :=
  ⟨fun place => some (List.replicate (controlLength place) 0), fun place value there => by
    rw [← Option.some.inj there, List.length_replicate]⟩

end Camera

open Camera in
theorem setProperty_reads_back_brightness :
    (controls.getProperty true 6 0 (controls.after true zeros
      [.setProperty 6 300, .setProperty 13 2, .setProperty 6 299])).reading = some 299 := by
  refine ((setProperty_reads_back true rfl (by decide) lengths).2
    [.setProperty 6 300, .setProperty 13 2, .setProperty 6 299] zeros ?_ 6 (by decide) 0).trans ?_
  · intro p v member _
    simp only [List.mem_cons, Call.setProperty.injEq, List.not_mem_nil, or_false] at member
    rcases member with ⟨rfl, rfl⟩ | ⟨rfl, rfl⟩ | ⟨rfl, rfl⟩
    · exact ⟨0, 0, 0, zeros, by decide⟩
    · exact ⟨0, 0, 0, zeros, by decide⟩
    · exact ⟨0, 0, 0, zeros, by decide⟩
  · decide

end OpenpnpCapture.Mac.UVCCtrl
