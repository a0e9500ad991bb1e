/-
# Mac.AutoProperties — automatic states beside the values

The automatic state of the exposure, of the white balance and of the focus is a control of one
byte.  For the exposure it is a mode, of which all but the first are taken for automatic; the byte is
read into a variable that was not set before, so only its low byte counts.

These controls lie in the same store as the values (`Device`), with selectors of their own in each
unit.  `autoProperty_reads_back`: after any calls each automatic state reads what it was last switched
to and each value what it was last set to.
-/
import OpenpnpCapture.Lib.Run
import OpenpnpCapture.Mac.PropertyStore

namespace OpenpnpCapture.Mac.UVCCtrl

open OpenpnpCapture.Lib

set_option autoImplicit false

/-! ## The functions -/

def CT_AE_MODE_CONTROL : UInt32 := 0x02
def CT_FOCUS_AUTO_CONTROL : UInt32 := 0x08
def PU_WHITE_BALANCE_TEMPERATURE_AUTO_CONTROL : UInt32 := 0x0B

def CAPPROPID_EXPOSURE : UInt32 := 1
def CAPPROPID_FOCUS : UInt32 := 2
def CAPPROPID_WHITEBALANCE : UInt32 := 4

/-- The `switch` of `setAutoProperty` and `getAutoProperty`, in the form of `propertyInfo`. -/
def autoInfo : List (UInt32 × PropertyInfo) :=
  [(CAPPROPID_EXPOSURE, ⟨CT_AE_MODE_CONTROL, 0, 1⟩),
    (CAPPROPID_WHITEBALANCE, ⟨PU_WHITE_BALANCE_TEMPERATURE_AUTO_CONTROL, 1, 1⟩),
    (CAPPROPID_FOCUS, ⟨CT_FOCUS_AUTO_CONTROL, 0, 1⟩)]

/-- The byte that switches the automatic state. -/
def autoValue (propID : UInt32) (enabled : Bool) : Int :=
  if propID = CAPPROPID_EXPOSURE then if enabled then 0x8 else 0x1
  else if enabled then 1 else 0

/-- How the byte is read. -/
def isAuto (propID : UInt32) (value : Int) : Bool :=
  if propID = CAPPROPID_EXPOSURE then value ≠ 1 else value = 1

theorem isAuto_autoValue (propID : UInt32) (enabled : Bool) :
    isAuto propID (autoValue propID enabled) = enabled := by
  unfold isAuto autoValue
  cases enabled <;> split <;> rfl

/-- What `getAutoProperty` left behind. -/
structure AutoAnswer (σ : Type) where
  ok : Bool
  enabled : Bool
  state : σ

def AutoAnswer.reading {σ : Type} (answer : AutoAnswer σ) : Option Bool :=
  if answer.ok then some answer.enabled else none

section Functions

variable {σ : Type} (available : Bool) (u : UVCCtrl σ)

/-- The unit of a row. -/
def unitFor (row : PropertyInfo) : UInt32 :=
  if row.unit = 0 then UVC_INPUT_TERMINAL_ID else u.m_pud

def setAutoProperty (propID : UInt32) (enabled : Bool) (s : σ) : Bool × σ :=
  if u.m_controller.isNone then (false, s)
  else
    match autoInfo.lookup propID with
    | none => (false, s)
    | some row =>
        u.setData available row.selector (u.unitFor row) row.length (autoValue propID enabled) s

/-- `value` is what the variable holds before it is read into, `enabled` what the caller's does. -/
def getAutoProperty (propID : UInt32) (value : Int) (enabled : Bool) (s : σ) : AutoAnswer σ :=
  if u.m_controller.isNone then ⟨false, enabled, s⟩
  else
    match autoInfo.lookup propID with
    | none => ⟨false, enabled, s⟩
    | some row =>
        let answer := u.getData available row.selector (u.unitFor row) row.length value s
        if answer.ok then ⟨true, isAuto propID (answer.data % 256), answer.state⟩
        else ⟨false, enabled, answer.state⟩

end Functions

/-! ## Places of the store -/

section Places

variable {σ : Type} (u : UVCCtrl σ)

/-- The place of a row. -/
def place (row : PropertyInfo) : Address := ⟨(u.unitFor row).toUInt8, row.selector.toUInt8⟩

theorem row_of_lookup {propID : UInt32} {row : PropertyInfo}
    (found : autoInfo.lookup propID = some row) : (propID, row) ∈ autoInfo := by
  obtain ⟨before, after, same, -⟩ := List.lookup_eq_some_iff.1 found
  rw [same]
  simp

theorem length_of_lookup {propID : UInt32} {row : PropertyInfo}
    (found : autoInfo.lookup propID = some row) : row.length = 1 := by
  have rows : ∀ entry ∈ autoInfo, entry.2.length = 1 := by decide
  exact rows _ (row_of_lookup found)

/-- Two rows at one place are of one unit and have one selector. -/
theorem unit_of_place (other : u.m_pud ≠ UVC_INPUT_TERMINAL_ID) {row row' : PropertyInfo}
    (unit : row.unit = 0 ∨ row.unit = 1) (unit' : row'.unit = 0 ∨ row'.unit = 1)
    (same : u.place row = u.place row') :
    row.unit = row'.unit ∧ row.selector.toUInt8 = row'.selector.toUInt8 := by
  obtain ⟨units, selectors⟩ := Address.mk.inj same
  refine ⟨?_, selectors⟩
  have apart : u.m_pud.toUInt8 ≠ UVC_INPUT_TERMINAL_ID.toUInt8 := by
    intro low
    apply other
    have byte := congrArg UInt8.toNat low
    rw [UInt32.toNat_toUInt8, Nat.mod_eq_of_lt u.m_pud_lt] at byte
    exact UInt32.toNat_inj.1 byte
  rcases unit with terminal | processing <;> rcases unit' with terminal' | processing'
  · exact terminal.trans terminal'.symm
  · rw [unitFor, unitFor, if_pos terminal, if_neg (by rw [processing']; decide)] at units
    exact absurd units.symm apart
  · rw [unitFor, unitFor, if_neg (by rw [processing]; decide), if_pos terminal'] at units
    exact absurd units apart
  · exact processing.trans processing'.symm

/-- No two automatic states share a place. -/
theorem autoPlace_inj (other : u.m_pud ≠ UVC_INPUT_TERMINAL_ID) {p q : UInt32}
    {row row' : PropertyInfo} (found : autoInfo.lookup p = some row)
    (found' : autoInfo.lookup q = some row') (same : u.place row = u.place row') : p = q := by
  have units : ∀ entry ∈ autoInfo, entry.2.unit = 0 ∨ entry.2.unit = 1 := by decide
  have apart : ∀ a ∈ autoInfo, ∀ b ∈ autoInfo,
      a.2.unit = b.2.unit ∧ a.2.selector.toUInt8 = b.2.selector.toUInt8 → a.1 = b.1 := by
    decide
  have here := row_of_lookup found
  have there := row_of_lookup found'
  exact apart _ here _ there (unit_of_place u other (units _ here) (units _ there) same)

/-- No automatic state shares one with a value. -/
theorem autoPlace_ne_address (other : u.m_pud ≠ UVC_INPUT_TERMINAL_ID) {p q : UInt32}
    {row : PropertyInfo} (found : autoInfo.lookup p = some row) (inTable : q < CAPPROPID_LAST) :
    u.place row ≠ u.address q := by
  intro same
  have units : ∀ entry ∈ autoInfo, entry.2.unit = 0 ∨ entry.2.unit = 1 := by decide
  have apart : ∀ entry ∈ autoInfo, ∀ i < 14,
      ¬ (entry.2.unit = (propertyInfo.getD i ⟨0, 0, 0⟩).unit ∧
        entry.2.selector.toUInt8 = (propertyInfo.getD i ⟨0, 0, 0⟩).selector.toUInt8) := by
    decide
  have here := row_of_lookup found
  have unit' : (info q).unit = 0 ∨ (info q).unit = 1 := unit_cases q.toNat (row_lt inTable)
  exact apart _ here q.toNat (row_lt inTable) (unit_of_place u other (units _ here) unit' same)

end Places

/-! ## The camera -/

/-- The low byte of a variable whose low byte was read. -/
theorem ofBytes_emod {stored : Bytes} (byte : stored.length = 1) (rest : Bytes) :
    ofBytes (stored ++ rest) % 256 = ofLittleEndian stored := by
  have small : (ofLittleEndian stored : Int) % 256 = ofLittleEndian stored := by
    obtain ⟨b, rfl⟩ := List.length_eq_one_iff.1 byte
    have bound : ofLittleEndian [b] < 256 := by
      simpa [ofLittleEndian] using UInt8.toNat_lt b
    omega
  have dvd : (256 : Int) ∣ ((2 ^ 32 : Nat) : Int) := by decide
  rw [ofBytes, int32, ← Int.emod_emod_of_dvd _ dvd, Int.bmod_emod, Int.emod_emod_of_dvd _ dvd,
    ofLittleEndian_append, byte, Int.natCast_add, Int.natCast_mul]
  simpa using small

section Camera

variable {σ : Type} (available : Bool) {u : UVCCtrl σ} {device : Device σ}
  (connected : u.m_controller = some device.interface)

include connected

theorem getAutoProperty_cur (propID : UInt32) (value : Int) (enabled : Bool) (s : σ) :
    device.cur (u.getAutoProperty available propID value enabled s).state = device.cur s := by
  unfold getAutoProperty
  rw [connected, if_neg (by simp)]
  split
  · rfl
  · dsimp only
    split <;> exact readData_cur available connected _ _ _ _ _ s

/-- Switching sets the place of the store, if the camera takes it. -/
theorem setAutoProperty_cur {propID : UInt32} {row : PropertyInfo}
    (found : autoInfo.lookup propID = some row) (enabled : Bool) (s : σ) :
    device.cur (u.setAutoProperty available propID enabled s).2 =
      if (u.setAutoProperty available propID enabled s).1 = true then
        Function.update (device.cur s) (u.place row)
          (some ((bytesOf (autoValue propID enabled)).take row.length.toUInt16.toNat))
      else device.cur s := by
  unfold setAutoProperty
  rw [connected, if_neg (by simp), found]
  obtain ⟨t, same, ok, -, left⟩ := sendControlRequest_spec available connected
    (classRequest kUSBOut UVC_SET_CUR row.selector (u.unitFor row) row.length
      (bytesOf (autoValue propID enabled))) s
  simp only [setData]
  rw [left, device.set_cur _ _ rfl rfl, address_classRequest, same]
  exact if_congr ok.symm rfl rfl

omit connected in
theorem lookup_of_setAutoProperty {propID : UInt32} {enabled : Bool} {s : σ}
    (sent : (u.setAutoProperty available propID enabled s).1 = true) :
    ∃ row, autoInfo.lookup propID = some row := by
  unfold setAutoProperty at sent
  split at sent
  · cases sent
  · cases found : autoInfo.lookup propID with
    | none =>
        rw [found] at sent
        cases sent
    | some row => exact ⟨row, rfl⟩

theorem setAutoProperty_refused {propID : UInt32} {enabled : Bool} {s : σ}
    (refused : ¬ (u.setAutoProperty available propID enabled s).1 = true) :
    device.cur (u.setAutoProperty available propID enabled s).2 = device.cur s := by
  cases found : autoInfo.lookup propID with
  | none =>
      unfold setAutoProperty
      rw [connected, if_neg (by simp), found]
  | some row => rw [setAutoProperty_cur available connected found, if_neg refused]

/-- An automatic state is read as its place of the store. -/
theorem getAutoProperty_reading {propID : UInt32} {row : PropertyInfo}
    (found : autoInfo.lookup propID = some row) (sized : device.controlLength (u.place row) = 1)
    (value : Int) (enabled : Bool) (s : σ) :
    (u.getAutoProperty available propID value enabled s).reading =
      (device.cur s (u.place row)).map fun stored => isAuto propID (ofLittleEndian stored) := by
  have one := length_of_lookup found
  have fits : row.length.toUInt16.toNat = device.controlLength (u.place row) := by
    rw [one, sized]
    rfl
  unfold getAutoProperty
  rw [connected, if_neg (by simp), found]
  dsimp only
  cases there : device.cur s (u.place row) with
  | none =>
      have failed := getData_of_none available connected row.length value there
      simp [failed, AutoAnswer.reading]
  | some stored =>
      obtain ⟨ok, data⟩ :=
        getData_of_some available connected fits (by rw [one]; decide) value there
      have byte : stored.length = 1 := (device.sized _ _ _ there).trans sized
      simp [ok, data, AutoAnswer.reading, ofBytes_emod byte]

end Camera

/-! ## Sequences of calls -/

/-- The five functions. -/
inductive ControlCall
  | value (call : Call)
  | setAutoProperty (propID : UInt32) (enabled : Bool)
  | getAutoProperty (propID : UInt32) (value : Int) (enabled : Bool)

section Calls

variable {σ : Type} (available : Bool) (u : UVCCtrl σ)

def controlStep (s : σ) : ControlCall → σ
  | .value call => u.step available s call
  | .setAutoProperty propID enabled => (u.setAutoProperty available propID enabled s).2
  | .getAutoProperty propID value enabled =>
      (u.getAutoProperty available propID value enabled s).state

/-- What a call switches the automatic state of a property to, if it does. -/
def switched (propID : UInt32) (s : σ) : ControlCall → Option Bool
  | .setAutoProperty p enabled =>
      if p = propID ∧ (u.setAutoProperty available p enabled s).1 = true then some enabled else none
  | _ => none

/-- What the control of a property holds after a call sets it, if it does. -/
def valueHeld (propID : UInt32) (s : σ) : ControlCall → Option Int
  | .value call => (u.setValue available propID s call).map (wrapped (info propID).length)
  | _ => none

variable {u} {device : Device σ} (connected : u.m_controller = some device.interface)
  (other : u.m_pud ≠ UVC_INPUT_TERMINAL_ID)
  (lengths : ∀ propID, IsProperty propID →
    device.controlLength (u.address propID) = (info propID).length.toNat)
  (bytes : ∀ propID row, autoInfo.lookup propID = some row →
    device.controlLength (u.place row) = 1)

include connected other

theorem step_cur_place {propID : UInt32} {row : PropertyInfo}
    (found : autoInfo.lookup propID = some row) (s : σ) (call : Call) :
    device.cur (u.step available s call) (u.place row) = device.cur s (u.place row) := by
  cases call with
  | setProperty p v =>
      rw [step, setProperty_cur available connected]
      by_cases sent : (u.setProperty available p v s).1 = true
      · have apart := autoPlace_ne_address u other found (lt_of_setProperty available sent)
        rw [if_pos sent, Function.update_of_ne apart]
      · rw [if_neg sent]
  | getProperty p v => rw [step, getProperty_cur available connected]
  | getPropertyLimits p emin emax dValue => rw [step, getPropertyLimits_cur available connected]

include bytes in
/-- A call changes what an automatic state is read as only if it switches it. -/
theorem autoReading_step {propID : UInt32} {row : PropertyInfo}
    (found : autoInfo.lookup propID = some row) (value : Int) (enabled : Bool) (s : σ)
    (call : ControlCall) :
    (u.getAutoProperty available propID value enabled (u.controlStep available s call)).reading =
      (u.switched available propID s call).or
        (u.getAutoProperty available propID value enabled s).reading := by
  have sized := bytes propID row found
  rw [getAutoProperty_reading available connected found sized,
    getAutoProperty_reading available connected found sized]
  cases call with
  | value call =>
      rw [controlStep, step_cur_place available connected other found]
      rfl
  | getAutoProperty p v e => rw [controlStep, getAutoProperty_cur available connected]; rfl
  | setAutoProperty p e =>
      rw [controlStep, switched]
      by_cases sent : (u.setAutoProperty available p e s).1 = true
      · obtain ⟨row', found'⟩ := lookup_of_setAutoProperty available sent
        rw [setAutoProperty_cur available connected found', if_pos sent]
        by_cases same : p = propID
        · subst same
          obtain rfl := Option.some.inj (found.symm.trans found')
          have sentByte : isAuto p (ofLittleEndian
              ((bytesOf (autoValue p e)).take row.length.toUInt16.toNat)) = e := by
            have held : ((ofLittleEndian
                ((bytesOf (autoValue p e)).take row.length.toUInt16.toNat) : Nat) : Int) =
                autoValue p e := by
              rw [length_of_lookup found]
              unfold autoValue
              split <;> cases e <;> rfl
            rw [held, isAuto_autoValue]
          rw [Function.update_self, if_pos ⟨rfl, sent⟩, Option.map_some, sentByte]
          rfl
        · have apart : u.place row ≠ u.place row' := fun equal =>
            same (autoPlace_inj u other found found' equal).symm
          rw [Function.update_of_ne apart, if_neg fun both => same both.1]
          rfl
      · rw [setAutoProperty_refused available connected sent, if_neg fun both => sent both.2]
        rfl

include lengths in
/-- A call changes what a value is read as only if it sets it. -/
theorem reading_controlStep {propID : UInt32} (property : IsProperty propID) (value : Int) (s : σ)
    (call : ControlCall) :
    (u.getProperty available propID value (u.controlStep available s call)).reading =
      (u.valueHeld available propID s call).or
        (u.getProperty available propID value s).reading := by
  have unchanged (t : σ) (same : device.cur t (u.address propID) = device.cur s (u.address propID)) :
      (u.getProperty available propID value t).reading =
        (u.getProperty available propID value s).reading := by
    rw [getProperty_reading available connected lengths property,
      getProperty_reading available connected lengths property, same]
  cases call with
  | value call => exact reading_step available connected other lengths property value s call
  | getAutoProperty p v e =>
      exact unchanged _ (congrFun (getAutoProperty_cur available connected p v e s) _)
  | setAutoProperty p e =>
      apply unchanged
      by_cases sent : (u.setAutoProperty available p e s).1 = true
      · obtain ⟨row, found⟩ := lookup_of_setAutoProperty available sent
        have apart := autoPlace_ne_address u other found property.2
        show device.cur (u.setAutoProperty available p e s).2 _ = _
        rw [setAutoProperty_cur available connected found, if_pos sent,
          Function.update_of_ne apart.symm]
      · exact congrFun (setAutoProperty_refused available connected sent) _

/-- **Values and automatic states of a UVC camera.**  After any calls, whichever of them the camera
takes: each automatic state reads what it was last switched to, or as before the calls, and each
value reads what it was last set to, as its control holds it, or as before. -/
theorem autoProperty_reads_back
    (lengths : ∀ propID, IsProperty propID →
      device.controlLength (u.address propID) = (info propID).length.toNat)
    (bytes : ∀ propID row, autoInfo.lookup propID = some row →
      device.controlLength (u.place row) = 1)
    (s : σ) (calls : List ControlCall) :
    (∀ propID, (autoInfo.lookup propID).isSome = true → ∀ value enabled,
      (u.getAutoProperty available propID value enabled
          (Run.after (u.controlStep available) s calls)).reading =
        (Run.lastWritten (u.controlStep available) (u.switched available propID) s calls).or
          (u.getAutoProperty available propID value enabled s).reading) ∧
      ∀ propID, IsProperty propID → ∀ value,
        (u.getProperty available propID value
            (Run.after (u.controlStep available) s calls)).reading =
          (Run.lastWritten (u.controlStep available) (u.valueHeld available propID) s calls).or
            (u.getProperty available propID value s).reading := by
  constructor
  · intro propID auto value enabled
    obtain ⟨row, found⟩ := Option.isSome_iff_exists.1 auto
    exact Run.after_lastWritten
      (R := fun s => (u.getAutoProperty available propID value enabled s).reading)
      (autoReading_step available connected other bytes found value enabled) s calls
  · intro propID property value
    exact Run.after_lastWritten
      (R := fun s => (u.getProperty available propID value s).reading)
      (reading_controlStep available connected other lengths property value) s calls

end Calls

/-! ## A camera -/

namespace ByteControls

/-- The controls of a camera with processing unit 3, the automatic states included. -/
def controlLength (place : Address) : Nat :=
  if place = ⟨1, 4⟩ then 4
  else if place = ⟨3, 5⟩ ∨ place = ⟨1, 2⟩ ∨ place = ⟨1, 8⟩ ∨ place = ⟨3, 0x0B⟩ then 1
  else 2

structure Store where
  cur : Address → Bytes
  sized : ∀ place, (cur place).length = controlLength place

def Store.set (s : Store) (place : Address) (value : Bytes)
    (fits : value.length = controlLength place) : Store where
  cur := Function.update s.cur place value
  sized other := by
    by_cases same : other = place
    · subst same
      rw [Function.update_self, fits]
    · rw [Function.update_of_ne same, s.sized]

def interface : IOUSBInterface Store where
  USBInterfaceOpen s := (kIOReturnSuccess, s)
  USBInterfaceClose s := (kIOReturnSuccess, s)
  ControlRequest req s :=
    if req.bmRequestType = USBmakebmRequestType kUSBOut kUSBClass kUSBInterface then
      if fits : (req.pData.take req.wLength.toNat).length = controlLength req.address then
        (kIOReturnSuccess, req.pData, s.set req.address _ fits)
      else (1, req.pData, s)
    else
      (kIOReturnSuccess, memcpy req.pData (s.cur req.address) (s.cur req.address).length, s)

def device : Device Store where
  interface := interface
  cur s place := some (s.cur place)
  controlLength := controlLength
  sized s place value there := by rw [← Option.some.inj there, s.sized]
  open_ok _ := rfl
  open_cur _ := rfl
  close_cur _ := rfl
  in_cur req s incoming := by simp only [interface, incoming, Camera.in_ne_out, if_false]
  get_cur req s value incoming _ _ there := by
    obtain rfl := Option.some.inj there
    simp only [interface, incoming, Camera.in_ne_out, if_false, and_self]
  get_missing _ _ _ _ missing := by cases missing
  set_cur req s outgoing _ := by
    simp only [interface, outgoing, if_true]
    split
    · simp only [Store.set, if_true]
      funext place
      by_cases same : place = req.address
      · subst same
        rw [Function.update_self, Function.update_self]
      · rw [Function.update_of_ne same, Function.update_of_ne same]
    · rfl

def controls : UVCCtrl Store := ⟨3, some interface, by decide⟩

theorem lengths (propID : UInt32) (property : IsProperty propID) :
    device.controlLength (controls.address propID) = (info propID).length.toNat := by
  have rows : ∀ p < 14, 0 < p → controlLength
      ⟨(if (propertyInfo.getD p ⟨0, 0, 0⟩).unit = 0 then UVC_INPUT_TERMINAL_ID else 3).toUInt8,
        (propertyInfo.getD p ⟨0, 0, 0⟩).selector.toUInt8⟩ =
      (propertyInfo.getD p ⟨0, 0, 0⟩).length.toNat := by
    decide
  exact rows propID.toNat (row_lt property.2) property.1

theorem bytes (propID : UInt32) (row : PropertyInfo) (found : autoInfo.lookup propID = some row) :
    device.controlLength (controls.place row) = 1 := by
  have rows : ∀ entry ∈ autoInfo, controlLength (controls.place entry.2) = 1 := by decide
  exact rows _ (row_of_lookup found)

/-- All controls at 0. -/
def zeros : Store := ⟨fun place => List.replicate (controlLength place) 0, fun _ => by simp⟩

end ByteControls

open ByteControls in
/-- The white balance is switched on and set, the focus off; the exposure is left in mode 0. -/
theorem autoProperty_reads_back_whiteBalance :
    let calls : List ControlCall :=
      [.setAutoProperty 4 true, .value (.setProperty 4 5600), .setAutoProperty 2 false,
        .getAutoProperty 1 0 false]
    let t := Run.after (controls.controlStep true) zeros calls
    ((controls.getAutoProperty true 4 77 false t).reading,
        (controls.getProperty true 4 0 t).reading) = (some true, some 5600) := by
  intro calls t
  have read := autoProperty_reads_back true rfl (by decide) lengths bytes zeros calls
  rw [read.1 4 (by decide), read.2 4 (by decide)]
  decide

end OpenpnpCapture.Mac.UVCCtrl
