/-
# Win.Properties — the property functions over DirectShow controls

A property is a row of `gs_properties`: a number, and which of two interfaces has it.  Each control
holds a value and one of two flags, automatic or manual, and setting the one means setting both.
`setProperty` reads the flag to retain it.  `setAutoProperty` retains the value: for the two
properties of the image processing it reads it, for those of the camera it sets the value
relative to the present one, by zero.  Only `setProperty` can tell that the camera refused to set.

The camera is the calls of its two interfaces, on a state of its own (`Camera`).
`directShow_knobs_apart`: for a camera that keeps its controls as a store does (`ControlStore`) the
functions are a panel of independent knobs, whatever calls are made.  A camera that moves a value by
itself while it is automatic is no such store.
-/
import Mathlib.Data.List.Basic
import OpenpnpCapture.Common.ControlPanel

namespace OpenpnpCapture.Win.Properties

open OpenpnpCapture.Lib OpenpnpCapture.Common

set_option autoImplicit false

/-! ## Property translation data -/

def CameraControl_Zoom : UInt32 := 3
def CameraControl_Exposure : UInt32 := 4
def CameraControl_Focus : UInt32 := 6

def VideoProcAmp_Brightness : UInt32 := 0
def VideoProcAmp_Contrast : UInt32 := 1
def VideoProcAmp_Hue : UInt32 := 2
def VideoProcAmp_Saturation : UInt32 := 3
def VideoProcAmp_Sharpness : UInt32 := 4
def VideoProcAmp_Gamma : UInt32 := 5
def VideoProcAmp_WhiteBalance : UInt32 := 7
def VideoProcAmp_BacklightCompensation : UInt32 := 8
def VideoProcAmp_Gain : UInt32 := 9
def KSPROPERTY_VIDEOPROCAMP_POWERLINE_FREQUENCY : UInt32 := 13

def CameraControl_Flags_Auto : UInt32 := 1
def CameraControl_Flags_Manual : UInt32 := 2
def VideoProcAmp_Flags_Auto : UInt32 := 1
def VideoProcAmp_Flags_Manual : UInt32 := 2
def KSPROPERTY_CAMERACONTROL_FLAGS_RELATIVE : UInt32 := 0x10

structure PropertyT where
  dsProp : UInt32
  isCameraControl : Bool
deriving DecidableEq, Repr

def gs_properties : List PropertyT :=
  [⟨0, true⟩,
    ⟨CameraControl_Exposure, true⟩,
    ⟨CameraControl_Focus, true⟩,
    ⟨CameraControl_Zoom, true⟩,
    ⟨VideoProcAmp_WhiteBalance, false⟩,
    ⟨VideoProcAmp_Gain, false⟩,
    ⟨VideoProcAmp_Brightness, false⟩,
    ⟨VideoProcAmp_Contrast, false⟩,
    ⟨VideoProcAmp_Saturation, false⟩,
    ⟨VideoProcAmp_Gamma, false⟩,
    ⟨VideoProcAmp_Hue, false⟩,
    ⟨VideoProcAmp_Sharpness, false⟩,
    ⟨VideoProcAmp_BacklightCompensation, false⟩,
    ⟨KSPROPERTY_VIDEOPROCAMP_POWERLINE_FREQUENCY, false⟩]

/-- The row of a property; only read below `CAPPROPID_LAST`, the number of rows. -/
def row (propID : CapPropertyID) : PropertyT := gs_properties.getD propID.toNat ⟨0, true⟩

/-- The `switch` of `setAutoProperty`. -/
def autoProperties : List (CapPropertyID × UInt32) :=
  [(CAPPROPID_EXPOSURE, CameraControl_Exposure),
    (CAPPROPID_FOCUS, CameraControl_Focus),
    (CAPPROPID_ZOOM, CameraControl_Zoom),
    (CAPPROPID_WHITEBALANCE, VideoProcAmp_WhiteBalance),
    (CAPPROPID_GAIN, VideoProcAmp_Gain)]

def autoProperty (propID : CapPropertyID) : Option UInt32 := autoProperties.lookup propID

/-- The properties whose automatic state `setAutoProperty` sets through `m_videoProcAmp`. -/
def IsProcAmp (propID : CapPropertyID) : Prop :=
  propID = CAPPROPID_WHITEBALANCE ∨ propID = CAPPROPID_GAIN

instance (propID : CapPropertyID) : Decidable (IsProcAmp propID) :=
  inferInstanceAs (Decidable (_ ∨ _))

/-! ## The camera -/

abbrev HRESULT := Int

def S_OK : HRESULT := 0

def FAILED (hr : HRESULT) : Prop := hr < 0

instance (hr : HRESULT) : Decidable (FAILED hr) := inferInstanceAs (Decidable (_ < _))

/-- What `Get` returns, and writes through its pointers. -/
structure Got where
  hr : HRESULT
  lValue : Int
  flags : UInt32
deriving DecidableEq, Repr

/-- The two interfaces, null or not, and what their functions do in the state they meet; a row says
which interface is called. -/
structure Camera (σ : Type) where
  m_camControl : Bool
  m_videoProcAmp : Bool
  Get : PropertyT → σ → Got × σ
  Set : PropertyT → Int → UInt32 → σ → HRESULT × σ
  GetRange : PropertyT → σ → (HRESULT × PropertyLimits) × σ

/-- The flags ask for the automatic state. -/
def AsksAuto (flags : UInt32) : Prop := flags &&& CameraControl_Flags_Auto ≠ 0

instance (flags : UInt32) : Decidable (AsksAuto flags) := inferInstanceAs (Decidable (_ ≠ _))

section Functions

variable {σ : Type} (camera : Camera σ)

/-- The interface that has the control is there. -/
def Reachable (control : PropertyT) : Prop :=
  control.isCameraControl = true ∨ camera.m_videoProcAmp = true

instance (control : PropertyT) : Decidable (Reachable camera control) :=
  inferInstanceAs (Decidable (_ ∨ _))

/-- The pointers are null or not; `dValue` is written through in any case. -/
def getPropertyLimits (propID : CapPropertyID) (emin emax : Bool) (s : σ) :
    Option PropertyLimits × σ :=
  if ¬ camera.m_camControl ∨ ¬ emin ∨ ¬ emax then (none, s)
  else if propID < CAPPROPID_LAST then
    if ¬ Reachable camera (row propID) then (none, s)
    else
      let got := camera.GetRange (row propID) s
      (if got.1.1 = S_OK then some got.1.2 else none, got.2)
  else (none, s)

def setProperty (propID : CapPropertyID) (value : Int) (s : σ) : Bool × σ :=
  if ¬ camera.m_camControl then (false, s)
  else if propID < CAPPROPID_LAST then
    if ¬ Reachable camera (row propID) then (false, s)
    else
      -- the property is read so that its flags are retained
      let got := camera.Get (row propID) s
      if got.1.hr ≠ S_OK then (false, got.2)
      else
        let set := camera.Set (row propID) value got.1.flags got.2
        (set.1 = S_OK, set.2)
  else (false, s)

/-- The flag that switches the automatic state; the two interfaces have the same ones. -/
def autoFlags (enabled : Bool) : UInt32 :=
  if enabled then CameraControl_Flags_Auto else CameraControl_Flags_Manual

def setAutoProperty (propID : CapPropertyID) (enabled : Bool) (s : σ) : Bool × σ :=
  if ¬ camera.m_camControl then (false, s)
  else
    match autoProperty propID with
    | none => (false, s)
    | some prop =>
        if ¬ IsProcAmp propID then
          (true, (camera.Set ⟨prop, true⟩ 0
            (autoFlags enabled ||| KSPROPERTY_CAMERACONTROL_FLAGS_RELATIVE) s).2)
        else if ¬ camera.m_videoProcAmp then (false, s)
        else
          let got := camera.Get ⟨prop, false⟩ s
          if FAILED got.1.hr then (false, got.2)
          else (true, (camera.Set ⟨prop, false⟩ got.1.lValue (autoFlags enabled) got.2).2)

def getDSProperty (propID : CapPropertyID) (s : σ) : Option (Int × UInt32) × σ :=
  if ¬ camera.m_camControl then (none, s)
  else if propID < CAPPROPID_LAST then
    if ¬ Reachable camera (row propID) then (none, s)
    else
      let got := camera.Get (row propID) s
      (if FAILED got.1.hr then none else some (got.1.lValue, got.1.flags), got.2)
  else (none, s)

def getProperty (propID : CapPropertyID) (s : σ) : Option Int × σ :=
  let read := getDSProperty camera propID s
  (read.1.map Prod.fst, read.2)

def getAutoProperty (propID : CapPropertyID) (s : σ) : Option Bool × σ :=
  let read := getDSProperty camera propID s
  (read.1.map fun property => decide (AsksAuto property.2), read.2)

/-- One call. -/
def propertyStep (s : σ) (call : PropertyCall) : PropertyReply × σ :=
  match call.command with
  | .setProperty value => (setProperty camera call.propID value s).map .flag id
  | .getProperty => (getProperty camera call.propID s).map .value id
  | .setAutoProperty enabled => (setAutoProperty camera call.propID enabled s).map .flag id
  | .getAutoProperty => (getAutoProperty camera call.propID s).map .auto id
  | .getPropertyLimits => (getPropertyLimits camera call.propID true true s).map .limits id

/-- How the camera reacts to a call that comes to the control of its property. -/
def reaction (s : σ) (call : PropertyCall) : Reaction :=
  let control := row call.propID
  let got := camera.Get control s
  match call.command with
  | .setProperty value =>
      ⟨got.1.hr = S_OK, (camera.Set control value got.1.flags got.2).1 = S_OK⟩
  | .setAutoProperty enabled =>
      if IsProcAmp call.propID then
        ⟨¬ FAILED got.1.hr,
          (camera.Set control got.1.lValue (autoFlags enabled) got.2).1 = S_OK⟩
      else
        ⟨true, (camera.Set control 0
          (autoFlags enabled ||| KSPROPERTY_CAMERACONTROL_FLAGS_RELATIVE) s).1 = S_OK⟩
  | .getProperty | .getAutoProperty => ⟨¬ FAILED got.1.hr, true⟩
  | .getPropertyLimits => ⟨(camera.GetRange control s).1.1 = S_OK, true⟩

/-- What a call comes to. -/
def turn (s : σ) (call : PropertyCall) : Turn := ⟨call.command, reaction camera s call⟩

/-! ## Knobs -/

/-- A call about the property comes to its control. -/
def Supported (propID : CapPropertyID) : Prop :=
  camera.m_camControl = true ∧ propID < CAPPROPID_LAST ∧ Reachable camera (row propID)

instance (propID : CapPropertyID) : Decidable (Supported camera propID) :=
  inferInstanceAs (Decidable (_ ∧ _ ∧ _))

end Functions

structure Control where
  value : Int
  auto : Bool
deriving DecidableEq, Repr

/-- The flag `Get` returns. -/
def Control.flags (control : Control) : UInt32 := autoFlags control.auto

abbrev Controls := PropertyT → Control

/-- A camera that is a store of controls.  A control changes when it is set, and no other does; what
it then holds depends on what it was set to alone; and what is read is what is held. -/
structure ControlStore {σ : Type} (camera : Camera σ) where
  cur : σ → Controls
  /-- The value a control holds that was set to this one. -/
  settles : PropertyT → Int → Int
  range : PropertyT → PropertyLimits
  /-- A value that a control holds is one it takes as it is. -/
  settled : ∀ s control, settles control (cur s control).value = (cur s control).value
  /-- `Get` fails, or returns `S_OK`. -/
  get_sOk : ∀ control s, ¬ FAILED (camera.Get control s).1.hr → (camera.Get control s).1.hr = S_OK
  get_cur : ∀ control s, (camera.Get control s).1.hr = S_OK →
    (camera.Get control s).1.lValue = (cur s control).value ∧
      (camera.Get control s).1.flags = (cur s control).flags
  get_keeps : ∀ control s, cur (camera.Get control s).2 = cur s
  set_cur : ∀ control lValue flags s, flags &&& KSPROPERTY_CAMERACONTROL_FLAGS_RELATIVE = 0 →
    cur (camera.Set control lValue flags s).2 =
      if (camera.Set control lValue flags s).1 = S_OK then
        Function.update (cur s) control ⟨settles control lValue, AsksAuto flags⟩
      else cur s
  /-- Relative to the present value, by zero. -/
  set_relative : ∀ control flags s, flags &&& KSPROPERTY_CAMERACONTROL_FLAGS_RELATIVE ≠ 0 →
    cur (camera.Set control 0 flags s).2 =
      if (camera.Set control 0 flags s).1 = S_OK then
        Function.update (cur s) control ⟨(cur s control).value, AsksAuto flags⟩
      else cur s
  range_limits : ∀ control s, (camera.GetRange control s).1.1 = S_OK →
    (camera.GetRange control s).1.2 = range control
  range_keeps : ∀ control s, cur (camera.GetRange control s).2 = cur s

/-- What becomes of a call that is to turn the automatic state. -/
def switch (propID : CapPropertyID) : Switch :=
  if (autoProperty propID).isNone then .unsupported
  else if IsProcAmp propID then .readFirst
  else .unreported

section Knobs

variable {σ : Type} {camera : Camera σ} (store : ControlStore camera)

/-- What the knob of a property can do. -/
def traits (propID : CapPropertyID) : Traits :=
  if Supported camera propID then
    { settles := some (store.settles (row propID))
      readFirst := true
      showsAuto := true
      switch := switch propID
      limits := some (store.range (row propID)) }
  else Traits.none

/-- The knobs of the properties. -/
def knobs (s : Controls) (propID : CapPropertyID) : Knob :=
  if propID < CAPPROPID_LAST then ⟨(s (row propID)).value, (s (row propID)).auto⟩
  else ⟨0, false⟩

end Knobs

section Refinement

variable {σ : Type} {camera : Camera σ} {store : ControlStore camera} {propID : CapPropertyID}

/-- No two rows are about one control. -/
theorem row_inj {p q : CapPropertyID} (inTable : p < CAPPROPID_LAST) (inTable' : q < CAPPROPID_LAST)
    (same : row p = row q) : p = q := by
  have apart : ∀ i < 14, ∀ j < 14,
      gs_properties.getD i ⟨0, true⟩ = gs_properties.getD j ⟨0, true⟩ → i = j := by
    decide
  exact UInt32.toNat_inj.1 (apart p.toNat (UInt32.lt_iff_toNat_lt.1 inTable) q.toNat
    (UInt32.lt_iff_toNat_lt.1 inTable') same)

/-- The `switch` of `setAutoProperty` names the control of the row. -/
theorem row_of_autoProperty {prop : UInt32} (found : autoProperty propID = some prop) :
    propID < CAPPROPID_LAST ∧ row propID = ⟨prop, decide (¬ IsProcAmp propID)⟩ := by
  have rows : autoProperties.Forall fun entry => entry.1 < CAPPROPID_LAST ∧
      row entry.1 = ⟨entry.2, decide (¬ IsProcAmp entry.1)⟩ := by
    decide
  exact List.forall_iff_forall_mem.1 rows _ (@entry_of_lookup autoProperties propID prop found)

/-- Setting the control of a property turns its knob, and no other. -/
theorem knobs_update (s : Controls) (inTable : propID < CAPPROPID_LAST) (control : Control) :
    knobs (Function.update s (row propID) control) =
      Function.update (knobs s) propID ⟨control.value, control.auto⟩ := by
  funext q
  by_cases same : q = propID
  · subst same
    rw [Function.update_self, knobs, if_pos inTable, Function.update_self]
  · rw [Function.update_of_ne same]
    unfold knobs
    by_cases inTable' : q < CAPPROPID_LAST
    · have apart : row q ≠ row propID := fun rows => same (row_inj inTable' inTable rows)
      rw [if_pos inTable', if_pos inTable', Function.update_of_ne apart]
    · rw [if_neg inTable', if_neg inTable']

theorem autoFlags_absolute (enabled : Bool) :
    autoFlags enabled &&& KSPROPERTY_CAMERACONTROL_FLAGS_RELATIVE = 0 := by
  cases enabled <;> rfl

theorem AsksAuto_autoFlags (enabled : Bool) : decide (AsksAuto (autoFlags enabled)) = enabled := by
  cases enabled <;> rfl

/-- The flag a control was read with sets it absolutely, and leaves its state. -/
theorem set_flags (store : ControlStore camera) (control : PropertyT) (value : Int) (auto : Bool)
    (s : σ) :
    store.cur (camera.Set control value (autoFlags auto) s).2 =
      if (camera.Set control value (autoFlags auto) s).1 = S_OK then
        Function.update (store.cur s) control ⟨store.settles control value, auto⟩
      else store.cur s := by
  rw [store.set_cur _ _ _ _ (autoFlags_absolute auto), AsksAuto_autoFlags]

/-- A flag that is set relative to the present value, by zero, leaves the value. -/
theorem set_relative_flags (store : ControlStore camera) (control : PropertyT) (enabled : Bool)
    (s : σ) :
    store.cur (camera.Set control 0
        (autoFlags enabled ||| KSPROPERTY_CAMERACONTROL_FLAGS_RELATIVE) s).2 =
      if (camera.Set control 0
          (autoFlags enabled ||| KSPROPERTY_CAMERACONTROL_FLAGS_RELATIVE) s).1 = S_OK then
        Function.update (store.cur s) control ⟨(store.cur s control).value, enabled⟩
      else store.cur s := by
  have relative : (autoFlags enabled ||| KSPROPERTY_CAMERACONTROL_FLAGS_RELATIVE) &&&
      KSPROPERTY_CAMERACONTROL_FLAGS_RELATIVE ≠ 0 := by
    cases enabled <;> decide
  have asks : decide (AsksAuto (autoFlags enabled ||| KSPROPERTY_CAMERACONTROL_FLAGS_RELATIVE)) =
      enabled := by
    cases enabled <;> rfl
  rw [store.set_relative _ _ _ relative, asks]

/-- A property that is not supported answers so, and the camera is not asked. -/
theorem propertyStep_unsupported (unsupported : ¬ Supported camera propID) (command : PropertyCommand)
    (knob : Knob) (s : σ) :
    propertyStep camera s ⟨propID, command⟩ =
      ((Knob.step Traits.none knob (turn camera s ⟨propID, command⟩)).1, s) := by
  have refused : camera.m_camControl = true → propID < CAPPROPID_LAST →
      ¬ Reachable camera (row propID) :=
    fun present inTable reachable => unsupported ⟨present, inTable, reachable⟩
  rw [Knob.step_none]
  by_cases present : camera.m_camControl = true
  · by_cases inTable : propID < CAPPROPID_LAST
    · have missing := refused present inTable
      cases command with
      | setAutoProperty enabled =>
          cases found : autoProperty propID with
          | none => simp [propertyStep, setAutoProperty, turn, present, found]
          | some prop =>
              obtain ⟨-, same⟩ := row_of_autoProperty found
              obtain ⟨notCamera, noProcAmp⟩ := not_or.1 missing
              rw [same] at notCamera
              have procAmp : IsProcAmp propID := by simpa using notCamera
              simp [propertyStep, setAutoProperty, turn, present, found, procAmp, noProcAmp]
      | _ =>
          simp [propertyStep, setProperty, getProperty, getAutoProperty, getDSProperty,
            getPropertyLimits, turn, present, inTable, missing]
    · cases command with
      | setAutoProperty enabled =>
          have none_ : autoProperty propID = none := by
            cases found : autoProperty propID with
            | none => rfl
            | some prop => exact absurd (row_of_autoProperty found).1 inTable
          simp [propertyStep, setAutoProperty, turn, present, none_]
      | _ =>
          simp [propertyStep, setProperty, getProperty, getAutoProperty, getDSProperty,
            getPropertyLimits, turn, present, inTable]
  · cases command <;>
      simp [propertyStep, setProperty, setAutoProperty, getProperty, getAutoProperty, getDSProperty,
        getPropertyLimits, turn, present]

theorem knobs_inTable (s : Controls) (inTable : propID < CAPPROPID_LAST) :
    knobs s propID = ⟨(s (row propID)).value, (s (row propID)).auto⟩ := if_pos inTable

/-- The call answers as the knob of its property does, and turns that knob and no other. -/
def TurnsKnob (store : ControlStore camera) (s : σ) (call : PropertyCall) : Prop :=
  let turned := Knob.step (traits store call.propID) (knobs (store.cur s) call.propID)
    (turn camera s call)
  (propertyStep camera s call).1 = turned.1 ∧
    knobs (store.cur (propertyStep camera s call).2) =
      Function.update (knobs (store.cur s)) call.propID turned.2

section Supported

variable (store : ControlStore camera) (s : σ) (supported : Supported camera propID)

include supported

theorem setProperty_turns (value : Int) : TurnsKnob store s ⟨propID, .setProperty value⟩ := by
  unfold TurnsKnob
  rw [show traits store propID = _ from if_pos supported]
  obtain ⟨present, inTable, reachable⟩ := supported
  have knob := knobs_inTable (store.cur s) inTable
  have turned := knobs_update (store.cur s) inTable
  have keeps := store.get_keeps (row propID) s
  by_cases reads : (camera.Get (row propID) s).1.hr = S_OK
  · have retained := (store.get_cur _ _ reads).2
    have held := set_flags store (row propID) value (store.cur s (row propID)).auto
      (camera.Get (row propID) s).2
    rw [keeps] at held
    simp only [propertyStep, setProperty, turn, reaction, Knob.step, present, inTable, reachable,
      reads, retained, Control.flags]
    by_cases takes : (camera.Set (row propID) value
        (autoFlags (store.cur s (row propID)).auto) (camera.Get (row propID) s).2).1 = S_OK
    · simp [takes, held, turned, knob]
    · simp [takes, held]
  · simp [propertyStep, setProperty, turn, reaction, Knob.step, present, inTable, reachable,
      reads, keeps]

theorem getProperty_turns : TurnsKnob store s ⟨propID, .getProperty⟩ := by
  unfold TurnsKnob
  rw [show traits store propID = _ from if_pos supported]
  obtain ⟨present, inTable, reachable⟩ := supported
  have knob := knobs_inTable (store.cur s) inTable
  have keeps := store.get_keeps (row propID) s
  by_cases fails : FAILED (camera.Get (row propID) s).1.hr
  · simp [propertyStep, getProperty, getDSProperty, turn, reaction, Knob.step, present, inTable,
      reachable, fails, keeps]
  · have read := (store.get_cur _ _ (store.get_sOk _ _ fails)).1
    simp [propertyStep, getProperty, getDSProperty, turn, reaction, Knob.step, present, inTable,
      reachable, fails, keeps, knob, read]

theorem getAutoProperty_turns : TurnsKnob store s ⟨propID, .getAutoProperty⟩ := by
  unfold TurnsKnob
  rw [show traits store propID = _ from if_pos supported]
  obtain ⟨present, inTable, reachable⟩ := supported
  have knob := knobs_inTable (store.cur s) inTable
  have keeps := store.get_keeps (row propID) s
  by_cases fails : FAILED (camera.Get (row propID) s).1.hr
  · simp [propertyStep, getAutoProperty, getDSProperty, turn, reaction, Knob.step, present,
      inTable, reachable, fails, keeps]
  · have read := (store.get_cur _ _ (store.get_sOk _ _ fails)).2
    simp [propertyStep, getAutoProperty, getDSProperty, turn, reaction, Knob.step, present,
      inTable, reachable, fails, keeps, knob, read, Control.flags, AsksAuto_autoFlags]

theorem getPropertyLimits_turns : TurnsKnob store s ⟨propID, .getPropertyLimits⟩ := by
  unfold TurnsKnob
  rw [show traits store propID = _ from if_pos supported]
  obtain ⟨present, inTable, reachable⟩ := supported
  have kept := store.range_keeps (row propID) s
  by_cases reads : (camera.GetRange (row propID) s).1.1 = S_OK
  · have read := store.range_limits _ _ reads
    simp [propertyStep, getPropertyLimits, turn, reaction, Knob.step, present, inTable,
      reachable, reads, read, kept]
  · simp [propertyStep, getPropertyLimits, turn, reaction, Knob.step, present, inTable,
      reachable, reads, kept]

/-- A property with no automatic state to set. -/
theorem setAutoProperty_turns_none (missing : autoProperty propID = none) (enabled : Bool) :
    TurnsKnob store s ⟨propID, .setAutoProperty enabled⟩ := by
  unfold TurnsKnob
  rw [show traits store propID = _ from if_pos supported]
  simp [propertyStep, setAutoProperty, turn, Knob.step, switch, supported.1, missing]

/-- The value of the image processing is read and set again. -/
theorem setAutoProperty_turns_procAmp {prop : UInt32} (found : autoProperty propID = some prop)
    (procAmp : IsProcAmp propID) (enabled : Bool) :
    TurnsKnob store s ⟨propID, .setAutoProperty enabled⟩ := by
  unfold TurnsKnob
  rw [show traits store propID = _ from if_pos supported]
  obtain ⟨present, inTable, reachable⟩ := supported
  have control : row propID = ⟨prop, false⟩ := by
    simpa [procAmp] using (row_of_autoProperty found).2
  have there : camera.m_videoProcAmp = true := by
    simpa [Reachable, control] using reachable
  have knob := knobs_inTable (store.cur s) inTable
  have turned := knobs_update (store.cur s) inTable
  have settled := store.settled s (row propID)
  have keeps := store.get_keeps (row propID) s
  rw [control] at knob turned settled keeps
  by_cases fails : FAILED (camera.Get ⟨prop, false⟩ s).1.hr
  · simp [propertyStep, setAutoProperty, turn, reaction, Knob.step, switch, present, found,
      procAmp, there, control, fails, keeps]
  · have read := (store.get_cur _ _ (store.get_sOk _ _ fails)).1
    have held := set_flags store ⟨prop, false⟩ (store.cur s ⟨prop, false⟩).value enabled
      (camera.Get ⟨prop, false⟩ s).2
    rw [keeps, settled] at held
    by_cases takes : (camera.Set ⟨prop, false⟩ (store.cur s ⟨prop, false⟩).value
        (autoFlags enabled) (camera.Get ⟨prop, false⟩ s).2).1 = S_OK
    · simp [propertyStep, setAutoProperty, turn, reaction, Knob.step, switch, present, found,
        procAmp, there, control, fails, read, takes, held, turned, knob]
    · simp [propertyStep, setAutoProperty, turn, reaction, Knob.step, switch, present, found,
        procAmp, there, control, fails, read, takes, held]

/-- The value of the camera is set relative to itself. -/
theorem setAutoProperty_turns_camera {prop : UInt32} (found : autoProperty propID = some prop)
    (relative : ¬ IsProcAmp propID) (enabled : Bool) :
    TurnsKnob store s ⟨propID, .setAutoProperty enabled⟩ := by
  unfold TurnsKnob
  rw [show traits store propID = _ from if_pos supported]
  obtain ⟨present, inTable, -⟩ := supported
  have control : row propID = ⟨prop, true⟩ := by
    simpa [relative] using (row_of_autoProperty found).2
  have knob := knobs_inTable (store.cur s) inTable
  have turned := knobs_update (store.cur s) inTable
  rw [control] at knob turned
  have held := set_relative_flags store ⟨prop, true⟩ enabled s
  by_cases takes : (camera.Set ⟨prop, true⟩ 0
      (autoFlags enabled ||| KSPROPERTY_CAMERACONTROL_FLAGS_RELATIVE) s).1 = S_OK
  · simp [propertyStep, setAutoProperty, turn, reaction, Knob.step, switch, present, found,
      relative, control, takes, held, turned, knob]
  · simp [propertyStep, setAutoProperty, turn, reaction, Knob.step, switch, present, found,
      relative, control, takes, held]

end Supported

/-- A call is one about the knob of its property. -/
theorem propertyStep_knob (store : ControlStore camera) (s : σ) (call : PropertyCall) :
    TurnsKnob store s call := by
  obtain ⟨propID, command⟩ := call
  by_cases supported : Supported camera propID
  · cases command with
    | setProperty value => exact setProperty_turns store s supported value
    | getProperty => exact getProperty_turns store s supported
    | getAutoProperty => exact getAutoProperty_turns store s supported
    | getPropertyLimits => exact getPropertyLimits_turns store s supported
    | setAutoProperty enabled =>
        cases found : autoProperty propID with
        | none => exact setAutoProperty_turns_none store s supported found enabled
        | some prop =>
            by_cases procAmp : IsProcAmp propID
            · exact setAutoProperty_turns_procAmp store s supported found procAmp enabled
            · exact setAutoProperty_turns_camera store s supported found procAmp enabled
  · have none_ : traits store propID = Traits.none := if_neg supported
    unfold TurnsKnob
    rw [propertyStep_unsupported supported command (knobs (store.cur s) propID), none_]
    refine ⟨rfl, ?_⟩
    rw [Knob.step_none]
    exact (Function.update_eq_self propID _).symm

theorem propertyStep_splits (store : ControlStore camera) :
    Components.Splits (propertyStep camera) PropertyCall.propID (turn camera)
      (fun propID => Knob.step (traits store propID)) (fun s => knobs (store.cur s)) where
  answer s call := (propertyStep_knob store s call).1
  state s call := (propertyStep_knob store s call).2

/-- **The properties of a DirectShow camera are knobs of their own.**  For every camera that is a
store of controls, in whatever state, with or without either interface, and every list of calls,
whichever of them the camera refuses: the calls about a property are answered as one knob answers
them, with the camera's reactions to these calls, that is never told of the others. -/
theorem directShow_knobs_apart (store : ControlStore camera) (s : σ) (calls : List PropertyCall)
    (propID : CapPropertyID) :
    Components.answersTo (fun call => call.propID = propID) (propertyStep camera) s calls =
      Components.answers (Knob.step (traits store propID)) (knobs (store.cur s) propID)
        (Components.observedTo (fun call => call.propID = propID) (turn camera) (propertyStep camera)
          s calls) :=
  (propertyStep_splits store).answers_about propID s calls

end Refinement

/-! ## A camera -/

def percent (value : Int) : Int := max 0 (min value 100)

/-- What `Controls` of percentages may hold. -/
def Percentages : Type := { s : Controls // ∀ control, percent (s control).value = (s control).value }

theorem percent_percent (value : Int) : percent (percent value) = percent value := by
  unfold percent
  omega

def Percentages.set (s : Percentages) (control : PropertyT) (value : Int) (auto : Bool) :
    Percentages := by
  refine ⟨Function.update s.1 control ⟨percent value, auto⟩, fun other => ?_⟩
  by_cases same : other = control
  · subst same
    rw [Function.update_self]
    exact percent_percent value
  · rw [Function.update_of_ne same]
    exact s.2 other

/-- Clamps each value to a percentage, and does not take a gain. -/
def percentCamera : Camera Percentages where
  m_camControl := true
  m_videoProcAmp := true
  Get control s := (⟨S_OK, (s.1 control).value, (s.1 control).flags⟩, s)
  Set control lValue flags s :=
    if control = ⟨VideoProcAmp_Gain, false⟩ then (-1, s)
    else
      let value :=
        if flags &&& KSPROPERTY_CAMERACONTROL_FLAGS_RELATIVE ≠ 0 then (s.1 control).value + lValue
        else lValue
      (S_OK, s.set control value (AsksAuto flags))
  GetRange _ s := ((S_OK, ⟨0, 100, 50⟩), s)

def percentStore : ControlStore percentCamera where
  cur := Subtype.val
  settles _ := percent
  range _ := ⟨0, 100, 50⟩
  settled s control := s.2 control
  get_sOk _ _ _ := rfl
  get_cur _ _ _ := ⟨rfl, rfl⟩
  get_keeps _ _ := rfl
  set_cur control lValue flags s absolute := by
    unfold percentCamera
    by_cases gain : control = ⟨VideoProcAmp_Gain, false⟩
    · simp [gain, S_OK]
    · simp [gain, absolute, Percentages.set]
  set_relative control flags s relative := by
    unfold percentCamera
    by_cases gain : control = ⟨VideoProcAmp_Gain, false⟩
    · simp [gain, S_OK]
    · simp [gain, relative, Percentages.set, s.2 control]
  range_limits _ _ _ := rfl
  range_keeps _ _ := rfl

/-- All values at 0, nothing automatic. -/
def Percentages.zero : Percentages := ⟨fun _ => ⟨0, false⟩, fun _ => rfl⟩

/-- The brightness does not show in the focus, and its value is retained when it is switched. -/
theorem directShow_knobs_apart_focus :
    let calls : List PropertyCall :=
      [⟨CAPPROPID_FOCUS, .setProperty 250⟩, ⟨CAPPROPID_BRIGHTNESS, .setProperty 7⟩,
        ⟨CAPPROPID_FOCUS, .setAutoProperty true⟩, ⟨CAPPROPID_GAIN, .setAutoProperty true⟩,
        ⟨CAPPROPID_FOCUS, .getProperty⟩, ⟨CAPPROPID_FOCUS, .getAutoProperty⟩]
    Components.answersTo (fun call => call.propID = CAPPROPID_FOCUS) (propertyStep percentCamera)
      Percentages.zero calls = [.flag true, .flag true, .value (some 100), .auto (some true)] := by
  intro calls
  rw [directShow_knobs_apart percentStore]
  decide

end OpenpnpCapture.Win.Properties
