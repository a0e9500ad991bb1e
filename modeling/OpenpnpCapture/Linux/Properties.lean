/-
# Linux.Properties — the property functions over V4L2 controls

A property is a V4L2 control, and its automatic state another one; for the exposure that one is a
menu, not a boolean.  The driver is three `ioctl`s on a state of its own (`V4l2Driver`), and may fail
any request.

`v4l2_knobs_apart`: for a driver that keeps its controls as a store does (`ControlStore`), seen
through the controls of each property the functions are a panel of independent knobs, whatever calls
are made.  A driver that moves a value by itself while it is automatic is no such store.
-/
import Mathlib.Data.List.Nodup
import OpenpnpCapture.Common.ControlPanel

namespace OpenpnpCapture.Linux.Properties

open OpenpnpCapture.Lib OpenpnpCapture.Common

set_option autoImplicit false

/-! ## Controls -/

def V4L2_CID_BRIGHTNESS : UInt32 := 0x00980900
def V4L2_CID_CONTRAST : UInt32 := 0x00980901
def V4L2_CID_SATURATION : UInt32 := 0x00980902
def V4L2_CID_HUE : UInt32 := 0x00980903
def V4L2_CID_AUTO_WHITE_BALANCE : UInt32 := 0x0098090C
def V4L2_CID_GAMMA : UInt32 := 0x00980910
def V4L2_CID_AUTOGAIN : UInt32 := 0x00980912
def V4L2_CID_POWER_LINE_FREQUENCY : UInt32 := 0x00980918
def V4L2_CID_WHITE_BALANCE_TEMPERATURE : UInt32 := 0x0098091A
def V4L2_CID_SHARPNESS : UInt32 := 0x0098091B
def V4L2_CID_BACKLIGHT_COMPENSATION : UInt32 := 0x0098091C
def V4L2_CID_EXPOSURE_AUTO : UInt32 := 0x009A0901
def V4L2_CID_EXPOSURE_ABSOLUTE : UInt32 := 0x009A0902
def V4L2_CID_FOCUS_ABSOLUTE : UInt32 := 0x009A090A
def V4L2_CID_FOCUS_AUTO : UInt32 := 0x009A090C
def V4L2_CID_ZOOM_ABSOLUTE : UInt32 := 0x009A090D

def V4L2_EXPOSURE_MANUAL : Int := 1
def V4L2_EXPOSURE_APERTURE_PRIORITY : Int := 3

/-- The `switch` that `setProperty`, `getProperty` and `getPropertyLimits` share. -/
def valueControls : List (CapPropertyID × UInt32) :=
  [(CAPPROPID_EXPOSURE, V4L2_CID_EXPOSURE_ABSOLUTE),
    (CAPPROPID_FOCUS, V4L2_CID_FOCUS_ABSOLUTE),
    (CAPPROPID_ZOOM, V4L2_CID_ZOOM_ABSOLUTE),
    (CAPPROPID_WHITEBALANCE, V4L2_CID_WHITE_BALANCE_TEMPERATURE),
    (CAPPROPID_BRIGHTNESS, V4L2_CID_BRIGHTNESS),
    (CAPPROPID_CONTRAST, V4L2_CID_CONTRAST),
    (CAPPROPID_SATURATION, V4L2_CID_SATURATION),
    (CAPPROPID_GAMMA, V4L2_CID_GAMMA),
    (CAPPROPID_HUE, V4L2_CID_HUE),
    (CAPPROPID_SHARPNESS, V4L2_CID_SHARPNESS),
    (CAPPROPID_BACKLIGHTCOMP, V4L2_CID_BACKLIGHT_COMPENSATION),
    (CAPPROPID_POWERLINEFREQ, V4L2_CID_POWER_LINE_FREQUENCY)]

/-- The `switch` of `setAutoProperty` and `getAutoProperty`. -/
def autoControls : List (CapPropertyID × UInt32) :=
  [(CAPPROPID_EXPOSURE, V4L2_CID_EXPOSURE_AUTO),
    (CAPPROPID_FOCUS, V4L2_CID_FOCUS_AUTO),
    (CAPPROPID_WHITEBALANCE, V4L2_CID_AUTO_WHITE_BALANCE),
    (CAPPROPID_GAIN, V4L2_CID_AUTOGAIN)]

def valueControl (propID : CapPropertyID) : Option UInt32 := valueControls.lookup propID
def autoControl (propID : CapPropertyID) : Option UInt32 := autoControls.lookup propID

/-- What `setAutoProperty` sets the control to. -/
def autoValue (id : UInt32) (enabled : Bool) : Int :=
  if id = V4L2_CID_EXPOSURE_AUTO then
    if enabled then V4L2_EXPOSURE_APERTURE_PRIORITY else V4L2_EXPOSURE_MANUAL
  else if enabled then 1 else 0

/-- How `getAutoProperty` reads the control. -/
def isAuto (id : UInt32) (value : Int) : Bool :=
  if id = V4L2_CID_EXPOSURE_AUTO then value ≠ V4L2_EXPOSURE_MANUAL else value ≠ 0

theorem isAuto_autoValue (id : UInt32) (enabled : Bool) : isAuto id (autoValue id enabled) = enabled := by
  unfold isAuto autoValue
  cases enabled <;> split <;> rfl

section Tables

variable {p q : CapPropertyID} {id : UInt32}

theorem entry_of_valueControl (found : valueControl p = some id) : (p, id) ∈ valueControls :=
  @entry_of_lookup valueControls p id found

theorem entry_of_autoControl (found : autoControl p = some id) : (p, id) ∈ autoControls :=
  @entry_of_lookup autoControls p id found

/-- The sixteen controls differ. -/
theorem controls_nodup : (valueControls.map Prod.snd ++ autoControls.map Prod.snd).Nodup := by
  decide

theorem valueControl_inj (here : valueControl p = some id) (there : valueControl q = some id) :
    p = q :=
  congrArg Prod.fst (List.inj_on_of_nodup_map controls_nodup.of_append_left
    (entry_of_valueControl here) (entry_of_valueControl there) rfl)

theorem autoControl_inj (here : autoControl p = some id) (there : autoControl q = some id) :
    p = q :=
  congrArg Prod.fst (List.inj_on_of_nodup_map controls_nodup.of_append_right
    (entry_of_autoControl here) (entry_of_autoControl there) rfl)

/-- No control is both a value and an automatic state. -/
theorem valueControl_ne_autoControl (here : valueControl p = some id) :
    autoControl q ≠ some id := by
  intro there
  have value : id ∈ valueControls.map Prod.snd := List.mem_map_of_mem (entry_of_valueControl here)
  have auto : id ∈ autoControls.map Prod.snd := List.mem_map_of_mem (entry_of_autoControl there)
  exact List.disjoint_of_nodup_append controls_nodup value auto

end Tables

/-! ## The driver -/

structure V4l2Control where
  id : UInt32
  value : Int

/-- `xioctl` with each of the three requests, in the state it meets: whether it did not return -1,
with what it wrote to its argument, and the state it leaves. -/
structure V4l2Driver (σ : Type) where
  S_CTRL : V4l2Control → σ → Bool × σ
  G_CTRL : UInt32 → σ → Option Int × σ
  QUERYCTRL : UInt32 → σ → Option PropertyLimits × σ

section Functions

variable {σ : Type} (driver : V4l2Driver σ)

def setProperty (propID : CapPropertyID) (value : Int) (s : σ) : Bool × σ :=
  match valueControl propID with
  | none => (false, s)
  | some id => driver.S_CTRL ⟨id, value⟩ s

def setAutoProperty (propID : CapPropertyID) (enabled : Bool) (s : σ) : Bool × σ :=
  match autoControl propID with
  | none => (false, s)
  | some id => driver.S_CTRL ⟨id, autoValue id enabled⟩ s

/-- The three pointers are null or not. -/
def getPropertyLimits (propID : CapPropertyID) (emin emax dValue : Bool) (s : σ) :
    Option PropertyLimits × σ :=
  if ¬ emin ∨ ¬ emax ∨ ¬ dValue then (none, s)
  else
    match valueControl propID with
    | none => (none, s)
    | some id => driver.QUERYCTRL id s

def getProperty (propID : CapPropertyID) (s : σ) : Option Int × σ :=
  match valueControl propID with
  | none => (none, s)
  | some id => driver.G_CTRL id s

def getAutoProperty (propID : CapPropertyID) (s : σ) : Option Bool × σ :=
  match autoControl propID with
  | none => (none, s)
  | some id =>
      let read := driver.G_CTRL id s
      (read.1.map (isAuto id), read.2)

/-- One call. -/
def propertyStep (s : σ) (call : PropertyCall) : PropertyReply × σ :=
  match call.command with
  | .setProperty value => (setProperty driver call.propID value s).map .flag id
  | .getProperty => (getProperty driver call.propID s).map .value id
  | .setAutoProperty enabled => (setAutoProperty driver call.propID enabled s).map .flag id
  | .getAutoProperty => (getAutoProperty driver call.propID s).map .auto id
  | .getPropertyLimits =>
      (getPropertyLimits driver call.propID true true true s).map .limits id

/-- How the driver reacts to the request of a call, if it makes one. -/
def reaction (s : σ) (call : PropertyCall) : Reaction :=
  match call.command with
  | .setProperty value =>
      ⟨true, (valueControl call.propID).any fun id => (driver.S_CTRL ⟨id, value⟩ s).1⟩
  | .setAutoProperty enabled =>
      ⟨true, (autoControl call.propID).any fun id => (driver.S_CTRL ⟨id, autoValue id enabled⟩ s).1⟩
  | .getProperty => ⟨(valueControl call.propID).any fun id => (driver.G_CTRL id s).1.isSome, true⟩
  | .getAutoProperty =>
      ⟨(autoControl call.propID).any fun id => (driver.G_CTRL id s).1.isSome, true⟩
  | .getPropertyLimits =>
      ⟨(valueControl call.propID).any fun id => (driver.QUERYCTRL id s).1.isSome, true⟩

/-- What a call comes to. -/
def turn (s : σ) (call : PropertyCall) : Turn := ⟨call.command, reaction driver s call⟩

end Functions

/-! ## Knobs -/

/-- The value of each control. -/
abbrev Controls := UInt32 → Int

/-- A driver that is a store of controls.  A control changes when it is set, and no other does; what
it then holds depends on what it was set to alone; and what is read is what is held. -/
structure ControlStore {σ : Type} (driver : V4l2Driver σ) where
  cur : σ → Controls
  /-- The value a control holds that was set to this one; a driver may clamp it. -/
  settles : UInt32 → Int → Int
  range : UInt32 → PropertyLimits
  set_cur : ∀ ctrl s, cur (driver.S_CTRL ctrl s).2 =
    if (driver.S_CTRL ctrl s).1 then
      Function.update (cur s) ctrl.id (settles ctrl.id ctrl.value)
    else cur s
  get_cur : ∀ id s value, (driver.G_CTRL id s).1 = some value → value = cur s id
  get_keeps : ∀ id s, cur (driver.G_CTRL id s).2 = cur s
  query_range : ∀ id s limits, (driver.QUERYCTRL id s).1 = some limits → limits = range id
  query_keeps : ∀ id s, cur (driver.QUERYCTRL id s).2 = cur s
  /-- A boolean or menu control holds the choice it was given. -/
  chooses : autoControls.Forall fun entry => ∀ enabled,
    settles entry.2 (autoValue entry.2 enabled) = autoValue entry.2 enabled

section Knobs

variable {σ : Type} {driver : V4l2Driver σ} (store : ControlStore driver)

/-- What the knob of a property can do. -/
def traits (propID : CapPropertyID) : Traits where
  settles := (valueControl propID).map store.settles
  readFirst := false
  showsAuto := (autoControl propID).isSome
  switch := if (autoControl propID).isSome then .reported else .unsupported
  limits := (valueControl propID).map store.range

/-- The knobs of the properties. -/
def knobs (s : Controls) (propID : CapPropertyID) : Knob where
  value := (valueControl propID).elim 0 s
  auto := (autoControl propID).elim false fun id => isAuto id (s id)

end Knobs

section Refinement

variable {σ : Type} {driver : V4l2Driver σ} {store : ControlStore driver} {propID : CapPropertyID}
  {id : UInt32} {s : Controls}

/-- Setting the value of a property turns the value of its knob, and no other. -/
theorem knobs_update_value (control : valueControl propID = some id) (held : Int) :
    knobs (Function.update s id held) =
      Function.update (knobs s) propID { knobs s propID with value := held } := by
  funext q
  have auto : (knobs (Function.update s id held) q).auto = (knobs s q).auto := by
    unfold knobs
    cases switch : autoControl q with
    | none => rfl
    | some id' =>
        have apart : id' ≠ id := fun same =>
          valueControl_ne_autoControl control (switch.trans (congrArg some same))
        simp only [Option.elim_some, Function.update_of_ne apart]
  by_cases same : q = propID
  · subst same
    rw [Function.update_self]
    refine Knob.ext ?_ auto
    simp only [knobs, control, Option.elim_some, Function.update_self]
  · rw [Function.update_of_ne same]
    refine Knob.ext ?_ auto
    unfold knobs
    cases value : valueControl q with
    | none => rfl
    | some id' =>
        have apart : id' ≠ id := fun same' =>
          same (valueControl_inj (value.trans (congrArg some same')) control)
        simp only [Option.elim_some, Function.update_of_ne apart]

/-- Setting its automatic state likewise. -/
theorem knobs_update_auto (control : autoControl propID = some id) (held : Int) :
    knobs (Function.update s id held) =
      Function.update (knobs s) propID { knobs s propID with auto := isAuto id held } := by
  funext q
  have value : (knobs (Function.update s id held) q).value = (knobs s q).value := by
    unfold knobs
    cases switch : valueControl q with
    | none => rfl
    | some id' =>
        have apart : id ≠ id' := fun same =>
          valueControl_ne_autoControl switch (control.trans (congrArg some same))
        simp only [Option.elim_some, Function.update_of_ne apart.symm]
  by_cases same : q = propID
  · subst same
    rw [Function.update_self]
    refine Knob.ext value ?_
    simp only [knobs, control, Option.elim_some, Function.update_self]
  · rw [Function.update_of_ne same]
    refine Knob.ext value ?_
    unfold knobs
    cases auto : autoControl q with
    | none => rfl
    | some id' =>
        have apart : id' ≠ id := fun same' =>
          same (autoControl_inj (auto.trans (congrArg some same')) control)
        simp only [Option.elim_some, Function.update_of_ne apart]

theorem settles_auto (store : ControlStore driver) (control : autoControl propID = some id)
    (enabled : Bool) : isAuto id (store.settles id (autoValue id enabled)) = enabled := by
  rw [List.forall_iff_forall_mem.1 store.chooses _ (entry_of_autoControl control), isAuto_autoValue]

/-- What is read is what is held, or nothing. -/
theorem get_eq (store : ControlStore driver) (id : UInt32) (s : σ) :
    (driver.G_CTRL id s).1 =
      if (driver.G_CTRL id s).1.isSome then some (store.cur s id) else none := by
  cases read : (driver.G_CTRL id s).1 with
  | none => rfl
  | some value => exact congrArg some (store.get_cur id s value read)

theorem query_eq (store : ControlStore driver) (id : UInt32) (s : σ) :
    (driver.QUERYCTRL id s).1 =
      if (driver.QUERYCTRL id s).1.isSome then some (store.range id) else none := by
  cases read : (driver.QUERYCTRL id s).1 with
  | none => rfl
  | some limits => exact congrArg some (store.query_range id s limits read)

/-- The call answers as the knob of its property does, and turns that knob and no other. -/
def TurnsKnob (store : ControlStore driver) (s : σ) (call : PropertyCall) : Prop :=
  let turned := Knob.step (traits store call.propID) (knobs (store.cur s) call.propID)
    (turn driver s call)
  (propertyStep driver s call).1 = turned.1 ∧
    knobs (store.cur (propertyStep driver s call).2) =
      Function.update (knobs (store.cur s)) call.propID turned.2

theorem setProperty_turns (store : ControlStore driver) (s : σ) (value : Int) :
    TurnsKnob store s ⟨propID, .setProperty value⟩ := by
  unfold TurnsKnob
  cases control : valueControl propID with
  | none => simp [propertyStep, setProperty, turn, reaction, Knob.step, traits, control]
  | some id =>
      have held := store.set_cur ⟨id, value⟩ s
      cases taken : (driver.S_CTRL ⟨id, value⟩ s).1 with
      | false =>
          simp [propertyStep, setProperty, turn, reaction, Knob.step, traits, control, taken, held]
      | true =>
          simpa [propertyStep, setProperty, turn, reaction, Knob.step, traits, control, taken, held]
            using knobs_update_value control (store.settles id value)

theorem setAutoProperty_turns (store : ControlStore driver) (s : σ) (enabled : Bool) :
    TurnsKnob store s ⟨propID, .setAutoProperty enabled⟩ := by
  unfold TurnsKnob
  cases control : autoControl propID with
  | none => simp [propertyStep, setAutoProperty, turn, reaction, Knob.step, traits, control]
  | some id =>
      have held := store.set_cur ⟨id, autoValue id enabled⟩ s
      cases taken : (driver.S_CTRL ⟨id, autoValue id enabled⟩ s).1 with
      | false =>
          simp [propertyStep, setAutoProperty, turn, reaction, Knob.step, traits, control, taken,
            held]
      | true =>
          have turned := knobs_update_auto (s := store.cur s) control
            (store.settles id (autoValue id enabled))
          rw [settles_auto store control] at turned
          simpa [propertyStep, setAutoProperty, turn, reaction, Knob.step, traits, control, taken,
            held] using turned

theorem getProperty_turns (store : ControlStore driver) (s : σ) :
    TurnsKnob store s ⟨propID, .getProperty⟩ := by
  unfold TurnsKnob
  cases control : valueControl propID with
  | none => simp [propertyStep, getProperty, turn, reaction, Knob.step, traits, control]
  | some id =>
      have read := get_eq store id s
      constructor
      · simpa [propertyStep, getProperty, turn, reaction, Knob.step, traits, knobs, control]
          using read
      · simp [propertyStep, getProperty, turn, reaction, Knob.step, control, store.get_keeps]

theorem getAutoProperty_turns (store : ControlStore driver) (s : σ) :
    TurnsKnob store s ⟨propID, .getAutoProperty⟩ := by
  unfold TurnsKnob
  cases control : autoControl propID with
  | none => simp [propertyStep, getAutoProperty, turn, reaction, Knob.step, traits, control]
  | some id =>
      constructor
      · cases there : (driver.G_CTRL id s).1 with
        | none =>
            simp [propertyStep, getAutoProperty, turn, reaction, Knob.step, traits, control, there]
        | some value =>
            obtain rfl := store.get_cur id s value there
            simp [propertyStep, getAutoProperty, turn, reaction, Knob.step, traits, knobs, control,
              there]
      · simp [propertyStep, getAutoProperty, turn, reaction, Knob.step, control, store.get_keeps]

theorem getPropertyLimits_turns (store : ControlStore driver) (s : σ) :
    TurnsKnob store s ⟨propID, .getPropertyLimits⟩ := by
  unfold TurnsKnob
  cases control : valueControl propID with
  | none => simp [propertyStep, getPropertyLimits, turn, reaction, Knob.step, control]
  | some id =>
      have read := query_eq store id s
      constructor
      · simpa [propertyStep, getPropertyLimits, turn, reaction, Knob.step, traits, control]
          using read
      · simp [propertyStep, getPropertyLimits, turn, reaction, Knob.step, control,
          store.query_keeps]

/-- A call is one about the knob of its property. -/
theorem propertyStep_knob (store : ControlStore driver) (s : σ) (call : PropertyCall) :
    TurnsKnob store s call := by
  obtain ⟨propID, command⟩ := call
  cases command with
  | setProperty value => exact setProperty_turns store s value
  | setAutoProperty enabled => exact setAutoProperty_turns store s enabled
  | getProperty => exact getProperty_turns store s
  | getAutoProperty => exact getAutoProperty_turns store s
  | getPropertyLimits => exact getPropertyLimits_turns store s

theorem propertyStep_splits (store : ControlStore driver) :
    Components.Splits (propertyStep driver) PropertyCall.propID (turn driver)
      (fun propID => Knob.step (traits store propID)) (fun s => knobs (store.cur s)) where
  answer s call := (propertyStep_knob store s call).1
  state s call := (propertyStep_knob store s call).2

/-- **The properties of a V4L2 camera are knobs of their own.**  For every driver that is a store of
controls, in whatever state, and every list of calls, whichever of them the driver fails: the calls
about a property are answered as one knob answers them, with the driver's reactions to these calls,
that is never told of the others. -/
theorem v4l2_knobs_apart (store : ControlStore driver) (s : σ) (calls : List PropertyCall)
    (propID : CapPropertyID) :
    Components.answersTo (fun call => call.propID = propID) (propertyStep driver) s calls =
      Components.answers (Knob.step (traits store propID)) (knobs (store.cur s) propID)
        (Components.observedTo (fun call => call.propID = propID) (turn driver) (propertyStep driver)
          s calls) :=
  (propertyStep_splits store).answers_about propID s calls

end Refinement

/-! ## A driver -/

/-- Clamps each value to a percentage, and has no gain. -/
def percentDriver : V4l2Driver Controls where
  S_CTRL ctrl s :=
    if ctrl.id = V4L2_CID_AUTOGAIN then (false, s)
    else (true, Function.update s ctrl.id (max 0 (min ctrl.value 100)))
  G_CTRL id s := (if id = V4L2_CID_AUTOGAIN then none else some (s id), s)
  QUERYCTRL _ s := (some ⟨0, 100, 50⟩, s)

def percentStore : ControlStore percentDriver where
  cur s := s
  settles _ value := max 0 (min value 100)
  range _ := ⟨0, 100, 50⟩
  set_cur ctrl s := by
    unfold percentDriver
    by_cases gain : ctrl.id = V4L2_CID_AUTOGAIN <;> simp [gain]
  get_cur id s value read := by
    unfold percentDriver at read
    by_cases gain : id = V4L2_CID_AUTOGAIN <;> simp_all
  get_keeps _ _ := rfl
  query_range _ _ _ read := (Option.some.inj read).symm
  query_keeps _ _ := rfl
  chooses := List.forall_iff_forall_mem.2 fun entry _ enabled => by
    unfold autoValue
    split <;> cases enabled <;> rfl

/-- The brightness and the automatic states of focus and gain do not show in the focus. -/
theorem v4l2_knobs_apart_focus :
    let calls : List PropertyCall :=
      [⟨CAPPROPID_FOCUS, .setProperty 250⟩, ⟨CAPPROPID_BRIGHTNESS, .setProperty 7⟩,
        ⟨CAPPROPID_FOCUS, .setAutoProperty true⟩, ⟨CAPPROPID_GAIN, .setAutoProperty true⟩,
        ⟨CAPPROPID_FOCUS, .getProperty⟩]
    Components.answersTo (fun call => call.propID = CAPPROPID_FOCUS) (propertyStep percentDriver)
      (fun _ => 0) calls = [.flag true, .flag true, .value (some 100)] := by
  intro calls
  rw [v4l2_knobs_apart percentStore]
  decide

end OpenpnpCapture.Linux.Properties
