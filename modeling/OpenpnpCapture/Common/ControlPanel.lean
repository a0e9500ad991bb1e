/-
# Common.ControlPanel — what the properties of a camera are to a client

A property is a knob: a value, and whether the camera turns it by itself.  A panel is one knob for
each property id, and no knob moves another.  Platforms differ in what a knob can do (`Traits`);
what the camera does about a call (`Reaction`) is not theirs to choose: a knob is told of a call with
the reaction it met.  The panel is the purpose of the property functions; each platform's functions
are shown to behave like one.
-/
import OpenpnpCapture.Lib.Components

namespace OpenpnpCapture.Common

set_option autoImplicit false

/-! ## Property ids -/

abbrev CapPropertyID := UInt32

def CAPPROPID_EXPOSURE : CapPropertyID := 1
def CAPPROPID_FOCUS : CapPropertyID := 2
def CAPPROPID_ZOOM : CapPropertyID := 3
def CAPPROPID_WHITEBALANCE : CapPropertyID := 4
def CAPPROPID_GAIN : CapPropertyID := 5
def CAPPROPID_BRIGHTNESS : CapPropertyID := 6
def CAPPROPID_CONTRAST : CapPropertyID := 7
def CAPPROPID_SATURATION : CapPropertyID := 8
def CAPPROPID_GAMMA : CapPropertyID := 9
def CAPPROPID_HUE : CapPropertyID := 10
def CAPPROPID_SHARPNESS : CapPropertyID := 11
def CAPPROPID_BACKLIGHTCOMP : CapPropertyID := 12
def CAPPROPID_POWERLINEFREQ : CapPropertyID := 13
def CAPPROPID_LAST : CapPropertyID := 14

/-- What a table lists for a key is one of its entries. -/
theorem entry_of_lookup {table : List (CapPropertyID × UInt32)} {propID : CapPropertyID} {id : UInt32}
    (found : table.lookup propID = some id) : (propID, id) ∈ table := by
  obtain ⟨before, after, rfl, -⟩ := List.lookup_eq_some_iff.1 found
  simp

/-! ## Calls -/

/-- The five functions about a property; `getPropertyLimits` with three pointers that are not
null. -/
inductive PropertyCommand
  | setProperty (value : Int)
  | getProperty
  | setAutoProperty (enabled : Bool)
  | getAutoProperty
  | getPropertyLimits
deriving DecidableEq, Repr

/-- Whether the camera lets a control be read, and takes a value, during a call. -/
structure Reaction where
  reads : Bool
  takes : Bool
deriving DecidableEq, Repr

structure PropertyCall where
  propID : CapPropertyID
  command : PropertyCommand
deriving DecidableEq, Repr

/-- What a call comes to. -/
structure Turn where
  command : PropertyCommand
  reaction : Reaction
deriving DecidableEq, Repr

/-- Minimum, maximum and default. -/
structure PropertyLimits where
  emin : Int
  emax : Int
  dValue : Int
deriving DecidableEq, Repr

/-- What a function returns, with what it wrote through its pointers. -/
inductive PropertyReply
  | flag (ok : Bool)
  | value (read : Option Int)
  | auto (read : Option Bool)
  | limits (read : Option PropertyLimits)
deriving DecidableEq, Repr

/-! ## Knobs -/

@[ext] structure Knob where
  value : Int
  auto : Bool
deriving DecidableEq, Repr

/-- What becomes of a call that is to turn the automatic state of a knob. -/
inductive Switch
  /-- The property has no such state to set. -/
  | unsupported
  /-- The answer is whether the camera has taken it. -/
  | reported
  /-- The answer is true in any case. -/
  | unreported
  /-- The answer is whether the camera let the control be read. -/
  | readFirst
deriving DecidableEq, Repr

/-- What the knob of a property can do on a platform. -/
structure Traits where
  /-- The value the camera holds when it takes this one; nothing if there is no value to set. -/
  settles : Option (Int → Int)
  /-- The control is read before its value is set. -/
  readFirst : Bool
  /-- The automatic state can be read. -/
  showsAuto : Bool
  switch : Switch
  limits : Option PropertyLimits

/-- The knob of a property that is not supported. -/
def Traits.none : Traits := ⟨.none, false, false, .unsupported, .none⟩

namespace Knob

/-- One call about a knob. -/
def step (t : Traits) (knob : Knob) (turn : Turn) : PropertyReply × Knob :=
  let { reads, takes } := turn.reaction
  match turn.command with
  | .setProperty value =>
      match t.settles with
      | .some settle =>
          if takes ∧ (t.readFirst → reads) then (.flag true, { knob with value := settle value })
          else (.flag false, knob)
      | .none => (.flag false, knob)
  | .getProperty => (.value (if t.settles.isSome ∧ reads then some knob.value else none), knob)
  | .setAutoProperty enabled =>
      let turned := if takes then { knob with auto := enabled } else knob
      match t.switch with
      | .unsupported => (.flag false, knob)
      | .reported => (.flag takes, turned)
      | .unreported => (.flag true, turned)
      | .readFirst => if reads then (.flag true, turned) else (.flag false, knob)
  | .getAutoProperty => (.auto (if t.showsAuto ∧ reads then some knob.auto else none), knob)
  | .getPropertyLimits => (.limits (if reads then t.limits else none), knob)

/-- A property that is not supported answers so. -/
theorem step_none (knob : Knob) (turn : Turn) :
    step Traits.none knob turn =
      (match turn.command with
        | .setProperty _ | .setAutoProperty _ => .flag false
        | .getProperty => .value none
        | .getAutoProperty => .auto none
        | .getPropertyLimits => .limits none, knob) := by
  obtain ⟨command, reads, takes⟩ := turn
  cases command <;> cases reads <;> rfl

end Knob

/-! ## Two platforms -/

namespace Traits

/-- Both platforms do with a knob what the command asks for, and in the same way. -/
def Share (t t' : Traits) : PropertyCommand → Prop
  | .setProperty _ => ∃ settle, t.settles = some settle ∧ t'.settles = some settle
  | .getProperty => t.settles.isSome = true ∧ t'.settles.isSome = true
  | .setAutoProperty _ => t.switch ≠ .unsupported ∧ t'.switch ≠ .unsupported
  | .getAutoProperty => t.showsAuto = true ∧ t'.showsAuto = true
  | .getPropertyLimits => t.limits = t'.limits

/-- The knobs agree in what both platforms can read. -/
def Alike (t t' : Traits) (knob knob' : Knob) : Prop :=
  (t.settles.isSome = true → t'.settles.isSome = true → knob.value = knob'.value) ∧
    (t.showsAuto = true → t'.showsAuto = true → knob.auto = knob'.auto)

end Traits

/-- A camera that lets every control be read and takes every value. -/
def Reaction.willing : Reaction := ⟨true, true⟩

theorem Knob.step_alike {t t' : Traits} {knob knob' : Knob} (alike : t.Alike t' knob knob')
    {command : PropertyCommand} (share : t.Share t' command) :
    (step t knob ⟨command, .willing⟩).1 = (step t' knob' ⟨command, .willing⟩).1 ∧
      t.Alike t' (step t knob ⟨command, .willing⟩).2 (step t' knob' ⟨command, .willing⟩).2 := by
  obtain ⟨values, autos⟩ := alike
  cases command with
  | setProperty value =>
      obtain ⟨settle, here, there⟩ := share
      simp only [step, Reaction.willing, here, there, true_and, implies_true, if_true]
      exact ⟨fun _ _ => rfl, autos⟩
  | getProperty =>
      obtain ⟨here, there⟩ := share
      refine ⟨?_, values, autos⟩
      simp [step, Reaction.willing, here, there, values here there]
  | setAutoProperty enabled =>
      obtain ⟨here, there⟩ := share
      have turns (t : Traits) (knob : Knob) (can : t.switch ≠ .unsupported) :
          step t knob ⟨.setAutoProperty enabled, .willing⟩ =
            (.flag true, { knob with auto := enabled }) := by
        cases switch : t.switch with
        | unsupported => exact absurd switch can
        | reported | unreported | readFirst => simp [step, Reaction.willing, switch]
      rw [turns t knob here, turns t' knob' there]
      exact ⟨rfl, values, fun _ _ => rfl⟩
  | getAutoProperty =>
      obtain ⟨here, there⟩ := share
      refine ⟨?_, values, autos⟩
      simp [step, Reaction.willing, here, there, autos here there]
  | getPropertyLimits =>
      refine ⟨?_, values, autos⟩
      simp [step, Reaction.willing, show t.limits = t'.limits from share]

end OpenpnpCapture.Common
