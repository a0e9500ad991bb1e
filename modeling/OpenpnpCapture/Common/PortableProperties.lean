/-
# Common.PortableProperties — a client's property calls on Linux and on Windows

The two platforms support different sets of calls, but every call that the Linux functions support
is one the Windows functions support too, about the property of the same id.  So a client that makes
only such calls cannot tell the platforms apart by the answers, as long as both cameras are stores
of controls, hold the same values and take what they are asked to, and the Windows one has both its
interfaces.
-/
import OpenpnpCapture.Linux.Properties
import OpenpnpCapture.Win.Properties

namespace OpenpnpCapture.Common

open OpenpnpCapture.Lib

set_option autoImplicit false

/-- The Linux functions support the call. -/
def Portable (call : PropertyCall) : Prop :=
  match call.command with
  | .setProperty _ | .getProperty | .getPropertyLimits =>
      (Linux.Properties.valueControl call.propID).isSome = true
  | .setAutoProperty _ | .getAutoProperty =>
      (Linux.Properties.autoControl call.propID).isSome = true

instance (call : PropertyCall) : Decidable (Portable call) :=
  match call with
  | ⟨_, .setProperty _⟩ | ⟨_, .getProperty⟩ | ⟨_, .getPropertyLimits⟩
  | ⟨_, .setAutoProperty _⟩ | ⟨_, .getAutoProperty⟩ => inferInstanceAs (Decidable (_ = _))

/-- The call meets a camera that does what it asks for. -/
def granted (call : PropertyCall) : Turn := ⟨call.command, .willing⟩

section Platforms

variable {σ τ : Type} {driver : Linux.Properties.V4l2Driver σ} {camera : Win.Properties.Camera τ}
  {linux : Linux.Properties.ControlStore driver} {windows : Win.Properties.ControlStore camera}

/-- The same camera behind either system: both interfaces are there, and a value and its limits are
treated alike. -/
structure SameCamera (linux : Linux.Properties.ControlStore driver)
    (windows : Win.Properties.ControlStore camera) : Prop where
  camControl : camera.m_camControl = true
  videoProcAmp : camera.m_videoProcAmp = true
  settles : ∀ propID id, Linux.Properties.valueControl propID = some id →
    linux.settles id = windows.settles (Win.Properties.row propID)
  limits : ∀ propID id, Linux.Properties.valueControl propID = some id →
    linux.range id = windows.range (Win.Properties.row propID)

/-- All that Linux knows are properties, and those that can be automatic there can be on Windows. -/
theorem property_of_valueControl {propID : CapPropertyID}
    (value : (Linux.Properties.valueControl propID).isSome = true) : propID < CAPPROPID_LAST := by
  obtain ⟨id, found⟩ := Option.isSome_iff_exists.1 value
  have rows : Linux.Properties.valueControls.Forall fun entry => entry.1 < CAPPROPID_LAST := by
    decide
  exact List.forall_iff_forall_mem.1 rows _ (Linux.Properties.entry_of_valueControl found)

theorem property_of_autoControl {propID : CapPropertyID}
    (auto : (Linux.Properties.autoControl propID).isSome = true) :
    propID < CAPPROPID_LAST ∧ Win.Properties.switch propID ≠ .unsupported := by
  obtain ⟨id, found⟩ := Option.isSome_iff_exists.1 auto
  have rows : Linux.Properties.autoControls.Forall fun entry =>
      entry.1 < CAPPROPID_LAST ∧ Win.Properties.switch entry.1 ≠ .unsupported := by
    decide
  exact List.forall_iff_forall_mem.1 rows _ (Linux.Properties.entry_of_autoControl found)

theorem share_of_portable (same : SameCamera linux windows) {call : PropertyCall}
    (portable : Portable call) :
    (Linux.Properties.traits linux call.propID).Share (Win.Properties.traits windows call.propID)
      call.command := by
  obtain ⟨propID, command⟩ := call
  have there (inTable : propID < CAPPROPID_LAST) : Win.Properties.traits windows propID = _ :=
    if_pos ⟨same.camControl, inTable, Or.inr same.videoProcAmp⟩
  cases command with
  | setProperty _ | getProperty | getPropertyLimits =>
      obtain ⟨id, found⟩ := Option.isSome_iff_exists.1 portable
      simp [Traits.Share, Linux.Properties.traits, there (property_of_valueControl portable), found,
        same.settles _ _ found, same.limits _ _ found]
  | setAutoProperty _ | getAutoProperty =>
      obtain ⟨inTable, switches⟩ := property_of_autoControl portable
      have supported : (Linux.Properties.autoControl propID).isSome = true := portable
      simp [Traits.Share, Linux.Properties.traits, there inTable, supported, switches]

/-- **Linux programs run on Windows.**  Two cameras that are stores of controls, the Windows one with
both interfaces, and treat and hold values alike answer every list of calls alike, on Linux and on
Windows, in which each call is one the Linux functions support and neither camera refuses. -/
theorem linux_calls_on_windows (same : SameCamera linux windows) (s : σ) (t : τ)
    (alike : ∀ propID, (Linux.Properties.traits linux propID).Alike
      (Win.Properties.traits windows propID) (Linux.Properties.knobs (linux.cur s) propID)
      (Win.Properties.knobs (windows.cur t) propID))
    (calls : List PropertyCall) (portable : ∀ call ∈ calls, Portable call)
    (grants : Components.observed (Linux.Properties.turn driver)
      (Linux.Properties.propertyStep driver) s calls = calls.map granted)
    (grants' : Components.observed (Win.Properties.turn camera)
      (Win.Properties.propertyStep camera) t calls = calls.map granted) :
    Components.answers (Linux.Properties.propertyStep driver) s calls =
      Components.answers (Win.Properties.propertyStep camera) t calls :=
  Components.answers_related (Linux.Properties.propertyStep_splits linux)
    (Win.Properties.propertyStep_splits windows)
    (fun call member _ _ here => Knob.step_alike here (share_of_portable same (portable call member)))
    grants grants' alike

end Platforms

/-! ## A camera -/

namespace Percent

/-- All values at 0, nothing automatic; the menu of the exposure says so with a 1. -/
def linuxControls : Linux.Properties.Controls := fun id =>
  if id = Linux.Properties.V4L2_CID_EXPOSURE_AUTO then Linux.Properties.V4L2_EXPOSURE_MANUAL else 0

theorem knobs_zero (propID : CapPropertyID) :
    Win.Properties.knobs Win.Properties.Percentages.zero.val propID = ⟨0, false⟩ := by
  unfold Win.Properties.knobs
  split <;> rfl

theorem knobs_linuxControls (propID : CapPropertyID) :
    Linux.Properties.knobs linuxControls propID = ⟨0, false⟩ := by
  refine Knob.ext ?_ ?_
  · cases found : Linux.Properties.valueControl propID with
    | none => simp [Linux.Properties.knobs, found]
    | some id =>
        have values : Linux.Properties.valueControls.Forall fun entry =>
            linuxControls entry.2 = 0 := by
          decide
        have zero := List.forall_iff_forall_mem.1 values _ (Linux.Properties.entry_of_valueControl found)
        simp [Linux.Properties.knobs, found, zero]
  · cases found : Linux.Properties.autoControl propID with
    | none => simp [Linux.Properties.knobs, found]
    | some id =>
        have autos : Linux.Properties.autoControls.Forall fun entry =>
            Linux.Properties.isAuto entry.2 (linuxControls entry.2) = false := by
          decide
        have manual := List.forall_iff_forall_mem.1 autos _ (Linux.Properties.entry_of_autoControl found)
        simp [Linux.Properties.knobs, found, manual]

end Percent

open Percent Win.Properties in
theorem linux_calls_on_windows_percent :
    let calls : List PropertyCall :=
      [⟨CAPPROPID_EXPOSURE, .setProperty 250⟩, ⟨CAPPROPID_EXPOSURE, .setAutoProperty true⟩,
        ⟨CAPPROPID_FOCUS, .setProperty 7⟩, ⟨CAPPROPID_EXPOSURE, .getProperty⟩,
        ⟨CAPPROPID_EXPOSURE, .getAutoProperty⟩, ⟨CAPPROPID_WHITEBALANCE, .getAutoProperty⟩]
    Components.answers (Linux.Properties.propertyStep Linux.Properties.percentDriver) linuxControls
        calls = Components.answers (propertyStep percentCamera) Percentages.zero calls ∧
      Components.answers (propertyStep percentCamera) Percentages.zero calls =
        [.flag true, .flag true, .flag true, .value (some 100), .auto (some true),
          .auto (some false)] := by
  have same : SameCamera Linux.Properties.percentStore percentStore :=
    ⟨rfl, rfl, fun _ _ _ => rfl, fun _ _ _ => rfl⟩
  refine ⟨linux_calls_on_windows same _ _ ?_ _ (by decide) (by decide) (by decide), by decide⟩
  intro propID
  show Traits.Alike _ _ (Linux.Properties.knobs linuxControls propID)
    (knobs Percentages.zero.val propID)
  rw [knobs_linuxControls, knobs_zero]
  exact ⟨fun _ _ => rfl, fun _ _ => rfl⟩

end OpenpnpCapture.Common
