/-
# Mac.UvcControls — the camera controls of `UVCCtrl`

A property is a row of `propertyInfo`: a selector, the unit that has it, and the length of its value
in bytes.  Reading and writing one is a class request to the USB interface, whose data are the first
bytes of an `int32_t`, least significant first; a value of 2 or of 1 byte is sign-extended after
it was read.

The interface is a parameter, over a state of its own.  `available` is whether the system is
macOS 12, where the interface is not opened for each request.  An `int32_t` is an `Int`.
-/
import OpenpnpCapture.Lib.LittleEndian
import OpenpnpCapture.Lib.MachineInt
import OpenpnpCapture.Mac.UvcCtrl

namespace OpenpnpCapture.Mac

open OpenpnpCapture.Lib

set_option autoImplicit false

namespace UVCCtrl

/-! ## Requests -/

abbrev IOReturn := Int

def kIOReturnSuccess : IOReturn := 0

structure IOUSBDevRequest where
  bmRequestType : UInt8
  bRequest : UInt8
  wValue : UInt16
  wIndex : UInt16
  wLength : UInt16
  wLenDone : UInt32
  pData : Bytes

/-- The functions of `IOUSBInterfaceInterface190` that are called.  A request comes with the memory
`pData` points to and leaves it to the caller. -/
structure IOUSBInterface (σ : Type) where
  USBInterfaceOpen : σ → IOReturn × σ
  USBInterfaceClose : σ → IOReturn × σ
  ControlRequest : IOUSBDevRequest → σ → IOReturn × Bytes × σ

def kUSBOut : UInt8 := 0
def kUSBIn : UInt8 := 1
def kUSBClass : UInt8 := 1
def kUSBInterface : UInt8 := 1

def USBmakebmRequestType (direction type recipient : UInt8) : UInt8 :=
  ((direction &&& 1) <<< 7) ||| ((type &&& 3) <<< 5) ||| (recipient &&& 0x1F)

def UVC_SET_CUR : UInt8 := 0x01
def UVC_GET_CUR : UInt8 := 0x81
def UVC_GET_MIN : UInt8 := 0x82
def UVC_GET_MAX : UInt8 := 0x83
def UVC_GET_DEF : UInt8 := 0x87

/-- A class request about a control. -/
def classRequest (direction bRequest : UInt8) (selector unit length : UInt32) (pData : Bytes) :
    IOUSBDevRequest where
  bmRequestType := USBmakebmRequestType direction kUSBClass kUSBInterface
  bRequest := bRequest
  wValue := (selector <<< 8).toUInt16
  wIndex := (unit <<< 8).toUInt16
  wLength := length.toUInt16
  wLenDone := 0
  pData := pData

/-! ## Properties -/

def CAPPROPID_LAST : UInt32 := 14

def UVC_INPUT_TERMINAL_ID : UInt32 := 0x01

def CT_EXPOSURE_TIME_ABSOLUTE_CONTROL : UInt32 := 0x04
def CT_FOCUS_ABSOLUTE_CONTROL : UInt32 := 0x06
def CT_ZOOM_ABSOLUTE_CONTROL : UInt32 := 0x0B

def PU_BACKLIGHT_COMPENSATION_CONTROL : UInt32 := 0x01
def PU_BRIGHTNESS_CONTROL : UInt32 := 0x02
def PU_CONTRAST_CONTROL : UInt32 := 0x03
def PU_GAIN_CONTROL : UInt32 := 0x04
def PU_POWER_LINE_FREQUENCY_CONTROL : UInt32 := 0x05
def PU_HUE_CONTROL : UInt32 := 0x06
def PU_SATURATION_CONTROL : UInt32 := 0x07
def PU_SHARPNESS_CONTROL : UInt32 := 0x08
def PU_GAMMA_CONTROL : UInt32 := 0x09
def PU_WHITE_BALANCE_TEMPERATURE_CONTROL : UInt32 := 0x0A

structure PropertyInfo where
  selector : UInt32
  unit : UInt32
  length : UInt32
deriving DecidableEq, Repr

def propertyInfo : List PropertyInfo :=
  [⟨0, 0, 0⟩,
    ⟨CT_EXPOSURE_TIME_ABSOLUTE_CONTROL, 0, 4⟩,
    ⟨CT_FOCUS_ABSOLUTE_CONTROL, 0, 2⟩,
    ⟨CT_ZOOM_ABSOLUTE_CONTROL, 0, 2⟩,
    ⟨PU_WHITE_BALANCE_TEMPERATURE_CONTROL, 1, 2⟩,
    ⟨PU_GAIN_CONTROL, 1, 2⟩,
    ⟨PU_BRIGHTNESS_CONTROL, 1, 2⟩,
    ⟨PU_CONTRAST_CONTROL, 1, 2⟩,
    ⟨PU_SATURATION_CONTROL, 1, 2⟩,
    ⟨PU_GAMMA_CONTROL, 1, 2⟩,
    ⟨PU_HUE_CONTROL, 1, 2⟩,
    ⟨PU_SHARPNESS_CONTROL, 1, 2⟩,
    ⟨PU_BACKLIGHT_COMPENSATION_CONTROL, 1, 2⟩,
    ⟨PU_POWER_LINE_FREQUENCY_CONTROL, 1, 1⟩]

/-- The row of a property; only read below `CAPPROPID_LAST`, the number of rows. -/
def info (propID : UInt32) : PropertyInfo :=
  propertyInfo.getD propID.toNat ⟨0, 0, 0⟩

/-! ## `int32_t` in memory -/

def bytesOf (data : Int) : Bytes := littleEndian 4 (data % 2 ^ 32).toNat

def ofBytes (bytes : Bytes) : Int := int32 (ofLittleEndian bytes)

/-- The casts after a control of so many bytes was read. -/
def signExtend (length : UInt32) (value : Int) : Int :=
  if length = 2 then int16 value
  else if length = 1 then int8 value
  else value

end UVCCtrl

open UVCCtrl

/-- A `UVCCtrl`; the id of its processing unit is a byte of a descriptor. -/
structure UVCCtrl (σ : Type) where
  m_pud : UInt32
  m_controller : Option (IOUSBInterface σ)
  m_pud_lt : m_pud.toNat < 256

namespace UVCCtrl

theorem turn_done_lt {ptr : Nat → UInt8} {c : Cursor} {unit : UInt32}
    (done : (turn ptr c).next = .done unit) : unit.toNat < 256 := by
  by_cases going : c.idx < wTotalLength ptr
  · rcases turn_cases going with ⟨-, ran⟩ | ⟨-, fields, ran, -⟩
    · rw [ran] at done
      obtain rfl := Loop.Next.done.inj done
      rw [UInt8.toNat_toUInt32]
      exact UInt8.toNat_lt _
    · rw [ran] at done
      cases done
  · rw [turn, if_neg going] at done
    obtain rfl := Loop.Next.done.inj done
    decide

theorem getProcessingUnitID_lt {fuel : Nat} {configDesc : Option (Nat → UInt8)} {unit : UInt32}
    (found : (getProcessingUnitID fuel configDesc).2 = some unit) : unit.toNat < 256 := by
  cases configDesc with
  | none =>
      obtain rfl := Option.some.inj found
      decide
  | some ptr =>
      rw [getProcessingUnitID] at found
      generalize (⟨0, false⟩ : Cursor) = c at found
      induction fuel generalizing c with
      | zero => cases found
      | succ fuel ih =>
          cases next : (turn ptr c).next with
          | done result =>
              rw [Loop.run_done next] at found
              obtain rfl := Option.some.inj found
              exact turn_done_lt next
          | again c' =>
              rw [Loop.run_again next] at found
              exact ih c' found

section Controller

variable {σ : Type}

/-- What `create` returns for a device that was found, with its control interface if it has one;
nothing as long as the descriptor walk has not ended. -/
def create (fuel : Nat) (configDesc : Option (Nat → UInt8)) (iface : Option (IOUSBInterface σ)) :
    Option (UVCCtrl σ) :=
  match found : (getProcessingUnitID fuel configDesc).2 with
  | none => none
  | some unitID =>
      iface.map fun iface => ⟨unitID, some iface, getProcessingUnitID_lt found⟩

/-- What a request left behind. -/
structure Sent (σ : Type) where
  ok : Bool
  pData : Bytes
  state : σ

/-- What a function with one value to return left behind. -/
structure Answer (σ : Type) where
  ok : Bool
  data : Int
  state : σ

structure Limits (σ : Type) where
  ok : Bool
  emin : Int
  emax : Int
  dValue : Int
  state : σ

variable (available : Bool) (u : UVCCtrl σ)

def sendControlRequest (req : IOUSBDevRequest) (s : σ) : Sent σ :=
  match u.m_controller with
  | none => ⟨false, req.pData, s⟩
  | some m_controller =>
      let opened := if available then (kIOReturnSuccess, s) else m_controller.USBInterfaceOpen s
      if opened.1 ≠ kIOReturnSuccess then ⟨false, req.pData, opened.2⟩
      else
        let (kr, pData, t) := m_controller.ControlRequest req opened.2
        -- a failure to close is only logged
        let closed := if available then t else (m_controller.USBInterfaceClose t).2
        ⟨kr = kIOReturnSuccess, pData, closed⟩

def setData (selector unit length : UInt32) (data : Int) (s : σ) : Bool × σ :=
  let sent := u.sendControlRequest available
    (classRequest kUSBOut UVC_SET_CUR selector unit length (bytesOf data)) s
  (sent.ok, sent.state)

/-- A request that reads into `*data`. -/
def readData (bRequest : UInt8) (selector unit length : UInt32) (data : Int) (s : σ) : Answer σ :=
  let sent := u.sendControlRequest available
    (classRequest kUSBIn bRequest selector unit length (bytesOf data)) s
  ⟨sent.ok, ofBytes sent.pData, sent.state⟩

def getData (selector unit length : UInt32) (data : Int) (s : σ) : Answer σ :=
  u.readData available UVC_GET_CUR selector unit length data s

def getMaxData (selector unit length : UInt32) (s : σ) : Answer σ :=
  u.readData available UVC_GET_MAX selector unit length 0 s

def getMinData (selector unit length : UInt32) (s : σ) : Answer σ :=
  u.readData available UVC_GET_MIN selector unit length 0 s

def getDefault (selector unit length : UInt32) (s : σ) : Answer σ :=
  u.readData available UVC_GET_DEF selector unit length 0 s

/-- The id of the unit that has a property. -/
def unitOf (propID : UInt32) : UInt32 :=
  if (info propID).unit = 0 then UVC_INPUT_TERMINAL_ID else u.m_pud

def setProperty (propID : UInt32) (value : Int) (s : σ) : Bool × σ :=
  if u.m_controller.isNone then (false, s)
  else if propID < CAPPROPID_LAST then
    u.setData available (info propID).selector (u.unitOf propID) (info propID).length value s
  else (false, s)

def getProperty (propID : UInt32) (value : Int) (s : σ) : Answer σ :=
  if u.m_controller.isNone then ⟨false, value, s⟩
  else if propID < CAPPROPID_LAST then
    let answer :=
      u.getData available (info propID).selector (u.unitOf propID) (info propID).length value s
    { answer with data := signExtend (info propID).length answer.data }
  else ⟨false, value, s⟩

def getPropertyLimits (propID : UInt32) (emin emax dValue : Int) (s : σ) : Limits σ :=
  if u.m_controller.isNone then ⟨false, emin, emax, dValue, s⟩
  else if propID < CAPPROPID_LAST then
    let row := info propID
    let unit := u.unitOf propID
    let least := u.getMinData available row.selector unit row.length s
    let greatest := u.getMaxData available row.selector unit row.length least.state
    let default := u.getDefault available row.selector unit row.length greatest.state
    ⟨least.ok && greatest.ok && default.ok, signExtend row.length least.data,
      signExtend row.length greatest.data, signExtend row.length default.data, default.state⟩
  else ⟨false, emin, emax, dValue, s⟩

end Controller

end UVCCtrl

end OpenpnpCapture.Mac
