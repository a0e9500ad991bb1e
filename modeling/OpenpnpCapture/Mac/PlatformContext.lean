/-
# Mac.PlatformContext — what AVFoundation's strings say about a camera

`enumerateDevices` takes the USB vendor and product numbers of a camera out of its `modelID`, where
they stand in decimal behind `VendorID_` and `ProductID_`, and its bus location out of its
`uniqueID`, eight hexadecimal digits that the two numbers follow again.  The strings are the
system's, of ASCII characters; `UsbModel.modelID` and `usbUniqueID` are how they are written.

* `recordDevice_usb`: what was written is recorded, whatever stands around the numbers.  A location
  of any other width is recorded as 0, which later means that it is not known.
* `listed_formats`: the formats of the record are the ones `open` accepts, at the rates the ranges
  of the device round to.
-/
import OpenpnpCapture.Common.Context
import OpenpnpCapture.Lib.Text
import OpenpnpCapture.Mac.PlatformStream

namespace OpenpnpCapture.Mac

open OpenpnpCapture.Lib OpenpnpCapture.Lib.Text OpenpnpCapture.Common

set_option autoImplicit false

/-- An `AVFrameRateRange`, with its rates as `enumerateDevices` takes them: cut off to a `uint32_t`. -/
structure FrameRateRange where
  minFrameRate : UInt32
  maxFrameRate : UInt32
deriving DecidableEq, Repr

structure CaptureDeviceFormat extends DeviceFormat where
  videoSupportedFrameRateRanges : List FrameRateRange
deriving DecidableEq, Repr

/-- An `AVCaptureDevice`. -/
structure CaptureDevice where
  localizedName : String
  manufacturer : String
  uniqueID : String
  modelID : String
  formats : List CaptureDeviceFormat
deriving DecidableEq, Repr

structure PlatformDeviceInfo extends DeviceInfo where
  m_name : String
  m_uniqueID : String
  m_vid : UInt16
  m_pid : UInt16
  m_busLocation : UInt32
  m_platformFormats : List DeviceFormat
deriving DecidableEq, Repr

/-! ## The numbers of a device -/

/-- `intValue` of at most five characters. -/
def intValue (text : List Char) : Int :=
  match text.dropWhile Char.isWhitespace with
  | '-' :: digits => -(leadingNat digits : Int)
  | '+' :: digits => leadingNat digits
  | digits => leadingNat digits

/-- The number behind a marker, 0 if the marker is missing. -/
def idBehind (marker modelID : List Char) : UInt16 :=
  match indexOf? marker modelID with
  | none => 0
  | some location =>
      let maxLen := min (modelID.length - location - marker.length) 5
      .ofInt (intValue ((modelID.drop (location + marker.length)).take maxLen))

/-- A `0x` in front of a number is skipped. -/
def skip0x : List Char → List Char
  | '0' :: 'x' :: digits | '0' :: 'X' :: digits => digits
  | digits => digits

/-- `scanHexInt` of at most eight characters; `none` when it finds no number. -/
def scanHexInt (text : List Char) : Option Nat :=
  match hexValues (skip0x (text.dropWhile Char.isWhitespace)) with
  | [] => none
  | value :: values => some (ofHexDigits (value :: values))

/-- The location in `uniqueID`, 0 if it is not in the expected format. -/
def busLocation (m_vid m_pid : UInt16) (uniqueID : List Char) : UInt32 :=
  if uniqueID.length = 18 then
    let pidStr := hex 4 m_pid.toNat
    let vidStr := hex 4 m_vid.toNat
    if (uniqueID.drop 10).take 4 = vidStr && (uniqueID.drop 14).take 4 = pidStr then
      match scanHexInt ((uniqueID.drop 2).take 8) with
      | none => 0
      | some location => .ofNat location
    else 0
  else 0

/-! ## The formats of a device -/

/-- `std::set::insert`; the set is the list of its elements in order. -/
def insertFps (fps : UInt32) : List UInt32 → List UInt32
  | [] => [fps]
  | first :: rest =>
      if fps < first then fps :: first :: rest
      else if first < fps then first :: insertFps fps rest
      else first :: rest

def breakpoints : List UInt32 :=
  [5, 10, 15, 20, 25, 30, 50, 60, 90, 100, 120, 180, 240]

/-- The rates a range inserts. -/
def rangeFps (frameRateRange : FrameRateRange) : List UInt32 :=
  let fpsMin := frameRateRange.minFrameRate
  let fpsMax := frameRateRange.maxFrameRate
  (if fpsMax > 0 then [fpsMax] else []) ++
    breakpoints.filter fun bp => bp ≥ fpsMin && bp ≤ fpsMax

/-- The rates of a format, in order. -/
def uniqueFps (ranges : List FrameRateRange) : List UInt32 :=
  let found := (ranges.flatMap rangeFps).foldl (fun uniqueFps fps => insertFps fps uniqueFps) []
  if found.isEmpty then insertFps 0 found else found

/-- The entries of one format; `bpp` is not written. -/
def formatInfos (bpp : UInt32) (format : CaptureDeviceFormat) : List CapFormatInfo :=
  (uniqueFps format.videoSupportedFrameRateRanges).map fun fps =>
    { width := format.width, height := format.height, fourcc := format.mediaSubType, fps, bpp }

def recordDevice (bpp : UInt32) (device : CaptureDevice) : PlatformDeviceInfo :=
  let m_name := device.localizedName ++ " (" ++ device.manufacturer ++ ")"
  let m_vid := idBehind "VendorID_".toList device.modelID.toList
  let m_pid := idBehind "ProductID_".toList device.modelID.toList
  { m_name
    m_uniqueID := m_name ++ " " ++ device.uniqueID
    m_vid
    m_pid
    m_busLocation := busLocation m_vid m_pid device.uniqueID.toList
    m_platformFormats := device.formats.map CaptureDeviceFormat.toDeviceFormat
    m_formats := device.formats.flatMap (formatInfos bpp) }

def enumerateDevices (bpp : UInt32) (devices : List CaptureDevice) : List PlatformDeviceInfo :=
  devices.map (recordDevice bpp)

/-! ## Written numbers are recorded -/

/-- What stands around the two numbers of a `modelID`. -/
structure UsbModel where
  name : List Char
  between : List Char
  rest : List Char
  name_plain : '_' ∉ name
  between_plain : '_' ∉ between
  between_stops : ∀ next ∈ between.head?, next.isDigit = false
  rest_stops : ∀ next ∈ rest.head?, next.isDigit = false

/-- The `modelID` of a USB camera. -/
def UsbModel.modelID (model : UsbModel) (vid pid : UInt16) : List Char :=
  model.name ++ ("VendorID_".toList ++ (Nat.toDigits 10 vid.toNat ++
    (model.between ++ ("ProductID_".toList ++ (Nat.toDigits 10 pid.toNat ++ model.rest)))))

/-- The `uniqueID` of a USB camera, with a location of some width. -/
def usbUniqueID (width : Nat) (location : UInt32) (vid pid : UInt16) : List Char :=
  '0' :: 'x' :: (hex width location.toNat ++ (hex 4 vid.toNat ++ hex 4 pid.toNat))

section Numbers

theorem isWhitespace_eq_false {c : Char} (digit : c.isDigit = true) : c.isWhitespace = false := by
  rw [Bool.eq_false_iff]
  intro blank
  simp only [Char.isWhitespace, Bool.or_eq_true, decide_eq_true_iff] at blank
  rcases blank with ((rfl | rfl) | rfl) | rfl <;> cases digit

theorem intValue_of_isDigit {first : Char} {rest : List Char} (digit : first.isDigit = true) :
    intValue (first :: rest) = leadingNat (first :: rest) := by
  rw [intValue, List.dropWhile_cons_of_neg (by simp [isWhitespace_eq_false digit])]
  split
  · rename_i same
    obtain ⟨rfl, -⟩ := List.cons.inj same
    cases digit
  · rename_i same
    obtain ⟨rfl, -⟩ := List.cons.inj same
    cases digit
  · rfl

theorem intValue_decimal (n : Nat) {after : List Char}
    (ends : ∀ next ∈ after.head?, next.isDigit = false) :
    intValue (Nat.toDigits 10 n ++ after) = n := by
  have value := leadingNat_decimal n ends
  cases written : Nat.toDigits 10 n with
  | nil =>
      have positive := Nat.length_toDigits_pos (b := 10) (n := n)
      simp [written] at positive
  | cons first rest =>
      have digit : first.isDigit = true :=
        Nat.isDigit_of_mem_toDigits (by decide) (by decide) (written ▸ List.mem_cons_self)
      rw [written] at value
      rw [List.cons_append, intValue_of_isDigit digit, ← List.cons_append, value]

/-- Five characters are enough for a number of 16 bits. -/
theorem length_decimal (id : UInt16) : (Nat.toDigits 10 id.toNat).length ≤ 5 := by
  rw [Nat.length_toDigits_le_iff (by decide) (by decide)]
  have := id.toNat_lt
  omega

/-- Behind a marker that is found, the number that was written is read. -/
theorem idBehind_written {marker before after : List Char} (id : UInt16)
    (ends : ∀ next ∈ after.head?, next.isDigit = false)
    (found : indexOf? marker (before ++ (marker ++ (Nat.toDigits 10 id.toNat ++ after))) =
      some before.length) :
    idBehind marker (before ++ (marker ++ (Nat.toDigits 10 id.toNat ++ after))) = id := by
  have short := length_decimal id
  have behind : (before ++ (marker ++ (Nat.toDigits 10 id.toNat ++ after))).drop
      (before.length + marker.length) = Nat.toDigits 10 id.toNat ++ after := by
    rw [← List.append_assoc, List.drop_left' (List.length_append)]
  have window : (Nat.toDigits 10 id.toNat ++ after).take
      (min ((before ++ (marker ++ (Nat.toDigits 10 id.toNat ++ after))).length - before.length -
        marker.length) 5) =
      Nat.toDigits 10 id.toNat ++ after.take (5 - (Nat.toDigits 10 id.toNat).length) := by
    have enough : (before ++ (marker ++ (Nat.toDigits 10 id.toNat ++ after))).length -
        before.length - marker.length = (Nat.toDigits 10 id.toNat ++ after).length := by
      simp only [List.length_append]
      omega
    rw [enough, min_comm, ← List.take_eq_take_min, List.take_append,
      List.take_of_length_le short]
  have stops : ∀ next ∈ (after.take (5 - (Nat.toDigits 10 id.toNat).length)).head?,
      next.isDigit = false := by
    intro next first
    rw [List.head?_take] at first
    split at first
    · cases first
    · exact ends next first
  simp only [idBehind, found, behind, window, intValue_decimal id.toNat stops]
  apply UInt16.toNat_inj.1
  have := id.toNat_lt
  simp [UInt16.ofInt]
  omega

/-- The vendor's marker is the first place with an underscore. -/
theorem idBehind_vendor (model : UsbModel) (vid pid : UInt16) :
    idBehind "VendorID_".toList (model.modelID vid pid) = vid := by
  have marker : "VendorID_".toList = "VendorID".toList ++ ['_'] := rfl
  apply idBehind_written vid
  · intro next first
    cases between : model.between with
    | nil =>
        rw [between] at first
        obtain rfl : 'P' = next := Option.some.inj first
        rfl
    | cons head tail =>
        rw [between] at first
        exact model.between_stops next (by rw [between]; exact first)
  · rw [marker, List.append_assoc]
    exact indexOf?_marker (by decide) _ model.name_plain

/-- `ProductID` does not end where `VendorID` does. -/
theorem not_suffix_vendor (name : List Char) :
    ¬ "ProductID".toList <:+ name ++ "VendorID".toList := by
  rintro ⟨before, same⟩
  have same' : (before ++ ['P']) ++ "roductID".toList = name ++ "VendorID".toList := by
    rw [← same]
    simp
  have sameLength : "roductID".toList.length = "VendorID".toList.length := by decide
  have tails := (List.append_inj' same' sameLength).2
  revert tails
  decide

theorem idBehind_product (model : UsbModel) (vid pid : UInt16) :
    idBehind "ProductID_".toList (model.modelID vid pid) = pid := by
  have marker : "ProductID_".toList = "ProductID".toList ++ ['_'] := rfl
  have digits : '_' ∉ Nat.toDigits 10 vid.toNat := fun member => by
    have := Nat.isDigit_of_mem_toDigits (by decide) (by decide) member
    cases this
  have regroup : model.modelID vid pid =
      (model.name ++ "VendorID_".toList ++ Nat.toDigits 10 vid.toNat ++ model.between) ++
        ("ProductID_".toList ++ (Nat.toDigits 10 pid.toNat ++ model.rest)) := by
    simp [UsbModel.modelID]
  have located : indexOf? "ProductID_".toList (model.modelID vid pid) = some
      (model.name ++ "VendorID_".toList ++ Nat.toDigits 10 vid.toNat ++ model.between).length := by
    have split_ : model.modelID vid pid = (model.name ++ "VendorID".toList) ++ '_' ::
        ((Nat.toDigits 10 vid.toNat ++ model.between) ++
          ("ProductID".toList ++ '_' :: (Nat.toDigits 10 pid.toNat ++ model.rest))) := by
      simp [UsbModel.modelID]
    have plain : '_' ∉ model.name ++ "VendorID".toList := by
      rw [List.mem_append, not_or]
      exact ⟨model.name_plain, by decide⟩
    have later : '_' ∉ Nat.toDigits 10 vid.toNat ++ model.between := by
      rw [List.mem_append, not_or]
      exact ⟨digits, model.between_plain⟩
    rw [split_, marker, indexOf?_past (by decide) _ plain (not_suffix_vendor model.name),
      indexOf?_marker (by decide) _ later]
    simp
    omega
  rw [regroup] at located ⊢
  exact idBehind_written pid model.rest_stops located

theorem isWhitespace_of_hexValue {c : Char} (hexadecimal : (hexValue? c).isSome = true) :
    c.isWhitespace = false := by
  rw [Bool.eq_false_iff]
  intro blank
  simp only [Char.isWhitespace, Bool.or_eq_true, decide_eq_true_iff] at blank
  rcases blank with ((rfl | rfl) | rfl) | rfl <;> exact absurd hexadecimal (by decide)

theorem skip0x_of_hexValue {text : List Char}
    (hexadecimal : ∀ c ∈ text, (hexValue? c).isSome = true) : skip0x text = text := by
  unfold skip0x
  split
  · exact absurd (hexadecimal 'x' (by simp)) (by decide)
  · exact absurd (hexadecimal 'X' (by simp)) (by decide)
  · rfl

/-- Hexadecimal digits are read as they are: there is no blank and no `0x` to skip. -/
theorem scanHexInt_hex {width n : Nat} (fits : n < 16 ^ (width + 1)) :
    scanHexInt (hex (width + 1) n) = some n := by
  have hexadecimal : ∀ c ∈ hex (width + 1) n, (hexValue? c).isSome = true := fun _ member =>
    hexValue?_isSome member
  have skipped : (hex (width + 1) n).dropWhile Char.isWhitespace = hex (width + 1) n := by
    cases written : hex (width + 1) n with
    | nil => rfl
    | cons first rest =>
        have digit := hexadecimal first (written ▸ List.mem_cons_self)
        exact List.dropWhile_cons_of_neg (by simp [isWhitespace_of_hexValue digit])
  have value := ofHexDigits_hexDigits fits
  rw [scanHexInt, skipped, skip0x_of_hexValue hexadecimal, hexValues_hex]
  cases digits : hexDigits (width + 1) n with
  | nil =>
      have length := length_hexDigits (width + 1) n
      simp [digits] at length
  | cons first rest =>
      rw [digits] at value
      simp only [value]

theorem busLocation_usb (width : Nat) (location : UInt32) (vid pid : UInt16) :
    busLocation vid pid (usbUniqueID width location vid pid) =
      if width = 8 then location else 0 := by
  have length : (usbUniqueID width location vid pid).length = width + 10 := by
    simp [usbUniqueID]
  unfold busLocation
  rw [length]
  by_cases eight : width = 8
  · subst eight
    have numbers : (usbUniqueID 8 location vid pid).drop 10 =
        hex 4 vid.toNat ++ hex 4 pid.toNat := List.drop_left' (length_hex 8 location.toNat)
    have product : (usbUniqueID 8 location vid pid).drop 14 = hex 4 pid.toNat := by
      rw [← List.drop_drop (i := 4) (j := 10), numbers, List.drop_left' (length_hex 4 vid.toNat)]
    have digits : ((usbUniqueID 8 location vid pid).drop 2).take 8 = hex 8 location.toNat :=
      List.take_left' (length_hex 8 location.toNat)
    have fits : location.toNat < 16 ^ (7 + 1) := location.toNat_lt
    simp only [numbers, product, digits, List.take_left' (length_hex 4 vid.toNat),
      List.take_of_length_le (length_hex 4 pid.toNat).le, scanHexInt_hex fits, decide_true,
      Bool.and_self, if_true, UInt32.ofNat_toNat]
  · rw [if_neg (by omega), if_neg eight]

end Numbers

/-- **The numbers of a USB camera.**  Vendor and product are recorded as they were written, the
location if it has eight digits. -/
theorem recordDevice_usb (bpp : UInt32) {device : CaptureDevice} {model : UsbModel}
    {vid pid : UInt16} {width : Nat} {location : UInt32}
    (modelID : device.modelID.toList = model.modelID vid pid)
    (uniqueID : device.uniqueID.toList = usbUniqueID width location vid pid) :
    (recordDevice bpp device).m_vid = vid ∧ (recordDevice bpp device).m_pid = pid ∧
      (recordDevice bpp device).m_busLocation = if width = 8 then location else 0 := by
  have vendor : idBehind "VendorID_".toList device.modelID.toList = vid := by
    rw [modelID, idBehind_vendor]
  have product : idBehind "ProductID_".toList device.modelID.toList = pid := by
    rw [modelID, idBehind_product]
  simp only [recordDevice, vendor, product, uniqueID, busLocation_usb, and_self]

/-! ## The formats a stream can be opened with -/

/-- A rate that the ranges of a format offer: the end of one, or a breakpoint within one. -/
def Offered (ranges : List FrameRateRange) (fps : UInt32) : Prop :=
  ∃ range ∈ ranges, (fps = range.maxFrameRate ∧ 0 < fps) ∨
    (fps ∈ breakpoints ∧ range.minFrameRate ≤ fps ∧ fps ≤ range.maxFrameRate)

/-- The answers of an `open` in which every call succeeds. -/
def answered (m_platformFormats : List DeviceFormat) : OpenAnswers :=
  ⟨true, true, true, true, true, m_platformFormats, true⟩

section Formats

variable {fps rate : UInt32} {rates : List UInt32} {ranges : List FrameRateRange}

theorem mem_insertFps : rate ∈ insertFps fps rates ↔ rate = fps ∨ rate ∈ rates := by
  induction rates with
  | nil => simp [insertFps]
  | cons first rest ih =>
      rw [insertFps]
      split
      · simp
      · split
        · rw [List.mem_cons, ih, List.mem_cons]
          exact or_left_comm
        · rename_i notBefore notBehind
          obtain rfl : fps = first :=
            UInt32.le_antisymm (UInt32.not_lt.1 notBehind) (UInt32.not_lt.1 notBefore)
          simp

/-- A set stays in order, without a repetition. -/
theorem insertFps_increasing (increasing : rates.Pairwise (· < ·)) :
    (insertFps fps rates).Pairwise (· < ·) := by
  induction rates with
  | nil => exact List.pairwise_singleton _ _
  | cons first rest ih =>
      obtain ⟨least, later⟩ := List.pairwise_cons.1 increasing
      rw [insertFps]
      split
      · rename_i before
        refine List.pairwise_cons.2 ⟨fun next member => ?_, increasing⟩
        rcases List.mem_cons.1 member with rfl | member
        · exact before
        · exact UInt32.lt_trans before (least next member)
      · split
        · rename_i behind
          refine List.pairwise_cons.2 ⟨fun next member => ?_, ih later⟩
          rcases mem_insertFps.1 member with rfl | member
          · exact behind
          · exact least next member
        · exact increasing

theorem foldl_insertFps (inserted : List UInt32) (increasing : rates.Pairwise (· < ·)) :
    (inserted.foldl (fun rates fps => insertFps fps rates) rates).Pairwise (· < ·) ∧
      ∀ rate, rate ∈ inserted.foldl (fun rates fps => insertFps fps rates) rates ↔
        rate ∈ inserted ∨ rate ∈ rates := by
  induction inserted generalizing rates with
  | nil => exact ⟨increasing, fun rate => by simp⟩
  | cons fps inserted ih =>
      obtain ⟨ordered, members⟩ := ih (@insertFps_increasing fps rates increasing)
      refine ⟨ordered, fun rate => ?_⟩
      rw [List.foldl_cons, members, mem_insertFps, List.mem_cons]
      exact or_left_comm.trans or_assoc.symm

theorem mem_rangeFps : rate ∈ ranges.flatMap rangeFps ↔ Offered ranges rate := by
  rw [List.mem_flatMap]
  refine exists_congr fun range => and_congr_right fun _ => ?_
  rw [rangeFps, List.mem_append, List.mem_filter]
  refine or_congr ?_ ?_
  · split
    · rename_i positive
      rw [List.mem_singleton]
      exact ⟨fun same => ⟨same, same ▸ positive⟩, fun both => both.1⟩
    · rename_i zero
      refine iff_of_false List.not_mem_nil fun both => zero ?_
      exact both.1 ▸ both.2
  · simp [and_comm]

theorem uniqueFps_increasing (ranges : List FrameRateRange) :
    (uniqueFps ranges).Pairwise (· < ·) := by
  have ordered := (foldl_insertFps (ranges.flatMap rangeFps) List.Pairwise.nil).1
  unfold uniqueFps
  simp only
  split
  · exact insertFps_increasing ordered
  · exact ordered

theorem mem_uniqueFps : rate ∈ uniqueFps ranges ↔
    Offered ranges rate ∨ rate = 0 ∧ ∀ fps, ¬ Offered ranges fps := by
  have members := (foldl_insertFps (ranges.flatMap rangeFps) List.Pairwise.nil).2
  simp only [mem_rangeFps, List.not_mem_nil, or_false] at members
  unfold uniqueFps
  simp only
  split
  · rename_i empty
    rw [List.isEmpty_iff] at empty
    have nothing : ∀ fps, ¬ Offered ranges fps := fun fps offered => by
      have member := (members fps).2 offered
      rw [empty] at member
      cases member
    rw [mem_insertFps, members]
    simp [nothing]
  · rename_i occupied
    rw [members]
    refine ⟨.inl, fun offered => offered.resolve_right fun none_ => occupied ?_⟩
    rw [List.isEmpty_iff, List.eq_nil_iff_forall_not_mem]
    exact fun fps member => none_.2 fps ((members fps).1 member)

theorem exists_mem_uniqueFps (ranges : List FrameRateRange) : ∃ rate, rate ∈ uniqueFps ranges := by
  by_cases some_ : ∃ fps, Offered ranges fps
  · obtain ⟨fps, offered⟩ := some_
    exact ⟨fps, mem_uniqueFps.2 (.inl offered)⟩
  · exact ⟨0, mem_uniqueFps.2 (.inr ⟨rfl, not_exists.1 some_⟩)⟩

section Open

variable {s : Stream} {m_tmpBuffer : Bytes} {m_platformFormats : List DeviceFormat}
  {width height fourCC : UInt32}

/-- `open` looks for a format of this size and subtype. -/
theorem find?_format_isSome : (m_platformFormats.find? fun format => format.width = width &&
    format.height = height && format.mediaSubType = fourCC).isSome = true ↔
      ⟨width, height, fourCC⟩ ∈ m_platformFormats := by
  rw [List.find?_isSome]
  constructor
  · rintro ⟨format, member, fits⟩
    simp only [Bool.and_eq_true, decide_eq_true_iff] at fits
    obtain ⟨⟨rfl, rfl⟩, rfl⟩ := fits
    exact member
  · intro member
    exact ⟨_, member, by simp⟩

/-- A stream that was opened has the size and the subtype that were asked for. -/
theorem open_of_mem (listed : ⟨width, height, fourCC⟩ ∈ m_platformFormats) :
    ∃ p,
      PlatformStream.open s m_tmpBuffer (answered m_platformFormats) width height fourCC = some p ∧
        p.m_width = width ∧ p.m_height = height ∧ p.m_fourCC = fourCC := by
  obtain ⟨bestFormat, best⟩ := Option.isSome_iff_exists.1 (find?_format_isSome.2 listed)
  have fits := List.find?_some best
  simp only [Bool.and_eq_true, decide_eq_true_iff] at fits
  unfold PlatformStream.open
  simp only [answered, Bool.not_true, Bool.false_eq_true, if_false, best]
  exact ⟨_, rfl, rfl, rfl, fits.2⟩

theorem open_of_notMem (unlisted : ⟨width, height, fourCC⟩ ∉ m_platformFormats) :
    PlatformStream.open s m_tmpBuffer (answered m_platformFormats) width height fourCC = none := by
  have missing := mt find?_format_isSome.1 unlisted
  rw [Option.not_isSome_iff_eq_none] at missing
  unfold PlatformStream.open
  simp only [answered, Bool.not_true, Bool.false_eq_true, if_false, missing]

end Open

/-- An entry for this size and this subtype. -/
def Entry (width height fourCC : UInt32) (entry : CapFormatInfo) : Prop :=
  entry.width = width ∧ entry.height = height ∧ entry.fourcc = fourCC

theorem mem_formatInfos {bpp : UInt32} {format : CaptureDeviceFormat} {entry : CapFormatInfo} :
    entry ∈ formatInfos bpp format ↔
      Entry format.width format.height format.mediaSubType entry ∧ entry.bpp = bpp ∧
        entry.fps ∈ uniqueFps format.videoSupportedFrameRateRanges := by
  rw [formatInfos, List.mem_map]
  constructor
  · rintro ⟨fps, member, rfl⟩
    exact ⟨⟨rfl, rfl, rfl⟩, rfl, member⟩
  · obtain ⟨width, height, fourcc, fps, bpp'⟩ := entry
    rintro ⟨⟨rfl, rfl, rfl⟩, rfl, member⟩
    exact ⟨fps, member, rfl⟩

/-- The list has an entry for each format of the device, and for no other. -/
theorem exists_entry_iff {bpp : UInt32} {device : CaptureDevice} {width height fourCC : UInt32} :
    (∃ entry ∈ (recordDevice bpp device).m_formats, Entry width height fourCC entry) ↔
      ⟨width, height, fourCC⟩ ∈ (recordDevice bpp device).m_platformFormats := by
  show (∃ entry ∈ device.formats.flatMap (formatInfos bpp), _) ↔
    _ ∈ device.formats.map CaptureDeviceFormat.toDeviceFormat
  rw [List.mem_map]
  constructor
  · rintro ⟨entry, member, rfl, rfl, rfl⟩
    obtain ⟨format, listed, here⟩ := List.mem_flatMap.1 member
    obtain ⟨⟨sameWidth, sameHeight, sameFourcc⟩, -⟩ := mem_formatInfos.1 here
    refine ⟨format, listed, ?_⟩
    rw [sameWidth, sameHeight, sameFourcc]
  · rintro ⟨format, listed, same⟩
    obtain ⟨fps, member⟩ := exists_mem_uniqueFps format.videoSupportedFrameRateRanges
    obtain ⟨⟨rfl, rfl, rfl⟩, -⟩ : (format.width = width ∧ format.height = height ∧
        format.mediaSubType = fourCC) ∧ True := by simp [same]
    refine ⟨⟨_, _, _, fps, bpp⟩, List.mem_flatMap.2 ⟨format, listed, ?_⟩, rfl, rfl, rfl⟩
    exact mem_formatInfos.2 ⟨⟨rfl, rfl, rfl⟩, rfl, member⟩

end Formats

/-- **Listed and opened.**  The entries of a device are its formats, each at the rates its ranges
offer and in their order, or at 0 when they offer none.  A stream opens for the size and subtype
of an entry, and then has them; it does not open for any other. -/
theorem listed_formats (bpp : UInt32) (device : CaptureDevice) :
    (∀ entry, entry ∈ (recordDevice bpp device).m_formats ↔
      ∃ format ∈ device.formats,
        Entry format.width format.height format.mediaSubType entry ∧ entry.bpp = bpp ∧
          (Offered format.videoSupportedFrameRateRanges entry.fps ∨
            entry.fps = 0 ∧ ∀ fps, ¬ Offered format.videoSupportedFrameRateRanges fps)) ∧
      (∀ format ∈ device.formats,
        ((formatInfos bpp format).map CapFormatInfo.fps).Pairwise (· < ·)) ∧
      ∀ (s : Stream) (m_tmpBuffer : Bytes) (width height fourCC : UInt32),
        let opened := PlatformStream.open s m_tmpBuffer
          (answered (recordDevice bpp device).m_platformFormats) width height fourCC
        ((∃ entry ∈ (recordDevice bpp device).m_formats, Entry width height fourCC entry) →
          ∃ p, opened = some p ∧ p.m_width = width ∧ p.m_height = height ∧ p.m_fourCC = fourCC) ∧
        ((¬ ∃ entry ∈ (recordDevice bpp device).m_formats, Entry width height fourCC entry) →
          opened = none) := by
  refine ⟨fun entry => ?_, fun format _ => ?_, fun s m_tmpBuffer width height fourCC => ?_⟩
  · show entry ∈ device.formats.flatMap (formatInfos bpp) ↔ _
    simp only [List.mem_flatMap, mem_formatInfos, mem_uniqueFps]
  · have rates : (formatInfos bpp format).map CapFormatInfo.fps =
        uniqueFps format.videoSupportedFrameRateRanges := by
      simp [formatInfos, Function.comp_def]
    rw [rates]
    exact uniqueFps_increasing _
  · rw [exists_entry_iff]
    exact ⟨open_of_mem, open_of_notMem⟩

end OpenpnpCapture.Mac
