/-
# Win.DeviceIdentity — a device recorded and found again

`enumerateDevices` records a device for every video-input moniker whose property bag it can
bind; a device without a `DevicePath` property is recorded under a number.  `FindCaptureDevice`
goes over the same monikers later and binds the first that answers to the recorded path.

The two differ twice.  The number is counted differently: the first loop counts the devices
recorded so far, the second the monikers passed; a moniker that could not be bound shifts all
numbers after it, and the number of one device then names another.  And a `DevicePath` that is
read as a null string counts as missing for the first loop, while the second compares it.
`find_recorded_iff` is the exact condition.

Wide and UTF-8 strings are both `String`, and a conversion between them is the identity.
-/
import OpenpnpCapture.Win.PlatformContext

namespace OpenpnpCapture.Win

open OpenpnpCapture.Common

set_option autoImplicit false

/-- What `IPropertyBag::Read` answers: if it succeeds, a string that may be null. -/
structure PropertyBag where
  description : Option (Option String)
  friendlyName : Option (Option String)
  devicePath : Option (Option String)
deriving DecidableEq, Repr

/-- A null pointer is followed: that of an `IEnumMoniker`, or of a string. -/
inductive BusFault
  | nullEnumerator
  | nullString
deriving DecidableEq, Repr

/-- A moniker: the bag `BindToStorage` gives, and what `enumerateFrameInfo` finds behind it. -/
structure Moniker where
  storage : Option PropertyBag
  streamConfig : Option StreamConfig
deriving DecidableEq

structure PlatformDeviceInfo extends DeviceInfo where
  m_name : String
  m_uniqueID : String
  m_filterName : String
  m_devicePath : String
deriving DecidableEq, Repr

/-- `std::to_wstring`. -/
def to_wstring (n : Nat) : String := n.repr

/-- The description, or the friendly name if there is none; empty if that is null or missing. -/
def PropertyBag.name (pbag : PropertyBag) : String :=
  match pbag.description with
  | some bstrVal => bstrVal.getD ""
  | none =>
      match pbag.friendlyName with
      | some bstrVal => bstrVal.getD ""
      | none => ""

/-- The path a device is recorded under after `num_devices` others. -/
def PropertyBag.path (pbag : PropertyBag) (num_devices : Nat) : String :=
  match pbag.devicePath with
  | some (some bstrVal) => bstrVal
  | some none | none => to_wstring num_devices

/-- The device recorded after `num_devices` others. -/
def recordDevice (num_devices : Nat) (pbag : PropertyBag) (streamConfig : Option StreamConfig) :
    PlatformDeviceInfo :=
  let m_devicePath := pbag.path num_devices
  { m_name := pbag.name
    m_filterName := pbag.name
    m_devicePath
    m_uniqueID := pbag.name ++ " " ++ m_devicePath
    m_formats := (enumerateFrameInfo streamConfig).2 }

def enumerateDevices.loop : List Moniker → (num_devices : Nat) → List PlatformDeviceInfo
  | [], _ => []
  | moniker :: rest, num_devices =>
      match moniker.storage with
      | none => loop rest num_devices
      | some pbag =>
          recordDevice num_devices pbag moniker.streamConfig :: loop rest (num_devices + 1)

/-- The devices `enumerateDevices` records. -/
def enumerateDevices (monikers : List Moniker) : List PlatformDeviceInfo :=
  enumerateDevices.loop monikers 0

/-- The test of `FindCaptureDevice`, unless it is made with a null string. -/
def PropertyBag.answers (pbag : PropertyBag) (strDevicePath : String) (num_devices : Nat) : Bool :=
  match pbag.devicePath with
  | some bstrVal => bstrVal = some strDevicePath
  | none => strDevicePath = to_wstring num_devices

/-- The number of the moniker whose `BindToObject` is called; `none` for `E_FAIL`. -/
def FindCaptureDevice.loop (strDevicePath : String) :
    List Moniker → (num_devices : Nat) → Except BusFault (Option Nat)
  | [], _ => .ok none
  | moniker :: rest, num_devices =>
      match moniker.storage with
      | none => loop strDevicePath rest (num_devices + 1)
      | some pbag =>
          -- the comparison reads through the null pointer
          if pbag.devicePath = some none then .error .nullString
          else if pbag.answers strDevicePath num_devices then .ok (some num_devices)
          else loop strDevicePath rest (num_devices + 1)

def FindCaptureDevice (devicePath : String) (monikers : List Moniker) :
    Except BusFault (Option Nat) :=
  FindCaptureDevice.loop devicePath monikers 0

/-! ## Which moniker a device comes from -/

/-- The bag of moniker number `i`. -/
def bag? (monikers : List Moniker) (i : Nat) : Option PropertyBag :=
  monikers[i]?.bind Moniker.storage

/-- The devices recorded before moniker number `i`. -/
def recordedBefore (monikers : List Moniker) (i : Nat) : Nat :=
  (monikers.take i).countP fun moniker => moniker.storage.isSome

/-- The device recorded for moniker number `i`. -/
def recorded (monikers : List Moniker) (i : Nat) : Option PlatformDeviceInfo :=
  monikers[i]?.bind fun moniker =>
    moniker.storage.map fun pbag =>
      recordDevice (recordedBefore monikers i) pbag moniker.streamConfig

theorem enumerateDevices.loop_eq (monikers : List Moniker) (num_devices : Nat) :
    enumerateDevices.loop monikers num_devices =
      (List.range monikers.length).filterMap fun i =>
        monikers[i]?.bind fun moniker =>
          moniker.storage.map fun pbag =>
            recordDevice (num_devices + recordedBefore monikers i) pbag moniker.streamConfig := by
  induction monikers generalizing num_devices with
  | nil => rfl
  | cons moniker rest ih =>
      rw [List.length_cons, List.range_succ_eq_map, List.filterMap_cons, List.filterMap_map]
      cases bound : moniker.storage with
      | none =>
          simp only [loop, bound, ih, recordedBefore, List.getElem?_cons_zero, Option.bind_some,
            Option.map_none]
          refine List.filterMap_congr fun i _ => ?_
          simp [bound]
      | some pbag =>
          simp only [loop, bound, ih, recordedBefore, List.getElem?_cons_zero, Option.bind_some,
            Option.map_some, List.take_zero, List.countP_nil, Nat.add_zero]
          refine congrArg _ (List.filterMap_congr fun i _ => ?_)
          simp [bound, Nat.add_assoc, Nat.add_comm 1]

/-- The list of devices is what is recorded for the monikers, in order. -/
theorem enumerateDevices_eq (monikers : List Moniker) :
    enumerateDevices monikers = (List.range monikers.length).filterMap (recorded monikers) := by
  rw [enumerateDevices, enumerateDevices.loop_eq]
  simp only [Nat.zero_add]
  rfl

/-! ## Which moniker a path finds -/

/-- The `DevicePath` property of moniker number `i`. -/
def devicePath? (monikers : List Moniker) (i : Nat) : Option (Option String) :=
  (bag? monikers i).bind PropertyBag.devicePath

/-- Moniker number `i` answers to the path. -/
def AnswersTo (monikers : List Moniker) (devicePath : String) (i : Nat) : Prop :=
  ∃ pbag, bag? monikers i = some pbag ∧ pbag.answers devicePath i = true

/-- The loop goes on after moniker number `i`. -/
def PassedBy (monikers : List Moniker) (devicePath : String) (i : Nat) : Prop :=
  devicePath? monikers i ≠ some none ∧ ¬ AnswersTo monikers devicePath i

/-- A null string answers no path. -/
theorem PropertyBag.not_null_of_answers {pbag : PropertyBag} {path : String} {n : Nat}
    (answers : pbag.answers path n = true) : pbag.devicePath ≠ some none := by
  intro null
  simp [PropertyBag.answers, null] at answers

theorem FindCaptureDevice.loop_eq_some {devicePath : String} {monikers : List Moniker}
    {num_devices k : Nat} :
    loop devicePath monikers num_devices = .ok (some k) ↔
      ∃ i, k = num_devices + i ∧
        (∃ pbag, bag? monikers i = some pbag ∧ pbag.answers devicePath (num_devices + i) = true) ∧
        ∀ j < i, ∀ pbag, bag? monikers j = some pbag →
          pbag.devicePath ≠ some none ∧ pbag.answers devicePath (num_devices + j) = false := by
  induction monikers generalizing num_devices with
  | nil => simp [loop, bag?]
  | cons moniker rest ih =>
      -- the first moniker does not answer: the rest of the loop decides
      have later (silent : ∀ pbag, moniker.storage = some pbag →
            pbag.devicePath ≠ some none ∧ pbag.answers devicePath num_devices = false) :
          loop devicePath rest (num_devices + 1) = .ok (some k) ↔
            ∃ i, k = num_devices + i ∧
              (∃ pbag, bag? (moniker :: rest) i = some pbag ∧
                pbag.answers devicePath (num_devices + i) = true) ∧
              ∀ j < i, ∀ pbag, bag? (moniker :: rest) j = some pbag →
                pbag.devicePath ≠ some none ∧
                  pbag.answers devicePath (num_devices + j) = false := by
        rw [ih]
        constructor
        · rintro ⟨i, rfl, ⟨pbag, bound, answers⟩, first⟩
          rw [Nat.add_right_comm, Nat.add_assoc] at answers
          refine ⟨i + 1, by omega, ⟨pbag, bound, answers⟩, ?_⟩
          rintro (_ | j) before other otherBound
          · exact silent other otherBound
          · have unanswered := first j (by omega) other otherBound
            rwa [Nat.add_right_comm, Nat.add_assoc] at unanswered
        · rintro ⟨_ | i, rfl, ⟨pbag, bound, answers⟩, first⟩
          · rw [Nat.add_zero, (silent pbag bound).2] at answers
            cases answers
          · rw [← Nat.add_assoc, Nat.add_right_comm] at answers
            refine ⟨i, by omega, ⟨pbag, bound, answers⟩, ?_⟩
            intro j before other otherBound
            have unanswered := first (j + 1) (by omega) other otherBound
            rwa [← Nat.add_assoc, Nat.add_right_comm] at unanswered
      cases stored : moniker.storage with
      | none =>
          rw [loop, stored]
          exact later fun pbag bound => by cases stored ▸ bound
      | some pbag =>
          -- if the first moniker ends the loop, no later one is the first to answer
          have atFirst (ends : ¬ (pbag.devicePath ≠ some none ∧
                pbag.answers devicePath num_devices = false)) {i : Nat}
              (first : ∀ j < i, ∀ other, bag? (moniker :: rest) j = some other →
                other.devicePath ≠ some none ∧
                  other.answers devicePath (num_devices + j) = false) : i = 0 := by
            rcases i with _ | i
            · rfl
            · exact absurd (first 0 (by omega) pbag stored) ends
          rw [loop, stored]
          by_cases null : pbag.devicePath = some none
          · simp only [if_pos null]
            refine iff_of_false (by simp) ?_
            rintro ⟨i, -, ⟨other, bound, answers⟩, first⟩
            obtain rfl := atFirst (fun passed => passed.1 null) first
            obtain rfl := Option.some.inj (stored.symm.trans bound)
            exact PropertyBag.not_null_of_answers answers null
          · by_cases answers : pbag.answers devicePath num_devices = true
            · simp only [if_neg null, if_pos answers, Except.ok.injEq, Option.some.injEq]
              constructor
              · rintro rfl
                refine ⟨0, rfl, ⟨pbag, stored, answers⟩, fun j impossible => ?_⟩
                exact absurd impossible (Nat.not_lt_zero j)
              · rintro ⟨i, rfl, -, first⟩
                obtain rfl := atFirst (fun passed => by simp [passed.2] at answers) first
                rfl
            · simp only [if_neg null, if_neg answers]
              refine later fun other bound => ?_
              obtain rfl := Option.some.inj (stored.symm.trans bound)
              exact ⟨null, Bool.eq_false_iff.2 answers⟩

theorem passedBy_iff {monikers : List Moniker} {path : String} {i : Nat} :
    PassedBy monikers path i ↔ ∀ pbag, bag? monikers i = some pbag →
      pbag.devicePath ≠ some none ∧ pbag.answers path i = false := by
  unfold PassedBy AnswersTo devicePath?
  cases bag? monikers i with
  | none => simp
  | some pbag => simp

/-- A path binds the first moniker that answers to it, if the loop comes to it. -/
theorem FindCaptureDevice_eq_some {devicePath : String} {monikers : List Moniker} {i : Nat} :
    FindCaptureDevice devicePath monikers = .ok (some i) ↔
      AnswersTo monikers devicePath i ∧ ∀ j < i, PassedBy monikers devicePath j := by
  rw [FindCaptureDevice, FindCaptureDevice.loop_eq_some]
  simp only [Nat.zero_add, AnswersTo, passedBy_iff]
  constructor
  · rintro ⟨i, rfl, rest⟩
    exact rest
  · intro rest
    exact ⟨i, rfl, rest⟩

/-! ## Recorded and found again -/

/-- The device paths there are name one moniker each, and none is a decimal number. -/
structure PathsName (monikers : List Moniker) : Prop where
  distinct : ∀ i j path, devicePath? monikers i = some (some path) →
    devicePath? monikers j = some (some path) → i = j
  notDecimal : ∀ i path, devicePath? monikers i = some (some path) → ∀ n, path ≠ to_wstring n

section Identity

variable {monikers : List Moniker} {i : Nat} {info : PlatformDeviceInfo}

theorem to_wstring_injective {m n : Nat} (same : to_wstring m = to_wstring n) : m = n := by
  have digits := congrArg (fun s : String => Nat.ofDigitChars 10 s.toList 0) same
  simpa only [to_wstring, Nat.toList_repr, Nat.ofDigitChars_toDigits (by decide : 1 < 10)
    (Nat.le_refl 10)] using digits

theorem recorded_eq_some :
    recorded monikers i = some info ↔
      ∃ pbag, bag? monikers i = some pbag ∧ ∃ streamConfig,
        monikers[i]?.map Moniker.streamConfig = some streamConfig ∧
        info = recordDevice (recordedBefore monikers i) pbag streamConfig := by
  unfold recorded bag?
  cases monikers[i]? with
  | none => simp
  | some moniker =>
      simp only [Option.bind_some, Option.map_some, Option.map_eq_some_iff, Option.some.injEq]
      constructor
      · rintro ⟨pbag, bound, rfl⟩
        exact ⟨pbag, bound, _, rfl, rfl⟩
      · rintro ⟨pbag, bound, _, rfl, rfl⟩
        exact ⟨pbag, bound, rfl⟩

/-- As many devices are recorded as monikers are passed exactly if all of them could be bound. -/
theorem recordedBefore_eq_iff (inList : i < monikers.length) :
    recordedBefore monikers i = i ↔ ∀ j < i, (bag? monikers j).isSome = true := by
  have length : (monikers.take i).length = i := by
    rw [List.length_take]
    omega
  calc recordedBefore monikers i = i
      ↔ (monikers.take i).countP (fun moniker => moniker.storage.isSome) =
          (monikers.take i).length := by rw [length, recordedBefore]
    _ ↔ ∀ moniker ∈ monikers.take i, moniker.storage.isSome = true := List.countP_eq_length
    _ ↔ ∀ j < i, (bag? monikers j).isSome = true := ?_
  constructor
  · intro bound j before
    have inside : j < monikers.length := by omega
    have member : monikers[j] ∈ monikers.take i :=
      List.mem_take_iff_getElem.2 ⟨j, by omega, rfl⟩
    rw [bag?, List.getElem?_eq_getElem inside]
    exact bound _ member
  · intro bound moniker member
    obtain ⟨j, before, rfl⟩ := List.mem_take_iff_getElem.1 member
    have inside : j < monikers.length := by omega
    have := bound j (by omega)
    rwa [bag?, List.getElem?_eq_getElem inside] at this

theorem answersTo_path_iff (names : PathsName monikers) {path : String} {k : Nat}
    (given : devicePath? monikers i = some (some path)) :
    AnswersTo monikers path k ↔ k = i := by
  constructor
  · rintro ⟨pbag, bound, answers⟩
    cases named : pbag.devicePath with
    | some bstrVal =>
        rw [PropertyBag.answers, named, decide_eq_true_iff] at answers
        refine names.distinct k i path ?_ given
        rw [devicePath?, bound, Option.bind_some, named, answers]
    | none =>
        rw [PropertyBag.answers, named, decide_eq_true_iff] at answers
        exact absurd answers (names.notDecimal i path given k)
  · rintro rfl
    obtain ⟨pbag, bound, named⟩ := Option.bind_eq_some_iff.1 given
    exact ⟨pbag, bound, by rw [PropertyBag.answers, named]; exact decide_eq_true rfl⟩

/-- A number is answered to by the moniker of that number, if it cannot be asked for a path. -/
theorem answersTo_number_iff (names : PathsName monikers) {n k : Nat} :
    AnswersTo monikers (to_wstring n) k ↔
      k = n ∧ ∃ pbag, bag? monikers n = some pbag ∧ pbag.devicePath = none := by
  constructor
  · rintro ⟨pbag, bound, answers⟩
    cases named : pbag.devicePath with
    | some bstrVal =>
        rw [PropertyBag.answers, named, decide_eq_true_iff] at answers
        have given : devicePath? monikers k = some (some (to_wstring n)) := by
          rw [devicePath?, bound, Option.bind_some, named, answers]
        exact absurd rfl (names.notDecimal k _ given n)
    | none =>
        rw [PropertyBag.answers, named, decide_eq_true_iff] at answers
        obtain rfl := to_wstring_injective answers
        exact ⟨rfl, pbag, bound, named⟩
  · rintro ⟨rfl, pbag, bound, named⟩
    exact ⟨pbag, bound, by rw [PropertyBag.answers, named]; exact decide_eq_true rfl⟩

/-- A device with a path is found again, unless the loop meets a null string before it. -/
theorem find_path_iff (names : PathsName monikers) {path : String}
    (given : devicePath? monikers i = some (some path)) :
    FindCaptureDevice path monikers = .ok (some i) ↔ ∀ j < i, devicePath? monikers j ≠ some none := by
  rw [FindCaptureDevice_eq_some, and_iff_right ((answersTo_path_iff names given).2 rfl)]
  refine forall₂_congr fun j before => and_iff_left_of_imp fun _ answers => ?_
  have same := (answersTo_path_iff names given).1 answers
  omega

/-- A number finds the moniker of that number, unless the loop meets a null string before it. -/
theorem find_number_iff (names : PathsName monikers) {n k : Nat} :
    FindCaptureDevice (to_wstring n) monikers = .ok (some k) ↔
      k = n ∧ (∃ pbag, bag? monikers n = some pbag ∧ pbag.devicePath = none) ∧
        ∀ j < n, devicePath? monikers j ≠ some none := by
  rw [FindCaptureDevice_eq_some, answersTo_number_iff names, and_assoc]
  refine and_congr_right fun same => and_congr_right fun _ => ?_
  subst same
  refine forall₂_congr fun j before => and_iff_left_of_imp fun _ answers => ?_
  have other := ((answersTo_number_iff names).1 answers).1
  omega

/-- **Recorded and found again.**  A recorded device's path binds the moniker it was recorded from
exactly if no moniker up to that one answers with a null string, and its own `DevicePath` is a
string or every moniker before it could be bound. -/
theorem find_recorded_iff (names : PathsName monikers) (from_ : recorded monikers i = some info) :
    info ∈ enumerateDevices monikers ∧
      (FindCaptureDevice info.m_devicePath monikers = .ok (some i) ↔
        (∀ j ≤ i, devicePath? monikers j ≠ some none) ∧
          ((devicePath? monikers i).isSome = true ∨
            ∀ j < i, (bag? monikers j).isSome = true)) := by
  obtain ⟨pbag, bound, streamConfig, listed, rfl⟩ := recorded_eq_some.1 from_
  have inList : i < monikers.length := by
    by_contra outside
    simp [List.getElem?_eq_none (Nat.not_lt.1 outside)] at listed
  have own : devicePath? monikers i = pbag.devicePath := by
    rw [devicePath?, bound, Option.bind_some]
  refine ⟨?_, ?_⟩
  · rw [enumerateDevices_eq]
    exact List.mem_filterMap.2 ⟨i, List.mem_range.2 inList, from_⟩
  simp only [recordDevice, PropertyBag.path]
  rcases named : pbag.devicePath with _ | _ | path
  · -- recorded under a number, which counts the devices before
    rw [named] at own
    rw [find_number_iff names, own, eq_comm, recordedBefore_eq_iff inList]
    simp only [Option.isSome_none, Bool.false_eq_true, false_or, Nat.le_iff_lt_or_eq]
    constructor
    · rintro ⟨allBound, -, noNull⟩
      have same := (recordedBefore_eq_iff inList).2 allBound
      rw [same] at noNull
      refine ⟨?_, allBound⟩
      rintro j (before | rfl)
      · exact noNull j before
      · simp [own]
    · rintro ⟨noNull, allBound⟩
      have same := (recordedBefore_eq_iff inList).2 allBound
      rw [same]
      exact ⟨allBound, ⟨pbag, bound, named⟩, fun j before => noNull j (.inl before)⟩
  · -- a null string of its own: the loop does not get past it
    rw [named] at own
    refine iff_of_false ?_ fun both => both.1 i (Nat.le_refl i) own
    intro found
    obtain ⟨same, ⟨other, otherBound, unnamed⟩, -⟩ := (find_number_iff names).1 found
    rw [← same, bound] at otherBound
    obtain rfl := Option.some.inj otherBound
    rw [named] at unnamed
    cases unnamed
  · rw [named] at own
    rw [find_path_iff names own, own]
    simp only [Option.isSome_some, true_or, and_true]
    constructor
    · intro noNull j upTo
      rcases Nat.lt_or_eq_of_le upTo with before | rfl
      · exact noNull j before
      · simp [own]
    · exact fun noNull j before => noNull j (Nat.le_of_lt before)

theorem pathsName_of_none (unnamed : ∀ moniker ∈ monikers, ∀ pbag, moniker.storage = some pbag →
    ∀ path, pbag.devicePath ≠ some (some path)) : PathsName monikers := by
  have none_ (i : Nat) (path : String) : devicePath? monikers i ≠ some (some path) := by
    intro given
    obtain ⟨pbag, bound, named⟩ := Option.bind_eq_some_iff.1 given
    obtain ⟨moniker, at_, stored⟩ := Option.bind_eq_some_iff.1 bound
    exact unnamed moniker (List.mem_of_getElem? at_) pbag stored path named
  constructor
  · intro i j path given
    exact absurd given (none_ i path)
  · intro i path given
    exact absurd given (none_ i path)

end Identity

/-- A device whose `DevicePath` is read like this, and no path otherwise. -/
def cameraNamed (name : String) (devicePath : Option (Option String)) : Moniker :=
  ⟨some ⟨some (some name), none, devicePath⟩, none⟩

theorem find_recorded_second_of_two :
    ∃ info ∈ enumerateDevices [cameraNamed "top" none, cameraNamed "bottom" none],
      info.m_name = "bottom" ∧
        FindCaptureDevice info.m_devicePath
          [cameraNamed "top" none, cameraNamed "bottom" none] = .ok (some 1) := by
  have names : PathsName [cameraNamed "top" none, cameraNamed "bottom" none] :=
    pathsName_of_none (by simp [cameraNamed])
  obtain ⟨listed, found⟩ := find_recorded_iff names (i := 1) rfl
  exact ⟨_, listed, rfl, found.2 (by decide)⟩

/-- Behind a moniker that cannot be bound, the number of the second device names the first.  A
device that answers with a null string is recorded under its number, which nothing finds. -/
theorem find_recorded_mistaken :
    (PathsName [⟨none, none⟩, cameraNamed "top" none, cameraNamed "bottom" none] ∧
      ∃ info,
        recorded [⟨none, none⟩, cameraNamed "top" none, cameraNamed "bottom" none] 2 = some info ∧
        info.m_name = "bottom" ∧
        FindCaptureDevice info.m_devicePath
          [⟨none, none⟩, cameraNamed "top" none, cameraNamed "bottom" none] = .ok (some 1)) ∧
    PathsName [cameraNamed "top" (some none)] ∧
      ∃ info, recorded [cameraNamed "top" (some none)] 0 = some info ∧
        FindCaptureDevice info.m_devicePath [cameraNamed "top" (some none)] =
          .error .nullString :=
  ⟨⟨pathsName_of_none (by simp [cameraNamed]), _, rfl, rfl, by decide⟩,
    pathsName_of_none (by simp [cameraNamed]), _, rfl, by decide⟩

end OpenpnpCapture.Win
