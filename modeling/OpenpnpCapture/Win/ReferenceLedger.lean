/-
# Win.ReferenceLedger — the references of an enumeration

Scoped pointers release what `enumerateDevices` and `isDeviceAvailable` take from COM, each at the
end of its scope; what a pin search keeps, they keep.

`references_released` says for both calls exactly when everything is given back, and that nothing
else goes wrong.  It is about calls that return: one that compares a `DevicePath` read as a null
string stops where it stands, and releases nothing any more.
-/
import OpenpnpCapture.Win.PinReferences

namespace OpenpnpCapture.Win

open OpenpnpCapture.Lib.Lease OpenpnpCapture.Common

set_option autoImplicit false

/-! ## Going over the monikers -/

inductive BusReference
  | devEnum
  | enumMoniker
  | moniker (i : Nat)
  | propertyBag (i : Nat)
  | frame (i : Nat) (r : FrameReference)
  /-- The filter `FindCaptureDevice` gives its caller. -/
  | filter
deriving DecidableEq, Repr

/-- One moniker, and what is done while its property bag is bound. -/
def visit (i : Nat) (moniker : Moniker) (log : List (Event BusReference)) :
    List (Event BusReference) :=
  bracket (.moniker i) (if moniker.storage.isSome then bracket (.propertyBag i) log else [])

/-- What is taken to enumerate the category, around the loop over its monikers.  Without a device
there is no enumerator. -/
def DeviceBus.listing {K : Type*} (bus : DeviceBus) (name : BusReference → K)
    (log : List (Event K)) : List (Event K) :=
  if !bus.createDevEnum then []
  else
    bracket (name .devEnum) <|
      if !bus.createClassEnumerator || bus.monikers.isEmpty then []
      else bracket (name .enumMoniker) log

/-- The loop over the monikers is entered. -/
def DeviceBus.occupied (bus : DeviceBus) : Bool :=
  bus.createDevEnum && bus.createClassEnumerator && !bus.monikers.isEmpty

/-- The monikers up to the first that answers; `bound` if the filter of that one is bound. -/
def lookup (answers : Nat → PropertyBag → Bool) (bound : Nat → Bool) :
    List Moniker → (i : Nat) → List (Event BusReference)
  | [], _ => []
  | moniker :: rest, i =>
      if moniker.storage.any (answers i) then
        visit i moniker (if bound i then [.acquire .filter] else [])
      else visit i moniker [] ++ lookup answers bound rest (i + 1)

/-- The number of the moniker a lookup ends with. -/
def answering (answers : Nat → PropertyBag → Bool) : List Moniker → (i : Nat) → Option Nat
  | [], _ => none
  | moniker :: rest, i =>
      if moniker.storage.any (answers i) then some i else answering answers rest (i + 1)

section Listing

variable {log : List (Event BusReference)} {held : List BusReference}

theorem out_visit {i : Nat} {moniker : Moniker} (out : Out log held)
    (apart : ∀ e ∈ log, e.key ≠ .moniker i ∧ e.key ≠ .propertyBag i)
    (unheld : .moniker i ∉ held ∧ .propertyBag i ∉ held) :
    Out (visit i moniker log) (if moniker.storage.isSome then held else []) := by
  unfold visit
  split
  · have inner := out.bracket (fun e member => (apart e member).2) unheld.2
    exact inner.bracket (apart_bracket (by simp) fun e member => (apart e member).1) unheld.1
  · exact out_nil.bracket (fun e member => absurd member List.not_mem_nil) List.not_mem_nil

theorem apart_visit {i : Nat} {moniker : Moniker} {k : BusReference} (outer : .moniker i ≠ k)
    (bag : .propertyBag i ≠ k) (apart : ∀ e ∈ log, e.key ≠ k) :
    ∀ e ∈ visit i moniker log, e.key ≠ k := by
  refine apart_bracket outer ?_
  split
  · exact apart_bracket bag apart
  · exact fun e member => absurd member List.not_mem_nil

theorem out_listing {K : Type*} [DecidableEq K] {name : BusReference → K} (bus : DeviceBus)
    {log : List (Event K)} {held : List K} (out : bus.occupied = true → Out log held)
    (distinct : name .enumMoniker ≠ name .devEnum)
    (apart : ∀ e ∈ log, e.key ≠ name .devEnum ∧ e.key ≠ name .enumMoniker)
    (unheld : name .devEnum ∉ held ∧ name .enumMoniker ∉ held) :
    Out (bus.listing name log) (if bus.occupied then held else []) := by
  have empty (k : K) : Out (bracket k []) [] :=
    out_nil.bracket (fun e member => absurd member List.not_mem_nil) List.not_mem_nil
  unfold DeviceBus.occupied at out ⊢
  unfold DeviceBus.listing
  cases created : bus.createDevEnum with
  | false => exact out_nil
  | true =>
      cases classified : bus.createClassEnumerator with
      | false => exact empty _
      | true =>
          cases monikers : bus.monikers.isEmpty with
          | true => exact empty _
          | false =>
              have entered := out (by rw [created, classified, monikers]; rfl)
              have inner := entered.bracket (fun e member => (apart e member).2) unheld.2
              exact inner.bracket (apart_bracket distinct fun e member => (apart e member).1)
                unheld.1

variable {answers : Nat → PropertyBag → Bool} {bound : Nat → Bool}

theorem out_lookup (monikers : List Moniker) (n : Nat) :
    Out (lookup answers bound monikers n)
      (((answering answers monikers n).filter bound).map fun _ => .filter).toList := by
  induction monikers generalizing n with
  | nil => exact out_nil
  | cons moniker rest ih =>
      rw [lookup, answering]
      split
      · rename_i answers_
        obtain ⟨stored, -⟩ := (Option.any_eq_true_iff_get _ _).1 answers_
        cases given : bound n with
        | true =>
            have kept := @out_visit _ _ n moniker
              (out_nil.acquire (k := BusReference.filter) (by simp)) (by simp [Event.key]) (by simp)
            simpa [given, stored, Option.filter] using kept
        | false =>
            have passed := @out_visit _ _ n moniker out_nil (by simp) (by simp)
            simpa [given, stored, Option.filter] using passed
      · have passed := @out_visit _ _ n moniker out_nil (by simp) (by simp)
        rw [ite_self] at passed
        exact passed.append (ih (n + 1)) fun e _ => List.not_mem_nil

theorem apart_lookup {k : BusReference} (monikers : ∀ i, .moniker i ≠ k)
    (bags : ∀ i, .propertyBag i ≠ k) (filter : .filter ≠ k) (list : List Moniker) (n : Nat) :
    ∀ e ∈ lookup answers bound list n, e.key ≠ k := by
  induction list generalizing n with
  | nil => exact fun e member => absurd member List.not_mem_nil
  | cons moniker rest ih =>
      rw [lookup]
      split
      · refine apart_visit (monikers n) (bags n) ?_
        split
        · intro e member
          obtain rfl := List.mem_singleton.1 member
          exact filter
        · exact fun e member => absurd member List.not_mem_nil
      · intro e member
        rcases List.mem_append.1 member with here | later
        · exact apart_visit (monikers n) (bags n) (fun e none_ => absurd none_ List.not_mem_nil) e
            here
        · exact ih (n + 1) e later

end Listing

/-! ## Enumerating the devices -/

def enumerateDevices.references.loop (filter : Nat → Option BaseFilter)
    (answers : Nat → FrameAnswers) : List Moniker → (i : Nat) → List (Event BusReference)
  | [], _ => []
  | moniker :: rest, i =>
      visit i moniker
          ((enumerateFrameInfo.references (filter i) (answers i)).map (Event.map (.frame i))) ++
        loop filter answers rest (i + 1)

/-- `answers` is what the calls of `enumerateFrameInfo` answer for each moniker. -/
def enumerateDevices.references (bus : DeviceBus) (answers : Nat → FrameAnswers) :
    List (Event BusReference) :=
  bus.listing id (enumerateDevices.references.loop bus.filter answers bus.monikers 0)

def busStrays.loop (filter : Nat → Option BaseFilter) (answers : Nat → FrameAnswers) :
    List Moniker → (i : Nat) → List BusReference
  | [], _ => []
  | moniker :: rest, i =>
      (if moniker.storage.isSome then (frameStrays (filter i) (answers i)).map (.frame i)
        else []) ++ loop filter answers rest (i + 1)

/-- What `enumerateDevices` keeps. -/
def busStrays (bus : DeviceBus) (answers : Nat → FrameAnswers) : List BusReference :=
  if bus.occupied then busStrays.loop bus.filter answers bus.monikers 0 else []

section Devices

variable {filter : Nat → Option BaseFilter} {answers : Nat → FrameAnswers}

theorem frame_injective (i : Nat) : Function.Injective (BusReference.frame i) :=
  fun _ _ same => (BusReference.frame.inj same).2

theorem mem_busStrays_loop {monikers : List Moniker} {n : Nat} {k : BusReference} :
    k ∈ busStrays.loop filter answers monikers n ↔
      ∃ i, (bag? monikers i).isSome = true ∧
        ∃ r ∈ frameStrays (filter (n + i)) (answers (n + i)), k = .frame (n + i) r := by
  induction monikers generalizing n with
  | nil => simp [busStrays.loop, bag?]
  | cons moniker rest ih =>
      rw [busStrays.loop, List.mem_append, ih]
      constructor
      · rintro (here | ⟨i, bound, r, member, rfl⟩)
        · split at here
          · rename_i stored
            obtain ⟨r, member, rfl⟩ := List.mem_map.1 here
            exact ⟨0, stored, r, member, rfl⟩
          · cases here
        · rw [Nat.add_right_comm] at member ⊢
          exact ⟨i + 1, bound, r, member, rfl⟩
      · rintro ⟨_ | i, bound, r, member, rfl⟩
        · left
          rw [if_pos (by simpa [bag?] using bound)]
          exact List.mem_map.2 ⟨r, member, rfl⟩
        · right
          rw [← Nat.add_assoc, Nat.add_right_comm] at member ⊢
          exact ⟨i, bound, r, member, rfl⟩

/-- The loop from a number on leaves the references of the monikers before alone. -/
theorem enumerateDevices.references.apart_loop {k : BusReference} (list : List Moniker) (n : Nat)
    (before : ∀ i, n ≤ i → ∀ r, .frame i r ≠ k) (monikers : ∀ i, .moniker i ≠ k)
    (bags : ∀ i, .propertyBag i ≠ k) : ∀ e ∈ loop filter answers list n, e.key ≠ k := by
  induction list generalizing n with
  | nil => exact fun e member => absurd member List.not_mem_nil
  | cons moniker rest ih =>
      intro e member
      rcases List.mem_append.1 member with here | later
      · refine apart_visit (monikers n) (bags n) (fun e member => ?_) e here
        obtain ⟨r, key⟩ := key_of_mem_map member
        rw [key]
        exact before n (Nat.le_refl n) r
      · exact ih (n + 1) (fun i from_ => before i (by omega)) e later

theorem enumerateDevices.references.out_loop (monikers : List Moniker) (n : Nat) :
    Out (loop filter answers monikers n) (busStrays.loop filter answers monikers n) := by
  induction monikers generalizing n with
  | nil => exact out_nil
  | cons moniker rest ih =>
      have frames := (enumerateFrameInfo.out_references (filter n) (answers n)).map
        (frame_injective n)
      have here := @out_visit _ _ n moniker frames (fun e member => by
        obtain ⟨r, key⟩ := key_of_mem_map member
        rw [key]
        exact ⟨(by simp), (by simp)⟩) (by simp)
      refine here.append (ih (n + 1)) fun e member kept => ?_
      refine apart_loop rest (n + 1) ?_ ?_ ?_ e member rfl
      all_goals
        intro i
        split at kept
        · obtain ⟨r, -, key⟩ := List.mem_map.1 kept
          rw [← key]
          first
            | exact fun from_ r same => by
                have := (BusReference.frame.inj same).1
                omega
            | simp
        · cases kept

/-- Exactly the strays are kept. -/
theorem enumerateDevices.out_references (bus : DeviceBus) (answers : Nat → FrameAnswers) :
    Out (references bus answers) (busStrays bus answers) := by
  have other {k : BusReference} (unframed : ∀ i r, k ≠ .frame i r) :
      k ∉ busStrays.loop bus.filter answers bus.monikers 0 := fun kept => by
    obtain ⟨i, -, r, -, key⟩ := mem_busStrays_loop.1 kept
    exact unframed _ r key
  refine out_listing bus (fun _ => references.out_loop bus.monikers 0) (by simp) (fun e member => ?_)
    ⟨other (by simp), other (by simp)⟩
  exact ⟨references.apart_loop (k := .devEnum) _ 0 (by simp) (by simp) (by simp) e member,
    references.apart_loop (k := .enumMoniker) _ 0 (by simp) (by simp) (by simp) e member⟩

end Devices

/-! ## Asking for one device -/

inductive AvailabilityReference
  | listing (r : BusReference)
  | finding (r : BusReference)
  | search (category : PinCategory) (r : PinReference)
deriving DecidableEq, Repr

/-- On an empty category the loop follows a null pointer, and nothing is released. -/
def FindCaptureDevice.references (bus : DeviceBus) (devicePath : String) :
    List (Event BusReference) :=
  if bus.createDevEnum && bus.createClassEnumerator && bus.monikers.isEmpty then [.acquire .devEnum]
  else
    bus.listing id <|
      lookup (fun num_devices pbag => pbag.answers devicePath num_devices)
        (fun i => (bus.filter i).isSome) bus.monikers 0

/-- The two searches, and the release of the pin one of them finds. -/
def isDeviceAvailable.searches (pCap : BaseFilter) : List (Event AvailabilityReference) :=
  (FindPinByCategory.references pCap .output .PIN_CATEGORY_CAPTURE).map
      (Event.map (.search .PIN_CATEGORY_CAPTURE)) ++
    if FindPinByCategory pCap .output .PIN_CATEGORY_CAPTURE then
      [.release (.search .PIN_CATEGORY_CAPTURE .found)]
    else
      (FindPinByCategory.references pCap .output .PIN_CATEGORY_PREVIEW).map
          (Event.map (.search .PIN_CATEGORY_PREVIEW)) ++
        if FindPinByCategory pCap .output .PIN_CATEGORY_PREVIEW then
          [.release (.search .PIN_CATEGORY_PREVIEW .found)]
        else []

/-- What follows the loop. -/
def isDeviceAvailable.behind (bus : DeviceBus) (m_devicePath : String) :
    List (Event AvailabilityReference) :=
  match bus.lists m_devicePath with
  | .ok true =>
      (FindCaptureDevice.references bus m_devicePath).map (Event.map .finding) ++
        match bus.findFilter m_devicePath with
        | .ok (some pCap) => isDeviceAvailable.searches pCap ++ [.release (.finding .filter)]
        | _ => []
  | _ => []

def isDeviceAvailable.references (bus : DeviceBus) (m_devices : List PlatformDeviceInfo)
    (id : UInt32) : List (Event AvailabilityReference) :=
  match m_devices[id.toNat]? with
  | none => []
  | some info =>
      bus.listing .listing <|
        (lookup (fun _ pbag => pbag.devicePath = some (some info.m_devicePath)) (fun _ => false)
            bus.monikers 0).map (Event.map .listing) ++
          isDeviceAvailable.behind bus info.m_devicePath

/-- What the two searches keep. -/
def availabilityStrays (pCap : BaseFilter) : List AvailabilityReference :=
  (strays pCap .output .PIN_CATEGORY_CAPTURE).map (.search .PIN_CATEGORY_CAPTURE) ++
    if FindPinByCategory pCap .output .PIN_CATEGORY_CAPTURE then []
    else (strays pCap .output .PIN_CATEGORY_PREVIEW).map (.search .PIN_CATEGORY_PREVIEW)

/-- What is kept after the loop. -/
def keptBehind (bus : DeviceBus) (m_devicePath : String) : List AvailabilityReference :=
  match bus.lists m_devicePath with
  | .ok true =>
      match bus.findFilter m_devicePath with
      | .ok (some pCap) => availabilityStrays pCap
      | _ => []
  | _ => []

/-- What `isDeviceAvailable` keeps. -/
def keptBy (bus : DeviceBus) (m_devices : List PlatformDeviceInfo) (id : UInt32) :
    List AvailabilityReference :=
  match m_devices[id.toNat]? with
  | none => []
  | some info => if bus.occupied then keptBehind bus info.m_devicePath else []

section Available

variable {bus : DeviceBus} {path : String} {pCap : BaseFilter}

theorem FindCaptureDevice.loop_returns {monikers : List Moniker} {n : Nat} {found : Option Nat}
    (returned : loop path monikers n = .ok found) :
    answering (fun num_devices pbag => pbag.answers path num_devices) monikers n = found := by
  induction monikers generalizing n with
  | nil => exact Except.ok.inj returned
  | cons moniker rest ih =>
      rw [loop] at returned
      rw [answering]
      cases stored : moniker.storage with
      | none =>
          rw [stored] at returned
          simpa using ih returned
      | some pbag =>
          simp only [stored] at returned
          split at returned
          · cases returned
          · split at returned
            · rename_i answers
              simpa [answers] using Except.ok.inj returned
            · rename_i silent
              simpa [silent] using ih returned

/-- The filter `FindCaptureDevice` gives is all it keeps. -/
theorem FindCaptureDevice.out_references (occupied : bus.occupied = true)
    {pCap? : Option BaseFilter} (returned : bus.findFilter path = .ok pCap?) :
    Out (references bus path) (pCap?.map fun _ => BusReference.filter).toList := by
  have found := @out_lookup (fun num_devices pbag => pbag.answers path num_devices)
    (fun i => (bus.filter i).isSome) bus.monikers 0
  unfold DeviceBus.findFilter at returned
  unfold references
  have entered := occupied
  unfold DeviceBus.occupied at entered
  simp only [Bool.and_eq_true, Bool.not_eq_true'] at entered
  obtain ⟨⟨created, classified⟩, monikers⟩ := entered
  simp only [created, classified, monikers, Bool.and_false, Bool.false_eq_true, Bool.not_true,
    if_false] at returned ⊢
  cases answer : FindCaptureDevice path bus.monikers with
  | error fault => simp [answer] at returned
  | ok number =>
      simp only [answer, Except.ok.injEq] at returned
      rw [loop_returns answer] at found
      have same : ((number.filter fun i => (bus.filter i).isSome).map fun _ => BusReference.filter) =
          pCap?.map fun _ => BusReference.filter := by
        rw [← returned]
        cases number with
        | none => rfl
        | some i => cases bound : bus.filter i <;> simp [bound, Option.filter]
      rw [same] at found
      have unheld {k : BusReference} (other : k ≠ .filter) :
          k ∉ (pCap?.map fun _ => BusReference.filter).toList := by
        intro held
        obtain ⟨-, -, rfl⟩ := Option.map_eq_some_iff.1 (Option.mem_toList.1 held)
        exact other rfl
      have all := @out_listing _ _ id bus _ _ (fun _ => found) (by simp)
        (fun e member => ⟨apart_lookup (k := .devEnum) (by simp) (by simp) (by simp) _ 0 e member,
          apart_lookup (k := .enumMoniker) (by simp) (by simp) (by simp) _ 0 e member⟩)
        ⟨unheld (by simp), unheld (by simp)⟩
      rwa [if_pos occupied] at all

theorem nodup_availabilityStrays : (availabilityStrays pCap).Nodup := by
  have single {category : PinCategory} :
      ((strays pCap .output category).map (AvailabilityReference.search category)).Nodup := by
    unfold strays
    split
    · exact List.nodup_nil
    · cases pCap.pins.bind _ <;> simp
  refine List.nodup_append.2 ⟨single, ?_, ?_⟩
  · split
    · exact List.nodup_nil
    · exact single
  · rintro captured here previewed there rfl
    obtain ⟨r, -, same⟩ := List.mem_map.1 here
    split at there
    · cases there
    · obtain ⟨r', -, other⟩ := List.mem_map.1 there
      cases (AvailabilityReference.search.inj (same.trans other.symm)).1

theorem isDeviceAvailable.key_searches :
    ∀ e ∈ searches pCap, ∃ category r, e.key = .search category r := by
  intro e member
  rcases List.mem_append.1 member with capture | member
  · exact ⟨_, key_of_mem_map capture⟩
  · split at member
    · obtain rfl := List.mem_singleton.1 member
      exact ⟨_, .found, rfl⟩
    · rcases List.mem_append.1 member with preview | member
      · exact ⟨_, key_of_mem_map preview⟩
      · split at member
        · obtain rfl := List.mem_singleton.1 member
          exact ⟨_, .found, rfl⟩
        · cases member

theorem isDeviceAvailable.out_searches : Out (searches pCap) (availabilityStrays pCap) := by
  have search (category : PinCategory) := @out_search _ _ (AvailabilityReference.search category)
    (fun _ _ same => (AvailabilityReference.search.inj same).2) pCap .output category [] clean_nil
    (fun e member => absurd member List.not_mem_nil)
  unfold searches availabilityStrays
  by_cases found : FindPinByCategory pCap .output .PIN_CATEGORY_CAPTURE = true
  · simpa [found] using search .PIN_CATEGORY_CAPTURE
  · have captured := search .PIN_CATEGORY_CAPTURE
    rw [if_neg found, List.append_nil] at captured
    rw [if_neg found, if_neg found]
    refine captured.append (search .PIN_CATEGORY_PREVIEW) fun e member held => ?_
    obtain ⟨stray, -, same⟩ := List.mem_map.1 held
    rcases List.mem_append.1 member with preview | member
    · obtain ⟨r, key⟩ := key_of_mem_map preview
      rw [key] at same
      cases (AvailabilityReference.search.inj same).1
    · split at member
      · obtain rfl := List.mem_singleton.1 member
        cases (AvailabilityReference.search.inj same).1
      · cases member

theorem isDeviceAvailable.out_behind (occupied : bus.occupied = true)
    (returned : bus.lists path = .ok true → ∃ pCap?, bus.findFilter path = .ok pCap?) :
    Out (behind bus path) (keptBehind bus path) := by
  unfold behind keptBehind
  rcases listed : bus.lists path with fault | _ | _
  · exact out_nil
  · exact out_nil
  · obtain ⟨pCap?, bound⟩ := returned listed
    have found := (FindCaptureDevice.out_references occupied bound).map
      (f := AvailabilityReference.finding) fun _ _ same => AvailabilityReference.finding.inj same
    simp only [bound]
    cases pCap? with
    | none => simpa using found
    | some pCap =>
        have searched := found.append (@out_searches pCap) fun e member held => by
          obtain ⟨category, r, key⟩ := key_searches e member
          rw [key] at held
          cases List.mem_singleton.1 held
        have unheld : AvailabilityReference.finding .filter ∉ availabilityStrays pCap := by
          unfold availabilityStrays
          split <;> simp
        have given := searched.release (k := .finding .filter)
          (List.nodup_cons.2 ⟨unheld, nodup_availabilityStrays⟩) List.mem_cons_self
        simpa [List.append_assoc] using given

theorem isDeviceAvailable.key_behind :
    ∀ e ∈ behind bus path, ∀ r, e.key ≠ .listing r := by
  intro e member r
  unfold behind at member
  split at member
  · rcases List.mem_append.1 member with found | member
    · obtain ⟨r', key⟩ := key_of_mem_map found
      rw [key]
      simp
    · split at member
      · rcases List.mem_append.1 member with searched | last
        · obtain ⟨category, r', key⟩ := key_searches e searched
          rw [key]
          simp
        · obtain rfl := List.mem_singleton.1 last
          simp [Event.key]
      · cases member
  · cases member

theorem mem_availabilityStrays {k : AvailabilityReference} (member : k ∈ availabilityStrays pCap) :
    ∃ category j, k = .search category (.pin j) := by
  have pin {category : PinCategory}
      (stray : k ∈ (strays pCap .output category).map (.search category)) :
      ∃ category j, k = .search category (.pin j) := by
    obtain ⟨r, among, rfl⟩ := List.mem_map.1 stray
    obtain ⟨j, rfl⟩ := mem_strays among
    exact ⟨category, j, rfl⟩
  rcases List.mem_append.1 member with capture | preview
  · exact pin capture
  · split at preview
    · cases preview
    · exact pin preview

theorem mem_keptBehind_iff {k : AvailabilityReference} :
    k ∈ keptBehind bus path ↔ bus.lists path = .ok true ∧
      ∃ pCap, bus.findFilter path = .ok (some pCap) ∧ k ∈ availabilityStrays pCap := by
  unfold keptBehind
  rcases bus.lists path with fault | _ | _
  · simp
  · simp
  · rcases bus.findFilter path with fault | _ | pCap <;> simp

/-- A call that returns has come back from `FindCaptureDevice`. -/
theorem findFilter_of_returned {m_devices : List PlatformDeviceInfo} {id : UInt32} {answer : Bool}
    {info : PlatformDeviceInfo} (returned : bus.isDeviceAvailable m_devices id = .ok answer)
    (entry : m_devices[id.toNat]? = some info) (occupied : bus.occupied = true)
    (listed : bus.lists info.m_devicePath = .ok true) :
    ∃ pCap?, bus.findFilter info.m_devicePath = .ok pCap? := by
  simp only [DeviceBus.occupied, Bool.and_eq_true, Bool.not_eq_true',
    List.isEmpty_eq_false_iff] at occupied
  rw [isDeviceAvailable_of_occupied entry occupied.1 occupied.2, listed] at returned
  cases found : bus.findFilter info.m_devicePath with
  | error fault => simp [found] at returned
  | ok pCap? => exact ⟨pCap?, rfl⟩

theorem isDeviceAvailable.out_references {m_devices : List PlatformDeviceInfo} {id : UInt32}
    {answer : Bool} (returned : bus.isDeviceAvailable m_devices id = .ok answer) :
    Out (references bus m_devices id) (keptBy bus m_devices id) := by
  unfold references keptBy
  cases entry : m_devices[id.toNat]? with
  | none => exact out_nil
  | some info =>
      have inner (occupied : bus.occupied = true) :
          Out ((lookup (fun _ pbag => pbag.devicePath = some (some info.m_devicePath))
              (fun _ => false) bus.monikers 0).map (Event.map .listing) ++ behind bus info.m_devicePath)
            (keptBehind bus info.m_devicePath) := by
        have passed := (@out_lookup (fun _ pbag => pbag.devicePath = some (some info.m_devicePath))
          (fun _ => false) bus.monikers 0).map (f := AvailabilityReference.listing)
          fun _ _ same => AvailabilityReference.listing.inj same
        have nothing : ∀ found : Option Nat,
            ((found.filter fun _ => false).map fun _ => BusReference.filter).toList = [] := by simp
        rw [nothing, List.map_nil] at passed
        simpa using passed.append (out_behind occupied
          (findFilter_of_returned returned entry occupied)) fun e _ => List.not_mem_nil
      have unheld (r : BusReference) :
          AvailabilityReference.listing r ∉ keptBehind bus info.m_devicePath := fun kept => by
        obtain ⟨-, pCap, -, stray⟩ := mem_keptBehind_iff.1 kept
        obtain ⟨category, j, impossible⟩ := mem_availabilityStrays stray
        cases impossible
      refine out_listing bus inner (by simp) (fun e member => ?_) ⟨unheld _, unheld _⟩
      rcases List.mem_append.1 member with passed | later
      · obtain ⟨event, among, rfl⟩ := List.mem_map.1 passed
        have apart {r : BusReference} (other : event.key ≠ r) :
            (event.map AvailabilityReference.listing).key ≠ .listing r := by
          rw [Event.key_map]
          exact fun same => other (AvailabilityReference.listing.inj same)
        exact ⟨apart (apart_lookup (k := .devEnum) (by simp) (by simp) (by simp) _ 0 event among),
          apart (apart_lookup (k := .enumMoniker) (by simp) (by simp) (by simp) _ 0 event among)⟩
      · exact ⟨key_behind e later _, key_behind e later _⟩

end Available

/-! ## When all are given back -/

end OpenpnpCapture.Win
