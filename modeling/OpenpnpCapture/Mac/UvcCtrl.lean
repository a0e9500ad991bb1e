/-
# Mac.UvcCtrl — the descriptor walk of `UVCCtrl::getProcessingUnitID`

A configuration descriptor is a string of records, each with its length in byte 0 and its type
in byte 1; `wTotalLength` is in bytes 2 and 3 of the first.  The walk looks for the processing
unit among the class-specific records of a VIDEO/CONTROL interface.

It takes the length of a record from the record and checks neither that it is not zero nor that
the fields it reads still lie inside the descriptor; the loop condition is about the first byte of
a record only.  `getProcessingUnitID_safe_iff` says which descriptors it is safe for.

The memory from the descriptor on is `Nat → UInt8`; the walk emits the offsets it reads.  `idx`
is below `65535 + 255`, so as a `uint32_t` it does not wrap.
-/
import OpenpnpCapture.Lib.Loop

namespace OpenpnpCapture.Mac.UVCCtrl

open OpenpnpCapture.Lib

set_option autoImplicit false

/-! ## The fields, by offset -/

section Fields

variable (ptr : Nat → UInt8)

/-- `IOUSBConfigurationDescriptor::wTotalLength`. -/
def wTotalLength : Nat := (ptr 2).toNat + 256 * (ptr 3).toNat

/-- `IOUSBDescriptorHeader`. -/
def bLength (idx : Nat) : UInt8 := ptr idx
def bDescriptorType (idx : Nat) : UInt8 := ptr (idx + 1)

/-- `IOUSBInterfaceDescriptor`. -/
def bInterfaceClass (idx : Nat) : UInt8 := ptr (idx + 5)
def bInterfaceSubClass (idx : Nat) : UInt8 := ptr (idx + 6)
def bInterfaceProtocol (idx : Nat) : UInt8 := ptr (idx + 7)

/-- `ProcessingUnitDescriptor`. -/
def bDescriptorSubtype (idx : Nat) : UInt8 := ptr (idx + 2)
def bUnitID (idx : Nat) : UInt8 := ptr (idx + 3)

end Fields

/-! ## The walk -/

/-- The local variables of the loop. -/
structure Cursor where
  idx : Nat
  inVideoControlInterfaceDescriptor : Bool
deriving DecidableEq, Repr

/-- One turn of the loop: the offsets it reads, and the next cursor or the result. -/
def turn (ptr : Nat → UInt8) (c : Cursor) : Loop.Turn Cursor Nat UInt32 :=
  let skip (fields : List Nat) (inVideoControl : Bool) : Loop.Turn Cursor Nat UInt32 :=
    { emitted := [2, 3, c.idx + 1] ++ fields ++ [c.idx]
      next := .again ⟨c.idx + (bLength ptr c.idx).toNat, inVideoControl⟩ }
  if c.idx < wTotalLength ptr then
    if bDescriptorType ptr c.idx = 0x04 then
      -- `&&` stops at the first comparison that fails
      if bInterfaceClass ptr c.idx = 14 then
        if bInterfaceSubClass ptr c.idx = 1 then
          skip [c.idx + 5, c.idx + 6, c.idx + 7] (bInterfaceProtocol ptr c.idx == 0)
        else skip [c.idx + 5, c.idx + 6] false
      else skip [c.idx + 5] false
    else if bDescriptorType ptr c.idx = 0x24 then
      if c.inVideoControlInterfaceDescriptor = true then
        if bDescriptorSubtype ptr c.idx = 0x05 then
          { emitted := [2, 3, c.idx + 1, c.idx + 2, c.idx + 3]
            next := .done (bUnitID ptr c.idx).toUInt32 }
        else skip [c.idx + 2] c.inVideoControlInterfaceDescriptor
      else skip [] c.inVideoControlInterfaceDescriptor
    -- endpoints, configurations and all others
    else skip [] c.inVideoControlInterfaceDescriptor
  else { emitted := [2, 3], next := .done 0 }

/-- The offsets read by the walk and the result, if there is one after `fuel` turns.  Without a
descriptor the result is 0.  The trace lines before the walk, with four fields of the configuration
descriptor, are left out. -/
def getProcessingUnitID (fuel : Nat) : (configDesc : Option (Nat → UInt8)) → List Nat × Option UInt32
  | none => ([], some 0)
  | some ptr => Loop.run (turn ptr) fuel ⟨0, false⟩

/-! ## What the descriptor says -/

section Records

variable (ptr : Nat → UInt8)

/-- Where record `n` begins, following the lengths. -/
def recordAt : Nat → Nat
  | 0 => 0
  | n + 1 => recordAt n + (bLength ptr (recordAt n)).toNat

/-- An interface record is that of a VIDEO/CONTROL interface. -/
def IsVideoControl (idx : Nat) : Prop :=
  bInterfaceClass ptr idx = 14 ∧ bInterfaceSubClass ptr idx = 1 ∧ bInterfaceProtocol ptr idx = 0

instance (idx : Nat) : Decidable (IsVideoControl ptr idx) :=
  inferInstanceAs (Decidable (_ ∧ _ ∧ _))

/-- The last interface record before record `n` is that of a VIDEO/CONTROL interface. -/
def inVideoControl : Nat → Bool
  | 0 => false
  | n + 1 =>
      if bDescriptorType ptr (recordAt ptr n) = 0x04 then IsVideoControl ptr (recordAt ptr n)
      else inVideoControl n

/-- Record `n` is a processing unit. -/
def IsProcessingUnit (n : Nat) : Prop :=
  bDescriptorType ptr (recordAt ptr n) = 0x24 ∧ inVideoControl ptr n = true ∧
    bDescriptorSubtype ptr (recordAt ptr n) = 0x05

instance (n : Nat) : Decidable (IsProcessingUnit ptr n) :=
  inferInstanceAs (Decidable (_ ∧ _ ∧ _))

/-- How many bytes of a record are needed to tell what it is. -/
def extent (idx : Nat) (inVideoControl : Bool) : Nat :=
  if bDescriptorType ptr idx = 0x04 then
    if bInterfaceClass ptr idx = 14 then if bInterfaceSubClass ptr idx = 1 then 8 else 7 else 6
  else if bDescriptorType ptr idx = 0x24 ∧ inVideoControl = true then
    if bDescriptorSubtype ptr idx = 0x05 then 4 else 3
  else 2

/-- The records before record `n` begin inside the descriptor and are no processing unit. -/
def Reached (n : Nat) : Prop :=
  ∀ m < n, recordAt ptr m < wTotalLength ptr ∧ ¬ IsProcessingUnit ptr m

/-- The declared length covers itself; each record up to the processing unit lies inside it as
far as is needed to tell what it is, and has a length. -/
structure WellFormed : Prop where
  header : 4 ≤ wTotalLength ptr
  inside : ∀ n, Reached ptr n → recordAt ptr n < wTotalLength ptr →
    recordAt ptr n + extent ptr (recordAt ptr n) (inVideoControl ptr n) ≤ wTotalLength ptr
  advances : ∀ n, Reached ptr n → recordAt ptr n < wTotalLength ptr →
    IsProcessingUnit ptr n ∨ bLength ptr (recordAt ptr n) ≠ 0

end Records

section Walk

variable {ptr : Nat → UInt8}

/-- All a turn inside the descriptor can do: it finds a processing unit, or consults some fields and
skips the record. -/
theorem turn_cases {c : Cursor} (going : c.idx < wTotalLength ptr) :
    ((bDescriptorType ptr c.idx = 0x24 ∧ c.inVideoControlInterfaceDescriptor = true ∧
          bDescriptorSubtype ptr c.idx = 0x05) ∧
        turn ptr c = ⟨[2, 3, c.idx + 1, c.idx + 2, c.idx + 3],
          .done (bUnitID ptr c.idx).toUInt32⟩) ∨
      ¬ (bDescriptorType ptr c.idx = 0x24 ∧ c.inVideoControlInterfaceDescriptor = true ∧
          bDescriptorSubtype ptr c.idx = 0x05) ∧
        ∃ fields,
          turn ptr c = ⟨[2, 3, c.idx + 1] ++ fields ++ [c.idx],
            .again ⟨c.idx + (bLength ptr c.idx).toNat,
              if bDescriptorType ptr c.idx = 0x04 then IsVideoControl ptr c.idx
              else c.inVideoControlInterfaceDescriptor⟩⟩ ∧
          ∀ bound, c.idx + 2 ≤ bound → ((∀ offset ∈ fields, offset < bound) ↔
            c.idx + extent ptr c.idx c.inVideoControlInterfaceDescriptor ≤ bound) := by
  unfold turn extent
  by_cases interface : bDescriptorType ptr c.idx = 0x04
  · refine Or.inr ⟨by simp [interface], ?_⟩
    by_cases video : bInterfaceClass ptr c.idx = 14
    · by_cases control : bInterfaceSubClass ptr c.idx = 1
      · refine ⟨[c.idx + 5, c.idx + 6, c.idx + 7], ?_, fun bound _ => ?_⟩
        · simp [going, interface, video, control, IsVideoControl, beq_eq_decide]
        · simp [interface, video, control]
          omega
      · refine ⟨[c.idx + 5, c.idx + 6], ?_, fun bound _ => ?_⟩
        · simp [going, interface, video, control, IsVideoControl]
        · simp [interface, video, control]
          omega
    · refine ⟨[c.idx + 5], ?_, fun bound _ => ?_⟩
      · simp [going, interface, video, IsVideoControl]
      · simp [interface, video]
        omega
  · by_cases classSpecific : bDescriptorType ptr c.idx = 0x24
    · cases inside : c.inVideoControlInterfaceDescriptor with
      | false =>
          refine Or.inr ⟨by simp, [], ?_, fun bound room => ?_⟩
          · simp [going, classSpecific]
          · simp [classSpecific, room]
      | true =>
          by_cases unit : bDescriptorSubtype ptr c.idx = 0x05
          · refine Or.inl ⟨⟨classSpecific, rfl, unit⟩, ?_⟩
            simp [going, classSpecific, unit]
          · refine Or.inr ⟨fun found => unit found.2.2, [c.idx + 2], ?_, fun bound _ => ?_⟩
            · simp [going, classSpecific, unit]
            · simp [classSpecific, unit]
              omega
    · refine Or.inr ⟨fun found => classSpecific found.1, [], ?_, fun bound room => ?_⟩
      · simp [going, interface, classSpecific]
      · simp [interface, classSpecific, room]

variable (ptr) in
/-- Every record needs its length and its type. -/
theorem two_le_extent (idx : Nat) (inVideoControl : Bool) : 2 ≤ extent ptr idx inVideoControl := by
  unfold extent
  split
  · split
    · split <;> decide
    · decide
  · split
    · split <;> decide
    · decide

/-- A turn stays inside the descriptor exactly if the header and the fields it needs do. -/
theorem emitted_inside_iff (c : Cursor) :
    (∀ offset ∈ (turn ptr c).emitted, offset < wTotalLength ptr) ↔
      4 ≤ wTotalLength ptr ∧ (c.idx < wTotalLength ptr →
        c.idx + extent ptr c.idx c.inVideoControlInterfaceDescriptor ≤ wTotalLength ptr) := by
  by_cases going : c.idx < wTotalLength ptr
  · rcases turn_cases going with ⟨⟨classSpecific, inside, unit⟩, ran⟩ | ⟨-, fields, ran, needed⟩
    · rw [ran]
      simp [going, extent, classSpecific, inside, unit]
      omega
    · have atLeast := two_le_extent ptr c.idx c.inVideoControlInterfaceDescriptor
      have rest := needed (wTotalLength ptr)
      rw [ran]
      simp only [List.forall_mem_append, List.forall_mem_cons]
      constructor
      · rintro ⟨⟨⟨-, third, type, -⟩, consulted⟩, -⟩
        exact ⟨third, fun _ => (rest type).1 consulted⟩
      · rintro ⟨header, needs⟩
        have room := needs going
        exact ⟨⟨⟨by omega, by omega, by omega, fun _ none => nomatch none⟩,
          (rest (by omega)).2 room⟩, going, fun _ none => nomatch none⟩
  · simp [turn, going]
    omega

/-- A record that is no processing unit is skipped by its length. -/
theorem turn_again {n : Nat} (going : recordAt ptr n < wTotalLength ptr)
    (other : ¬ IsProcessingUnit ptr n) :
    (turn ptr ⟨recordAt ptr n, inVideoControl ptr n⟩).next =
      .again ⟨recordAt ptr (n + 1), inVideoControl ptr (n + 1)⟩ := by
  rcases turn_cases (c := ⟨recordAt ptr n, inVideoControl ptr n⟩) going with
    ⟨unit, -⟩ | ⟨-, fields, ran, -⟩
  · exact absurd unit other
  · rw [ran, recordAt, inVideoControl]

theorem turn_unit {n : Nat} (going : recordAt ptr n < wTotalLength ptr)
    (unit : IsProcessingUnit ptr n) :
    (turn ptr ⟨recordAt ptr n, inVideoControl ptr n⟩).next =
      .done (bUnitID ptr (recordAt ptr n)).toUInt32 := by
  rcases turn_cases (c := ⟨recordAt ptr n, inVideoControl ptr n⟩) going with
    ⟨-, ran⟩ | ⟨other, -⟩
  · rw [ran]
  · exact absurd unit other

theorem turn_end {n : Nat} (past : ¬ recordAt ptr n < wTotalLength ptr) :
    (turn ptr ⟨recordAt ptr n, inVideoControl ptr n⟩).next = .done 0 := by
  simp [turn, past]

variable (ptr) in
/-- The turns of the walk are about one record after the other, until the end or a processing
unit. -/
theorem path :
    Loop.Path (turn ptr) (fun n => ⟨recordAt ptr n, inVideoControl ptr n⟩)
      fun n => recordAt ptr n < wTotalLength ptr ∧ ¬ IsProcessingUnit ptr n where
  again _ goes := turn_again goes.1 goes.2
  done n stops := by
    by_cases going : recordAt ptr n < wTotalLength ptr
    · exact ⟨_, turn_unit going (not_not.1 fun other => stops ⟨going, other⟩)⟩
    · exact ⟨_, turn_end going⟩

/-- The result is the id of the first processing unit, or 0 at the end of the descriptor. -/
theorem getProcessingUnitID_returns_iff (unit : UInt32) :
    (∃ fuel, (getProcessingUnitID fuel (some ptr)).2 = some unit) ↔
      ∃ n, Reached ptr n ∧
        (if recordAt ptr n < wTotalLength ptr then
          IsProcessingUnit ptr n ∧ (bUnitID ptr (recordAt ptr n)).toUInt32 = unit
        else unit = 0) := by
  refine ((path ptr).returns_iff unit).trans (exists_congr fun n => and_congr_right fun reached => ?_)
  split
  · rename_i going
    by_cases found : IsProcessingUnit ptr n
    · simp [turn_unit going found, found]
    · simp [turn_again going found, found]
  · rename_i past
    simp [turn_end past, eq_comm]

example :
    let descriptor : List UInt8 :=
      [9, 2, 22, 0, 1, 1, 0, 0x80, 50, 9, 4, 0, 0, 0, 14, 1, 0, 0, 4, 0x24, 5, 2]
    (getProcessingUnitID 3 (some fun offset => descriptor.getD offset 0)).2 = some 2 := by
  decide

/-- Lengths that are not zero take the walk past any offset. -/
theorem le_recordAt {n : Nat} (advances : ∀ m < n, bLength ptr (recordAt ptr m) ≠ 0) :
    n ≤ recordAt ptr n := by
  induction n with
  | zero => exact Nat.zero_le _
  | succ n ih =>
      have before := ih fun m earlier => advances m (Nat.lt_succ_of_lt earlier)
      have positive : 0 < (bLength ptr (recordAt ptr n)).toNat :=
        Nat.pos_of_ne_zero fun zero => advances n (Nat.lt_succ_self n) (UInt8.toNat_inj.1 zero)
      have step : recordAt ptr (n + 1) = recordAt ptr n + (bLength ptr (recordAt ptr n)).toNat := rfl
      omega

/-- A record without a length is where the walk stays. -/
theorem recordAt_stays {n : Nat} (zero : bLength ptr (recordAt ptr n) = 0) (later : Nat) :
    recordAt ptr (n + later) = recordAt ptr n := by
  induction later with
  | zero => rfl
  | succ later ih =>
      show recordAt ptr (n + later) + (bLength ptr (recordAt ptr (n + later))).toNat = _
      rw [ih, zero]
      rfl

/-- Nor does it turn into a processing unit. -/
theorem other_stays {n : Nat} (zero : bLength ptr (recordAt ptr n) = 0)
    (other : ¬ IsProcessingUnit ptr n) (later : Nat) : ¬ IsProcessingUnit ptr (n + later) := by
  induction later with
  | zero => exact other
  | succ later ih =>
      rintro ⟨classSpecific, inside, subtype⟩
      have here := recordAt_stays zero (later + 1)
      have before := recordAt_stays zero later
      rw [here, ← before] at classSpecific subtype
      have noInterface : bDescriptorType ptr (recordAt ptr (n + later)) ≠ 0x04 := by
        rw [classSpecific]
        decide
      rw [← Nat.add_assoc, inVideoControl, if_neg noInterface] at inside
      exact ih ⟨classSpecific, inside, subtype⟩

/-- The walk ends exactly if some record is past the end or a processing unit. -/
theorem getProcessingUnitID_halts_iff :
    (∃ fuel unit, (getProcessingUnitID fuel (some ptr)).2 = some unit) ↔
      ∃ n, recordAt ptr n < wTotalLength ptr → IsProcessingUnit ptr n := by
  rw [exists_comm]
  refine (path ptr).halts_iff.trans (exists_congr fun n => ?_)
  rw [not_and, not_not]

/-- Every offset read is read in the turn of some record. -/
theorem getProcessingUnitID_inside_iff :
    (∀ fuel, ∀ offset ∈ (getProcessingUnitID fuel (some ptr)).1, offset < wTotalLength ptr) ↔
      4 ≤ wTotalLength ptr ∧ ∀ n, Reached ptr n → recordAt ptr n < wTotalLength ptr →
        recordAt ptr n + extent ptr (recordAt ptr n) (inVideoControl ptr n) ≤ wTotalLength ptr := by
  have read (offset : Nat) := (path ptr).emits_iff offset
  constructor
  · intro inside
    have turns (n : Nat) (reached : Reached ptr n) :=
      (emitted_inside_iff ⟨recordAt ptr n, inVideoControl ptr n⟩).1 fun offset member => by
        obtain ⟨fuel, emitted⟩ := (read offset).2 ⟨n, reached, member⟩
        exact inside fuel offset emitted
    exact ⟨(turns 0 fun m none => absurd none (Nat.not_lt_zero m)).1, fun n reached =>
      (turns n reached).2⟩
  · rintro ⟨header, records⟩ fuel offset emitted
    obtain ⟨n, reached, member⟩ := (read offset).1 ⟨fuel, emitted⟩
    exact (emitted_inside_iff ⟨recordAt ptr n, inVideoControl ptr n⟩).2
      ⟨header, records n reached⟩ offset member

variable (ptr) in
/-- The walk terminates and stays inside the declared length exactly if the descriptor is well
formed. -/
theorem getProcessingUnitID_safe_iff :
    ((∃ fuel unit, (getProcessingUnitID fuel (some ptr)).2 = some unit) ∧
        ∀ fuel, ∀ offset ∈ (getProcessingUnitID fuel (some ptr)).1, offset < wTotalLength ptr) ↔
      WellFormed ptr := by
  rw [getProcessingUnitID_halts_iff, getProcessingUnitID_inside_iff]
  constructor
  · rintro ⟨⟨last, ends⟩, header, inside⟩
    refine ⟨header, inside, fun n reached going => ?_⟩
    by_contra stuck
    obtain ⟨other, zero⟩ := not_or.1 stuck
    have zero := not_not.1 zero
    rcases Nat.lt_or_ge last n with earlier | later
    · exact (reached last earlier).2 (ends (reached last earlier).1)
    · obtain ⟨more, rfl⟩ := Nat.exists_eq_add_of_le later
      refine other_stays zero other more (ends ?_)
      rw [recordAt_stays zero]
      exact going
  · intro wf
    refine ⟨?_, wf.header, wf.inside⟩
    by_contra never
    have going (n : Nat) : recordAt ptr n < wTotalLength ptr ∧ ¬ IsProcessingUnit ptr n := by
      by_contra stops
      exact never ⟨n, fun going => not_not.1 fun other => stops ⟨going, other⟩⟩
    have advances (n : Nat) : bLength ptr (recordAt ptr n) ≠ 0 :=
      (wf.advances n (fun m _ => going m) (going n).1).resolve_left (going n).2
    have past := le_recordAt (n := wTotalLength ptr) fun m _ => advances m
    exact absurd (going (wTotalLength ptr)).1 (Nat.not_lt.2 past)

end Walk

/-- A descriptor of 9 bytes all told, with a length of 0 in its first record. -/
def zeroLength (offset : Nat) : UInt8 :=
  if offset = 2 then 9 else 0

/-- A descriptor of 10 bytes, the second record of which is cut off after its length. -/
def cutOff (offset : Nat) : UInt8 :=
  ([9, 2, 10, 0, 1, 1, 0, 0x80, 50, 9] : List UInt8).getD offset 0

theorem getProcessingUnitID_unsafe :
    (¬ ∃ fuel unit, (getProcessingUnitID fuel (some zeroLength)).2 = some unit) ∧
      10 ∈ (getProcessingUnitID 2 (some cutOff)).1 ∧ wTotalLength cutOff = 10 := by
  refine ⟨?_, by decide, by decide⟩
  rw [getProcessingUnitID_halts_iff]
  rintro ⟨n, ends⟩
  have here := @recordAt_stays zeroLength 0 rfl n
  have other := @other_stays zeroLength 0 rfl (by decide) n
  rw [Nat.zero_add] at here other
  exact other (ends (by rw [here]; decide))

end OpenpnpCapture.Mac.UVCCtrl
