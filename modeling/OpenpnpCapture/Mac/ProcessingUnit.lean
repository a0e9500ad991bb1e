/-
# Mac.ProcessingUnit — which processing unit does the walk find?

What `getProcessingUnitID` is for, in the terms of the USB descriptors: a configuration is a chain
of descriptors, and the one looked for is the first class-specific descriptor of subtype 0x05 whose
nearest preceding interface descriptor is that of a VIDEO/CONTROL interface (`IsUnit`).  The same
type and subtype occur in other interfaces, as video streaming frames do.

`Configuration` carries what makes a chain well formed: every descriptor has the length its first
byte says and its type requires, and the lengths add up to `wTotalLength`.  The walk then stands at
the beginning of one descriptor after the other, and its flag says which interface came last
(`turn_descriptor`).
-/
import OpenpnpCapture.Lib.Gather
import OpenpnpCapture.Lib.Run
import OpenpnpCapture.Mac.UvcCtrl

namespace OpenpnpCapture.Mac.UVCCtrl

open OpenpnpCapture.Lib

set_option autoImplicit false

/-! ## Well-formed configurations -/

/-- The bytes a descriptor of its type must have: `IOUSBConfigurationDescriptor` and
`IOUSBInterfaceDescriptor` are of 9 bytes, a class-specific descriptor has a subtype, and one of
subtype 0x05 an id after it. -/
def requiredLength (ptr : Nat → UInt8) : Nat :=
  if bDescriptorType ptr 0 = 0x02 ∨ bDescriptorType ptr 0 = 0x04 then 9
  else if bDescriptorType ptr 0 = 0x24 then if bDescriptorSubtype ptr 0 = 0x05 then 4 else 3
  else 2

structure Descriptor where
  bytes : Bytes
  sized : (bLength (bytes.getD · 0) 0).toNat = bytes.length
  whole : requiredLength (bytes.getD · 0) ≤ bytes.length

namespace Descriptor

/-- The memory from the descriptor on. -/
def byte (d : Descriptor) (offset : Nat) : UInt8 := d.bytes.getD offset 0

def IsInterface (d : Descriptor) : Prop := bDescriptorType d.byte 0 = 0x04

instance (d : Descriptor) : Decidable d.IsInterface :=
  inferInstanceAs (Decidable (_ = _))

end Descriptor

/-- The descriptors one after the other. -/
def concat (records : List Descriptor) : Bytes :=
  records.flatMap Descriptor.bytes

structure Configuration where
  head : Descriptor
  rest : List Descriptor
  isConfiguration : bDescriptorType head.byte 0 = 0x02
  total : wTotalLength head.byte = (concat (head :: rest)).length

def Configuration.records (c : Configuration) : List Descriptor := c.head :: c.rest

/-! ## The descriptor looked for -/

/-- The interface the descriptors after `before` belong to. -/
def nearestInterface (before : List Descriptor) : Option Descriptor :=
  (before.filter (·.IsInterface)).getLast?

def InVideoControl (before : List Descriptor) : Prop :=
  ∃ interface ∈ nearestInterface before, IsVideoControl interface.byte 0

instance (before : List Descriptor) : Decidable (InVideoControl before) :=
  decidable_of_iff
    ((nearestInterface before).any fun interface => IsVideoControl interface.byte 0) <| by
      simp [InVideoControl, Option.any_eq_true]

/-- A descriptor that follows `before` is a processing unit. -/
def IsUnit (before : List Descriptor) (d : Descriptor) : Prop :=
  bDescriptorType d.byte 0 = 0x24 ∧ bDescriptorSubtype d.byte 0 = 0x05 ∧ InVideoControl before

instance (before : List Descriptor) (d : Descriptor) : Decidable (IsUnit before d) :=
  inferInstanceAs (Decidable (_ ∧ _ ∧ _))

/-- No descriptor of a chain is a processing unit. -/
def NoUnit (records : List Descriptor) : Prop :=
  ∀ before d after, records = before ++ d :: after → ¬ IsUnit before d

section Chain

variable {before after records : List Descriptor} {d : Descriptor} {ptr : Nat → UInt8}

theorem nearestInterface_append :
    nearestInterface (before ++ [d]) =
      if d.IsInterface then some d else nearestInterface before := by
  unfold nearestInterface
  rw [List.filter_append]
  by_cases interface : d.IsInterface
  · simp [interface]
  · simp [interface]

theorem inVideoControl_append :
    InVideoControl (before ++ [d]) ↔
      if d.IsInterface then IsVideoControl d.byte 0 else InVideoControl before := by
  unfold InVideoControl
  rw [nearestInterface_append]
  split
  · simp
  · rfl

theorem noUnit_nil : NoUnit [] := by
  intro before d after split
  exact absurd split (by simp)

theorem noUnit_append (none : NoUnit before) (other : ¬ IsUnit before d) :
    NoUnit (before ++ [d]) := by
  intro before' d' after' split
  rcases Run.snoc_eq_append_cons split with ⟨rfl, rfl⟩ | ⟨rest, -, earlier⟩
  · exact other
  · exact none before' d' rest earlier

theorem Descriptor.requiredLength_le (d : Descriptor) : requiredLength d.byte ≤ d.bytes.length :=
  d.whole

theorem Descriptor.bLength_eq (d : Descriptor) : (bLength d.byte 0).toNat = d.bytes.length :=
  d.sized

theorem Descriptor.two_le (d : Descriptor) : 2 ≤ d.bytes.length := by
  apply Nat.le_trans _ d.requiredLength_le
  unfold requiredLength
  split
  · decide
  · split
    · split <;> decide
    · decide

/-- A descriptor in its place in memory. -/
theorem byte_eq (holds : PointsTo ptr (concat (before ++ d :: after))) {offset : Nat}
    (inside : offset < d.bytes.length) : ptr ((concat before).length + offset) = d.byte offset := by
  have whole : concat (before ++ d :: after) = concat before ++ (d.bytes ++ concat after) := by
    rw [concat, List.flatMap_append, List.flatMap_cons]
    rfl
  rw [whole] at holds
  have here := holds ((concat before).length + offset) (by simp only [List.length_append]; omega)
  rw [List.getElem?_append_right (Nat.le_add_right _ _), Nat.add_sub_cancel_left,
    List.getElem?_append_left inside] at here
  rw [Descriptor.byte, List.getD_eq_getElem?_getD, here]
  rfl

/-! ## The fields of a descriptor in its place -/

theorem bLength_at (holds : PointsTo ptr (concat (before ++ d :: after))) :
    (bLength ptr (concat before).length).toNat = d.bytes.length := by
  have first : 0 < d.bytes.length := Nat.lt_of_lt_of_le (by decide) d.two_le
  rw [← d.bLength_eq, bLength, bLength, ← byte_eq holds first, Nat.add_zero]

theorem bDescriptorType_at (holds : PointsTo ptr (concat (before ++ d :: after))) :
    bDescriptorType ptr (concat before).length = bDescriptorType d.byte 0 :=
  byte_eq holds d.two_le

theorem isVideoControl_at (holds : PointsTo ptr (concat (before ++ d :: after)))
    (interface : d.IsInterface) :
    IsVideoControl ptr (concat before).length ↔ IsVideoControl d.byte 0 := by
  have whole := d.requiredLength_le
  rw [requiredLength, if_pos (.inr interface)] at whole
  have field (offset : Nat) (inside : offset < 9) := byte_eq holds (Nat.lt_of_lt_of_le inside whole)
  rw [IsVideoControl, bInterfaceClass, bInterfaceSubClass, bInterfaceProtocol,
    field 5 (by decide), field 6 (by decide), field 7 (by decide)]
  rfl

theorem bDescriptorSubtype_at (holds : PointsTo ptr (concat (before ++ d :: after)))
    (classSpecific : bDescriptorType d.byte 0 = 0x24) :
    bDescriptorSubtype ptr (concat before).length = bDescriptorSubtype d.byte 0 := by
  have whole := d.requiredLength_le
  rw [requiredLength, classSpecific, if_neg (by decide), if_pos rfl] at whole
  apply byte_eq holds
  split at whole <;> omega

theorem bUnitID_at (holds : PointsTo ptr (concat (before ++ d :: after))) (unit : IsUnit before d) :
    bUnitID ptr (concat before).length = bUnitID d.byte 0 := by
  have whole := d.requiredLength_le
  rw [requiredLength, unit.1, if_neg (by decide), if_pos rfl, if_pos unit.2.1] at whole
  exact byte_eq holds whole

/-! ## The walk along the chain -/

/-- Where the walk stands after the descriptors `before`. -/
def cursorAfter (before : List Descriptor) : Cursor :=
  ⟨(concat before).length, InVideoControl before⟩

/-- The turn at a descriptor returns its id if it is a processing unit, and else moves on to the
next one. -/
theorem turn_descriptor (holds : PointsTo ptr (concat (before ++ d :: after)))
    (total : wTotalLength ptr = (concat (before ++ d :: after)).length) :
    (turn ptr (cursorAfter before)).next =
      if IsUnit before d then .done (bUnitID d.byte 0).toUInt32
      else .again (cursorAfter (before ++ [d])) := by
  have going : (cursorAfter before).idx < wTotalLength ptr := by
    have some_bytes := d.two_le
    rw [total, concat, List.flatMap_append, List.flatMap_cons]
    simp only [List.length_append]
    exact Nat.lt_add_of_pos_right (by omega)
  have unit_iff :
      (bDescriptorType ptr (concat before).length = 0x24 ∧ InVideoControl before ∧
        bDescriptorSubtype ptr (concat before).length = 0x05) ↔ IsUnit before d := by
    rw [bDescriptorType_at holds, IsUnit]
    refine and_congr_right fun classSpecific => ?_
    rw [bDescriptorSubtype_at holds classSpecific, and_comm]
  rcases turn_cases going with ⟨found, ran⟩ | ⟨other, fields, ran, -⟩
  · have unit := unit_iff.1 (by simpa only [cursorAfter, decide_eq_true_eq] using found)
    rw [ran, if_pos unit, ← bUnitID_at holds unit]
    rfl
  · have none : ¬ IsUnit before d := fun unit =>
      other (by simpa only [cursorAfter, decide_eq_true_eq] using unit_iff.2 unit)
    have next : (concat (before ++ [d])).length = (concat before).length + d.bytes.length := by
      rw [concat, List.flatMap_append, List.length_append, List.flatMap_singleton]
      rfl
    have flag : (if bDescriptorType d.byte 0 = 0x04 then
          decide (IsVideoControl ptr (concat before).length) else decide (InVideoControl before)) =
        decide (InVideoControl (before ++ [d])) := by
      by_cases interface : bDescriptorType d.byte 0 = 0x04
      · rw [if_pos interface, decide_eq_decide, isVideoControl_at holds interface,
          inVideoControl_append, if_pos (show d.IsInterface from interface)]
      · rw [if_neg interface, decide_eq_decide, inVideoControl_append,
          if_neg (show ¬ d.IsInterface from interface)]
    rw [ran, if_neg none, cursorAfter, cursorAfter, next, bLength_at holds,
      bDescriptorType_at holds, ← flag]

/-- From anywhere in the chain the walk returns the first processing unit still to come. -/
theorem run_chain (holds : PointsTo ptr (concat records))
    (total : wTotalLength ptr = (concat records).length) (split : records = before ++ after)
    (none : NoUnit before) {fuel : Nat} (enough : after.length < fuel) :
    (∃ earlier unit later, records = earlier ++ unit :: later ∧ NoUnit earlier ∧
        IsUnit earlier unit ∧
          (Loop.run (turn ptr) fuel (cursorAfter before)).2 = some (bUnitID unit.byte 0).toUInt32) ∨
      NoUnit records ∧ (Loop.run (turn ptr) fuel (cursorAfter before)).2 = some 0 := by
  induction after generalizing before fuel with
  | nil =>
      obtain ⟨fuel, rfl⟩ := Nat.exists_eq_succ_of_ne_zero (Nat.ne_of_gt enough)
      rw [List.append_nil] at split
      subst split
      have past : (turn ptr (cursorAfter records)).next = .done 0 := by
        simp [turn, cursorAfter, total]
      exact .inr ⟨none, by rw [Loop.run_done past]⟩
  | cons d after ih =>
      obtain ⟨fuel, rfl⟩ := Nat.exists_eq_succ_of_ne_zero (Nat.ne_of_gt (Nat.zero_lt_of_lt enough))
      have step := turn_descriptor (split ▸ holds) (split ▸ total)
      by_cases unit : IsUnit before d
      · rw [if_pos unit] at step
        exact .inl ⟨before, d, after, split, none, unit, by rw [Loop.run_done step]⟩
      · rw [if_neg unit] at step
        rw [Loop.run_again step]
        apply ih (split.trans (List.append_cons before d after)) (noUnit_append none unit)
        exact Nat.lt_of_succ_lt_succ enough

end Chain

section Result

variable (c : Configuration) {ptr : Nat → UInt8}

theorem Configuration.wTotalLength_at (holds : PointsTo ptr (concat c.records)) :
    wTotalLength ptr = (concat c.records).length := by
  have whole := c.head.requiredLength_le
  rw [requiredLength, if_pos (.inl c.isConfiguration)] at whole
  have field (offset : Nat) (inside : offset < 9) : ptr offset = c.head.byte offset := by
    rw [← @byte_eq [] c.rest _ _ holds _ (Nat.lt_of_lt_of_le inside whole)]
    exact congrArg ptr (Nat.zero_add offset).symm
  rw [wTotalLength, field 2 (by decide), field 3 (by decide)]
  exact c.total

/-- The walk ends after a turn for each descriptor and one more, with the id of the first processing
unit of a VIDEO/CONTROL interface, or with 0 if the chain has none. -/
theorem getProcessingUnitID_finds_first (holds : PointsTo ptr (concat c.records)) (fuel : Nat)
    (enough : c.records.length < fuel) :
    (∃ before unit after, c.records = before ++ unit :: after ∧ NoUnit before ∧
        IsUnit before unit ∧
          (getProcessingUnitID fuel (some ptr)).2 = some (bUnitID unit.byte 0).toUInt32) ∨
      NoUnit c.records ∧ (getProcessingUnitID fuel (some ptr)).2 = some 0 :=
  @run_chain [] c.records c.records ptr holds (c.wTotalLength_at holds) rfl noUnit_nil fuel enough

end Result

/-- A configuration with a frame descriptor of a VIDEO/STREAMING interface, of subtype 0x05, before
the processing unit. -/
def streamingFirst : Configuration where
  head := ⟨[9, 2, 35, 0, 2, 1, 0, 0x80, 50], by decide, by decide⟩
  rest := [⟨[9, 4, 1, 0, 0, 14, 2, 0, 0], by decide, by decide⟩,
    ⟨[4, 0x24, 5, 7], by decide, by decide⟩,
    ⟨[9, 4, 0, 0, 0, 14, 1, 0, 0], by decide, by decide⟩,
    ⟨[4, 0x24, 5, 2], by decide, by decide⟩]
  isConfiguration := by decide
  total := by decide

theorem getProcessingUnitID_finds_first_streamingFirst :
    let ptr (offset : Nat) : UInt8 := (concat streamingFirst.records).getD offset 0
    (getProcessingUnitID 6 (some ptr)).2 = some 2 ∧
      ((∃ before unit after, streamingFirst.records = before ++ unit :: after ∧ NoUnit before ∧
          IsUnit before unit ∧
            (getProcessingUnitID 6 (some ptr)).2 = some (bUnitID unit.byte 0).toUInt32) ∨
        NoUnit streamingFirst.records ∧ (getProcessingUnitID 6 (some ptr)).2 = some 0) := by
  intro ptr
  exact ⟨by decide, getProcessingUnitID_finds_first streamingFirst (by decide) 6 (by decide)⟩

end OpenpnpCapture.Mac.UVCCtrl
