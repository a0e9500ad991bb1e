/-
# Linux.BufferMappings — the mapped buffers of the capture thread

The capture thread with the `PlatformStreamHelper` it owns.  `createAndMapBuffers` maps the buffers
of the driver one by one and stops at the first failure; the helper's destructor, which runs
wherever the thread returns, turns streaming off, whatever the driver answers, and passes every
entry of `m_buffers` to `munmap` with its length.  An entry is `(nullptr, 0)` until its turn comes,
and has `MAP_FAILED` for a start when `mmap` failed.

What the thread does with mappings is a list of `MappingDeed`s, read by the leases of the bytes:
`mmap` acquires each byte from the address it returns on, `munmap` releases as many as it is told,
so a wrong start or a wrong length would leave bytes held or break their leases.  (Both round the
length up to whole pages, in the same way; the bytes of a mapping stand for its pages.)  The kernel
is relied on for what `granted` says: `mmap` refuses to map no byte, and returns no byte that is
mapped already.
-/
import OpenpnpCapture.Lib.Lease
import OpenpnpCapture.Linux.CaptureThread

namespace OpenpnpCapture.Linux

open OpenpnpCapture.Lib OpenpnpCapture.Lib.Lease OpenpnpCapture.Common

set_option autoImplicit false

/-- A `void*` in `m_buffers`. -/
inductive Start
  | null
  | MAP_FAILED
  | mapped (address : Nat)
deriving DecidableEq, Repr

structure BufferInfo where
  start : Start
  length : Nat
deriving DecidableEq, Repr

/-- The bytes `munmap` of an entry unmaps.  `MAP_FAILED` is no address of a page, and the kernel
refuses it. -/
def BufferInfo.bytes (info : BufferInfo) : List Nat :=
  match info.start with
  | .null => List.range' 0 info.length
  | .mapped address => List.range' address info.length
  | .MAP_FAILED => []

/-- How a call of the thread ends: `length` is what `VIDIOC_QUERYBUF` left in `buf.length`,
`address` what a successful `mmap` returned, `streamOff` whether `VIDIOC_STREAMOFF` succeeds should
the thread return. -/
structure Returned where
  m_quitThread : Bool
  answer : Answer
  length : UInt32
  address : Nat
  streamOff : Bool

inductive MappingDeed
  /-- `mmap` was called for this many bytes, and returned this start. -/
  | mmap (info : BufferInfo)
  /-- `threadSubmitBuffer` was called with this pointer. -/
  | submitted (ptr : Start)
  | streamOff (ok : Bool)
  | munmap (info : BufferInfo)
deriving DecidableEq, Repr

/-- The capture thread and its helper. -/
structure Helper where
  thread : Thread
  m_buffers : List BufferInfo
deriving DecidableEq, Repr

namespace Helper

def start : Helper := ⟨Thread.start, []⟩

/-- An entry of a vector that was just resized. -/
def unset : BufferInfo := ⟨.null, 0⟩

def getBufferPointer (m_buffers : List BufferInfo) (index : UInt32) : Start :=
  (m_buffers[index.toNat]?).elim .null BufferInfo.start

/-- What a step does before the thread goes on or returns. -/
def effect (s : Helper) (r : Returned) : List MappingDeed × List BufferInfo :=
  match s.thread.position, r.answer with
  | .requestBuffers, .reqbufs (some count) =>
      ([], if count < 2 then s.m_buffers else List.replicate count.toNat unset)
  | .queryBuffer b, .querybuf true =>
      ([], s.m_buffers.modify b fun info => { info with length := r.length.toNat })
  | .mapBuffer b, .mmap ok =>
      let m_buffers := s.m_buffers.modify b fun info =>
        { info with start := if ok then .mapped r.address else .MAP_FAILED }
      (m_buffers[b]?.toList.map .mmap, m_buffers)
  | .submitBuffer buf, .submitted _ =>
      ([.submitted (getBufferPointer s.m_buffers buf.index)], s.m_buffers)
  | _, _ => ([], s.m_buffers)

/-- The destructor.  Neither answer is looked at. -/
def destroy (m_buffers : List BufferInfo) (streamOff : Bool) : List MappingDeed :=
  if m_buffers.length ≠ 0 then .streamOff streamOff :: m_buffers.map .munmap else []

/-- The entries `mmap` has been called for. -/
def entered (m_buffers : List BufferInfo) : List BufferInfo :=
  m_buffers.filter fun info => info.start ≠ .null

/-- The bytes the entries hold. -/
def held (m_buffers : List BufferInfo) : List Nat := (entered m_buffers).flatMap BufferInfo.bytes

/-- What `mmap` may return. -/
def granted (m_buffers : List BufferInfo) : MappingDeed → Bool
  | .mmap info =>
      info.start = .MAP_FAILED || (info.length ≠ 0 && info.bytes.all fun byte => byte ∉ held m_buffers)
  | .submitted _ | .streamOff _ | .munmap _ => true

/-- The helper is destroyed when the thread returns. -/
def step (s : Helper) (r : Returned) : Except Blocked (List MappingDeed × Helper) :=
  match s.thread.step r.m_quitThread r.answer with
  | none => .error .blocked
  | some thread =>
      if ¬ (s.effect r).1.all (granted s.m_buffers) then .error .blocked
      else if thread.position = .returned then
        .ok ((s.effect r).1 ++ destroy (s.effect r).2 r.streamOff, ⟨thread, []⟩)
      else .ok ((s.effect r).1, ⟨thread, (s.effect r).2⟩)

/-! ## The entries at each position -/

/-- `createAndMapBuffers` has returned true, and the thread goes on. -/
def created : Position → Bool
  | .queueBuffer _ | .streamOn | .loopCondition | .waitFrame | .dequeueBuffer | .submitBuffer _
  | .requeueBuffer _ => true
  | .requestBuffers | .queryBuffer _ | .mapBuffer _ | .returned => false

theorem created_proceed {t : Thread} {ok : Bool} {position : Position}
    (onward : created position = true) :
    (t.proceed ok position).position = .returned ∨ created (t.proceed ok position).position = true := by
  cases ok with
  | true => exact Or.inr onward
  | false => exact Or.inl rfl

theorem created_step {m_quitThread : Bool} {t next : Thread} {a : Answer}
    (stepped : t.step m_quitThread a = some next) (all : created t.position = true) :
    next.position = .returned ∨ created next.position = true := by
  obtain ⟨position, buffers⟩ := t
  cases position with
  | queueBuffer i =>
      simp only [Thread.step] at stepped
      split at stepped
      · cases stepped
        exact created_proceed (by split <;> rfl)
      · cases stepped
  | streamOn | loopCondition | requeueBuffer buf =>
      simp only [Thread.step] at stepped
      split at stepped
      · cases stepped
        exact created_proceed rfl
      · cases stepped
  | waitFrame =>
      simp only [Thread.step] at stepped
      split at stepped
      all_goals cases stepped
      · exact Or.inr rfl
      · exact Or.inl rfl
      · exact Or.inl rfl
      · exact Or.inr rfl
  | dequeueBuffer =>
      simp only [Thread.step] at stepped
      split at stepped
      all_goals cases stepped
      · exact Or.inr rfl
      · exact Or.inl rfl
      · exact Or.inr rfl
  | submitBuffer buf =>
      simp only [Thread.step] at stepped
      split at stepped
      all_goals cases stepped
      exact Or.inr rfl
  | _ => cases all

/-- A thread that has returned takes no step. -/
theorem going_of_step {m_quitThread : Bool} {t next : Thread} {a : Answer}
    (stepped : t.step m_quitThread a = some next) : t.position ≠ .returned := by
  obtain ⟨position, buffers⟩ := t
  rintro rfl
  cases stepped

/-- The entry holds a mapping. -/
def Maps (info : BufferInfo) : Prop := 0 < info.length ∧ ∃ address, info.start = .mapped address

/-- The entries, by the thread's position. -/
def Shape (s : Helper) : Prop :=
  match s.thread.position with
  | .requestBuffers | .returned => s.m_buffers = []
  | .queryBuffer b =>
      ∃ done rest, s.m_buffers = done ++ unset :: List.replicate rest unset ∧ done.length = b ∧
        (∀ info ∈ done, Maps info) ∧ b + 1 + rest = s.thread.buffers
  | .mapBuffer b =>
      ∃ done length rest, s.m_buffers = done ++ ⟨.null, length⟩ :: List.replicate rest unset ∧
        done.length = b ∧ (∀ info ∈ done, Maps info) ∧ b + 1 + rest = s.thread.buffers
  | _ => ∀ info ∈ s.m_buffers, Maps info

theorem modify_middle {α : Type} (f : α → α) (done : List α) (a : α) (rest : List α) :
    (done ++ a :: rest).modify done.length f = done ++ f a :: rest := by
  induction done with
  | nil => rfl
  | cons b done ih => simpa using ih

theorem getElem?_middle {α : Type} (done : List α) (a : α) (rest : List α) :
    (done ++ a :: rest)[done.length]? = some a := by
  rw [List.getElem?_append_right (Nat.le_refl _), Nat.sub_self]
  rfl

theorem entered_append (first second : List BufferInfo) :
    entered (first ++ second) = entered first ++ entered second :=
  List.filter_append first second

/-- Entries that are unset hold nothing. -/
theorem entered_unset (n : Nat) : entered (List.replicate n unset) = [] := by
  refine List.filter_eq_nil_iff.2 fun info member => ?_
  obtain rfl := List.eq_of_mem_replicate member
  decide

theorem entered_middle (done : List BufferInfo) (info : BufferInfo) (n : Nat) :
    entered (done ++ info :: List.replicate n unset) = entered done ++ entered [info] := by
  rw [entered_append, ← List.singleton_append, entered_append, entered_unset, List.append_nil]

/-- `mmap` was called for one more entry. -/
theorem entered_set (done : List BufferInfo) (length n : Nat) {start : Start}
    (set : start ≠ .null) :
    entered (done ++ ⟨start, length⟩ :: List.replicate n unset) =
      entered (done ++ ⟨.null, length⟩ :: List.replicate n unset) ++ [⟨start, length⟩] := by
  have called : entered [⟨start, length⟩] = [⟨start, length⟩] :=
    List.filter_eq_self.2 fun info member => by
      obtain rfl := List.mem_singleton.1 member
      exact decide_eq_true set
  rw [entered_middle, entered_middle, called, List.append_assoc]
  rfl

theorem held_of_entered {m_buffers m_buffers' : List BufferInfo} {info : BufferInfo}
    (added : entered m_buffers' = entered m_buffers ++ [info]) :
    held m_buffers' = held m_buffers ++ info.bytes := by
  rw [held, added, List.flatMap_append, List.flatMap_singleton]
  rfl

theorem nodup_bytes (info : BufferInfo) : info.bytes.Nodup := by
  obtain ⟨_ | _ | address, length⟩ := info
  · exact List.nodup_range'
  · exact List.nodup_nil
  · exact List.nodup_range'

theorem granted_mapped {m_buffers : List BufferInfo} {address length : Nat}
    (grant : granted m_buffers (.mmap ⟨.mapped address, length⟩) = true) :
    0 < length ∧ ∀ byte ∈ (BufferInfo.mk (.mapped address) length).bytes, byte ∉ held m_buffers := by
  simp only [granted, Bool.or_eq_true, Bool.and_eq_true, decide_eq_true_eq, List.all_eq_true] at grant
  obtain failed | ⟨positive, fresh⟩ := grant
  · cases failed
  · exact ⟨Nat.pos_of_ne_zero positive, fresh⟩

/-! ## The ledger -/

/-- What the deeds say about bytes. -/
def mappings (deeds : List MappingDeed) : List (Event Nat) :=
  deeds.flatMap fun
    | .mmap info => info.bytes.map .acquire
    | .munmap info => info.bytes.map .release
    | .submitted _ | .streamOff _ => []

/-- The calls of `mmap`, with their answers. -/
def mmaps (deeds : List MappingDeed) : List BufferInfo :=
  deeds.filterMap fun
    | .mmap info => some info
    | .munmap _ | .submitted _ | .streamOff _ => none

/-- The calls of `munmap`. -/
def munmaps (deeds : List MappingDeed) : List BufferInfo :=
  deeds.filterMap fun
    | .munmap info => some info
    | .mmap _ | .submitted _ | .streamOff _ => none

theorem mappings_append (first second : List MappingDeed) :
    mappings (first ++ second) = mappings first ++ mappings second :=
  List.flatMap_append

theorem mmaps_append (first second : List MappingDeed) :
    mmaps (first ++ second) = mmaps first ++ mmaps second :=
  List.filterMap_append

theorem munmaps_append (first second : List MappingDeed) :
    munmaps (first ++ second) = munmaps first ++ munmaps second :=
  List.filterMap_append

section Destructor

variable (m_buffers : List BufferInfo) (streamOff : Bool)

end Destructor

/-- Every frame submitted lay at the start of a mapping all of whose bytes were mapped then, or the
pointer was null. -/
def SubmitsHeld (deeds : List MappingDeed) : Prop :=
  ∀ before ptr after, deeds = before ++ .submitted ptr :: after →
    ptr = .null ∨ ∃ address length, ptr = .mapped address ∧ 0 < length ∧
      .mmap ⟨.mapped address, length⟩ ∈ before ∧
      ∀ byte ∈ List.range' address length, lease byte .free (mappings before) = .held

/-- The deeds while the helper lives: the entries hold the bytes that are out. -/
structure Kept (deeds : List MappingDeed) (m_buffers : List BufferInfo) : Prop where
  out : Out (mappings deeds) (held m_buffers)
  distinct : (held m_buffers).Nodup
  calls : mmaps deeds = entered m_buffers
  none_unmapped : munmaps deeds = []
  submits : SubmitsHeld deeds

/-- After a step of the thread that ends at `thread`, before a destructor runs. -/
structure After (deeds : List MappingDeed) (thread : Thread) (m_buffers : List BufferInfo) :
    Prop where
  kept : Kept deeds m_buffers
  shape : thread.position ≠ .returned → Shape ⟨thread, m_buffers⟩
  nulls : thread.position = .returned → ∀ info ∈ m_buffers, info.start = .null → info.length = 0

section Step

variable {deeds : List MappingDeed} {m_buffers m_buffers' : List BufferInfo} {s : Helper}
variable {thread : Thread} {r : Returned}

theorem SubmitsHeld.snoc (submits : SubmitsHeld deeds) {deed : MappingDeed}
    (last : ∀ ptr, deed = .submitted ptr →
      ptr = .null ∨ ∃ address length, ptr = .mapped address ∧ 0 < length ∧
        .mmap ⟨.mapped address, length⟩ ∈ deeds ∧
        ∀ byte ∈ List.range' address length, lease byte .free (mappings deeds) = .held) :
    SubmitsHeld (deeds ++ [deed]) := by
  intro before ptr after split
  rcases Run.snoc_eq_append_cons split with ⟨rfl, same⟩ | ⟨rest, -, earlier⟩
  · exact last ptr same.symm
  · exact submits before ptr rest earlier

/-- The entries change, what `mmap` returned does not. -/
theorem Kept.sameEntered (kept : Kept deeds m_buffers)
    (same : entered m_buffers' = entered m_buffers) : Kept (deeds ++ []) m_buffers' := by
  have bytes : held m_buffers' = held m_buffers := congrArg (List.flatMap BufferInfo.bytes) same
  rw [List.append_nil]
  exact ⟨bytes ▸ kept.out, bytes ▸ kept.distinct, same ▸ kept.calls, kept.none_unmapped,
    kept.submits⟩

theorem Kept.mmap (kept : Kept deeds m_buffers) {info : BufferInfo}
    (fresh : ∀ byte ∈ info.bytes, byte ∉ held m_buffers)
    (added : entered m_buffers' = entered m_buffers ++ [info]) :
    Kept (deeds ++ [.mmap info]) m_buffers' := by
  have bytes : held m_buffers' = held m_buffers ++ info.bytes := held_of_entered added
  have distinct : (held m_buffers ++ info.bytes).Nodup :=
    List.nodup_append.2 ⟨kept.distinct, nodup_bytes info, fun first earlier byte new same =>
      fresh byte new (same ▸ earlier)⟩
  have events : mappings (deeds ++ [.mmap info]) = mappings deeds ++ info.bytes.map .acquire := by
    rw [mappings_append]
    exact congrArg (mappings deeds ++ ·) (List.append_nil _)
  refine ⟨?_, bytes ▸ distinct, ?_, ?_, kept.submits.snoc fun ptr impossible => by cases impossible⟩
  · rw [events, bytes]
    exact kept.out.acquireAll distinct
  · rw [mmaps_append, kept.calls, added]
    rfl
  · rw [munmaps_append, kept.none_unmapped]
    rfl

/-- A buffer is passed on: one of the entries, or the null pointer. -/
theorem Kept.submit (kept : Kept deeds m_buffers) (maps : ∀ info ∈ m_buffers, Maps info)
    (index : UInt32) :
    Kept (deeds ++ [.submitted (getBufferPointer m_buffers index)]) m_buffers := by
  have events : ∀ ptr, mappings (deeds ++ [.submitted ptr]) = mappings deeds := fun ptr => by
    rw [mappings_append]
    exact List.append_nil _
  refine ⟨?_, kept.distinct, ?_, ?_, kept.submits.snoc fun ptr same => ?_⟩
  · rw [events]
    exact kept.out
  · rw [mmaps_append, kept.calls]
    exact List.append_nil _
  · rw [munmaps_append, kept.none_unmapped]
    rfl
  · obtain rfl := MappingDeed.submitted.inj same
    unfold getBufferPointer
    cases entry : m_buffers[index.toNat]? with
    | none => exact Or.inl rfl
    | some info =>
        have member := List.mem_of_getElem? entry
        obtain ⟨positive, address, mapped⟩ := maps info member
        obtain ⟨_, length⟩ := info
        obtain rfl : _ = Start.mapped address := mapped
        have listed : ⟨.mapped address, length⟩ ∈ entered m_buffers :=
          List.mem_filter.2 ⟨member, rfl⟩
        refine Or.inr ⟨address, length, rfl, positive, ?_, fun byte inside => ?_⟩
        · rw [← kept.calls] at listed
          obtain ⟨deed, done, same⟩ := List.mem_filterMap.1 listed
          cases deed <;> cases same
          exact done
        · have out : byte ∈ held m_buffers := List.mem_flatMap.2 ⟨_, listed, inside⟩
          rw [kept.out byte, if_pos out]

theorem nulls_of_maps (maps : ∀ info ∈ m_buffers, Maps info) :
    ∀ info ∈ m_buffers, info.start = .null → info.length = 0 := by
  intro info member null
  obtain ⟨-, address, mapped⟩ := maps info member
  rw [null] at mapped
  cases mapped

theorem nulls_unset (n : Nat) : ∀ info ∈ List.replicate n unset, info.length = 0 := by
  intro info member
  obtain rfl := List.eq_of_mem_replicate member
  rfl

theorem shape_created (maps : ∀ info ∈ m_buffers, Maps info) (all : created thread.position = true) :
    Shape ⟨thread, m_buffers⟩ := by
  obtain ⟨position, buffers⟩ := thread
  cases position <;> first | exact maps | cases all

theorem maps_of_created (shape : s.Shape) (all : created s.thread.position = true) :
    ∀ info ∈ s.m_buffers, Maps info := by
  obtain ⟨⟨position, buffers⟩, m_buffers⟩ := s
  cases position <;> first | exact shape | cases all

/-- Once the buffers are created the entries stay, and at most one of them is passed on. -/
theorem effect_created (all : created s.thread.position = true) :
    s.effect r = ([], s.m_buffers) ∨
      ∃ index, s.effect r = ([.submitted (getBufferPointer s.m_buffers index)], s.m_buffers) := by
  obtain ⟨⟨position, buffers⟩, m_buffers⟩ := s
  obtain ⟨m_quitThread, answer, length, address, streamOff⟩ := r
  cases position with
  | submitBuffer buf =>
      cases answer with
      | submitted submission => exact Or.inr ⟨buf.index, rfl⟩
      | _ => exact Or.inl rfl
  | queueBuffer | streamOn | loopCondition | waitFrame | dequeueBuffer | requeueBuffer =>
      exact Or.inl rfl
  | _ => cases all

theorem after_created (kept : Kept deeds s.m_buffers) (shape : s.Shape)
    (all : created s.thread.position = true)
    (stepped : s.thread.step r.m_quitThread r.answer = some thread) :
    After (deeds ++ (s.effect r).1) thread (s.effect r).2 := by
  have maps := maps_of_created shape all
  have onward : thread.position ≠ .returned → Shape ⟨thread, s.m_buffers⟩ := fun going =>
    shape_created maps ((created_step stepped all).resolve_left going)
  rcases effect_created all (r := r) with same | ⟨index, passed⟩
  · rw [same]
    exact ⟨kept.sameEntered rfl, onward, fun _ => nulls_of_maps maps⟩
  · rw [passed]
    exact ⟨kept.submit maps index, onward, fun _ => nulls_of_maps maps⟩

theorem after_requestBuffers {buffers : Nat} (kept : Kept deeds [])
    (stepped : (Thread.mk .requestBuffers buffers).step r.m_quitThread r.answer = some thread) :
    After (deeds ++ (effect ⟨⟨.requestBuffers, buffers⟩, []⟩ r).1) thread
      (effect ⟨⟨.requestBuffers, buffers⟩, []⟩ r).2 := by
  obtain ⟨m_quitThread, answer, length, address, streamOff⟩ := r
  have returned : ∀ buffers', After (deeds ++ []) ⟨.returned, buffers'⟩ [] := fun _ =>
    ⟨kept.sameEntered rfl, fun going => absurd rfl going, fun _ _ => nofun⟩
  simp only [Thread.step] at stepped
  split at stepped
  · cases stepped
    exact returned _
  · rename_i count
    split at stepped
    · rename_i few
      cases stepped
      simp only [effect, if_pos few]
      exact returned _
    · rename_i enough
      cases stepped
      simp only [effect, if_neg enough]
      refine ⟨kept.sameEntered (entered_unset _), fun _ => ?_, nofun⟩
      have some_ : 2 ≤ count.toNat := UInt32.le_iff_toNat_le.1 (UInt32.not_lt.1 enough)
      have pred : count.toNat - 1 + 1 = count.toNat := by omega
      refine ⟨[], count.toNat - 1, ?_, rfl, nofun, ?_⟩
      · rw [List.nil_append, ← List.replicate_succ, pred]
      · show 0 + 1 + (count.toNat - 1) = count.toNat
        omega
  · cases stepped

section Middle

variable {done : List BufferInfo} {rest buffers : Nat} (maps : ∀ info ∈ done, Maps info)
  (total : done.length + 1 + rest = buffers)

include maps total

theorem after_queryBuffer (kept : Kept deeds (done ++ unset :: List.replicate rest unset))
    (stepped : (Thread.mk (.queryBuffer done.length) buffers).step r.m_quitThread r.answer =
      some thread) :
    let s : Helper :=
      ⟨⟨.queryBuffer done.length, buffers⟩, done ++ unset :: List.replicate rest unset⟩
    After (deeds ++ (s.effect r).1) thread (s.effect r).2 := by
  obtain ⟨m_quitThread, answer, length, address, streamOff⟩ := r
  intro s
  simp only [Thread.step] at stepped
  split at stepped
  · rename_i ok
    cases stepped
    cases ok with
    | true =>
        simp only [s, effect, modify_middle]
        refine ⟨kept.sameEntered ?_, fun _ => ⟨done, _, rest, rfl, rfl, maps, total⟩, nofun⟩
        rw [entered_middle, entered_middle]
        rfl
    | false =>
        refine ⟨kept.sameEntered rfl, fun going => absurd rfl going, fun _ info member null => ?_⟩
        rcases List.mem_append.1 member with mapped | later
        · exact nulls_of_maps maps info mapped null
        · exact nulls_unset (rest + 1) info later
  · cases stepped

/-- After a mapping was made the thread asks for the next one, or has them all. -/
theorem shape_mapped {info : BufferInfo} (mapped : Maps info) :
    Shape ⟨⟨if done.length + 1 < buffers then .queryBuffer (done.length + 1) else .queueBuffer 0,
      buffers⟩, done ++ info :: List.replicate rest unset⟩ := by
  have all : ∀ entry ∈ done ++ [info], Maps entry := by
    intro entry member
    rcases List.mem_append.1 member with earlier | last
    · exact maps entry earlier
    · exact List.mem_singleton.1 last ▸ mapped
  subst total
  cases rest with
  | zero =>
      rw [if_neg (Nat.lt_irrefl _)]
      exact all
  | succ rest =>
      rw [if_pos (by omega)]
      refine ⟨done ++ [info], rest, ?_, List.length_append, all, ?_⟩
      · rw [List.append_assoc, List.replicate_succ]
        rfl
      · show done.length + 1 + 1 + rest = done.length + 1 + (rest + 1)
        omega

theorem after_mapBuffer {size : Nat}
    (kept : Kept deeds (done ++ ⟨.null, size⟩ :: List.replicate rest unset))
    (stepped : (Thread.mk (.mapBuffer done.length) buffers).step r.m_quitThread r.answer =
      some thread)
    (grants : ∀ deed ∈ (effect ⟨⟨.mapBuffer done.length, buffers⟩,
      done ++ ⟨.null, size⟩ :: List.replicate rest unset⟩ r).1,
        granted (done ++ ⟨.null, size⟩ :: List.replicate rest unset) deed = true) :
    let s : Helper :=
      ⟨⟨.mapBuffer done.length, buffers⟩, done ++ ⟨.null, size⟩ :: List.replicate rest unset⟩
    After (deeds ++ (s.effect r).1) thread (s.effect r).2 := by
  obtain ⟨m_quitThread, answer, length, address, streamOff⟩ := r
  intro s
  simp only [Thread.step] at stepped
  split at stepped
  · rename_i ok
    cases stepped
    simp only [s, effect, modify_middle, getElem?_middle, Option.toList_some, List.map_cons,
      List.map_nil] at grants ⊢
    have grant := grants _ List.mem_cons_self
    cases ok with
    | true =>
        obtain ⟨positive, fresh⟩ := granted_mapped grant
        refine ⟨kept.mmap fresh (entered_set done size rest nofun),
          fun _ => shape_mapped maps total ⟨positive, address, rfl⟩, fun impossible => ?_⟩
        simp only [Thread.proceed, Thread.goto, if_true] at impossible
        split at impossible <;> cases impossible
    | false =>
        refine ⟨kept.mmap (fun _ => nofun) (entered_set done size rest nofun),
          fun going => absurd rfl going, fun _ info member null => ?_⟩
        rcases List.mem_append.1 member with earlier | later
        · exact nulls_of_maps maps info earlier null
        · rcases List.mem_cons.1 later with rfl | later
          · cases null
          · exact nulls_unset rest info later
  · cases stepped

end Middle

/-- **One step.**  The entries the helper is left with hold the mappings that are out. -/
theorem after_effect (kept : Kept deeds s.m_buffers) (shape : s.Shape)
    (stepped : s.thread.step r.m_quitThread r.answer = some thread)
    (grants : ∀ deed ∈ (s.effect r).1, granted s.m_buffers deed = true) :
    After (deeds ++ (s.effect r).1) thread (s.effect r).2 := by
  obtain ⟨⟨position, buffers⟩, m_buffers⟩ := s
  cases position with
  | requestBuffers =>
      obtain rfl : m_buffers = [] := shape
      exact after_requestBuffers kept stepped
  | queryBuffer b =>
      obtain ⟨done, rest, rfl, rfl, maps, total⟩ := shape
      exact after_queryBuffer maps total kept stepped
  | mapBuffer b =>
      obtain ⟨done, size, rest, rfl, rfl, maps, total⟩ := shape
      exact after_mapBuffer maps total kept stepped grants
  | returned => cases stepped
  | _ => exact after_created kept shape rfl stepped

end Step

/-! ## Over a run -/

/-- The deeds up to now: those of a living helper, and after them those of its destructor. -/
def Recorded (s : Helper) (deeds : List MappingDeed) : Prop :=
  if s.thread.position = .returned then
    ∃ early m_buffers streamOff, deeds = early ++ destroy m_buffers streamOff ∧
      Kept early m_buffers ∧ ∀ info ∈ m_buffers, info.start = .null → info.length = 0
  else Kept deeds s.m_buffers ∧ s.Shape

abbrev HelperEntry := Run.Entry Helper Returned (List MappingDeed)

/-- What the steps so far did. -/
def deeds (past : List HelperEntry) : List MappingDeed :=
  past.flatMap Run.Entry.output

section Recorded

variable {s t : Helper} {before done : List MappingDeed} {r : Returned}

theorem recorded_step (recorded : s.Recorded before) (ran : s.step r = .ok (done, t)) :
    t.Recorded (before ++ done) := by
  simp only [step] at ran
  split at ran
  · cases ran
  · rename_i thread stepped
    have going := going_of_step stepped
    rw [Recorded, if_neg going] at recorded
    split at ran
    · cases ran
    · rename_i grants
      have after := after_effect recorded.1 recorded.2 stepped (List.all_eq_true.1 (not_not.1 grants))
      split at ran
      · rename_i returned
        cases ran
        rw [Recorded, if_pos returned]
        exact ⟨_, _, _, (List.append_assoc ..).symm, after.kept, after.nulls returned⟩
      · rename_i onward
        cases ran
        rw [Recorded, if_neg onward]
        exact ⟨after.kept, after.shape onward⟩

/-- Where a deed of a list stands that ends with the destructor's: before them, or among them. -/
theorem split_destroy {early first after : List MappingDeed} {m_buffers : List BufferInfo}
    {streamOff : Bool} {deed : MappingDeed}
    (split : early ++ destroy m_buffers streamOff = first ++ deed :: after) :
    (∃ rest, early = first ++ deed :: rest) ∨
      ∃ done, first = early ++ done ∧ destroy m_buffers streamOff = done ++ deed :: after := by
  rcases List.append_eq_append_iff.1 split with ⟨done, same, ends⟩ | ⟨rest, same, ends⟩
  · exact Or.inr ⟨done, same, ends⟩
  · cases rest with
    | nil => exact Or.inr ⟨[], by simpa using same.symm, by simpa using ends.symm⟩
    | cons next rest =>
        obtain ⟨rfl, -⟩ := List.cons.inj ends
        exact Or.inl ⟨rest, same⟩

theorem mem_destroy {m_buffers : List BufferInfo} {streamOff : Bool} {deed : MappingDeed}
    (member : deed ∈ destroy m_buffers streamOff) :
    deed = .streamOff streamOff ∨ ∃ info ∈ m_buffers, deed = .munmap info := by
  unfold destroy at member
  split at member
  · rcases List.mem_cons.1 member with rfl | entry
    · exact Or.inl rfl
    · obtain ⟨info, listed, rfl⟩ := List.mem_map.1 entry
      exact Or.inr ⟨info, listed, rfl⟩
  · cases member

theorem Recorded.submits (recorded : s.Recorded before) : SubmitsHeld before := by
  unfold Recorded at recorded
  split at recorded
  · obtain ⟨early, m_buffers, streamOff, rfl, kept, -⟩ := recorded
    intro first ptr after split
    rcases split_destroy split with ⟨rest, earlier⟩ | ⟨done, -, ends⟩
    · exact kept.submits first ptr rest earlier
    · have member : .submitted ptr ∈ destroy m_buffers streamOff := by
        rw [ends]
        exact List.mem_append_right _ List.mem_cons_self
      rcases mem_destroy member with impossible | ⟨info, -, impossible⟩ <;> cases impossible
  · exact recorded.1.submits

end Recorded

/-- The third `mmap` of four fails, and so does `VIDIOC_STREAMOFF`. -/
example :
    deeds (Run.trace step start
      [⟨false, .reqbufs (some 4), 0, 0, true⟩,
        ⟨false, .querybuf true, 4, 0, true⟩, ⟨false, .mmap true, 0, 4096, true⟩,
        ⟨false, .querybuf true, 4, 0, true⟩, ⟨false, .mmap true, 0, 8192, true⟩,
        ⟨false, .querybuf true, 4, 0, true⟩, ⟨false, .mmap false, 0, 0, false⟩]) =
      [.mmap ⟨.mapped 4096, 4⟩, .mmap ⟨.mapped 8192, 4⟩, .mmap ⟨.MAP_FAILED, 4⟩, .streamOff false,
        .munmap ⟨.mapped 4096, 4⟩, .munmap ⟨.mapped 8192, 4⟩, .munmap ⟨.MAP_FAILED, 4⟩,
        .munmap ⟨.null, 0⟩] := by
  decide

end Helper

end OpenpnpCapture.Linux
