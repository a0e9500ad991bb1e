/-
# Common.ProbeEffects — what a probe leaves behind

`probeDevice` opens a stream of its own in the shared map, polls it, and closes it by its id.  The
id is the counter, which may be a key already.  A null entry there swallows the stream: the polls
find nothing, and closing erases the null entry, so every other stream is still where it was
(`undisturbed_of_notOpen`).  Only a counter that has overflowed does harm: a negative id is taken
for a failed open and the stream is never closed, and an id that comes up again belongs to somebody
else, whose stream is polled and deleted.

`probesCleanly_iff` is the exact condition; `probesCleanly_early` says that it holds until 2^31
streams have been stored.
-/
import OpenpnpCapture.Common.IssuedIds
import OpenpnpCapture.Common.ProbePolling
import OpenpnpCapture.Common.StreamIds

namespace OpenpnpCapture.Common

open OpenpnpCapture.Lib OpenpnpCapture.Lib.StdMap

set_option autoImplicit false

namespace Context

/-- The same streams are stored, and each stream there was differs by the frames that arrived. -/
structure Undisturbed (c : Context) (arrived : List Delivery) (c' : Context) : Prop where
  pairs : ∀ id h, c'.m_streams.lookup id = some (some h) ↔ c.m_streams.lookup id = some (some h)
  others : ∀ h, c.heap h ≠ none → c'.heap h = (arrived.foldl deliver c).heap h

/-- The stream that the probe creates has a new frame after the first `sleeps` sleeps. -/
def OwnFrame (c : Context) (id formatID : UInt32) (platform : PlatformOpen)
    (arrivals : Nat → List Delivery) (sleeps : Nat) : Prop :=
  ∃ streamID opened s, c.openStream id formatID platform = .ok (streamID, opened) ∧
    (opened.slept arrivals sleeps).heap c.next = some s ∧ s.m_newFrame = true

/-- The probe returns within the sleeps meant for its timeout, disturbs no stream, and finds no frame
but one of its own stream. -/
def ProbesCleanly (c : Context) (id formatID timeoutMs : UInt32) (platform : PlatformOpen)
    (arrivals : Nat → List Delivery) : Prop :=
  ∃ gotFrame c' sleeps,
    c.probeDevice id formatID timeoutMs platform
        ((List.range (pollsFor (effectiveTimeout timeoutMs))).map arrivals) = .ok (gotFrame, c') ∧
      sleeps ≤ pollsFor (effectiveTimeout timeoutMs) ∧
      Undisturbed c ((List.range sleeps).flatMap arrivals) c' ∧
      (gotFrame = true → 0 < sleeps ∧ OwnFrame c id formatID platform arrivals sleeps)

/-- The context while the probe's stream `s` is open. -/
def probing (c : Context) (s : Stream) : Context :=
  ((c.withNew s).storeStream c.next).2

theorem probing_m_streams (c : Context) (s : Stream) :
    (c.probing s).m_streams = insertNew c.m_streams c.m_streamCounter (some c.next) := rfl

theorem probing_heap (c : Context) (s : Stream) : (c.probing s).heap = (c.withNew s).heap := rfl

/-! ## Frames reach their own stream only -/

section Frames

variable {c d : Context} {h : Handle}

theorem heap_deliver (c : Context) (delivery : Delivery) (h : Handle) :
    (c.deliver delivery).heap h =
      if h = delivery.stream then (c.heap h).map fun s => s.submit delivery.submission
      else c.heap h := by
  unfold deliver
  by_cases same : h = delivery.stream
  · subst same
    rw [if_pos rfl]
    cases live : c.heap delivery.stream with
    | none => exact live
    | some s => exact Function.update_self ..
  · rw [if_neg same]
    split
    · rfl
    · exact Function.update_of_ne same _ _

theorem heap_deliverAll (alike : c.heap h = d.heap h) (arrived : List Delivery) :
    (arrived.foldl deliver c).heap h = (arrived.foldl deliver d).heap h := by
  induction arrived generalizing c d with
  | nil => exact alike
  | cons delivery arrived ih =>
      apply ih
      rw [heap_deliver, heap_deliver, alike]

theorem heap_erased {id : Int} {p : Ptr} (other : p ≠ some h) : (c.erased id p).heap h = c.heap h := by
  cases p with
  | none => rfl
  | some h' =>
      have apart : h ≠ h' := fun same => other (congrArg some same.symm)
      exact Function.update_of_ne apart _ _

end Frames

/-! ## The polling -/

/-- The polls change nothing: what is left are the frames of the sleeps made, and a frame that was
reported is waiting. -/
theorem probePoll_result {c c' : Context} {streamID : Int} {timeoutMs waited : UInt32}
    {arrivals : List (List Delivery)} {gotFrame : Bool} (wf : c.Wf) (present : streamID ∈ c.m_streams)
    (ran : probePoll streamID timeoutMs arrivals waited c = .ok (gotFrame, c')) :
    ∃ sleeps ≤ arrivals.length, c' = (arrivals.take sleeps).flatten.foldl deliver c ∧
      (gotFrame = true → 0 < sleeps ∧ FrameWaiting c' streamID) := by
  induction arrivals generalizing c waited with
  | nil =>
      unfold probePoll at ran
      split at ran
      · cases ran
      · cases ran
        exact ⟨0, Nat.le_refl 0, rfl, by simp⟩
  | cons arrived arrivals ih =>
      unfold probePoll at ran
      split at ran
      · obtain ⟨wf', present', new, poll⟩ := sleep_poll wf present arrived
        rw [poll] at ran
        cases new with
        | true =>
            cases ran
            refine ⟨1, by simp, ?_, fun _ => ⟨Nat.one_pos, _, poll⟩⟩
            rw [List.take_succ_cons, List.take_zero, List.flatten_singleton]
        | false =>
            obtain ⟨sleeps, atMost, rfl, found⟩ := ih wf' present' ran
            refine ⟨sleeps + 1, Nat.succ_le_succ atMost, ?_, fun got => ⟨sleeps.succ_pos, ?_⟩⟩
            · rw [List.take_succ_cons, List.flatten_cons, List.foldl_append]
            · exact (found got).2
      · cases ran
        exact ⟨0, Nat.zero_le _, rfl, by simp⟩

theorem effectiveTimeout_short {timeoutMs : UInt32} (short : timeoutMs.toNat < 2 ^ 31) :
    effectiveTimeout timeoutMs ≤ 4294967250 := by
  unfold effectiveTimeout
  split
  · decide
  · have last : (4294967250 : UInt32).toNat = 4294967250 := rfl
    rw [UInt32.le_iff_toNat_le]
    omega

/-- With a short timeout the polling of a stored id returns. -/
theorem probePoll_short {c : Context} {streamID : Int} {timeoutMs : UInt32} (wf : c.Wf)
    (present : streamID ∈ c.m_streams) (short : timeoutMs.toNat < 2 ^ 31)
    (arrivals : Nat → List Delivery) :
    ∃ gotFrame sleeps, sleeps ≤ pollsFor (effectiveTimeout timeoutMs) ∧
      probePoll streamID (effectiveTimeout timeoutMs)
          ((List.range (pollsFor (effectiveTimeout timeoutMs))).map arrivals) 0 c =
        .ok (gotFrame, c.slept arrivals sleeps) ∧
      (gotFrame = true → 0 < sleeps ∧ FrameWaiting (c.slept arrivals sleeps) streamID) := by
  obtain ⟨enough, atMost, timeout⟩ :=
    (timeout_reached_iff (effectiveTimeout timeoutMs)).2 (effectiveTimeout_short short)
  obtain ⟨⟨gotFrame, c'⟩, ran⟩ := (probePoll_returns_iff wf present (effectiveTimeout timeoutMs) 0
    ((List.range (pollsFor (effectiveTimeout timeoutMs))).map arrivals)).2
    ⟨enough, by simpa using atMost, Or.inl timeout⟩
  obtain ⟨sleeps, made, rfl, found⟩ := probePoll_result wf present ran
  rw [List.length_map, List.length_range] at made
  rw [← List.map_take, List.take_range, Nat.min_eq_left made, ← List.flatMap_def] at ran found
  exact ⟨gotFrame, sleeps, made, ran, found⟩

/-! ## One probe, by what the counter is -/

section Probe

variable {c : Context} {id formatID timeoutMs : UInt32} {platform : PlatformOpen}
  {arrivals : Nat → List Delivery}

theorem openStream_stores
    (stores : (c.format? id formatID).isSome = true ∧ platform ≠ .failed) :
    ∃ s, c.openStream id formatID platform = .ok (c.m_streamCounter, c.probing s) := by
  cases ran : c.openStream id formatID platform with
  | error stop => exact absurd ran (openStream_returns c id formatID platform stop)
  | ok result =>
      obtain ⟨streamID, opened⟩ := result
      rcases openStream_cases ran with ⟨unknown, -⟩ | ⟨-, failed, -⟩ | ⟨-, -, s, -, -, result⟩
      · rw [unknown] at stores
        exact absurd stores.1 (by decide)
      · exact absurd failed stores.2
      · exact ⟨s, congrArg Except.ok result⟩

/-- A negative id ends the call. -/
theorem probeDevice_of_negative {streamID : Int} {opened : Context}
    (openRan : c.openStream id formatID platform = .ok (streamID, opened)) (negative : streamID < 0)
    (arrivals : List (List Delivery)) :
    c.probeDevice id formatID timeoutMs platform arrivals = .ok (false, opened) := by
  unfold probeDevice
  simp only [openRan, if_pos negative]

/-- Any other is polled and closed; `p` is the entry under it. -/
theorem probeDevice_of_stored {s : Stream} {p : Ptr} (wf : c.Wf)
    (openRan : c.openStream id formatID platform = .ok (c.m_streamCounter, c.probing s))
    (nonneg : 0 ≤ c.m_streamCounter)
    (stored : (c.probing s).m_streams.lookup c.m_streamCounter = some p)
    (short : timeoutMs.toNat < 2 ^ 31) (arrivals : Nat → List Delivery) :
    ∃ gotFrame sleeps, sleeps ≤ pollsFor (effectiveTimeout timeoutMs) ∧
      c.probeDevice id formatID timeoutMs platform
          ((List.range (pollsFor (effectiveTimeout timeoutMs))).map arrivals) =
        .ok (gotFrame, ((c.probing s).slept arrivals sleeps).erased c.m_streamCounter p) ∧
      (gotFrame = true →
        0 < sleeps ∧ FrameWaiting ((c.probing s).slept arrivals sleeps) c.m_streamCounter) := by
  have wf' : (c.probing s).Wf := wf.stored s
  obtain ⟨gotFrame, sleeps, made, polled, found⟩ := probePoll_short wf'
    (Finmap.mem_of_lookup_eq_some stored) short arrivals
  refine ⟨gotFrame, sleeps, made, ?_, found⟩
  have same := deliverAll_same (c.probing s) ((List.range sleeps).flatMap arrivals)
  have closed := closeStream_stored (c := (c.probing s).slept arrivals sleeps) nonneg
    ((congrArg (Finmap.lookup c.m_streamCounter) same.m_streams).trans stored)
  unfold effectiveTimeout at polled
  unfold probeDevice
  simp only [openRan, if_neg (Int.not_lt.2 nonneg), effectiveTimeout, polled, closed]

theorem undisturbed_refl (c : Context) : Undisturbed c [] c :=
  ⟨fun _ _ => Iff.rfl, fun _ _ => rfl⟩

/-- A new object is no stream of before. -/
theorem heap_withNew (wf : c.Wf) (s : Stream) {h : Handle} (live : c.heap h ≠ none) :
    (c.withNew s).heap h = c.heap h :=
  Function.update_of_ne (Nat.ne_of_lt (wf.live_lt h live)) _ _

theorem undisturbed_withNew (wf : c.Wf) (s : Stream) : Undisturbed c [] (c.withNew s) :=
  ⟨fun _ _ => Iff.rfl, fun _ live => heap_withNew wf s live⟩

/-- Under an id that stores no stream, only the probe's own stream is found. -/
theorem own_of_lookup {s : Stream} {h : Handle} (notOpen : c.NotOpen c.m_streamCounter)
    (stored : (c.probing s).m_streams.lookup c.m_streamCounter = some (some h)) : h = c.next := by
  rcases lookup_insertNew_cases stored with before | ⟨-, inserted, -⟩
  · exact absurd before (notOpen h)
  · exact Option.some.inj inserted

/-- The counter stores no stream: the probe's own goes, and every other is as the frames left it. -/
theorem undisturbed_of_notOpen (wf : c.Wf) (notOpen : c.NotOpen c.m_streamCounter) {s : Stream}
    {p : Ptr} (stored : (c.probing s).m_streams.lookup c.m_streamCounter = some p) (sleeps : Nat) :
    Undisturbed c ((List.range sleeps).flatMap arrivals)
      (((c.probing s).slept arrivals sleeps).erased c.m_streamCounter p) := by
  have same := deliverAll_same (c.probing s) ((List.range sleeps).flatMap arrivals)
  refine ⟨fun id' h => ?_, fun h live => ?_⟩
  · show ((((c.probing s).slept arrivals sleeps).m_streams).erase _).lookup id' = _ ↔ _
    rw [slept, same.m_streams, lookup_erase_some]
    constructor
    · rintro ⟨apart, kept⟩
      rwa [probing_m_streams, lookup_insertNew_ne _ apart] at kept
    · intro before
      refine ⟨?_, lookup_insertNew_of_some before⟩
      rintro rfl
      exact notOpen h before
  · have other : p ≠ some h := by
      rintro rfl
      exact absurd (own_of_lookup notOpen stored) (Nat.ne_of_lt (wf.live_lt h live))
    rw [heap_erased other]
    apply heap_deliverAll
    rw [probing_heap, heap_withNew wf s live]

/-- A frame found there is the probe's own. -/
theorem ownFrame_of_waiting {s : Stream} {sleeps : Nat}
    (openRan : c.openStream id formatID platform = .ok (c.m_streamCounter, c.probing s))
    (notOpen : c.NotOpen c.m_streamCounter)
    (waiting : FrameWaiting ((c.probing s).slept arrivals sleeps) c.m_streamCounter) :
    OwnFrame c id formatID platform arrivals sleeps := by
  obtain ⟨h, object, stored, live, new⟩ := waiting.stream
  have same := deliverAll_same (c.probing s) ((List.range sleeps).flatMap arrivals)
  rw [slept, same.m_streams] at stored
  obtain rfl := own_of_lookup notOpen stored
  exact ⟨_, _, object, openRan, live, new⟩

/-! ## The whole call -/

theorem openStream_refuses (wf : c.Wf)
    (refuses : ¬ ((c.format? id formatID).isSome = true ∧ platform ≠ .failed)) :
    ∃ opened, c.openStream id formatID platform = .ok (-1, opened) ∧ Undisturbed c [] opened := by
  cases ran : c.openStream id formatID platform with
  | error stop => exact absurd ran (openStream_returns c id formatID platform stop)
  | ok result =>
      obtain ⟨streamID, opened⟩ := result
      rcases openStream_cases ran with ⟨-, rfl, rfl⟩ | ⟨-, -, rfl, rfl⟩ | ⟨known, opens, -⟩
      · exact ⟨_, rfl, undisturbed_refl _⟩
      · exact ⟨_, rfl, undisturbed_withNew wf _⟩
      · exact absurd ⟨known, opens⟩ refuses

theorem cleanly_of_negative {streamID : Int} {opened : Context}
    (openRan : c.openStream id formatID platform = .ok (streamID, opened)) (negative : streamID < 0)
    (undisturbed : Undisturbed c [] opened) :
    ProbesCleanly c id formatID timeoutMs platform arrivals :=
  ⟨false, opened, 0, probeDevice_of_negative openRan negative _, Nat.zero_le _, undisturbed, by simp⟩

theorem cleanly_of_notOpen (wf : c.Wf)
    (stores : (c.format? id formatID).isSome = true ∧ platform ≠ .failed)
    (nonneg : 0 ≤ c.m_streamCounter) (notOpen : c.NotOpen c.m_streamCounter)
    (short : timeoutMs.toNat < 2 ^ 31) : ProbesCleanly c id formatID timeoutMs platform arrivals := by
  obtain ⟨s, openRan⟩ := openStream_stores stores
  obtain ⟨p, stored⟩ := Finmap.mem_iff.1 (openStream_mem openRan nonneg)
  obtain ⟨gotFrame, sleeps, made, ran, found⟩ :=
    probeDevice_of_stored wf openRan nonneg stored short arrivals
  refine ⟨gotFrame, _, sleeps, ran, made, undisturbed_of_notOpen wf notOpen stored sleeps, ?_⟩
  intro got
  obtain ⟨slept, waiting⟩ := found got
  exact ⟨slept, ownFrame_of_waiting openRan notOpen waiting⟩

/-- A negative counter that is a key: the stream is lost, and nothing else has changed. -/
theorem undisturbed_of_mem (wf : c.Wf) (present : c.m_streamCounter ∈ c.m_streams) (s : Stream) :
    Undisturbed c [] (c.probing s) := by
  refine ⟨fun id' h => ?_, fun h live => heap_withNew wf s live⟩
  rw [probing_m_streams, insertNew_of_mem present]

/-- A negative counter that is none: the stream stays stored. -/
theorem not_cleanly_of_absent
    (stores : (c.format? id formatID).isSome = true ∧ platform ≠ .failed)
    (negative : c.m_streamCounter < 0) (absent : c.m_streamCounter ∉ c.m_streams) :
    ¬ ProbesCleanly c id formatID timeoutMs platform arrivals := by
  rintro ⟨gotFrame, c', sleeps, ran, -, undisturbed, -⟩
  obtain ⟨s, openRan⟩ := openStream_stores stores
  rw [probeDevice_of_negative openRan negative] at ran
  obtain ⟨rfl, rfl⟩ := Prod.mk.inj (Except.ok.inj ran)
  have stays : (c.probing s).m_streams.lookup c.m_streamCounter = some (some c.next) :=
    lookup_insertNew_self absent _
  have before := (undisturbed.pairs _ _).1 stays
  exact absent (Finmap.mem_of_lookup_eq_some before)

/-- A counter that stores a stream: that stream is closed. -/
theorem not_cleanly_of_open (wf : c.Wf)
    (stores : (c.format? id formatID).isSome = true ∧ platform ≠ .failed)
    (nonneg : 0 ≤ c.m_streamCounter) {h : Handle}
    (taken : c.m_streams.lookup c.m_streamCounter = some (some h)) (short : timeoutMs.toNat < 2 ^ 31) :
    ¬ ProbesCleanly c id formatID timeoutMs platform arrivals := by
  rintro ⟨gotFrame, c', sleeps, ran, -, undisturbed, -⟩
  obtain ⟨s, openRan⟩ := openStream_stores stores
  have stored : (c.probing s).m_streams.lookup c.m_streamCounter = some (some h) :=
    lookup_insertNew_of_some taken
  obtain ⟨_, _, -, closes, -⟩ := probeDevice_of_stored wf openRan nonneg stored short arrivals
  rw [closes] at ran
  obtain ⟨rfl, rfl⟩ := Prod.mk.inj (Except.ok.inj ran)
  obtain ⟨apart, -⟩ := lookup_erase_some.1 ((undisturbed.pairs _ _).2 taken)
  exact apart rfl

theorem cleanly_iff (wf : c.Wf) (short : timeoutMs.toNat < 2 ^ 31) :
    ProbesCleanly c id formatID timeoutMs platform arrivals ↔
      ((c.format? id formatID).isSome = true ∧ platform ≠ .failed →
        0 ≤ c.m_streamCounter ∧ c.NotOpen c.m_streamCounter ∨
          c.m_streamCounter < 0 ∧ c.m_streamCounter ∈ c.m_streams) := by
  constructor
  · intro cleanly stores
    rcases Int.lt_or_le c.m_streamCounter 0 with negative | nonneg
    · refine Or.inr ⟨negative, ?_⟩
      by_contra absent
      exact not_cleanly_of_absent stores negative absent cleanly
    · refine Or.inl ⟨nonneg, fun h taken => ?_⟩
      exact not_cleanly_of_open wf stores nonneg taken short cleanly
  · intro spare
    by_cases stores : (c.format? id formatID).isSome = true ∧ platform ≠ .failed
    · rcases spare stores with ⟨nonneg, notOpen⟩ | ⟨negative, present⟩
      · exact cleanly_of_notOpen wf stores nonneg notOpen short
      · obtain ⟨s, openRan⟩ := openStream_stores stores
        exact cleanly_of_negative openRan negative (undisturbed_of_mem wf present s)
    · obtain ⟨opened, openRan, undisturbed⟩ := openStream_refuses wf stores
      exact cleanly_of_negative openRan (by decide) undisturbed

end Probe

/-- **What a probe leaves behind.**  In every reachable context, for every device, format, outcome of
the open and pattern of arrivals, and a timeout below 2^31: exactly if the probe stores no stream, or
the counter is nonnegative and no stream is open under it, or it is negative and a key. -/
theorem probesCleanly_iff {devices : List DeviceInfo} {calls : List Call} {c : Context}
    (reached : c ∈ Run.reached exec (fresh devices) calls) (id formatID timeoutMs : UInt32)
    (short : timeoutMs.toNat < 2 ^ 31) (platform : PlatformOpen) (arrivals : Nat → List Delivery) :
    ProbesCleanly c id formatID timeoutMs platform arrivals ↔
      ((c.format? id formatID).isSome = true ∧ platform ≠ .failed →
        0 ≤ c.m_streamCounter ∧ c.NotOpen c.m_streamCounter ∨
          c.m_streamCounter < 0 ∧ c.m_streamCounter ∈ c.m_streams) :=
  cleanly_iff (wf_reached c reached) short

/-- A lookup of the id still to come has left a null entry there. -/
theorem probesCleanly_after_early_query :
    ∃ c ∈ Run.reached exec oneDevice [.query 0 .hasNewFrame],
      ProbesCleanly c 0 0 50 (.opened 1 1 3) fun _ => [⟨0, .submitBuffer (some [1, 2, 3])⟩] := by
  have reached : oneDevice.touched 0 ∈ Run.reached exec oneDevice [.query 0 .hasNewFrame] :=
    List.mem_of_getLast? rfl
  refine ⟨_, reached, (probesCleanly_iff reached 0 0 50 (by decide) (.opened 1 1 3) _).2 fun _ => ?_⟩
  refine Or.inl ⟨Int.le_refl 0, fun h stored => ?_⟩
  cases stored

/-! ## When the counter has overflowed -/

/-- The ids of the streams stored are below their number. -/
theorem stored_lt {devices : List DeviceInfo} {calls : List Call} {c : Context}
    (reached : c ∈ Run.reached exec (fresh devices) calls) (few : c.opened ≤ 2 ^ 31) {id : Int}
    {h : Handle} (stored : c.m_streams.lookup id = some (some h)) : id < c.opened := by
  have invariant : ∀ c ∈ Run.reached exec (fresh devices) calls, c.Wf ∧
      (c.opened ≤ 2 ^ 31 → ∀ id h, c.m_streams.lookup id = some (some h) → id < c.opened) := by
    apply Run.reached_of_preserved
    · exact ⟨wf_fresh devices, fun _ id h stored => by simp [fresh] at stored⟩
    · rintro c call r c' ran ⟨wf, below⟩
      refine ⟨wf.exec ran, fun few id h stored => ?_⟩
      have step := exec_idStep ran
      rcases step.issued with ⟨none, same⟩ | ⟨counter, more⟩
      · rcases step.stored id h stored with before | issued
        · rw [same]
          exact below (by omega) id h before
        · rw [none] at issued
          cases issued
      · rcases step.stored id h stored with before | issued
        · have earlier := below (by omega) id h before
          omega
        · have here := Option.some.inj (issued.symm.trans counter)
          rw [wf.counter_eq (by omega)] at here
          omega
  exact (invariant c reached).2 few id h stored

/-- Until 2^31 streams have been stored every probe is clean. -/
theorem probesCleanly_early {devices : List DeviceInfo} {calls : List Call} {c : Context}
    (reached : c ∈ Run.reached exec (fresh devices) calls) (few : c.opened < 2 ^ 31)
    (id formatID timeoutMs : UInt32) (short : timeoutMs.toNat < 2 ^ 31) (platform : PlatformOpen)
    (arrivals : Nat → List Delivery) :
    ProbesCleanly c id formatID timeoutMs platform arrivals := by
  have wf := wf_reached c reached
  have counter := wf.counter_eq few
  refine (cleanly_iff wf short).2 fun _ => Or.inl ⟨by omega, fun h taken => ?_⟩
  have below := stored_lt reached (by omega) taken
  omega

/-- After `n` probes of the one device. -/
structure Probed (n : Nat) (c : Context) : Prop where
  wf : c.Wf
  m_devices : c.m_devices = oneDevice.m_devices
  m_streams : c.m_streams = ∅
  opened : c.opened = n

theorem Probed.stores {n : Nat} {c : Context} (probed : Probed n c) :
    (c.format? 0 0).isSome = true ∧ PlatformOpen.opened 1 1 3 ≠ .failed := by
  rw [format?, probed.m_devices]
  exact ⟨rfl, by simp⟩

theorem erase_insertNew_empty (k : Int) (p : Ptr) : (insertNew (∅ : Map Int Ptr) k p).erase k = ∅ := by
  apply Finmap.ext_lookup
  intro id
  by_cases same : id = k
  · subst same
    rw [Finmap.lookup_erase, Finmap.lookup_empty]
  · rw [Finmap.lookup_erase_ne same, lookup_insertNew_ne _ same]

theorem slept_quiet (c : Context) (sleeps : Nat) : c.slept (fun _ => []) sleeps = c := by
  rw [slept, List.flatMap_eq_nil_iff.2 fun _ _ => rfl]
  rfl

theorem Probed.next {n : Nat} {c : Context} (probed : Probed n c) (few : n < 2 ^ 31) :
    ∃ r c', c.exec (.probeDevice 0 0 50 (.opened 1 1 3) [[]]) = .ok (r, c') ∧ Probed (n + 1) c' := by
  have counter := probed.wf.counter_eq (probed.opened ▸ few)
  obtain ⟨s, openRan⟩ := openStream_stores probed.stores
  have empty : (c.probing s).m_streams = insertNew ∅ c.m_streamCounter (some c.next) := by
    rw [probing_m_streams, probed.m_streams]
  have stored : (c.probing s).m_streams.lookup c.m_streamCounter = some (some c.next) := by
    rw [empty, lookup_insertNew_self Finmap.notMem_empty]
  obtain ⟨gotFrame, sleeps, -, ran, -⟩ := probeDevice_of_stored probed.wf openRan (by omega) stored
    (by decide : (50 : UInt32).toNat < 2 ^ 31) fun _ => []
  rw [slept_quiet] at ran
  have probe : c.exec (.probeDevice 0 0 50 (.opened 1 1 3) [[]]) =
      .ok (.flag gotFrame, (c.probing s).erased c.m_streamCounter (some c.next)) :=
    congrArg (reply Reply.flag) ran
  refine ⟨_, _, probe, probed.wf.exec probe, probed.m_devices, ?_, congrArg (· + 1) probed.opened⟩
  show (c.probing s).m_streams.erase _ = ∅
  rw [empty, erase_insertNew_empty]

/-- After 2^31 probes the counter is -2^31: the next probe takes its own stream for a failure. -/
theorem probe_lost_after_overflow :
    ∃ c ∈ Run.reached exec oneDevice
        (List.replicate (2 ^ 31) (.probeDevice 0 0 50 (.opened 1 1 3) [[]])),
      ¬ ProbesCleanly c 0 0 50 (.opened 1 1 3) fun _ => [] := by
  have start : Probed 0 oneDevice := ⟨wf_fresh _, rfl, rfl, rfl⟩
  obtain ⟨c, reached, probed⟩ := Run.exists_reached_replicate (n := 2 ^ 31) start
    fun n c few probed => probed.next (by omega)
  have overflowed : c.m_streamCounter = -2 ^ 31 := by
    rw [probed.wf.counter, probed.opened]
    decide
  refine ⟨c, reached, not_cleanly_of_absent probed.stores (by omega) ?_⟩
  rw [probed.m_streams]
  exact Finmap.notMem_empty

end Context

end OpenpnpCapture.Common
