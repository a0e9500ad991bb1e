/-
# Common.Ownership — who deletes a stream

A stream object is made by `createPlatformStream` and deleted by `removeStream`, by a failed
open or by `~Context`.  `Owned` says that this covers every object exactly once; given `Wf`
it comes down to `Covered`, every live object is stored.  Two exits lose an object: the
failure exit of `openStream`, which returns without the `delete` that `openStreamRaw` has,
and a store under an id that is taken.  `owned_iff`: a run keeps `Owned` exactly if no call
of it takes one of them.
-/
import OpenpnpCapture.Common.StreamIds

namespace OpenpnpCapture.Common

open OpenpnpCapture.Lib OpenpnpCapture.Lib.StdMap

set_option autoImplicit false

namespace Context

/-- The live objects are the stored ones, each under one id; no object was deleted twice, and once
the context is gone each object made was deleted exactly once. -/
structure Owned (c : Context) : Prop where
  stored : ∀ h, c.heap h ≠ none ↔ ∃ id, c.m_streams.lookup id = some (some h)
  once : ∀ id id' h, c.m_streams.lookup id = some (some h) →
    c.m_streams.lookup id' = some (some h) → id = id'
  deletedAtMostOnce : ∀ h, c.deleted.count h ≤ 1
  deletedOnceByEnd : ∀ h, h < c.next → c.deletedByEnd.count h = 1

/-- Every live object is stored. -/
def Covered (c : Context) : Prop :=
  ∀ h, c.heap h ≠ none → ∃ id, c.m_streams.lookup id = some (some h)

/-- The platform fails an open whose failure exit does not delete the object. -/
def Abandons (c : Context) : Call → Prop
  | .openStream id formatID platform | .probeDevice id formatID _ platform _ =>
      (c.format? id formatID).isSome = true ∧ platform = .failed
  | _ => False

/-- The call neither abandons an object nor stores one under a taken id. -/
def CleanStep (c : Context) (call : Call) : Prop :=
  ¬ Abandons c call ∧ (Stores c call → c.m_streamCounter ∉ c.m_streams)

section Ownership

variable {c c' : Context}

theorem count_deletedByEnd (wf : c.Wf) (covered : c.Covered) {h : Handle} (made : h < c.next) :
    c.deletedByEnd.count h = 1 := by
  rw [deletedByEnd, Multiset.count_add]
  by_cases dead : c.heap h = none
  · have unstored : (values c.m_streams id).count h = 0 := by
      refine count_values_of_absent fun id' p stored same => ?_
      have isH : p = some h := same
      exact wf.stored_live id' h (isH ▸ stored) dead
    rw [wf.dead_deleted h made dead, unstored]
  · obtain ⟨id', stored⟩ := covered h dead
    have undeleted := Multiset.count_eq_zero.2 (wf.live_undeleted h dead)
    have one : (values c.m_streams id).count h = 1 := by
      refine count_values_of_once stored rfl fun id'' p stored' same => ?_
      have isH : p = some h := same
      exact wf.stored_once id'' id' h (isH ▸ stored') stored
    rw [undeleted, one]

theorem count_deleted_le_one (wf : c.Wf) (h : Handle) : c.deleted.count h ≤ 1 := by
  by_cases member : h ∈ c.deleted
  · have dead : c.heap h = none := by
      by_contra live
      exact wf.live_undeleted h live member
    rw [wf.dead_deleted h (wf.deleted_lt h member) dead]
  · rw [Multiset.count_eq_zero.2 member]
    exact Nat.zero_le 1

/-- What `Wf` leaves open of `Owned`. -/
theorem owned_iff_covered (wf : c.Wf) : c.Owned ↔ c.Covered := by
  constructor
  · intro owned h live
    exact (owned.stored h).1 live
  · intro covered
    refine ⟨fun h => ⟨covered h, ?_⟩, wf.stored_once, count_deleted_le_one wf,
      fun h => count_deletedByEnd wf covered⟩
    rintro ⟨id, stored⟩
    exact wf.stored_live id h stored

/-! ## What each move does to the cover -/

theorem covered_same_iff (frame : SameRegistry c c') : c'.Covered ↔ c.Covered := by
  unfold Covered
  simp only [frame.m_streams, ne_eq, frame.live]

theorem covered_touched (covered : c.Covered) (id : Int) : (c.touched id).Covered := by
  intro h live
  obtain ⟨id', stored⟩ := covered h live
  exact ⟨id', lookup_insertNew_of_some stored⟩

theorem covered_discard (s : Stream) (covered : c.Covered) :
    ((c.withNew s).deletePtr (some c.next)).Covered := by
  intro h live
  have old : h ≠ c.next := by
    rintro rfl
    simp [deletePtr] at live
  refine covered h ?_
  simpa only [deletePtr, withNew, Function.update_of_ne old] using live

/-- An abandoned object is live and stored nowhere. -/
theorem not_covered_abandon (wf : c.Wf) (s : Stream) : ¬ (c.withNew s).Covered := by
  intro covered
  obtain ⟨id, stored⟩ := covered c.next (by simp [withNew])
  exact wf.next_unstored id stored

/-- A new object is stored exactly if its id was no key. -/
theorem covered_store_iff (wf : c.Wf) (covered : c.Covered) (s : Stream) :
    ((c.withNew s).storeStream c.next).2.Covered ↔ c.m_streamCounter ∉ c.m_streams := by
  constructor
  · intro after present
    obtain ⟨id, stored⟩ := after c.next (by simp [storeStream, withNew])
    rw [show ((c.withNew s).storeStream c.next).2.m_streams = c.m_streams from
      insertNew_of_mem present _] at stored
    exact wf.next_unstored id stored
  · intro absent h live
    by_cases new : h = c.next
    · subst new
      exact ⟨c.m_streamCounter, lookup_insertNew_self absent _⟩
    · have before : c.heap h ≠ none := by
        simpa only [storeStream, withNew, Function.update_of_ne new] using live
      obtain ⟨id, stored⟩ := covered h before
      exact ⟨id, lookup_insertNew_of_some stored⟩

theorem covered_erased_iff {id : Int} {p : Ptr} (stored : c.m_streams.lookup id = some p) :
    (c.erased id p).Covered ↔ c.Covered := by
  have live_iff : ∀ h, (c.erased id p).heap h ≠ none ↔ p ≠ some h ∧ c.heap h ≠ none := by
    intro h
    cases p with
    | none => simp [erased, deletePtr]
    | some k =>
        by_cases same : h = k
        · subst same
          simp [erased, deletePtr]
        · simp [erased, deletePtr, Function.update_of_ne same, Ne.symm same]
  constructor
  · intro covered h live
    by_cases mine : p = some h
    · exact ⟨id, mine ▸ stored⟩
    · obtain ⟨id', stored'⟩ := covered h ((live_iff h).2 ⟨mine, live⟩)
      exact ⟨id', (lookup_erase_some.1 stored').2⟩
  · intro covered h live
    obtain ⟨other, alive⟩ := (live_iff h).1 live
    obtain ⟨id', stored'⟩ := covered h alive
    refine ⟨id', lookup_erase_some.2 ⟨?_, stored'⟩⟩
    rintro rfl
    rw [stored] at stored'
    exact other (Option.some.inj stored')

/-- The polling and the close of `probeDevice` lose nothing, whatever its open did. -/
theorem covered_probeDevice_iff {id formatID timeoutMs : UInt32} {platform : PlatformOpen}
    {arrivals : List (List Delivery)} {gotFrame : Bool}
    (ran : c.probeDevice id formatID timeoutMs platform arrivals = .ok (gotFrame, c')) :
    ∃ streamID opened, c.openStream id formatID platform = .ok (streamID, opened) ∧
      (c'.Covered ↔ opened.Covered) := by
  obtain ⟨streamID, opened, openRan, outcome⟩ := probeDevice_cases ran
  refine ⟨streamID, opened, openRan, ?_⟩
  rcases outcome with ⟨-, rfl⟩ | ⟨nonneg, polled, closed, frame, closeRan⟩
  · exact Iff.rfl
  · have slept := covered_same_iff (frame (openStream_mem openRan nonneg))
    rcases closeStream_cases closeRan with ⟨-, rfl⟩ | ⟨-, p, stored, rfl⟩
    · exact slept
    · exact (covered_erased_iff stored).trans slept

theorem covered_openStream_iff {streamID : Int} {id formatID : UInt32} {platform : PlatformOpen}
    (ran : c.openStream id formatID platform = .ok (streamID, c')) (wf : c.Wf)
    (covered : c.Covered) : c'.Covered ↔ c.CleanStep (.openStream id formatID platform) := by
  rcases openStream_cases ran with ⟨unknown, -, rfl⟩ | ⟨known, failed, -, rfl⟩ |
    ⟨known, granted, s, -, -, result⟩
  · exact iff_of_true covered ⟨by simp [Abandons, unknown], by simp [Stores, unknown]⟩
  · exact iff_of_false (not_covered_abandon wf _) fun clean => clean.1 ⟨known, failed⟩
  · rw [show c' = ((c.withNew s).storeStream c.next).2 from congrArg Prod.snd result,
      covered_store_iff wf covered]
    exact ⟨fun absent => ⟨fun abandons => granted abandons.2, fun _ => absent⟩,
      fun clean => clean.2 ⟨known, granted⟩⟩

theorem covered_openStreamRaw_iff {streamID : Int} {id formatID : UInt32} {platform : PlatformOpen}
    (ran : c.openStreamRaw id formatID platform = .ok (streamID, c')) (wf : c.Wf)
    (covered : c.Covered) : c'.Covered ↔ c.CleanStep (.openStreamRaw id formatID platform) := by
  rcases openStreamRaw_cases ran with ⟨refused, -, rfl⟩ | ⟨raw, failed, -, rfl⟩ |
    ⟨raw, granted, s, -, -, result⟩
  · exact iff_of_true covered ⟨not_false, fun stores => absurd stores.1 refused⟩
  · exact iff_of_true (covered_discard _ covered) ⟨not_false, fun stores => absurd failed stores.2⟩
  · rw [show c' = ((c.withNew s).storeStream c.next).2 from congrArg Prod.snd result,
      covered_store_iff wf covered]
    exact ⟨fun absent => ⟨not_false, fun _ => absent⟩, fun clean => clean.2 ⟨raw, granted⟩⟩

/-- One call keeps every live object stored exactly if it is clean. -/
theorem covered_exec_iff {call : Call} {r : Reply} (ran : c.exec call = .ok (r, c')) (wf : c.Wf)
    (covered : c.Covered) : c'.Covered ↔ c.CleanStep call := by
  cases call with
  | openStream id formatID platform =>
      obtain ⟨streamID, opened, -⟩ := reply_ok.1 ran
      exact covered_openStream_iff opened wf covered
  | openStreamRaw id formatID platform =>
      obtain ⟨streamID, opened, -⟩ := reply_ok.1 ran
      exact covered_openStreamRaw_iff opened wf covered
  | probeDevice id formatID timeoutMs platform arrivals =>
      obtain ⟨gotFrame, probed, -⟩ := reply_ok.1 ran
      obtain ⟨streamID, opened, openRan, same⟩ := covered_probeDevice_iff probed
      exact same.trans (covered_openStream_iff openRan wf covered)
  | query id q =>
      refine iff_of_true ?_ ⟨not_false, nofun⟩
      rw [show c.exec (.query id q) = c.query id q from rfl, query_eq] at ran
      rcases onStream_cases ran with ⟨-, -, -, rfl⟩ | ⟨-, ⟨-, rfl, -⟩ | ⟨h, s, -, live, -, rfl⟩⟩
      · exact covered
      · exact covered_touched covered id
      · exact (covered_same_iff (put_same live _)).2 covered
  | closeStream streamID =>
      refine iff_of_true ?_ ⟨not_false, nofun⟩
      obtain ⟨closed, ran, -⟩ := reply_ok.1 ran
      rcases closeStream_cases ran with ⟨-, rfl⟩ | ⟨-, p, stored, rfl⟩
      · exact covered
      · exact (covered_erased_iff stored).2 covered
  | isOpenStream streamID =>
      obtain ⟨_, ran, -⟩ := reply_ok.1 ran
      exact iff_of_true (isOpenStream_cases ran ▸ covered) ⟨not_false, nofun⟩
  | isDeviceStillConnected streamID connected =>
      obtain ⟨_, ran, -⟩ := reply_ok.1 ran
      exact iff_of_true (isDeviceStillConnected_cases ran ▸ covered) ⟨not_false, nofun⟩
  | refreshDevices found answer =>
      cases ran
      exact iff_of_true covered ⟨not_false, nofun⟩
  | deliver d =>
      cases ran
      exact iff_of_true ((covered_same_iff (deliver_same c d)).2 covered) ⟨not_false, nofun⟩

end Ownership

/-- **Ownership.**  In every run from a fresh context, and whatever the platform answers: the live
objects are exactly the stored ones and each is deleted exactly once, in every state reached,
exactly when no `openStream` or `probeDevice` of the run had its open fail in the platform, and no
open stored its stream under a taken id. -/
theorem owned_iff (devices : List DeviceInfo) (calls : List Call) :
    (∀ c ∈ Run.reached exec (fresh devices) calls, c.Owned) ↔
      ∀ e ∈ Run.trace exec (fresh devices) calls, e.pre.CleanStep e.input := by
  have start : (fresh devices).Covered := fun h live => absurd rfl live
  rw [← Run.reached_iff_trace (wf_fresh devices) start (fun _ _ _ _ ran wf => wf.exec ran)
    (fun _ _ _ _ ran wf covered => covered_exec_iff ran wf covered) calls]
  exact forall₂_congr fun c member => owned_iff_covered (wf_reached c member)

/-- The platform fails the open of a normal stream: the object stays alive for ever. -/
theorem owned_fails_on_failed_open :
    ¬ ∀ c ∈ Run.reached exec (fresh [⟨[⟨1, 1, 0, 30, 24⟩]⟩]) [.openStream 0 0 .failed], c.Owned := by
  intro all
  have after := all _ (List.mem_cons_of_mem _ List.mem_cons_self)
  exact absurd (after.deletedOnceByEnd 0 (by decide)) (by decide)

end Context

end OpenpnpCapture.Common
