/-
# Common.ContextInvariant — what every run of calls keeps

`Wf` holds in every state a run from a fresh context reaches, whatever the ids asked about
and whatever the platform answers: a stored stream is alive, no two ids store the same
stream, an object that is dead was deleted exactly once, and the id counter is the number
of streams stored so far.  So no call uses a deleted object (`exec_not_useAfterFree`).

What `Wf` leaves open is decided elsewhere: whether an entry is null, whether the counter
runs into a key, and whether every live object is stored.
-/
import OpenpnpCapture.Common.ContextStep
import OpenpnpCapture.Lib.Run

namespace OpenpnpCapture.Common

open OpenpnpCapture.Lib OpenpnpCapture.Lib.StdMap

set_option autoImplicit false

namespace Context

structure Wf (c : Context) : Prop where
  live_lt : ∀ h, c.heap h ≠ none → h < c.next
  stored_live : ∀ id h, c.m_streams.lookup id = some (some h) → c.heap h ≠ none
  stored_once : ∀ id id' h, c.m_streams.lookup id = some (some h) →
    c.m_streams.lookup id' = some (some h) → id = id'
  deleted_lt : ∀ h ∈ c.deleted, h < c.next
  live_undeleted : ∀ h, c.heap h ≠ none → h ∉ c.deleted
  dead_deleted : ∀ h, h < c.next → c.heap h = none → c.deleted.count h = 1
  counter : c.m_streamCounter = int32 c.opened

theorem wf_fresh (devices : List DeviceInfo) : (fresh devices).Wf where
  live_lt := fun _ live => absurd rfl live
  stored_live := fun id h stored => by simp [fresh] at stored
  stored_once := fun id _ h stored => by simp [fresh] at stored
  deleted_lt := fun h member => by simp [fresh] at member
  live_undeleted := fun _ live => absurd rfl live
  dead_deleted := fun h below => absurd below (Nat.not_lt_zero h)
  counter := by simp [fresh, int32]

namespace Wf

variable {c c' : Context}

theorem same (wf : c.Wf) (frame : SameRegistry c c') : c'.Wf where
  live_lt := fun h live => frame.next ▸ wf.live_lt h fun dead => live ((frame.live h).2 dead)
  stored_live := fun id h stored dead =>
    wf.stored_live id h (frame.m_streams ▸ stored) ((frame.live h).1 dead)
  stored_once := fun id id' h stored stored' =>
    wf.stored_once id id' h (frame.m_streams ▸ stored) (frame.m_streams ▸ stored')
  deleted_lt := fun h member => frame.next ▸ wf.deleted_lt h (frame.deleted ▸ member)
  live_undeleted := fun h live member =>
    wf.live_undeleted h (fun dead => live ((frame.live h).2 dead)) (frame.deleted ▸ member)
  dead_deleted := fun h below dead =>
    frame.deleted ▸ wf.dead_deleted h (frame.next ▸ below) ((frame.live h).1 dead)
  counter := by rw [frame.m_streamCounter, frame.opened, wf.counter]

/-- A lookup with `operator[]` stores no stream. -/
theorem touched (wf : c.Wf) (id : Int) : (c.touched id).Wf := by
  have stored_before : ∀ id' h, (c.touched id).m_streams.lookup id' = some (some h) →
      c.m_streams.lookup id' = some (some h) := by
    intro id' h stored
    rcases lookup_insertNew_cases stored with before | ⟨-, null, -⟩
    · exact before
    · cases null
  exact
    { live_lt := wf.live_lt
      stored_live := fun id' h stored => wf.stored_live id' h (stored_before id' h stored)
      stored_once := fun id₁ id₂ h stored₁ stored₂ =>
        wf.stored_once id₁ id₂ h (stored_before id₁ h stored₁) (stored_before id₂ h stored₂)
      deleted_lt := wf.deleted_lt
      live_undeleted := wf.live_undeleted
      dead_deleted := wf.dead_deleted
      counter := wf.counter }

theorem next_dead (wf : c.Wf) : c.heap c.next = none := by
  by_contra live
  exact Nat.lt_irrefl _ (wf.live_lt c.next live)

theorem next_undeleted (wf : c.Wf) : c.next ∉ c.deleted := fun member =>
  Nat.lt_irrefl _ (wf.deleted_lt c.next member)

/-- The next address is stored nowhere. -/
theorem next_unstored (wf : c.Wf) (id : Int) : c.m_streams.lookup id ≠ some (some c.next) :=
  fun stored => wf.stored_live id c.next stored wf.next_dead

theorem withNew (wf : c.Wf) (s : Stream) : (c.withNew s).Wf where
  live_lt := by
    intro h live
    by_cases new : h = c.next
    · subst new
      exact Nat.lt_succ_self _
    · have before : c.heap h ≠ none := by
        simpa only [Context.withNew, Function.update_of_ne new] using live
      exact Nat.lt_succ_of_lt (wf.live_lt h before)
  stored_live := by
    intro id h stored
    have before := wf.stored_live id h stored
    have old : h ≠ c.next := fun new => before (new ▸ wf.next_dead)
    simpa only [Context.withNew, Function.update_of_ne old] using before
  stored_once := wf.stored_once
  deleted_lt := fun h member => Nat.lt_succ_of_lt (wf.deleted_lt h member)
  live_undeleted := by
    intro h live
    by_cases new : h = c.next
    · subst new
      exact wf.next_undeleted
    · have before : c.heap h ≠ none := by
        simpa only [Context.withNew, Function.update_of_ne new] using live
      exact wf.live_undeleted h before
  dead_deleted := by
    intro h below dead
    have old : h ≠ c.next := by
      rintro rfl
      simp [Context.withNew] at dead
    have before : c.heap h = none := by
      simpa only [Context.withNew, Function.update_of_ne old] using dead
    exact wf.dead_deleted h (Nat.lt_of_le_of_ne (Nat.le_of_lt_succ below) old) before
  counter := wf.counter

/-- Deleting a live object that no entry stores. -/
theorem delete (wf : c.Wf) {h : Handle} (live : c.heap h ≠ none)
    (unstored : ∀ id, c.m_streams.lookup id ≠ some (some h)) : (c.deletePtr (some h)).Wf where
  live_lt := by
    intro k alive
    by_cases same : k = h
    · exact same ▸ wf.live_lt h live
    · exact wf.live_lt k (by simpa only [deletePtr, Function.update_of_ne same] using alive)
  stored_live := by
    intro id k stored
    have differs : k ≠ h := fun same => unstored id (same ▸ stored)
    simpa only [deletePtr, Function.update_of_ne differs] using wf.stored_live id k stored
  stored_once := wf.stored_once
  deleted_lt := by
    intro k member
    rcases Multiset.mem_cons.1 member with rfl | earlier
    · exact wf.live_lt k live
    · exact wf.deleted_lt k earlier
  live_undeleted := by
    intro k alive
    have differs : k ≠ h := by
      rintro rfl
      simp [deletePtr] at alive
    have before : c.heap k ≠ none := by
      simpa only [deletePtr, Function.update_of_ne differs] using alive
    intro member
    rcases Multiset.mem_cons.1 member with same | earlier
    · exact differs same
    · exact wf.live_undeleted k before earlier
  dead_deleted := by
    intro k below dead
    show (h ::ₘ c.deleted).count k = 1
    by_cases same : k = h
    · subst same
      rw [Multiset.count_cons_self, Multiset.count_eq_zero.2 (wf.live_undeleted k live)]
    · have before : c.heap k = none := by
        simpa only [deletePtr, Function.update_of_ne same] using dead
      rw [Multiset.count_cons_of_ne same, wf.dead_deleted k below before]
  counter := wf.counter

theorem discard (wf : c.Wf) (s : Stream) : ((c.withNew s).deletePtr (some c.next)).Wf := by
  refine (wf.withNew s).delete ?_ wf.next_unstored
  simp [Context.withNew]

/-- Forgetting an entry whose stream, if any, is not touched. -/
theorem forget (wf : c.Wf) (id : Int) : { c with m_streams := c.m_streams.erase id }.Wf where
  live_lt := wf.live_lt
  stored_live := fun id' h stored => wf.stored_live id' h (lookup_erase_some.1 stored).2
  stored_once := fun id₁ id₂ h stored₁ stored₂ =>
    wf.stored_once id₁ id₂ h (lookup_erase_some.1 stored₁).2 (lookup_erase_some.1 stored₂).2
  deleted_lt := wf.deleted_lt
  live_undeleted := wf.live_undeleted
  dead_deleted := wf.dead_deleted
  counter := wf.counter

theorem erased (wf : c.Wf) {id : Int} {p : Ptr} (stored : c.m_streams.lookup id = some p) :
    (c.erased id p).Wf := by
  cases p with
  | none => exact wf.forget id
  | some h =>
      -- `delete` and `erase` commute: erase first, then nothing stores `h`
      have live := wf.stored_live id h stored
      refine (wf.forget id).delete live fun id' still => ?_
      obtain ⟨differs, before⟩ := lookup_erase_some.1 still
      exact differs (wf.stored_once id' id h before stored)

theorem stored (wf : c.Wf) (s : Stream) : ((c.withNew s).storeStream c.next).2.Wf := by
  have new := wf.withNew s
  have live : (c.withNew s).heap c.next ≠ none := by simp [Context.withNew]
  exact
    { live_lt := new.live_lt
      stored_live := by
        intro id h stored
        rcases lookup_insertNew_cases stored with before | ⟨-, inserted, -⟩
        · exact new.stored_live id h before
        · cases inserted
          exact live
      stored_once := by
        intro id id' h stored stored'
        rcases lookup_insertNew_cases stored with before | ⟨rfl, inserted, -⟩ <;>
          rcases lookup_insertNew_cases stored' with before' | ⟨rfl, inserted', -⟩
        · exact wf.stored_once id id' h before before'
        · cases inserted'
          exact absurd before (wf.next_unstored id)
        · cases inserted
          exact absurd before' (wf.next_unstored id')
        · rfl
      deleted_lt := new.deleted_lt
      live_undeleted := new.live_undeleted
      dead_deleted := new.dead_deleted
      counter := by
        show int32 (c.m_streamCounter + 1) = int32 ((c.opened + 1 : Nat) : Int)
        rw [wf.counter, int32_add]
        rfl }

theorem change (move : Change c c') (wf : c.Wf) : c'.Wf := by
  cases move with
  | same frame => exact wf.same frame
  | abandon s => exact wf.withNew s
  | discard s => exact wf.discard s
  | store s => exact wf.stored s
  | erase entry => exact wf.erased entry

/-- **Every call keeps `Wf`.** -/
theorem exec {call : Call} {r : Reply} (wf : c.Wf) (ran : c.exec call = .ok (r, c')) : c'.Wf := by
  rcases exec_cases ran with ⟨id, q, -, lookup⟩ | ⟨-, chain⟩
  · rcases onStream_cases lookup with ⟨-, -, -, rfl⟩ | ⟨-, ⟨-, rfl, -⟩ | ⟨h, s, -, live, -, rfl⟩⟩
    · exact wf
    · exact wf.touched id
    · exact wf.same (put_same live _)
  · exact keeps_of_changes (fun _ _ => change) chain wf

end Wf

/-- `Wf` holds in every state a run reaches. -/
theorem wf_reached {devices : List DeviceInfo} {calls : List Call} :
    ∀ c ∈ Run.reached exec (fresh devices) calls, c.Wf :=
  Run.reached_of_preserved (wf_fresh devices) fun _ _ _ _ ran wf => wf.exec ran

/-- In a well-formed context the counter is the number of streams stored, while that is an
`int32_t`. -/
theorem Wf.counter_eq {c : Context} (wf : c.Wf) (few : c.opened < 2 ^ 31) :
    c.m_streamCounter = c.opened := by
  rw [wf.counter, int32_of_bounds] <;> omega

/-! ## No call uses a deleted object -/

section UseAfterFree

variable {c : Context}

theorem deref_not_useAfterFree (wf : c.Wf) {id : Int} {p : Ptr}
    (stored : c.m_streams.lookup id = some p) : c.deref p ≠ .error .useAfterFree := by
  cases p with
  | none => simp [deref]
  | some h =>
      obtain ⟨s, live⟩ := Option.ne_none_iff_exists'.1 (wf.stored_live id h stored)
      simp [deref, live]

theorem onStream_not_useAfterFree {α : Type} (wf : c.Wf) (rejectNegative : Bool) (id : Int)
    (unknown : α) (act : Stream → α × Stream) :
    onStream rejectNegative c id unknown act ≠ .error .useAfterFree := by
  unfold onStream
  split
  · simp
  · cases stored : c.m_streams.lookup id with
    | none => simp [subscript_of_none none stored]
    | some p =>
        rw [subscript_of_some none stored]
        cases p with
        | none => simp
        | some h =>
            obtain ⟨s, live⟩ := Option.ne_none_iff_exists'.1 (wf.stored_live id h stored)
            simp [live]

/-- The polling keeps `Wf` and asks only through `operator[]`. -/
theorem probePoll_not_useAfterFree (wf : c.Wf) (id : Int) (timeoutMs : UInt32)
    (arrivals : List (List Delivery)) (waited : UInt32) :
    probePoll id timeoutMs arrivals waited c ≠ .error .useAfterFree := by
  induction arrivals generalizing c waited with
  | nil =>
      simp only [probePoll]
      split <;> simp
  | cons arrived arrivals ih =>
      simp only [probePoll]
      have slept := wf.same (deliverAll_same c arrived)
      split
      · split
        · rename_i polled
          intro stopped
          cases stopped
          exact onStream_not_useAfterFree slept true id false _ polled
        · simp
        · rename_i after polled
          have asked : (arrived.foldl deliver c).exec (.query id .hasNewFrame) =
              .ok (.flag false, after) := by
            simp only [Context.exec, query, polled, reply]
          exact ih (slept.exec asked) _
      · simp

theorem reply_not_useAfterFree {α : Type} (f : α → Reply) {result : Except Stop (α × Context)}
    (safe : result ≠ .error .useAfterFree) : reply f result ≠ .error .useAfterFree := by
  rcases result with stop | ⟨a, c⟩
  · simpa [reply] using safe
  · simp [reply]

/-- Opening and closing always return. -/
theorem openStream_returns (c : Context) (id formatID : UInt32) (platform : PlatformOpen)
    (stop : Stop) : c.openStream id formatID platform ≠ .error stop := by
  unfold openStream
  split
  · simp
  · cases platform <;> simp

theorem openStreamRaw_returns (c : Context) (id formatID : UInt32) (platform : PlatformOpen)
    (stop : Stop) : c.openStreamRaw id formatID platform ≠ .error stop := by
  unfold openStreamRaw
  split
  · simp
  · split
    · simp
    · cases platform <;> simp

theorem closeStream_returns (c : Context) (streamID : Int) (stop : Stop) :
    c.closeStream streamID ≠ .error stop := by
  unfold closeStream
  split <;> simp

theorem probeDevice_not_useAfterFree (wf : c.Wf) (id formatID timeoutMs : UInt32)
    (platform : PlatformOpen) (arrivals : List (List Delivery)) :
    c.probeDevice id formatID timeoutMs platform arrivals ≠ .error .useAfterFree := by
  unfold probeDevice
  simp only
  split
  · rename_i stopped
    exact absurd stopped (openStream_returns c id formatID platform _)
  · rename_i streamID after openRan
    have opened := Wf.change (openStream_change openRan) wf
    split
    · simp
    · split
      · rename_i stopped
        rintro ⟨⟩
        exact probePoll_not_useAfterFree opened streamID _ arrivals 0 stopped
      · split
        · rename_i stopped
          exact absurd stopped (closeStream_returns _ streamID _)
        · simp

/-- **No use after free.**  In a well-formed context no call uses a deleted object. -/
theorem exec_not_useAfterFree (wf : c.Wf) (call : Call) : c.exec call ≠ .error .useAfterFree := by
  cases call with
  | query id q =>
      rw [show c.exec (.query id q) = c.query id q from rfl, query_eq]
      exact onStream_not_useAfterFree wf _ id _ _
  | deliver d => simp [Context.exec]
  | openStream id formatID platform =>
      exact reply_not_useAfterFree _ (openStream_returns c id formatID platform _)
  | openStreamRaw id formatID platform =>
      exact reply_not_useAfterFree _ (openStreamRaw_returns c id formatID platform _)
  | closeStream streamID =>
      exact reply_not_useAfterFree _ (closeStream_returns c streamID _)
  | isOpenStream streamID =>
      refine reply_not_useAfterFree _ ?_
      unfold isOpenStream
      split
      · simp
      · split
        · simp
        · rename_i p stored
          have safe := deref_not_useAfterFree wf stored
          split <;> simp_all
  | isDeviceStillConnected streamID connected =>
      refine reply_not_useAfterFree _ ?_
      unfold isDeviceStillConnected
      split
      · simp
      · rename_i p stored
        have safe := deref_not_useAfterFree wf stored
        split <;> simp_all
  | refreshDevices found answer => simp [Context.exec, reply, refreshDevices]
  | probeDevice id formatID timeoutMs platform arrivals =>
      exact reply_not_useAfterFree _ (probeDevice_not_useAfterFree wf id formatID timeoutMs platform arrivals)

end UseAfterFree

end Context

end OpenpnpCapture.Common
