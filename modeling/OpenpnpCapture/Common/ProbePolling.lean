/-
# Common.ProbePolling — does the polling of `probeDevice` end?

The loop runs `while (waited < timeoutMs)` and adds 50 to the `uint32_t` `waited` after each
sleep.  The last 45 timeouts lie above the greatest multiple of 50, so `waited` wraps before
it gets there and the waiting starts over; for `0xFFFFFFFF` it never reaches the timeout, since
it stays even (`probePoll_waits_forever`).

A poll of the stream just opened changes nothing, so a frame once there is found by the next
poll.  `probeDevice_returns_iff` is the exact condition for returning in time.
-/
import OpenpnpCapture.Common.ContextInvariant

namespace OpenpnpCapture.Common

open OpenpnpCapture.Lib OpenpnpCapture.Lib.StdMap

set_option autoImplicit false

namespace Context

/-- The timeout that `probeDevice` uses. -/
def effectiveTimeout (timeoutMs : UInt32) : UInt32 :=
  if timeoutMs = 0 then 2000 else timeoutMs

/-- The sleeps of 50 ms that a timeout takes, rounded up. -/
def pollsFor (timeoutMs : UInt32) : Nat :=
  (timeoutMs.toNat + 49) / 50

/-- The next poll finds a frame. -/
def FrameWaiting (c : Context) (streamID : Int) : Prop :=
  ∃ c', c.hasNewFrame streamID = .ok (true, c')

/-- After the first `sleeps` sleeps. -/
def slept (c : Context) (arrivals : Nat → List Delivery) (sleeps : Nat) : Context :=
  ((List.range sleeps).flatMap arrivals).foldl deliver c

/-! ## One poll -/

section Polling

variable {c : Context} {streamID : Int}

/-- A poll of a stored id returns and changes nothing. -/
theorem hasNewFrame_returns (wf : c.Wf) (present : streamID ∈ c.m_streams) :
    ∃ new, c.hasNewFrame streamID = .ok (new, c) := by
  obtain ⟨p, stored⟩ := Finmap.mem_iff.1 present
  unfold hasNewFrame onStream
  split
  · exact ⟨false, rfl⟩
  · rw [subscript_of_some none stored]
    cases p with
    | none => exact ⟨false, rfl⟩
    | some h =>
        obtain ⟨s, live⟩ := Option.ne_none_iff_exists'.1 (wf.stored_live streamID h stored)
        refine ⟨s.hasNewFrame, ?_⟩
        simp only [live, put]
        rw [← live, Function.update_eq_self]

/-- The same after a sleep. -/
theorem sleep_poll (wf : c.Wf) (present : streamID ∈ c.m_streams) (arrived : List Delivery) :
    (arrived.foldl deliver c).Wf ∧ streamID ∈ (arrived.foldl deliver c).m_streams ∧
      ∃ new, (arrived.foldl deliver c).hasNewFrame streamID = .ok (new, arrived.foldl deliver c) := by
  have same := deliverAll_same c arrived
  have present' : streamID ∈ (arrived.foldl deliver c).m_streams := same.m_streams ▸ present
  exact ⟨wf.same same, present', hasNewFrame_returns (wf.same same) present'⟩

/-- A frame is found in the stream stored under the id. -/
theorem FrameWaiting.stream (waiting : FrameWaiting c streamID) :
    ∃ h s, c.m_streams.lookup streamID = some (some h) ∧ c.heap h = some s ∧
      s.m_newFrame = true := by
  obtain ⟨c', found⟩ := waiting
  rcases onStream_cases found with ⟨-, -, unknown, -⟩ | ⟨-, ⟨unknown, -, -⟩ | ⟨h, s, stored, live, new, -⟩⟩
  · cases unknown
  · cases unknown
  · exact ⟨h, s, stored, live, new.symm⟩

/-- The polling comes to an end, or is still going on when the given arrivals are used up. -/
theorem probePoll_ends (wf : c.Wf) (present : streamID ∈ c.m_streams)
    (timeoutMs waited : UInt32) (arrivals : List (List Delivery)) :
    (∃ result, probePoll streamID timeoutMs arrivals waited c = .ok result) ∨
      probePoll streamID timeoutMs arrivals waited c = .error .polling := by
  induction arrivals generalizing c waited with
  | nil =>
      unfold probePoll
      split
      · exact Or.inr rfl
      · exact Or.inl ⟨_, rfl⟩
  | cons arrived arrivals ih =>
      obtain ⟨wf', present', new, poll⟩ := sleep_poll wf present arrived
      unfold probePoll
      split
      · rw [poll]
        cases new with
        | true => exact Or.inl ⟨_, rfl⟩
        | false => exact ih wf' present' (waited + 50)
      · exact Or.inl ⟨_, rfl⟩

/-- The polling returns exactly if some number of sleeps reaches the timeout or brings a frame. -/
theorem probePoll_returns_iff (wf : c.Wf) (present : streamID ∈ c.m_streams)
    (timeoutMs waited : UInt32) (arrivals : List (List Delivery)) :
    (∃ result, probePoll streamID timeoutMs arrivals waited c = .ok result) ↔
      ∃ sleeps ≤ arrivals.length, timeoutMs ≤ waited + 50 * .ofNat sleeps ∨
        0 < sleeps ∧ FrameWaiting ((arrivals.take sleeps).flatten.foldl deliver c) streamID := by
  have start (waited : UInt32) : waited + 50 * .ofNat 0 = waited := UInt32.add_zero waited
  induction arrivals generalizing c waited with
  | nil =>
      unfold probePoll
      split
      · rename_i running
        refine iff_of_false ?_ ?_
        · rintro ⟨result, ran⟩
          cases ran
        · rintro ⟨sleeps, atMost, timeout | ⟨some_sleep, -⟩⟩
          · obtain rfl := Nat.le_zero.1 atMost
            exact absurd running (UInt32.not_lt.2 (start waited ▸ timeout))
          · exact absurd atMost (Nat.not_le.2 some_sleep)
      · rename_i timeout
        refine iff_of_true ⟨_, rfl⟩ ⟨0, Nat.le_refl 0, Or.inl ?_⟩
        rw [start]
        exact UInt32.not_lt.1 timeout
  | cons arrived arrivals ih =>
      obtain ⟨wf', present', new, poll⟩ := sleep_poll wf present arrived
      have next (sleeps : Nat) :
          waited + 50 + 50 * .ofNat sleeps = waited + 50 * .ofNat (sleeps + 1) := by
        rw [UInt32.ofNat_add, UInt32.mul_add, UInt32.add_assoc]
        exact congrArg (waited + ·) (UInt32.add_comm _ _)
      have taken (sleeps : Nat) :
          ((arrived :: arrivals).take (sleeps + 1)).flatten.foldl deliver c =
            (arrivals.take sleeps).flatten.foldl deliver (arrived.foldl deliver c) := by
        rw [List.take_succ_cons, List.flatten_cons, List.foldl_append]
      unfold probePoll
      split
      · rename_i running
        rw [poll]
        cases new with
        | true =>
            refine iff_of_true ⟨_, rfl⟩ ⟨1, by simp, Or.inr ⟨Nat.one_pos, ?_⟩⟩
            rw [taken]
            exact ⟨_, poll⟩
        | false =>
            refine (ih wf' present' (waited + 50)).trans ?_
            simp only [next, ← taken, List.length_cons]
            constructor
            · rintro ⟨sleeps, atMost, timeout | ⟨-, waiting⟩⟩
              · exact ⟨sleeps + 1, Nat.succ_le_succ atMost, Or.inl timeout⟩
              · exact ⟨sleeps + 1, Nat.succ_le_succ atMost, Or.inr ⟨sleeps.succ_pos, waiting⟩⟩
            · rintro ⟨_ | sleeps, atMost, timeout | ⟨some_sleep, waiting⟩⟩
              · exact absurd running (UInt32.not_lt.2 (start waited ▸ timeout))
              · exact absurd some_sleep (Nat.lt_irrefl 0)
              · exact ⟨sleeps, Nat.le_of_succ_le_succ atMost, Or.inl timeout⟩
              · refine ⟨sleeps, Nat.le_of_succ_le_succ atMost, Or.inr ⟨?_, waiting⟩⟩
                rcases Nat.eq_zero_or_pos sleeps with rfl | later
                · rw [taken] at waiting
                  obtain ⟨_, found⟩ := waiting
                  simp [poll] at found
                · exact later
      · rename_i timeout
        refine iff_of_true ⟨_, rfl⟩ ⟨0, Nat.zero_le _, Or.inl ?_⟩
        rw [start]
        exact UInt32.not_lt.1 timeout

end Polling

/-! ## The whole call -/

theorem waited_toNat (sleeps : Nat) : ((0 : UInt32) + 50 * .ofNat sleeps).toNat = 50 * sleeps % 2 ^ 32 := by
  rw [UInt32.zero_add, UInt32.toNat_mul, UInt32.toNat_ofNat']
  exact Nat.mul_mod_mod 50 sleeps (2 ^ 32)

/-- The sleeps meant for a timeout reach it exactly if the last multiple of 50 does. -/
theorem timeout_reached_iff (timeoutMs : UInt32) :
    (∃ sleeps ≤ pollsFor timeoutMs, timeoutMs ≤ 0 + 50 * .ofNat sleeps) ↔
      timeoutMs ≤ 4294967250 := by
  have bound := timeoutMs.toNat_lt
  simp only [UInt32.le_iff_toNat_le, waited_toNat, pollsFor]
  have last : (4294967250 : UInt32).toNat = 4294967250 := rfl
  rw [last]
  constructor
  · rintro ⟨sleeps, atMost, timeout⟩
    by_contra above
    rcases Nat.lt_or_ge sleeps 85899346 with early | wrapped
    · have below := Nat.mod_le (50 * sleeps) (2 ^ 32)
      omega
    · obtain rfl : sleeps = 85899346 := by omega
      omega
  · intro timeout
    exact ⟨(timeoutMs.toNat + 49) / 50, Nat.le_refl _, by omega⟩

/-- `probeDevice` returns exactly if it opens no stream or its polling returns. -/
theorem probeDevice_returns_iff_poll {c : Context} (id formatID timeoutMs : UInt32)
    (platform : PlatformOpen) (arrivals : List (List Delivery)) :
    (∃ result, c.probeDevice id formatID timeoutMs platform arrivals = .ok result) ↔
      ∀ streamID opened, c.openStream id formatID platform = .ok (streamID, opened) →
        0 ≤ streamID →
          ∃ result, probePoll streamID (effectiveTimeout timeoutMs) arrivals 0 opened = .ok result := by
  unfold probeDevice
  cases openRan : c.openStream id formatID platform with
  | error stop => exact absurd openRan (openStream_returns c id formatID platform stop)
  | ok result =>
      obtain ⟨streamID, opened⟩ := result
      by_cases negative : streamID < 0
      · simp only [if_pos negative]
        refine iff_of_true ⟨_, rfl⟩ fun _ _ same nonneg => ?_
        cases same
        exact absurd negative (Int.not_lt.2 nonneg)
      · simp only [if_neg negative]
        constructor
        · rintro ⟨result, ran⟩ _ _ same -
          cases same
          unfold effectiveTimeout
          cases polled : probePoll streamID (if timeoutMs = 0 then 2000 else timeoutMs) arrivals 0
              opened with
          | error stop =>
              rw [polled] at ran
              cases ran
          | ok result => exact ⟨result, rfl⟩
        · intro returns
          obtain ⟨⟨gotFrame, polled⟩, pollRan⟩ := returns _ _ rfl (Int.not_lt.1 negative)
          unfold effectiveTimeout at pollRan
          rw [pollRan]
          cases closeRan : polled.closeStream streamID with
          | error stop => exact absurd closeRan (closeStream_returns polled streamID stop)
          | ok result => exact ⟨(gotFrame, result.2), by simp only [closeRan]⟩

/-- `probeDevice` returns, or is still polling when the given arrivals are used up. -/
theorem probeDevice_ends {c : Context} (wf : c.Wf) (id formatID timeoutMs : UInt32)
    (platform : PlatformOpen) (arrivals : List (List Delivery)) :
    (∃ result, c.probeDevice id formatID timeoutMs platform arrivals = .ok result) ∨
      c.probeDevice id formatID timeoutMs platform arrivals = .error .polling := by
  rw [probeDevice_returns_iff_poll]
  by_cases returns : ∀ streamID opened, c.openStream id formatID platform = .ok (streamID, opened) →
      0 ≤ streamID →
        ∃ result, probePoll streamID (effectiveTimeout timeoutMs) arrivals 0 opened = .ok result
  · exact Or.inl returns
  · simp only [not_forall] at returns
    obtain ⟨streamID, opened, openRan, nonneg, waits⟩ := returns
    have wf' := Wf.change (openStream_change openRan) wf
    have polling := (probePoll_ends wf' (openStream_mem openRan nonneg) _ 0 arrivals).resolve_left
      waits
    unfold effectiveTimeout at polling
    refine Or.inr ?_
    unfold probeDevice
    simp only [openRan, if_neg (Int.not_lt.2 nonneg), polling]

/-- In every reachable context `probeDevice` returns within the sleeps meant for its timeout exactly
if it opens no stream, or the timeout is at most the last multiple of 50 ms, or a frame arrives. -/
theorem probeDevice_returns_iff {devices : List DeviceInfo} {calls : List Call} {c : Context}
    (reached : c ∈ Run.reached exec (fresh devices) calls) (id formatID timeoutMs : UInt32)
    (platform : PlatformOpen) (arrivals : Nat → List Delivery) :
    (∃ result, c.probeDevice id formatID timeoutMs platform
        ((List.range (pollsFor (effectiveTimeout timeoutMs))).map arrivals) = .ok result) ↔
      ∀ streamID opened, c.openStream id formatID platform = .ok (streamID, opened) →
        0 ≤ streamID →
          effectiveTimeout timeoutMs ≤ 4294967250 ∨
            ∃ sleeps ≤ pollsFor (effectiveTimeout timeoutMs), 0 < sleeps ∧
              FrameWaiting (opened.slept arrivals sleeps) streamID := by
  rw [probeDevice_returns_iff_poll]
  refine forall_congr' fun streamID => forall_congr' fun opened => forall_congr' fun openRan =>
    forall_congr' fun nonneg => ?_
  have wf := Wf.change (openStream_change openRan) (wf_reached c reached)
  rw [probePoll_returns_iff wf (openStream_mem openRan nonneg), ← timeout_reached_iff, ← exists_or]
  simp only [List.length_map, List.length_range, ← List.map_take, List.take_range]
  refine exists_congr fun sleeps => ?_
  rw [← and_or_left]
  refine and_congr_right fun atMost => ?_
  rw [Nat.min_eq_left atMost, slept, List.flatMap]

/-- A context with one device of one format. -/
def oneDevice : Context :=
  fresh [⟨[⟨1, 1, 0, 30, 24⟩]⟩]

theorem probeDevice_returns_without_frames :
    ∃ result, oneDevice.probeDevice 0 0 5000 (.opened 1 1 3)
      ((List.range 100).map fun _ => []) = .ok result :=
  (@probeDevice_returns_iff _ [] _ (List.mem_singleton.2 rfl) 0 0 5000 (.opened 1 1 3)
    fun _ => []).2 fun _ _ _ _ => Or.inl (by decide)

/-- Without frames a timeout of `0xFFFFFFFF` is never reached: `waited` stays even. -/
theorem probePoll_waits_forever {c : Context} {streamID : Int} (wf : c.Wf)
    (present : streamID ∈ c.m_streams) (quiet : ¬ FrameWaiting c streamID) (sleeps : Nat) :
    ¬ ∃ result, probePoll streamID 0xFFFFFFFF (List.replicate sleeps []) 0 c = .ok result := by
  rw [probePoll_returns_iff wf present]
  rintro ⟨done, -, timeout | ⟨-, waiting⟩⟩
  · rw [UInt32.le_iff_toNat_le, waited_toNat] at timeout
    have most : (0xFFFFFFFF : UInt32).toNat = 4294967295 := rfl
    omega
  · rw [List.take_replicate, List.flatten_replicate_nil] at waiting
    exact quiet waiting

theorem probeDevice_never_returns :
    ¬ ∃ sleeps, oneDevice.probeDevice 0 0 0xFFFFFFFF (.opened 1 1 3) (List.replicate sleeps []) ≠
      .error .polling := by
  rintro ⟨sleeps, stops⟩
  have returned := (probeDevice_ends (wf_fresh _) 0 0 0xFFFFFFFF (.opened 1 1 3) _).resolve_right
    stops
  have polled := (probeDevice_returns_iff_poll 0 0 0xFFFFFFFF (.opened 1 1 3) _).1 returned 0 _ rfl
    (Int.le_refl 0)
  have openRan : oneDevice.openStream 0 0 (.opened 1 1 3) = .ok (0, _) := rfl
  refine probePoll_waits_forever (Wf.change (openStream_change openRan) (wf_fresh _))
    (openStream_mem openRan (Int.le_refl 0)) ?_ sleeps polled
  intro waiting
  obtain ⟨h, s, stored, live, new⟩ := waiting.stream
  obtain rfl : 0 = h := Option.some.inj (Option.some.inj stored)
  obtain rfl := Option.some.inj live
  cases new

end Context

end OpenpnpCapture.Common
