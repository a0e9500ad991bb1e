/-
# Common.StreamIds — null entries and the id counter

A lookup with `operator[]` of an id that is no key leaves a null entry behind.  Two things
go wrong from there: `isOpenStream` and `isDeviceStillConnected` dereference what `find`
located, and `storeStream` inserts under the counter, where `insert` keeps an entry that is
already there.

* `nullFree_iff`: a run keeps the map free of null entries exactly if each of its lookups
  with `operator[]` names a key or is refused for a negative id.
* `openPromise_iff`: each open of a run stores its stream under the id it returns exactly if
  no open finds the counter among the keys.
* `openPromise_of_known`: the first condition implies the second.
-/
import OpenpnpCapture.Common.ContextInvariant

namespace OpenpnpCapture.Common

open OpenpnpCapture.Lib OpenpnpCapture.Lib.StdMap

set_option autoImplicit false

namespace Context

/-! ## Null entries -/

/-- No entry holds the null pointer, and no `find` lookup dereferences it. -/
structure NullFree (c : Context) : Prop where
  entries : ∀ id, c.m_streams.lookup id ≠ some none
  isOpenStream : ∀ id, c.isOpenStream id ≠ .error .nullDereference
  isDeviceStillConnected : ∀ id connected,
    c.isDeviceStillConnected id connected ≠ .error .nullDereference

/-- A lookup with `operator[]` that its own check refuses, or that names a key; every other call. -/
def Known (c : Context) : Call → Prop
  | .query id q => (q.rejectsNegative = true ∧ id < 0) ∨ id ∈ c.m_streams
  | _ => True

section NullEntries

variable {c c' : Context}

theorem deref_not_null {p : Ptr} (nonnull : p ≠ none) : c.deref p ≠ .error .nullDereference := by
  cases p with
  | none => exact absurd rfl nonnull
  | some h =>
      unfold deref
      cases live : c.heap h <;> simp [live]

/-- The two dereferences are safe once the entries are. -/
theorem nullFree_of_entries (entries : ∀ id, c.m_streams.lookup id ≠ some none) : c.NullFree := by
  have nonnull : ∀ id p, c.m_streams.lookup id = some p → p ≠ none := by
    rintro id p stored rfl
    exact entries id stored
  refine ⟨entries, fun id => ?_, fun id connected => ?_⟩
  · unfold Context.isOpenStream
    split
    · simp
    · split
      · simp
      · rename_i p stored
        have safe := deref_not_null (c := c) (nonnull id p stored)
        split
        · rename_i stop failed
          rintro ⟨⟩
          exact safe failed
        · simp
  · unfold Context.isDeviceStillConnected
    split
    · simp
    · rename_i p stored
      have safe := deref_not_null (c := c) (nonnull id p stored)
      split
      · rename_i stop failed
        rintro ⟨⟩
        exact safe failed
      · simp

theorem nullFree_fresh (devices : List DeviceInfo) : (fresh devices).NullFree :=
  nullFree_of_entries fun id => by simp [fresh]

theorem NullFree.of_same_map (free : c.NullFree) (same : c'.m_streams = c.m_streams) : c'.NullFree :=
  nullFree_of_entries fun id => same ▸ free.entries id

theorem NullFree.change (move : Change c c') (free : c.NullFree) : c'.NullFree := by
  cases move with
  | same frame => exact free.of_same_map frame.m_streams
  | abandon s => exact free.of_same_map rfl
  | discard s => exact free.of_same_map rfl
  | store s =>
      refine nullFree_of_entries fun id null => ?_
      rcases lookup_insertNew_cases null with before | ⟨-, inserted, -⟩
      · exact free.entries id before
      · cases inserted
  | @erase id p stored =>
      exact nullFree_of_entries fun id' null => free.entries id' (lookup_erase_some.1 null).2

/-- An evaluated `m_streams[id]` adds no null entry exactly if `id` is a key. -/
theorem nullFree_touched_iff (free : c.NullFree) (id : Int) :
    (c.touched id).NullFree ↔ id ∈ c.m_streams := by
  constructor
  · intro after
    by_contra absent
    exact after.entries id (lookup_insertNew_self absent none)
  · intro present
    rw [touched_of_mem present]
    exact free

/-- One call keeps the map free of null entries exactly if it is `Known`. -/
theorem nullFree_exec_iff {call : Call} {r : Reply} (ran : c.exec call = .ok (r, c'))
    (free : c.NullFree) : c'.NullFree ↔ c.Known call := by
  rcases exec_cases ran with ⟨id, q, rfl, lookup⟩ | ⟨other, chain⟩
  · rcases onStream_cases lookup with ⟨rejects, negative, -, rfl⟩ |
      ⟨checked, ⟨-, rfl, -⟩ | ⟨h, s, stored, -, -, rfl⟩⟩
    · exact iff_of_true free (Or.inl ⟨rejects, negative⟩)
    · rw [nullFree_touched_iff free]
      exact ⟨Or.inr, fun known => known.resolve_left checked⟩
    · exact iff_of_true (free.of_same_map rfl) (Or.inr (Finmap.mem_of_lookup_eq_some stored))
  · refine iff_of_true (keeps_of_changes (fun _ _ => NullFree.change) chain free) ?_
    cases call with
    | query id q => exact absurd rfl (other id q)
    | _ => trivial

end NullEntries

/-- **When no entry is null.**  In every run from a fresh context: exactly when each lookup with
`operator[]` names a key of the map, or is refused for a negative id. -/
theorem nullFree_iff (devices : List DeviceInfo) (calls : List Call) :
    (∀ c ∈ Run.reached exec (fresh devices) calls, c.NullFree) ↔
      ∀ e ∈ Run.trace exec (fresh devices) calls, e.pre.Known e.input :=
  Run.reached_iff_trace (J := fun _ => True) trivial (nullFree_fresh devices)
    (fun _ _ _ _ _ _ => trivial) (fun _ _ _ _ ran _ free => nullFree_exec_iff ran free) calls

/-- Asking an id that was never issued for a new frame, then whether it is open. -/
theorem nullFree_fails_on_unknown_id :
    (¬ ∀ c ∈ Run.reached exec (fresh []) [.query 5 .hasNewFrame], c.NullFree) ∧
      Run.replies exec (fresh []) [.query 5 .hasNewFrame, .isOpenStream 5] =
        [.ok (.flag false), .error .nullDereference] := by
  refine ⟨fun all => ?_, rfl⟩
  have after : (fresh []).touched 5 ∈ Run.reached exec (fresh []) [.query 5 .hasNewFrame] :=
    List.mem_cons_of_mem _ List.mem_cons_self
  exact (all _ after).entries 5 rfl

/-! ## The id an open returns -/

/-- The context `c'` after an open that returned `id` on `c`: the id stores the object just
created, calls on the id act on that object, and every other id that stored a stream still does,
with the stream unchanged. -/
structure OpenedAs (c : Context) (id : Int) (c' : Context) : Prop where
  new : c.heap c.next = none
  stored : c'.m_streams.lookup id = some (some c.next)
  acts : ∃ s, c'.heap c.next = some s ∧ s.isOpen = true ∧
    ∀ q, c'.query id q = .ok ((q.act s).1, c'.put c.next (q.act s).2)
  closes : c'.closeStream id = .ok (true, c'.erased id (some c.next))
  others : ∀ id' h, c.m_streams.lookup id' = some (some h) →
    id' ≠ id ∧ c'.m_streams.lookup id' = some (some h) ∧ c'.heap h = c.heap h

/-- The calls that hand out a stream id. -/
def opens : Call → Bool
  | .openStream _ _ _ | .openStreamRaw _ _ _ => true
  | _ => false

/-- The calls that store a stream: the device and the format exist, and the platform opens it. -/
def Stores (c : Context) : Call → Prop
  | .openStream id formatID platform | .probeDevice id formatID _ platform _ =>
      (c.format? id formatID).isSome = true ∧ platform ≠ .failed
  | .openStreamRaw id formatID platform => c.RawFormat id formatID ∧ platform ≠ .failed
  | _ => False

/-- With fewer than 2^31 streams opened before, an open that returns an id opened that stream. -/
def OpenPromise (e : Run.Entry Context Call Reply) : Prop :=
  opens e.input = true → ∀ id, e.output = .streamID id → 0 ≤ id → e.pre.opened < 2 ^ 31 →
    OpenedAs e.pre id e.post

/-- If the open stores a stream, the counter is no key. -/
def CounterFree (c : Context) (call : Call) : Prop :=
  opens call = true → Stores c call → c.opened < 2 ^ 31 → c.m_streamCounter ∉ c.m_streams

section OpenIds

variable {c c' : Context}

/-- An id that stores a live stream is answered by that stream. -/
theorem query_stored {id : Int} {h : Handle} {s : Stream} (nonneg : 0 ≤ id)
    (stored : c.m_streams.lookup id = some (some h)) (live : c.heap h = some s) (q : StreamQuery) :
    c.query id q = .ok ((q.act s).1, c.put h (q.act s).2) := by
  have checked : ¬ (q.rejectsNegative = true ∧ id < 0) := by omega
  rw [query_live stored live, if_neg checked]

theorem closeStream_stored {id : Int} {p : Ptr} (nonneg : 0 ≤ id)
    (stored : c.m_streams.lookup id = some p) :
    c.closeStream id = .ok (true, c.erased id p) := by
  rw [closeStream, if_neg (by omega), removeStream, stored]
  cases p <;> rfl

/-- `storeStream` reaches its new object under the id it returns exactly if the id was no key. -/
theorem openedAs_store_iff (wf : c.Wf) {s : Stream} (isOpen : s.m_isOpen = true)
    (nonneg : 0 ≤ c.m_streamCounter) :
    OpenedAs c c.m_streamCounter ((c.withNew s).storeStream c.next).2 ↔
      c.m_streamCounter ∉ c.m_streams := by
  constructor
  · intro promise present
    -- `insert` kept the entry that was there, and no entry stores a new object
    have kept : c.m_streams.lookup c.m_streamCounter = some (some c.next) := by
      have stored := promise.stored
      rwa [show ((c.withNew s).storeStream c.next).2.m_streams = c.m_streams from
        insertNew_of_mem present _] at stored
    exact wf.next_unstored _ kept
  · intro absent
    have stored : ((c.withNew s).storeStream c.next).2.m_streams.lookup c.m_streamCounter =
        some (some c.next) := lookup_insertNew_self absent _
    have live : ((c.withNew s).storeStream c.next).2.heap c.next = some s := by
      simp [storeStream, withNew]
    refine ⟨wf.next_dead, stored, ⟨s, live, isOpen, query_stored nonneg stored live⟩,
      closeStream_stored nonneg stored, ?_⟩
    intro id' h before
    have old : h ≠ c.next := fun new => wf.next_unstored id' (new ▸ before)
    refine ⟨?_, lookup_insertNew_of_some before, Function.update_of_ne old _ _⟩
    rintro rfl
    exact absent (Finmap.mem_of_lookup_eq_some before)

/-- A move that stored nothing returned -1; one that stored a stream returned the counter. -/
theorem openPromise_of_store {call : Call} (wf : c.Wf) {s : Stream} {id : Int}
    (opening : opens call = true) (stores : Stores c call) (isOpen : s.m_isOpen = true)
    (result : (id, c') = (c.withNew s).storeStream c.next) :
    OpenPromise ⟨c, call, .streamID id, c'⟩ ↔ CounterFree c call := by
  cases result
  constructor
  · intro promise _ _ few
    have nonneg : 0 ≤ c.m_streamCounter := by
      rw [wf.counter_eq few]
      omega
    exact (openedAs_store_iff wf isOpen nonneg).1 (promise opening _ rfl nonneg few)
  · rintro free - _ ⟨⟩ nonneg few
    exact (openedAs_store_iff wf isOpen nonneg).2 (free opening stores few)

theorem openPromise_of_refused {call : Call} (stores : ¬ Stores c call) :
    OpenPromise ⟨c, call, .streamID (-1), c'⟩ ↔ CounterFree c call := by
  refine iff_of_true ?_ fun _ stores' => absurd stores' stores
  rintro - _ ⟨⟩ nonneg
  exact absurd nonneg (by decide)

/-- One call keeps the promise exactly if it does not find the counter among the keys. -/
theorem openPromise_exec_iff {call : Call} {r : Reply} (ran : c.exec call = .ok (r, c'))
    (wf : c.Wf) : OpenPromise ⟨c, call, r, c'⟩ ↔ CounterFree c call := by
  cases call with
  | openStream id formatID platform =>
      obtain ⟨streamID, opened, rfl⟩ := reply_ok.1 ran
      rcases openStream_cases opened with ⟨unknown, rfl, -⟩ | ⟨-, failed, rfl, -⟩ |
        ⟨known, granted, s, -, isOpen, result⟩
      · exact openPromise_of_refused fun stores => by simp [Stores, unknown] at stores
      · exact openPromise_of_refused fun stores => stores.2 failed
      · exact openPromise_of_store wf rfl ⟨known, granted⟩ isOpen result
  | openStreamRaw id formatID platform =>
      obtain ⟨streamID, opened, rfl⟩ := reply_ok.1 ran
      rcases openStreamRaw_cases opened with ⟨refused, rfl, -⟩ | ⟨-, failed, rfl, -⟩ |
        ⟨raw, granted, s, -, isOpen, result⟩
      · exact openPromise_of_refused fun stores => refused stores.1
      · exact openPromise_of_refused fun stores => stores.2 failed
      · exact openPromise_of_store wf rfl ⟨raw, granted⟩ isOpen result
  | _ => exact iff_of_true (fun opening => nomatch opening) fun opening => nomatch opening

/-- The keys are ids handed out before. -/
def BelowCounter (c : Context) : Prop :=
  c.opened ≤ 2 ^ 31 → ∀ id ∈ c.m_streams, 0 ≤ id ∧ id < c.opened

theorem belowCounter_change (move : Change c c') (wf : c.Wf) (below : c.BelowCounter) :
    c'.BelowCounter := by
  cases move with
  | same frame =>
      intro few id present
      rw [frame.opened] at few ⊢
      exact below few id (frame.m_streams ▸ present)
  | abandon s => exact below
  | discard s => exact below
  | store s =>
      intro few id present
      have fewer : c.opened + 1 ≤ 2 ^ 31 := few
      show 0 ≤ id ∧ id < ((c.opened + 1 : Nat) : Int)
      rcases mem_insertNew.1 present with rfl | before
      · rw [show (c.withNew s).m_streamCounter = c.m_streamCounter from rfl,
          wf.counter_eq (by omega)]
        omega
      · have := below (by omega) id before
        omega
  | @erase id p stored =>
      intro few id' present
      have erased_few : c.opened ≤ 2 ^ 31 := by cases p <;> exact few
      have := below erased_few id' (Finmap.mem_erase.1 present).2
      cases p <;> exact this

theorem belowCounter_exec {call : Call} {r : Reply} (ran : c.exec call = .ok (r, c')) (wf : c.Wf)
    (known : c.Known call) (below : c.BelowCounter) : c'.BelowCounter := by
  rcases exec_cases ran with ⟨id, q, rfl, lookup⟩ | ⟨-, chain⟩
  · rcases onStream_cases lookup with ⟨-, -, -, rfl⟩ | ⟨checked, ⟨-, rfl, -⟩ | ⟨h, s, -, -, -, rfl⟩⟩
    · exact below
    · rw [touched_of_mem (known.resolve_left checked)]
      exact below
    · exact below
  · exact (keeps_of_changes (P := fun c => c.Wf ∧ c.BelowCounter)
      (fun _ _ move hold => ⟨Wf.change move hold.1, belowCounter_change move hold.1 hold.2⟩)
      chain ⟨wf, below⟩).2

end OpenIds

/-- **When an open stores its stream.**  In every run from a fresh context each open that returns
an id stored its stream under it, and left every other stream where it was, exactly when no open
found the counter among the keys. -/
theorem openPromise_iff (devices : List DeviceInfo) (calls : List Call) :
    (∀ e ∈ Run.trace exec (fresh devices) calls, OpenPromise e) ↔
      ∀ e ∈ Run.trace exec (fresh devices) calls, CounterFree e.pre e.input :=
  Run.trace_iff_trace (wf_fresh devices) (fun _ _ _ _ ran wf => wf.exec ran)
    (fun _ _ _ _ ran wf => openPromise_exec_iff ran wf) calls

/-- Lookups of known ids never create the key of a later stream. -/
theorem openPromise_of_known {devices : List DeviceInfo} {calls : List Call}
    (known : ∀ e ∈ Run.trace exec (fresh devices) calls, e.pre.Known e.input) :
    ∀ e ∈ Run.trace exec (fresh devices) calls, OpenPromise e := by
  have start : (fresh devices).Wf ∧ (fresh devices).BelowCounter :=
    ⟨wf_fresh devices, fun _ _ present => absurd present Finmap.notMem_empty⟩
  have hold : ∀ c ∈ Run.reached exec (fresh devices) calls, c.Wf ∧ c.BelowCounter := by
    refine Run.reached_invariant start fun e member hold => ?_
    have ran := Run.step_of_mem_trace member
    exact ⟨hold.1.exec ran, belowCounter_exec ran hold.1 (known e member) hold.2⟩
  intro e member
  obtain ⟨wf, below⟩ := hold e.pre (Run.pre_mem_reached member)
  refine (openPromise_exec_iff (Run.step_of_mem_trace member) wf).2 fun _ _ few present => ?_
  have := (below (by omega) _ present).2
  rw [wf.counter_eq few] at this
  omega

/-- Asking id 0 for a new frame before the first open: the open returns 0, and 0 has no stream. -/
theorem openPromise_fails_after_early_query :
    let devices : List DeviceInfo := [⟨[⟨1, 1, 0, 30, 24⟩]⟩]
    let calls : List Call := [.query 0 .hasNewFrame, .openStream 0 0 (.opened 1 1 3)]
    (¬ ∀ e ∈ Run.trace exec (fresh devices) calls, OpenPromise e) ∧
      Run.replies exec (fresh devices) (calls ++ [.query 0 (.setStreamFrameRate 30 true)]) =
        [.ok (.flag false), .ok (.streamID 0), .ok (.flag false)] := by
  intro devices calls
  refine ⟨fun all => ?_, rfl⟩
  have promise := all ⟨(fresh devices).touched 0, .openStream 0 0 (.opened 1 1 3), .streamID 0, _⟩
    (List.mem_cons_of_mem _ List.mem_cons_self)
  have stored := (promise rfl 0 rfl (by decide) (by decide)).stored
  exact absurd stored (by decide)

end Context

end OpenpnpCapture.Common
