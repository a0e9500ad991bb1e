/-
# Common.IssuedIds — the ids a run hands out

`storeStream` hands out the counter and goes on to the next; no id is taken back, and no lookup
changes the counter, not even one that adds a null entry under an id still to come.  So the ids of
a run are 0, 1, 2 and so on while the counter does not overflow, and an id stores a stream only
between the call that handed it out and the one that closes it.

`IdHistory` links the past of a run to its context: every stored stream has an id that was handed
out and not closed since.  `issued_ids_run` is what it says of a whole run.
-/
import OpenpnpCapture.Common.UnknownIds
import OpenpnpCapture.Common.ContextInvariant

namespace OpenpnpCapture.Common

open OpenpnpCapture.Lib OpenpnpCapture.Lib.StdMap

set_option autoImplicit false

namespace Context

/-- The id of the stream that an open stored, if it stored one. -/
def storedId (c : Context) : Except Stop (Int × Context) → Option Int
  | .ok (ID, c') => if c.opened < c'.opened then some ID else none
  | .error _ => none

/-- The id a call hands out; `probeDevice` opens a stream of its own. -/
def issuedId (c : Context) : Call → Option Int
  | .openStream id formatID platform | .probeDevice id formatID _ platform _ =>
      storedId c (c.openStream id formatID platform)
  | .openStreamRaw id formatID platform => storedId c (c.openStreamRaw id formatID platform)
  | _ => none

/-- The ids handed out in the steps of a run, in this order. -/
def issuedIds (steps : List (Run.Entry Context Call Reply)) : List Int :=
  steps.filterMap fun e => issuedId e.pre e.input

/-- The call closes the id: `probeDevice` the one it has opened. -/
def Closes (c : Context) (id : Int) : Call → Prop
  | .closeStream streamID => streamID = id
  | .probeDevice deviceID formatID _ platform _ =>
      storedId c (c.openStream deviceID formatID platform) = some id
  | _ => False

/-- The id was handed out and closed afterwards. -/
def Closed (past : List (Run.Entry Context Call Reply)) (id : Int) : Prop :=
  ∃ before e rest, past = before ++ e :: rest ∧ id ∈ issuedIds (before ++ [e]) ∧
    Closes e.pre id e.input

/-- No call on the id reaches a stream object: each has the outcome of an unknown id, or
dereferences the null pointer. -/
structure LeadsNowhere (c : Context) (id : Int) : Prop where
  notOpen : c.NotOpen id
  query : ∀ q, c.query id q =
    .ok (q.unknown, if q.rejectsNegative = true ∧ id < 0 then c else c.touched id)
  isOpenStream : c.isOpenStream id =
    if id < 0 ∨ id ∉ c.m_streams then .ok (0, c) else .error .nullDereference
  isDeviceStillConnected : ∀ connected, c.isDeviceStillConnected id connected =
    if id ∉ c.m_streams then .ok (false, c) else .error .nullDereference
  closeStream : ∃ closed c', c.closeStream id = .ok (closed, c') ∧ c'.heap = c.heap ∧
    c'.deleted = c.deleted

theorem query_notOpen {c : Context} {id : Int} (notOpen : c.NotOpen id) (q : StreamQuery) :
    c.query id q =
      .ok (q.unknown, if q.rejectsNegative = true ∧ id < 0 then c else c.touched id) :=
  (query_eq c id q).trans (Cap.onStream_notOpen notOpen _ _ _)

theorem leadsNowhere_of_notOpen {c : Context} {id : Int} (notOpen : c.NotOpen id) :
    LeadsNowhere c id where
  notOpen := notOpen
  query := query_notOpen notOpen
  isOpenStream := Cap.isOpenStream_notOpen notOpen
  isDeviceStillConnected := Cap.isDeviceStillConnected_notOpen notOpen
  closeStream := by
    unfold Context.closeStream
    split
    · exact ⟨false, c, rfl, rfl, rfl⟩
    · refine ⟨true, _, rfl, ?_⟩
      unfold removeStream
      cases stored : c.m_streams.lookup id with
      | none => exact ⟨rfl, rfl⟩
      | some p =>
          cases p with
          | none => exact ⟨rfl, rfl⟩
          | some h => exact absurd stored (notOpen h)

/-! ## One call -/

section Step

variable {c c' : Context} {id : Int}

/-- What an open does to the ids: it stores nothing, or a new object under the counter. -/
def StoreOutcome (c : Context) (opened : Except Stop (Int × Context)) (ID : Int) (c' : Context) :
    Prop :=
  (storedId c opened = none ∧ c'.opened = c.opened ∧ c'.m_streams = c.m_streams) ∨
    (storedId c opened = some c.m_streamCounter ∧ ID = c.m_streamCounter ∧
      c'.opened = c.opened + 1 ∧
      c'.m_streams = insertNew c.m_streams c.m_streamCounter (some c.next))

theorem storeOutcome_of_refused (opened : c'.opened = c.opened) (same : c'.m_streams = c.m_streams)
    (ID : Int) : StoreOutcome c (.ok (ID, c')) ID c' := by
  refine Or.inl ⟨?_, opened, same⟩
  rw [storedId, if_neg (by omega)]

theorem storeOutcome_of_stored {ID : Int} {s : Stream}
    (result : (ID, c') = (c.withNew s).storeStream c.next) : StoreOutcome c (.ok (ID, c')) ID c' := by
  cases result
  refine Or.inr ⟨?_, rfl, rfl, rfl⟩
  exact if_pos (Nat.lt_succ_self c.opened)

theorem openStream_storeOutcome {deviceID formatID : UInt32} {platform : PlatformOpen} {ID : Int}
    (ran : c.openStream deviceID formatID platform = .ok (ID, c')) :
    StoreOutcome c (c.openStream deviceID formatID platform) ID c' := by
  rw [ran]
  rcases openStream_cases ran with ⟨-, -, rfl⟩ | ⟨-, -, -, rfl⟩ | ⟨-, -, s, -, -, result⟩
  · exact storeOutcome_of_refused rfl rfl ID
  · exact storeOutcome_of_refused rfl rfl ID
  · exact storeOutcome_of_stored result

theorem openStreamRaw_storeOutcome {deviceID formatID : UInt32} {platform : PlatformOpen} {ID : Int}
    (ran : c.openStreamRaw deviceID formatID platform = .ok (ID, c')) :
    StoreOutcome c (c.openStreamRaw deviceID formatID platform) ID c' := by
  rw [ran]
  rcases openStreamRaw_cases ran with ⟨-, -, rfl⟩ | ⟨-, -, -, rfl⟩ | ⟨-, -, s, -, -, result⟩
  · exact storeOutcome_of_refused rfl rfl ID
  · exact storeOutcome_of_refused rfl rfl ID
  · exact storeOutcome_of_stored result

/-- After an open, a stored stream was stored before or is the new one. -/
theorem StoreOutcome.lookup {opened : Except Stop (Int × Context)} {ID : Int} {h : Handle}
    (outcome : StoreOutcome c opened ID c') (stored : c'.m_streams.lookup id = some (some h)) :
    c.m_streams.lookup id = some (some h) ∨ storedId c opened = some id := by
  rcases outcome with ⟨-, -, same⟩ | ⟨issued, -, -, inserted⟩
  · exact Or.inl (same ▸ stored)
  · rw [inserted] at stored
    rcases lookup_insertNew_cases stored with before | ⟨rfl, -, -⟩
    · exact Or.inl before
    · exact Or.inr issued

/-- A close adds no stream, and leaves none under its id. -/
theorem closeStream_lookup {streamID : Int} {closed : Bool}
    (ran : c.closeStream streamID = .ok (closed, c')) :
    c'.opened = c.opened ∧
      (∀ id h, c'.m_streams.lookup id = some (some h) → c.m_streams.lookup id = some (some h)) ∧
      (0 ≤ streamID → c'.m_streams.lookup streamID = none) := by
  rcases closeStream_cases ran with ⟨nothing, rfl⟩ | ⟨-, p, -, rfl⟩
  · refine ⟨rfl, fun _ _ stored => stored, fun nonneg => ?_⟩
    exact nothing.resolve_left (not_lt.2 nonneg)
  · refine ⟨by cases p <;> rfl, fun id h stored => (lookup_erase_some.1 stored).2, fun _ => ?_⟩
    exact Finmap.lookup_erase streamID c.m_streams

/-- What a call does to the ids: the number of streams stored grows with each id handed out, which
is the counter; a stream stored afterwards was stored before or has the new id, and the call
did not close it. -/
structure IdStep (c : Context) (call : Call) (c' : Context) : Prop where
  issued : issuedId c call = none ∧ c'.opened = c.opened ∨
    issuedId c call = some c.m_streamCounter ∧ c'.opened = c.opened + 1
  stored : ∀ id h, c'.m_streams.lookup id = some (some h) →
    c.m_streams.lookup id = some (some h) ∨ issuedId c call = some id
  open_ : ∀ id h, c'.m_streams.lookup id = some (some h) → 0 ≤ id → ¬ Closes c id call

/-- A call that hands out no id and closes nothing. -/
theorem idStep_of_kept {call : Call} (issued : issuedId c call = none)
    (opened : c'.opened = c.opened) (closes : ∀ id, ¬ Closes c id call)
    (kept : ∀ id h, c'.m_streams.lookup id = some (some h) → c.m_streams.lookup id = some (some h)) :
    IdStep c call c' where
  issued := Or.inl ⟨issued, opened⟩
  stored := fun id h stored => Or.inl (kept id h stored)
  open_ := fun id _ _ _ => closes id

theorem StoreOutcome.issued {opened : Except Stop (Int × Context)} {ID : Int}
    (outcome : StoreOutcome c opened ID c') :
    storedId c opened = none ∧ c'.opened = c.opened ∨
      storedId c opened = some c.m_streamCounter ∧ c'.opened = c.opened + 1 := by
  rcases outcome with ⟨issued, same, -⟩ | ⟨issued, -, more, -⟩
  · exact Or.inl ⟨issued, same⟩
  · exact Or.inr ⟨issued, more⟩

theorem idStep_probeDevice {deviceID formatID timeoutMs : UInt32} {platform : PlatformOpen}
    {arrivals : List (List Delivery)} {gotFrame : Bool}
    (ran : c.probeDevice deviceID formatID timeoutMs platform arrivals = .ok (gotFrame, c')) :
    IdStep c (.probeDevice deviceID formatID timeoutMs platform arrivals) c' := by
  obtain ⟨streamID, opened, openRan, outcome⟩ := probeDevice_cases ran
  have ids := openStream_storeOutcome openRan
  have own : ∀ id, storedId c (c.openStream deviceID formatID platform) = some id → id = streamID := by
    intro id issued
    rcases ids with ⟨none, -⟩ | ⟨counter, rfl, -⟩
    · rw [none] at issued
      cases issued
    · exact Option.some.inj (issued.symm.trans counter)
  rcases outcome with ⟨negative, rfl⟩ | ⟨nonneg, polled, closed, frame, closeRan⟩
  -- nothing was stored, or the counter has overflowed: no close follows
  · refine ⟨ids.issued, fun id h stored => ids.lookup stored, fun id h stored nonneg closes => ?_⟩
    rw [own id closes] at nonneg
    omega
  · have same := frame (openStream_mem openRan nonneg)
    obtain ⟨kept, before, closes⟩ := closeStream_lookup closeRan
    refine ⟨?_, fun id h stored => ?_, fun id h stored _ closing => ?_⟩
    · rw [kept, same.opened]
      exact ids.issued
    · apply ids.lookup (h := h)
      rw [← same.m_streams]
      exact before id h stored
    · rw [own id closing, closes nonneg] at stored
      cases stored

theorem exec_idStep {call : Call} {r : Reply} (ran : c.exec call = .ok (r, c')) :
    IdStep c call c' := by
  cases call with
  | openStream deviceID formatID platform =>
      obtain ⟨ID, opened, -⟩ := reply_ok.1 ran
      have ids := openStream_storeOutcome opened
      exact ⟨ids.issued, fun id h stored => ids.lookup stored, fun _ _ _ _ closes => closes⟩
  | openStreamRaw deviceID formatID platform =>
      obtain ⟨ID, opened, -⟩ := reply_ok.1 ran
      have ids := openStreamRaw_storeOutcome opened
      exact ⟨ids.issued, fun id h stored => ids.lookup stored, fun _ _ _ _ closes => closes⟩
  | probeDevice deviceID formatID timeoutMs platform arrivals =>
      obtain ⟨gotFrame, probed, -⟩ := reply_ok.1 ran
      exact idStep_probeDevice probed
  | closeStream streamID =>
      obtain ⟨closed, closing, -⟩ := reply_ok.1 ran
      obtain ⟨opened, before, closes⟩ := closeStream_lookup closing
      refine ⟨Or.inl ⟨rfl, opened⟩, fun id h stored => Or.inl (before id h stored), ?_⟩
      rintro id h stored nonneg rfl
      rw [closes nonneg] at stored
      cases stored
  | query id q =>
      refine idStep_of_kept rfl ?_ (fun _ closes => closes) ?_
      all_goals
        rw [show c.exec (.query id q) = c.query id q from rfl, query_eq] at ran
        rcases onStream_cases ran with ⟨-, -, -, rfl⟩ | ⟨-, ⟨-, rfl, -⟩ | ⟨h, s, -, -, -, rfl⟩⟩
      · rfl
      · rfl
      · rfl
      · exact fun _ _ stored => stored
      · intro id' h stored
        rcases lookup_insertNew_cases stored with before | ⟨-, null, -⟩
        · exact before
        · cases null
      · exact fun _ _ stored => stored
  | isOpenStream streamID =>
      obtain ⟨_, asked, -⟩ := reply_ok.1 ran
      rw [isOpenStream_cases asked]
      exact idStep_of_kept rfl rfl (fun _ closes => closes) fun _ _ stored => stored
  | isDeviceStillConnected streamID connected =>
      obtain ⟨_, asked, -⟩ := reply_ok.1 ran
      rw [isDeviceStillConnected_cases asked]
      exact idStep_of_kept rfl rfl (fun _ closes => closes) fun _ _ stored => stored
  | refreshDevices found answer =>
      have replied : reply .flag (c.refreshDevices found answer) = .ok (r, c') := ran
      obtain ⟨_, refreshed, -⟩ := reply_ok.1 replied
      have same := refreshDevices_same refreshed
      exact idStep_of_kept rfl same.opened (fun _ closes => closes) fun _ _ stored =>
        same.m_streams ▸ stored
  | deliver d =>
      cases ran
      have same := deliver_same c d
      exact idStep_of_kept rfl same.opened (fun _ closes => closes) fun _ _ stored =>
        same.m_streams ▸ stored

end Step

/-! ## The past of a run -/

section History

variable {past : List (Run.Entry Context Call Reply)} {e : Run.Entry Context Call Reply} {id : Int}

theorem issuedIds_snoc (past : List (Run.Entry Context Call Reply)) (e : Run.Entry Context Call Reply) :
    issuedIds (past ++ [e]) = issuedIds past ++ (issuedId e.pre e.input).toList := by
  rw [issuedIds, List.filterMap_append]
  cases issued : issuedId e.pre e.input <;> simp [issued, issuedIds]

/-- A closed id was closed before the last call or by it. -/
theorem closed_snoc (closed : Closed (past ++ [e]) id) :
    Closed past id ∨ id ∈ issuedIds (past ++ [e]) ∧ Closes e.pre id e.input := by
  obtain ⟨before, e', rest, split, issued, closes⟩ := closed
  rcases Run.snoc_eq_append_cons split with ⟨rfl, rfl⟩ | ⟨rest, -, rfl⟩
  · exact Or.inr ⟨issued, closes⟩
  · exact Or.inl ⟨before, e', rest, rfl, issued, closes⟩

theorem issued_of_closed (closed : Closed past id) : id ∈ issuedIds past := by
  obtain ⟨before, e, rest, rfl, issued, -⟩ := closed
  rw [issuedIds, show before ++ e :: rest = (before ++ [e]) ++ rest by simp, List.filterMap_append]
  exact List.mem_append_left _ issued

/-- The past of a run and the context it led to: the ids handed out are the first integers, and
every stored stream has one of them that was not closed. -/
structure IdHistory (past : List (Run.Entry Context Call Reply)) (c : Context) : Prop where
  wf : c.Wf
  count : (issuedIds past).length = c.opened
  ids : c.opened ≤ 2 ^ 31 → issuedIds past = (List.range c.opened).map fun n : Nat => (n : Int)
  open_ : c.opened ≤ 2 ^ 31 → ∀ id h, c.m_streams.lookup id = some (some h) →
    id ∈ issuedIds past ∧ ¬ Closed past id

theorem idHistory_fresh (devices : List DeviceInfo) : IdHistory [] (fresh devices) where
  wf := wf_fresh devices
  count := rfl
  ids := fun _ => rfl
  open_ := fun _ id h stored => by simp [fresh] at stored

theorem IdHistory.mem_iff {c : Context} (history : IdHistory past c) (few : c.opened ≤ 2 ^ 31) :
    id ∈ issuedIds past ↔ 0 ≤ id ∧ id < c.opened := by
  rw [history.ids few, List.mem_map]
  constructor
  · rintro ⟨n, below, rfl⟩
    have := List.mem_range.1 below
    omega
  · rintro ⟨nonneg, below⟩
    exact ⟨id.toNat, List.mem_range.2 (by omega), Int.toNat_of_nonneg nonneg⟩

theorem IdHistory.extended {c c' : Context} {call : Call} {r : Reply} (history : IdHistory past c)
    (ran : c.exec call = .ok (r, c')) : IdHistory (past ++ [⟨c, call, r, c'⟩]) c' := by
  have step := exec_idStep ran
  refine ⟨history.wf.exec ran, ?_, fun few => ?_, fun few id h stored => ?_⟩
  · rw [issuedIds_snoc, List.length_append, history.count]
    rcases step.issued with ⟨none, same⟩ | ⟨some_, more⟩
    · rw [none, same]
      rfl
    · rw [some_, more]
      rfl
  · rw [issuedIds_snoc]
    rcases step.issued with ⟨none, same⟩ | ⟨some_, more⟩
    · rw [none, same, history.ids (same ▸ few), Option.toList_none, List.append_nil]
    · rw [some_, more, history.ids (by omega), history.wf.counter_eq (by omega), Option.toList_some,
        List.range_succ, List.map_append, List.map_singleton]
  · have fewBefore : c.opened ≤ 2 ^ 31 := by
      rcases step.issued with ⟨-, same⟩ | ⟨-, more⟩ <;> omega
    -- an id this call hands out is the counter, which is above all ids of the past
    have counter : issuedId c call = some id → id = c.opened := by
      intro issued
      rcases step.issued with ⟨none, -⟩ | ⟨some_, more⟩
      · rw [none] at issued
        cases issued
      · rw [← history.wf.counter_eq (by omega)]
        exact Option.some.inj (issued.symm.trans some_)
    have nonneg : 0 ≤ id := by
      rcases step.stored id h stored with before | issued
      · exact ((history.mem_iff fewBefore).1 (history.open_ fewBefore id h before).1).1
      · rw [counter issued]
        omega
    refine ⟨?_, fun closed => ?_⟩
    · rw [issuedIds_snoc]
      rcases step.stored id h stored with before | issued
      · exact List.mem_append_left _ (history.open_ fewBefore id h before).1
      · exact List.mem_append_right _ (Option.mem_toList.2 issued)
    · rcases closed_snoc closed with earlier | ⟨-, closes⟩
      · rcases step.stored id h stored with before | issued
        · exact (history.open_ fewBefore id h before).2 earlier
        · have below := ((history.mem_iff fewBefore).1 (issued_of_closed earlier)).2
          rw [counter issued] at below
          omega
      · exact step.open_ id h stored nonneg closes

theorem idHistory_run (devices : List DeviceInfo) (calls : List Call)
    {past future : List (Run.Entry Context Call Reply)}
    (split : Run.trace exec (fresh devices) calls = past ++ future) :
    IdHistory past (Run.endState (fresh devices) past) :=
  Run.endState_history (idHistory_fresh devices)
    (fun _ _ _ _ _ history ran => history.extended ran) calls split

end History

/-- **Issued ids.**  In every run from a fresh context with fewer than 2^31 successful opens: the ids
handed out are nonnegative and increase strictly, and after any part of the run an id not yet
handed out, or closed since, leads no call to a stream. -/
theorem issuedIds_run (devices : List DeviceInfo) (calls : List Call)
    (few : (issuedIds (Run.trace exec (fresh devices) calls)).length < 2 ^ 31) :
    (∀ id ∈ issuedIds (Run.trace exec (fresh devices) calls), 0 ≤ id) ∧
      (issuedIds (Run.trace exec (fresh devices) calls)).Pairwise (· < ·) ∧
      ∀ past future, Run.trace exec (fresh devices) calls = past ++ future →
        ∀ id, id ∉ issuedIds past ∨ Closed past id →
          LeadsNowhere (Run.endState (fresh devices) past) id := by
  have whole := idHistory_run devices calls (List.append_nil _).symm
  have fewOpened := whole.count ▸ few
  refine ⟨fun id issued => ((whole.mem_iff (Nat.le_of_lt fewOpened)).1 issued).1, ?_, ?_⟩
  · rw [whole.ids (Nat.le_of_lt fewOpened), List.pairwise_map]
    exact List.pairwise_lt_range.imp fun less => Int.ofNat_lt.2 less
  · intro past future split id unreachable
    have history := idHistory_run devices calls split
    have fewer : (Run.endState (fresh devices) past).opened ≤ 2 ^ 31 := by
      rw [← history.count]
      rw [split, issuedIds, List.filterMap_append, List.length_append] at few
      have part : (issuedIds past).length = (past.filterMap fun e => issuedId e.pre e.input).length :=
        rfl
      omega
    refine leadsNowhere_of_notOpen fun h stored => ?_
    obtain ⟨issued, notClosed⟩ := history.open_ fewer id h stored
    rcases unreachable with unissued | closed
    · exact unissued issued
    · exact notClosed closed


/-- Two opens with a close and two lookups between them. -/
def reopening : List Call :=
  [.openStream 0 0 (.opened 2 1 6), .query 1 .hasNewFrame, .closeStream 0, .query 0 .hasNewFrame,
    .openStream 0 0 (.opened 2 1 6)]

theorem issuedIds_reopening :
    LeadsNowhere (Run.endState (fresh [⟨[⟨2, 1, MJPG, 30, 24⟩]⟩])
      (Run.trace exec (fresh [⟨[⟨2, 1, MJPG, 30, 24⟩]⟩]) reopening)) 0 := by
  have issued : issuedIds (Run.trace exec (fresh [⟨[⟨2, 1, MJPG, 30, 24⟩]⟩]) reopening) = [0, 1] := rfl
  have few : (issuedIds (Run.trace exec (fresh [⟨[⟨2, 1, MJPG, 30, 24⟩]⟩]) reopening)).length < 2 ^ 31 := by
    rw [issued]
    decide
  refine (issuedIds_run _ reopening few).2.2 _ [] (List.append_nil _).symm 0 (Or.inr ?_)
  exact ⟨[_, _], _, [_, _], rfl, List.mem_cons_self, rfl⟩

end Context

end OpenpnpCapture.Common
