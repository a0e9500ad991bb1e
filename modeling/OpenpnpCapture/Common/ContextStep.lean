/-
# Common.ContextStep — what one call does to the registry

One case lemma for each method says all it can do, guards included; the invariants are
derived from these and never unfold a method.  `SameRegistry` is the frame: the map, the
counter and the set of live objects are untouched, only contents of objects may differ.

`Change` lists what a call other than a query can do to the registry in one move; such a
call is a chain of moves (`exec_cases`), so a property that every move keeps is kept by
every call but the queries (`keeps_of_changes`).
-/
import Mathlib.Logic.Relation
import OpenpnpCapture.Common.Context

namespace OpenpnpCapture.Common

open OpenpnpCapture.Lib OpenpnpCapture.Lib.StdMap

set_option autoImplicit false

namespace Context

/-- The two contexts differ at most in the device list and in what the live objects contain. -/
structure SameRegistry (c c' : Context) : Prop where
  m_streams : c'.m_streams = c.m_streams
  m_streamCounter : c'.m_streamCounter = c.m_streamCounter
  next : c'.next = c.next
  deleted : c'.deleted = c.deleted
  opened : c'.opened = c.opened
  live : ∀ h, c'.heap h = none ↔ c.heap h = none

theorem SameRegistry.refl (c : Context) : SameRegistry c c :=
  ⟨rfl, rfl, rfl, rfl, rfl, fun _ => Iff.rfl⟩

theorem SameRegistry.trans {a b c : Context} (ab : SameRegistry a b) (bc : SameRegistry b c) :
    SameRegistry a c :=
  ⟨bc.m_streams.trans ab.m_streams, bc.m_streamCounter.trans ab.m_streamCounter,
    bc.next.trans ab.next, bc.deleted.trans ab.deleted, bc.opened.trans ab.opened,
    fun h => (bc.live h).trans (ab.live h)⟩

theorem put_same {c : Context} {h : Handle} {s : Stream} (live : c.heap h = some s) (s' : Stream) :
    SameRegistry c (c.put h s') := by
  refine ⟨rfl, rfl, rfl, rfl, rfl, fun h' => ?_⟩
  by_cases same : h' = h
  · subst same
    simp [put, live]
  · simp [put, Function.update_of_ne same]

theorem deliver_same (c : Context) (d : Delivery) : SameRegistry c (c.deliver d) := by
  unfold deliver
  cases live : c.heap d.stream with
  | none => exact SameRegistry.refl c
  | some s => exact put_same live _

theorem deliverAll_same (c : Context) (arrived : List Delivery) :
    SameRegistry c (arrived.foldl deliver c) := by
  induction arrived generalizing c with
  | nil => exact SameRegistry.refl c
  | cons d arrived ih => exact (deliver_same c d).trans (ih _)

/-! ## The methods, case by case -/

/-- The context after `m_streams[id]` was evaluated. -/
def touched (c : Context) (id : Int) : Context :=
  { c with m_streams := touch c.m_streams id none }

theorem touched_of_mem {c : Context} {id : Int} (present : id ∈ c.m_streams) : c.touched id = c := by
  simp only [touched, touch, insertNew_of_mem present]

section Cases

variable {c c' : Context} {streamID : Int}

/-- A lookup with `operator[]` rejects a negative id, or adds a null entry for an unknown one, or
acts on the stream. -/
theorem onStream_cases {α : Type} {rejectNegative : Bool} {unknown r : α}
    {act : Stream → α × Stream}
    (ran : onStream rejectNegative c streamID unknown act = .ok (r, c')) :
    (rejectNegative = true ∧ streamID < 0 ∧ r = unknown ∧ c' = c) ∨
      (¬ (rejectNegative = true ∧ streamID < 0) ∧
        ((r = unknown ∧ c' = c.touched streamID ∧
            ∀ h, c.m_streams.lookup streamID ≠ some (some h)) ∨
          ∃ h s, c.m_streams.lookup streamID = some (some h) ∧ c.heap h = some s ∧
            r = (act s).1 ∧ c' = c.put h (act s).2)) := by
  unfold onStream at ran
  split at ran
  · rename_i negative
    cases ran
    exact Or.inl ⟨negative.1, negative.2, rfl, rfl⟩
  · rename_i checked
    refine Or.inr ⟨checked, ?_⟩
    cases stored : c.m_streams.lookup streamID with
    | none =>
        rw [subscript_of_none none stored] at ran
        cases ran
        refine Or.inl ⟨rfl, ?_, fun h => by simp⟩
        simp only [touched, touch, insertNew_of_notMem (Finmap.lookup_eq_none.1 stored)]
    | some p =>
        rw [subscript_of_some none stored] at ran
        cases p with
        | none =>
            cases ran
            exact Or.inl ⟨rfl, (touched_of_mem (Finmap.mem_of_lookup_eq_some stored)).symm, by simp⟩
        | some h =>
            simp only at ran
            cases live : c.heap h with
            | none => simp [live] at ran
            | some s =>
                simp only [live, Except.ok.injEq, Prod.mk.injEq] at ran
                exact Or.inr ⟨h, s, rfl, live, ran.1.symm, ran.2.symm⟩

/-- A query of an id that stores a live stream is refused for a negative id, or acts on the
stream. -/
theorem query_live {h : Handle} {s : Stream} (stored : c.m_streams.lookup streamID = some (some h))
    (live : c.heap h = some s) (q : StreamQuery) :
    c.query streamID q = .ok (if q.rejectsNegative = true ∧ streamID < 0 then (q.unknown, c)
      else ((q.act s).1, c.put h (q.act s).2)) := by
  rw [query_eq, onStream]
  split
  · rfl
  · rw [subscript_of_some none stored]
    simp only [live]

/-- A new object `s` at the next address. -/
def withNew (c : Context) (s : Stream) : Context :=
  { c with heap := Function.update c.heap c.next (some s), next := c.next + 1 }

theorem createPlatformStream_put (c : Context) (s : Stream) :
    c.createPlatformStream.2.put c.createPlatformStream.1 s = c.withNew s := by
  simp only [createPlatformStream, put, withNew, Function.update_idem]

/-- `openStream` refuses an unknown device or format, abandons the object when the platform fails,
or stores it. -/
theorem openStream_cases {id formatID : UInt32} {platform : PlatformOpen}
    (ran : c.openStream id formatID platform = .ok (streamID, c')) :
    (c.format? id formatID = none ∧ streamID = -1 ∧ c' = c) ∨
      ((c.format? id formatID).isSome = true ∧ platform = .failed ∧ streamID = -1 ∧
        c' = c.withNew (Stream.new 0 0)) ∨
      ((c.format? id formatID).isSome = true ∧ platform ≠ .failed ∧
        ∃ s, s.m_rawMode = false ∧ s.m_isOpen = true ∧ (streamID, c') = (c.withNew s).storeStream c.next) := by
  unfold openStream at ran
  cases format : c.format? id formatID with
  | none =>
      simp only [format, Except.ok.injEq, Prod.mk.injEq] at ran
      exact Or.inl ⟨rfl, ran.1.symm, ran.2.symm⟩
  | some _ =>
      simp only [format] at ran
      cases platform with
      | failed =>
          simp only [Except.ok.injEq, Prod.mk.injEq] at ran
          exact Or.inr (Or.inl ⟨rfl, rfl, ran.1.symm, ran.2.symm⟩)
      | opened width height frameBufferBytes =>
          simp only [createPlatformStream_put, Except.ok.injEq] at ran
          exact Or.inr (Or.inr ⟨rfl, by simp, _, rfl, rfl, ran.symm⟩)

/-- A format `openStreamRaw` accepts. -/
def RawFormat (c : Context) (id formatID : UInt32) : Prop :=
  ∃ format, c.format? id formatID = some format ∧ format.fourcc = MJPG

/-- `openStreamRaw` refuses, or deletes the object when the platform fails, or stores it. -/
theorem openStreamRaw_cases {id formatID : UInt32} {platform : PlatformOpen}
    (ran : c.openStreamRaw id formatID platform = .ok (streamID, c')) :
    (¬ c.RawFormat id formatID ∧ streamID = -1 ∧ c' = c) ∨
      (c.RawFormat id formatID ∧ platform = .failed ∧ streamID = -1 ∧
        c' = (c.withNew (Stream.new 0 0)).deletePtr (some c.next)) ∨
      (c.RawFormat id formatID ∧ platform ≠ .failed ∧
        ∃ s, s.m_rawMode = true ∧ s.m_isOpen = true ∧ (streamID, c') = (c.withNew s).storeStream c.next) := by
  unfold openStreamRaw at ran
  cases format : c.format? id formatID with
  | none =>
      simp only [format, Except.ok.injEq, Prod.mk.injEq] at ran
      refine Or.inl ⟨?_, ran.1.symm, ran.2.symm⟩
      rintro ⟨_, found, -⟩
      rw [format] at found
      cases found
  | some info =>
      simp only [format] at ran
      by_cases mjpg : info.fourcc = MJPG
      · have raw : c.RawFormat id formatID := ⟨info, format, mjpg⟩
        rw [if_neg (not_not.2 mjpg)] at ran
        cases platform with
        | failed =>
            simp only [Except.ok.injEq, Prod.mk.injEq] at ran
            exact Or.inr (Or.inl ⟨raw, rfl, ran.1.symm, ran.2.symm⟩)
        | opened width height frameBufferBytes =>
            simp only [createPlatformStream_put, Except.ok.injEq] at ran
            exact Or.inr (Or.inr ⟨raw, by simp, _, rfl, rfl, ran.symm⟩)
      · rw [if_pos mjpg] at ran
        cases ran
        refine Or.inl ⟨?_, rfl, rfl⟩
        rintro ⟨_, found, is⟩
        rw [format] at found
        cases found
        exact mjpg is

/-- The context after the entry `p` of `id` was deleted and erased. -/
def erased (c : Context) (id : Int) (p : Ptr) : Context :=
  { c.deletePtr p with m_streams := c.m_streams.erase id }

theorem closeStream_cases {closed : Bool} (ran : c.closeStream streamID = .ok (closed, c')) :
    ((streamID < 0 ∨ c.m_streams.lookup streamID = none) ∧ c' = c) ∨
      (0 ≤ streamID ∧ ∃ p, c.m_streams.lookup streamID = some p ∧ c' = c.erased streamID p) := by
  unfold closeStream at ran
  by_cases negative : streamID < 0
  · rw [if_pos negative] at ran
    cases ran
    exact Or.inl ⟨Or.inl negative, rfl⟩
  · rw [if_neg negative] at ran
    cases ran
    unfold removeStream
    cases stored : c.m_streams.lookup streamID with
    | none => exact Or.inl ⟨Or.inr rfl, rfl⟩
    | some p =>
        refine Or.inr ⟨not_lt.1 negative, p, rfl, ?_⟩
        cases p <;> rfl

theorem isOpenStream_cases {n : UInt32} (ran : c.isOpenStream streamID = .ok (n, c')) : c' = c := by
  unfold isOpenStream at ran
  split at ran
  · cases ran; rfl
  · split at ran
    · cases ran; rfl
    · split at ran
      · cases ran
      · cases ran; rfl

theorem isDeviceStillConnected_cases {connected still : Bool}
    (ran : c.isDeviceStillConnected streamID connected = .ok (still, c')) : c' = c := by
  unfold isDeviceStillConnected at ran
  split at ran
  · cases ran; rfl
  · split at ran
    · cases ran
    · cases ran; rfl

theorem refreshDevices_same {found : List DeviceInfo} {answer r : Bool}
    (ran : c.refreshDevices found answer = .ok (r, c')) : SameRegistry c c' := by
  cases ran
  exact ⟨rfl, rfl, rfl, rfl, rfl, fun _ => Iff.rfl⟩

/-- A poll of a stored id changes no registry. -/
theorem hasNewFrame_same {new : Bool} (present : streamID ∈ c.m_streams)
    (ran : c.hasNewFrame streamID = .ok (new, c')) : SameRegistry c c' := by
  rcases onStream_cases ran with ⟨-, -, -, rfl⟩ | ⟨-, ⟨-, rfl, -⟩ | ⟨h, s, -, live, -, rfl⟩⟩
  · exact SameRegistry.refl _
  · rw [touched_of_mem present]
    exact SameRegistry.refl _
  · exact put_same live _

theorem probePoll_same {timeoutMs waited : UInt32} {arrivals : List (List Delivery)}
    {gotFrame : Bool} (present : streamID ∈ c.m_streams)
    (ran : probePoll streamID timeoutMs arrivals waited c = .ok (gotFrame, c')) :
    SameRegistry c c' := by
  induction arrivals generalizing c waited with
  | nil =>
      simp only [probePoll] at ran
      split at ran
      · cases ran
      · cases ran
        exact SameRegistry.refl _
  | cons arrived arrivals ih =>
      simp only [probePoll] at ran
      split at ran
      · have slept := deliverAll_same c arrived
        have present' : streamID ∈ (arrived.foldl deliver c).m_streams := slept.m_streams ▸ present
        split at ran
        · cases ran
        · rename_i polled
          cases ran
          exact slept.trans (hasNewFrame_same present' polled)
        · rename_i after polled
          have same := slept.trans (hasNewFrame_same present' polled)
          exact same.trans (ih (same.m_streams ▸ present) ran)
      · cases ran
        exact SameRegistry.refl _

/-- `probeDevice` is an `openStream`, and for a nonnegative id a polling that leaves the registry
alone and a `closeStream`. -/
theorem probeDevice_cases {id formatID timeoutMs : UInt32} {platform : PlatformOpen}
    {arrivals : List (List Delivery)} {gotFrame : Bool}
    (ran : c.probeDevice id formatID timeoutMs platform arrivals = .ok (gotFrame, c')) :
    ∃ streamID opened, c.openStream id formatID platform = .ok (streamID, opened) ∧
      ((streamID < 0 ∧ c' = opened) ∨
        (0 ≤ streamID ∧ ∃ polled closed,
          (streamID ∈ opened.m_streams → SameRegistry opened polled) ∧
            polled.closeStream streamID = .ok (closed, c'))) := by
  unfold probeDevice at ran
  simp only at ran
  split at ran
  · cases ran
  · rename_i streamID opened openRan
    refine ⟨streamID, opened, openRan, ?_⟩
    by_cases negative : streamID < 0
    · rw [if_pos negative] at ran
      cases ran
      exact Or.inl ⟨negative, rfl⟩
    · rw [if_neg negative] at ran
      refine Or.inr ⟨not_lt.1 negative, ?_⟩
      split at ran
      · cases ran
      · rename_i polled pollRan
        split at ran
        · cases ran
        · rename_i closed after closeRan
          cases ran
          exact ⟨polled, closed, fun present => probePoll_same present pollRan, closeRan⟩

/-! ## Calls as chains of moves -/

/-- One move on the registry by a call that is not a query. -/
inductive Change : Context → Context → Prop
  | same {c c' : Context} (frame : SameRegistry c c') : Change c c'
  | abandon (c : Context) (s : Stream) : Change c (c.withNew s)
  | discard (c : Context) (s : Stream) : Change c ((c.withNew s).deletePtr (some c.next))
  | store (c : Context) (s : Stream) : Change c ((c.withNew s).storeStream c.next).2
  | erase {c : Context} {id : Int} {p : Ptr} (stored : c.m_streams.lookup id = some p) :
      Change c (c.erased id p)

theorem openStream_change {id formatID : UInt32} {platform : PlatformOpen}
    (ran : c.openStream id formatID platform = .ok (streamID, c')) : Change c c' := by
  rcases openStream_cases ran with ⟨-, -, rfl⟩ | ⟨-, -, -, rfl⟩ | ⟨-, -, s, -, -, result⟩
  · exact Change.same (SameRegistry.refl _)
  · exact Change.abandon _ _
  · rw [show c' = ((c.withNew s).storeStream c.next).2 from congrArg Prod.snd result]
    exact Change.store _ _

theorem openStreamRaw_change {id formatID : UInt32} {platform : PlatformOpen}
    (ran : c.openStreamRaw id formatID platform = .ok (streamID, c')) : Change c c' := by
  rcases openStreamRaw_cases ran with ⟨-, -, rfl⟩ | ⟨-, -, -, rfl⟩ | ⟨-, -, s, -, -, result⟩
  · exact Change.same (SameRegistry.refl _)
  · exact Change.discard _ _
  · rw [show c' = ((c.withNew s).storeStream c.next).2 from congrArg Prod.snd result]
    exact Change.store _ _

theorem closeStream_change {closed : Bool} (ran : c.closeStream streamID = .ok (closed, c')) :
    Change c c' := by
  rcases closeStream_cases ran with ⟨-, rfl⟩ | ⟨-, p, stored, rfl⟩
  · exact Change.same (SameRegistry.refl _)
  · exact Change.erase stored

/-- The id of a stream just stored is a key. -/
theorem openStream_mem {id formatID : UInt32} {platform : PlatformOpen}
    (ran : c.openStream id formatID platform = .ok (streamID, c')) (nonneg : 0 ≤ streamID) :
    streamID ∈ c'.m_streams := by
  rcases openStream_cases ran with ⟨-, rfl, -⟩ | ⟨-, -, rfl, -⟩ | ⟨-, -, s, -, -, result⟩
  · exact absurd nonneg (by decide)
  · exact absurd nonneg (by decide)
  · cases result
    exact mem_insertNew.2 (Or.inl rfl)

theorem probeDevice_change {id formatID timeoutMs : UInt32} {platform : PlatformOpen}
    {arrivals : List (List Delivery)} {gotFrame : Bool}
    (ran : c.probeDevice id formatID timeoutMs platform arrivals = .ok (gotFrame, c')) :
    Relation.ReflTransGen Change c c' := by
  obtain ⟨streamID, opened, openRan, outcome⟩ := probeDevice_cases ran
  have first := Relation.ReflTransGen.single (openStream_change openRan)
  rcases outcome with ⟨-, rfl⟩ | ⟨nonneg, polled, closed, frame, closeRan⟩
  · exact first
  · exact (first.tail (Change.same (frame (openStream_mem openRan nonneg)))).tail
      (closeStream_change closeRan)

/-- A call is a lookup, or a chain of moves. -/
theorem exec_cases {call : Call} {r : Reply} (ran : c.exec call = .ok (r, c')) :
    (∃ id q, call = .query id q ∧ onStream q.rejectsNegative c id q.unknown q.act = .ok (r, c')) ∨
      ((∀ id q, call ≠ .query id q) ∧ Relation.ReflTransGen Change c c') := by
  cases call with
  | query id q => exact Or.inl ⟨id, q, rfl, query_eq c id q ▸ ran⟩
  | deliver d =>
      cases ran
      exact Or.inr ⟨by simp, .single (.same (deliver_same c d))⟩
  | openStream id formatID platform =>
      obtain ⟨_, ran, -⟩ := reply_ok.1 ran
      exact Or.inr ⟨by simp, .single (openStream_change ran)⟩
  | openStreamRaw id formatID platform =>
      obtain ⟨_, ran, -⟩ := reply_ok.1 ran
      exact Or.inr ⟨by simp, .single (openStreamRaw_change ran)⟩
  | closeStream streamID =>
      obtain ⟨_, ran, -⟩ := reply_ok.1 ran
      exact Or.inr ⟨by simp, .single (closeStream_change ran)⟩
  | isOpenStream streamID =>
      obtain ⟨_, ran, -⟩ := reply_ok.1 ran
      exact Or.inr ⟨by simp, .single (.same (isOpenStream_cases ran ▸ SameRegistry.refl c))⟩
  | isDeviceStillConnected streamID connected =>
      obtain ⟨_, ran, -⟩ := reply_ok.1 ran
      exact Or.inr ⟨by simp, .single (.same (isDeviceStillConnected_cases ran ▸ SameRegistry.refl c))⟩
  | refreshDevices found answer =>
      have replied : reply .flag (c.refreshDevices found answer) = .ok (r, c') := ran
      obtain ⟨_, ran, -⟩ := reply_ok.1 replied
      exact Or.inr ⟨by simp, .single (.same (refreshDevices_same ran))⟩
  | probeDevice id formatID timeoutMs platform arrivals =>
      obtain ⟨_, ran, -⟩ := reply_ok.1 ran
      exact Or.inr ⟨by simp, probeDevice_change ran⟩

end Cases

/-- A property that every move keeps survives a chain of moves. -/
theorem keeps_of_changes {P : Context → Prop} (keeps : ∀ c c', Change c c' → P c → P c')
    {c c' : Context} (chain : Relation.ReflTransGen Change c c') (start : P c) : P c' := by
  induction chain with
  | refl => exact start
  | tail _ move ih => exact keeps _ _ move ih

end Context

end OpenpnpCapture.Common
