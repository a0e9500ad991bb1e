/-
# Common.ContextRefinement — a context is its registry

`Represents` relates a context to the registry a client has in mind: under each id the same open
stream, or none in both.  A null entry is an id that is not open, the heap outside the map is not
seen, and the counter is the number of ids handed out as long as that is an `int32_t`.

The registry is what the replies of a context follow, as long as no query asks for an id that is
still to be handed out (`refines_registry`).  There is one way to leave it, the null dereference of
`isOpenStream` and `isDeviceStillConnected` on an entry that an earlier query left; a client that
queries open ids only never meets it (`refines_registry_open`).
-/
import OpenpnpCapture.Common.Isolation
import OpenpnpCapture.Common.Registry
import OpenpnpCapture.Common.StreamIds

namespace OpenpnpCapture.Common

open OpenpnpCapture.Lib OpenpnpCapture.Lib.StdMap

set_option autoImplicit false

namespace Context

structure Represents (c : Context) (r : Registry) : Prop where
  wf : c.Wf
  devices : r.devices = c.m_devices
  cameras : r.cameras = c.next
  issued : r.issued = c.opened
  sessions : ∀ id h s, r.sessions id = some ⟨h, s⟩ ↔ c.Shows id h s
  keys : ∀ id ∈ c.m_streams, id < c.opened

theorem represents_fresh (devices : List DeviceInfo) :
    (fresh devices).Represents (Registry.fresh devices) where
  wf := wf_fresh devices
  devices := rfl
  cameras := rfl
  issued := rfl
  sessions := by
    intro id h s
    refine iff_of_false nofun fun shown => ?_
    have stored := shown.stored
    simp [fresh] at stored
  keys := fun id present => absurd present Finmap.notMem_empty

namespace Represents

variable {c c' : Context} {r : Registry} {id : Int}

theorem notOpen (represents : c.Represents r) (absent : r.sessions id = none) : c.NotOpen id := by
  intro h stored
  obtain ⟨s, live⟩ := Option.ne_none_iff_exists'.1 (represents.wf.stored_live id h stored)
  have known := (represents.sessions id h s).2 ⟨stored, live⟩
  rw [absent] at known
  cases known

theorem sessions_of_absent (represents : c.Represents r) (absent : c.m_streams.lookup id = none) :
    r.sessions id = none := by
  by_contra isOpen
  obtain ⟨⟨h, s⟩, known⟩ := Option.ne_none_iff_exists'.1 isOpen
  have stored := ((represents.sessions id h s).1 known).stored
  rw [absent] at stored
  cases stored

theorem format? (represents : c.Represents r) (id formatID : UInt32) :
    r.format? id formatID = c.format? id formatID := by
  rw [Registry.format?, Context.format?, represents.devices]

theorem counter (represents : c.Represents r) (few : r.issued < 2 ^ 31) :
    c.m_streamCounter = r.issued := by
  rw [represents.wf.counter_eq (represents.issued ▸ few), represents.issued]

theorem counter_absent (represents : c.Represents r) (few : r.issued < 2 ^ 31) :
    c.m_streamCounter ∉ c.m_streams := by
  intro present
  have below := represents.keys _ present
  rw [represents.counter few, represents.issued] at below
  exact lt_irrefl _ below

/-! ## Moves of the context -/

/-- The contents of streams change, and with them the sessions. -/
theorem change (represents : c.Represents r) (same : SameRegistry c c')
    (devices : c'.m_devices = c.m_devices) {f : Int → Session → Session}
    (changes : ∀ id h s, c.Shows id h s → ∃ s', f id ⟨h, s⟩ = ⟨h, s'⟩ ∧ c'.heap h = some s') :
    c'.Represents (r.mapSessions f) where
  wf := represents.wf.same same
  devices := represents.devices.trans devices.symm
  cameras := represents.cameras.trans same.next.symm
  issued := represents.issued.trans same.opened.symm
  keys := by
    rw [same.m_streams, same.opened]
    exact represents.keys
  sessions := by
    intro id h s'
    constructor
    · intro known
      obtain ⟨⟨h₀, s⟩, before, becomes⟩ := Option.map_eq_some_iff.1 known
      have shown := (represents.sessions id h₀ s).1 before
      obtain ⟨s₁, image, live⟩ := changes id h₀ s shown
      obtain ⟨rfl, rfl⟩ := Session.mk.inj (image.symm.trans becomes)
      exact ⟨same.m_streams ▸ shown.stored, live⟩
    · intro shown
      have stored : c.m_streams.lookup id = some (some h) := same.m_streams ▸ shown.stored
      obtain ⟨s, live⟩ := Option.ne_none_iff_exists'.1 (represents.wf.stored_live id h stored)
      obtain ⟨s₁, image, live'⟩ := changes id h s ⟨stored, live⟩
      obtain rfl : s₁ = s' := Option.some.inj (live'.symm.trans shown.live)
      exact Option.map_eq_some_iff.2 ⟨_, (represents.sessions id h s).2 ⟨stored, live⟩, image⟩

theorem deliver (represents : c.Represents r) (d : Delivery) :
    (c.deliver d).Represents (r.deliver d) := by
  refine represents.change (deliver_same c d) ?_ fun id h s shown => ?_
  · unfold Context.deliver
    split <;> rfl
  · by_cases fed : h = d.stream
    · subst fed
      exact ⟨_, if_pos rfl, (shown.deliver d.submission).live⟩
    · refine ⟨s, if_neg fed, ?_⟩
      unfold Context.deliver
      split
      · exact shown.live
      · exact (Function.update_of_ne fed _ _).trans shown.live

theorem deliverAll (represents : c.Represents r) (arrived : List Delivery) :
    (arrived.foldl Context.deliver c).Represents (arrived.foldl Registry.deliver r) := by
  induction arrived generalizing c r with
  | nil => exact represents
  | cons d arrived ih => exact ih (represents.deliver d)

/-- A null entry is not seen. -/
theorem touched (represents : c.Represents r) (asked : id < c.opened) :
    (c.touched id).Represents r where
  wf := represents.wf.touched id
  devices := represents.devices
  cameras := represents.cameras
  issued := represents.issued
  keys := fun id' present => (mem_insertNew.1 present).elim (· ▸ asked) (represents.keys id')
  sessions := by
    intro id' h s
    rw [represents.sessions id' h s]
    constructor
    · exact fun shown => ⟨lookup_insertNew_of_some shown.stored, shown.live⟩
    · intro shown
      rcases lookup_insertNew_cases shown.stored with before | ⟨-, null, -⟩
      · exact ⟨before, shown.live⟩
      · cases null

/-- An object that no entry stores comes or goes. -/
theorem unstored (represents : c.Represents r) (wf : c'.Wf) (devices : c'.m_devices = c.m_devices)
    (next : c'.next = c.next + 1) (opened : c'.opened = c.opened)
    (same : c'.m_streams = c.m_streams) (kept : ∀ h, h ≠ c.next → c'.heap h = c.heap h) :
    c'.Represents r.withCamera where
  wf := wf
  devices := represents.devices.trans devices.symm
  cameras := (congrArg (· + 1) represents.cameras).trans next.symm
  issued := represents.issued.trans opened.symm
  keys := by
    rw [same, opened]
    exact represents.keys
  sessions := by
    intro id h s
    have old (stored : c.m_streams.lookup id = some (some h)) : c'.heap h = c.heap h :=
      kept h fun new => represents.wf.next_unstored id (new ▸ stored)
    refine (represents.sessions id h s).trans ⟨fun shown => ?_, fun shown => ?_⟩
    · exact ⟨same ▸ shown.stored, (old shown.stored).trans shown.live⟩
    · have stored := same ▸ shown.stored
      exact ⟨stored, (old stored).symm.trans shown.live⟩

theorem abandon (represents : c.Represents r) (s : Stream) :
    (c.withNew s).Represents r.withCamera :=
  represents.unstored (represents.wf.withNew s) rfl rfl rfl rfl fun _ old =>
    Function.update_of_ne old _ _

theorem discard (represents : c.Represents r) (s : Stream) :
    ((c.withNew s).deletePtr (some c.next)).Represents r.withCamera :=
  represents.unstored (represents.wf.discard s) rfl rfl rfl rfl fun _ old =>
    (Function.update_of_ne old _ _).trans (Function.update_of_ne old _ _)

/-- The id handed out is the next one, and shows the new stream. -/
theorem store (represents : c.Represents r) (few : r.issued < 2 ^ 31) (s : Stream) :
    ((c.withNew s).storeStream c.next).1 = (r.issue s).1 ∧
      ((c.withNew s).storeStream c.next).2.Represents (r.issue s).2 := by
  have counter := represents.counter few
  have absent := represents.counter_absent few
  refine ⟨counter, ?_⟩
  exact
    { wf := represents.wf.stored s
      devices := represents.devices
      cameras := congrArg (· + 1) represents.cameras
      issued := congrArg (· + 1) represents.issued
      keys := by
        intro id present
        show id < ((c.opened + 1 : Nat) : Int)
        rcases mem_insertNew.1 present with rfl | before
        · rw [show (c.withNew s).m_streamCounter = c.m_streamCounter from rfl, counter,
            represents.issued]
          omega
        · have := represents.keys id before
          omega
      sessions := by
        intro id h s'
        show Function.update r.sessions r.issued (some ⟨r.cameras, s⟩) id = some ⟨h, s'⟩ ↔ _
        by_cases new : id = r.issued
        · subst new
          rw [Function.update_self, represents.cameras, ← counter]
          have stored := lookup_insertNew_self absent (some c.next)
          have live : (c.withNew s).heap c.next = some s := Function.update_self ..
          constructor
          · rintro ⟨⟩
            exact ⟨stored, live⟩
          · intro shown
            obtain rfl : c.next = h := Option.some.inj
              (Option.some.inj (stored.symm.trans shown.stored))
            obtain rfl : s = s' := Option.some.inj (live.symm.trans shown.live)
            rfl
        · rw [Function.update_of_ne new]
          have other : (insertNew c.m_streams c.m_streamCounter (some c.next)).lookup id =
              c.m_streams.lookup id := lookup_insertNew_ne _ (counter ▸ new)
          refine ((represents.abandon s).sessions id h s').trans ?_
          exact ⟨fun shown => ⟨other.trans shown.stored, shown.live⟩,
            fun shown => ⟨other.symm.trans shown.stored, shown.live⟩⟩ }

theorem erased (represents : c.Represents r) {p : Ptr} (stored : c.m_streams.lookup id = some p) :
    (c.erased id p).Represents (r.remove id) where
  wf := represents.wf.erased stored
  devices := by cases p <;> exact represents.devices
  cameras := by cases p <;> exact represents.cameras
  issued := by cases p <;> exact represents.issued
  keys := by
    intro id' present
    have before := represents.keys id' (Finmap.mem_erase.1 present).2
    cases p <;> exact before
  sessions := by
    intro id' h s
    show Function.update r.sessions id none id' = some ⟨h, s⟩ ↔ _
    by_cases same : id' = id
    · subst same
      rw [Function.update_self]
      exact iff_of_false nofun fun shown => (lookup_erase_some.1 shown.stored).1 rfl
    · rw [Function.update_of_ne same, represents.sessions id' h s]
      have kept (other : c.m_streams.lookup id' = some (some h)) :
          (c.erased id p).heap h = c.heap h := by
        cases p with
        | none => rfl
        | some h' =>
            refine Function.update_of_ne (fun equal => same ?_) _ _
            exact represents.wf.stored_once id' id h other (equal ▸ stored)
      constructor
      · intro shown
        exact ⟨lookup_erase_some.2 ⟨same, shown.stored⟩, (kept shown.stored).trans shown.live⟩
      · intro shown
        have before := (lookup_erase_some.1 shown.stored).2
        exact ⟨before, (kept before).symm.trans shown.live⟩

/-- Without a session the removal does nothing. -/
theorem remove_absent (represents : c.Represents r) (absent : r.sessions id = none) :
    c.Represents (r.remove id) := by
  have same : r.remove id = r := by
    unfold Registry.remove
    congr 1
    exact Function.update_eq_self_iff.2 absent.symm
  rw [same]
  exact represents

/-! ## Calls -/

theorem closeStream (represents : c.Represents r) (streamID : Int) :
    ∃ c', c.closeStream streamID = .ok (decide (0 ≤ streamID), c') ∧
      c'.Represents (r.remove streamID) := by
  by_cases negative : streamID < 0
  · refine ⟨c, ?_, represents.remove_absent ?_⟩
    · rw [Context.closeStream, if_pos negative, decide_eq_false (not_le.2 negative)]
    · by_contra isOpen
      obtain ⟨session, stored⟩ := Option.ne_none_iff_exists'.1 isOpen
      have := r.issued_id streamID session stored
      omega
  · have nonneg := not_lt.1 negative
    rw [decide_eq_true nonneg]
    cases stored : c.m_streams.lookup streamID with
    | none =>
        refine ⟨c, ?_, represents.remove_absent (represents.sessions_of_absent stored)⟩
        rw [Context.closeStream, if_neg negative, removeStream, stored]
    | some p => exact ⟨_, closeStream_stored nonneg stored, represents.erased stored⟩

theorem query (represents : c.Represents r) (asked : id < r.issued) (q : StreamQuery) :
    ∃ c', c.query id q = .ok ((r.query id q).1, c') ∧ c'.Represents (r.query id q).2 := by
  rw [represents.issued] at asked
  unfold Registry.query
  cases known : r.sessions id with
  | none =>
      refine ⟨_, query_notOpen (represents.notOpen known) q, ?_⟩
      split
      · exact represents
      · exact represents.touched asked
  | some session =>
      obtain ⟨h, s⟩ := session
      have shown := (represents.sessions id h s).1 known
      have nonneg := (r.issued_id id _ known).1
      refine ⟨_, query_stored nonneg shown.stored shown.live q, ?_⟩
      refine represents.change (put_same shown.live _) rfl fun id' h' s' other => ?_
      by_cases same : id' = id
      · subst same
        obtain rfl : h' = h := Option.some.inj (Option.some.inj (other.stored.symm.trans shown.stored))
        obtain rfl : s' = s := Option.some.inj (other.live.symm.trans shown.live)
        exact ⟨_, if_pos rfl, Function.update_self ..⟩
      · refine ⟨s', if_neg same, ?_⟩
        have apart : h' ≠ h := fun equal => same
          (represents.wf.stored_once id' id h (equal ▸ other.stored) shown.stored)
        exact (Function.update_of_ne apart _ _).trans other.live

/-- A lookup with `find` gets to the stream of an open id, or to a null entry. -/
theorem find (represents : c.Represents r) (id : Int) :
    (c.m_streams.lookup id = none ∧ r.isOpenStream id = false) ∨
      (c.m_streams.lookup id = some none) ∨
      ∃ h s, c.m_streams.lookup id = some (some h) ∧ c.heap h = some s ∧ 0 ≤ id ∧
        r.isOpenStream id = s.isOpen := by
  cases stored : c.m_streams.lookup id with
  | none =>
      refine Or.inl ⟨rfl, ?_⟩
      rw [Registry.isOpenStream, represents.sessions_of_absent stored]
      rfl
  | some p =>
      cases p with
      | none => exact Or.inr (Or.inl rfl)
      | some h =>
          obtain ⟨s, live⟩ := Option.ne_none_iff_exists'.1 (represents.wf.stored_live id h stored)
          have known := (represents.sessions id h s).2 ⟨stored, live⟩
          refine Or.inr (Or.inr ⟨h, s, rfl, live, (r.issued_id id _ known).1, ?_⟩)
          rw [Registry.isOpenStream, known]
          rfl

theorem isOpenStream (represents : c.Represents r) (id : Int) :
    c.isOpenStream id = .ok (if r.isOpenStream id then 1 else 0, c) ∨
      c.isOpenStream id = .error .nullDereference ∧ c.m_streams.lookup id = some none := by
  by_cases negative : id < 0
  · refine Or.inl ?_
    have closed : r.isOpenStream id = false := by
      cases known : r.sessions id with
      | none => rw [Registry.isOpenStream, known]; rfl
      | some session =>
          have := (r.issued_id id session known).1
          omega
    rw [Context.isOpenStream, if_pos negative, closed]
    rfl
  · rcases represents.find id with ⟨absent, closed⟩ | null | ⟨h, s, stored, live, -, answer⟩
    · refine Or.inl ?_
      rw [Context.isOpenStream, if_neg negative, absent, closed]
      rfl
    · refine Or.inr ⟨?_, null⟩
      rw [Context.isOpenStream, if_neg negative, null]
      rfl
    · refine Or.inl ?_
      simp only [Context.isOpenStream, if_neg negative, stored, deref, live, answer]

theorem isDeviceStillConnected (represents : c.Represents r) (id : Int) (connected : Bool) :
    c.isDeviceStillConnected id connected = .ok (r.isOpenStream id && connected, c) ∨
      c.isDeviceStillConnected id connected = .error .nullDereference ∧
        c.m_streams.lookup id = some none := by
  rcases represents.find id with ⟨absent, closed⟩ | null | ⟨h, s, stored, live, -, answer⟩
  · refine Or.inl ?_
    rw [Context.isDeviceStillConnected, absent, closed]
    rfl
  · refine Or.inr ⟨?_, null⟩
    rw [Context.isDeviceStillConnected, null]
    rfl
  · refine Or.inl ?_
    simp only [Context.isDeviceStillConnected, stored, deref, live, answer]

theorem openStream (represents : c.Represents r) (few : r.issued < 2 ^ 31) (id formatID : UInt32)
    (platform : PlatformOpen) :
    ∃ c', c.openStream id formatID platform = .ok ((r.openStream id formatID platform).1, c') ∧
      c'.Represents (r.openStream id formatID platform).2 := by
  unfold Context.openStream Registry.openStream
  rw [represents.format?]
  cases c.format? id formatID with
  | none => exact ⟨c, rfl, represents⟩
  | some format =>
      cases platform with
      | failed => exact ⟨_, rfl, represents.abandon _⟩
      | opened width height frameBufferBytes =>
          obtain ⟨sameId, stored⟩ := represents.store few
            ((Stream.new 0 0).opened width height frameBufferBytes)
          simp only [createPlatformStream_put]
          refine ⟨_, ?_, stored⟩
          rw [← sameId]
          rfl

theorem openStreamRaw (represents : c.Represents r) (few : r.issued < 2 ^ 31) (id formatID : UInt32)
    (platform : PlatformOpen) :
    ∃ c', c.openStreamRaw id formatID platform =
        .ok ((r.openStreamRaw id formatID platform).1, c') ∧
      c'.Represents (r.openStreamRaw id formatID platform).2 := by
  unfold Context.openStreamRaw Registry.openStreamRaw
  rw [represents.format?]
  cases c.format? id formatID with
  | none => exact ⟨c, rfl, represents⟩
  | some format =>
      by_cases other : format.fourcc ≠ MJPG
      · simp only [if_pos other]
        exact ⟨c, rfl, represents⟩
      · simp only [if_neg other]
        cases platform with
        | failed => exact ⟨_, rfl, represents.discard _⟩
        | opened width height frameBufferBytes =>
            obtain ⟨sameId, stored⟩ := represents.store few
              (((Stream.new 0 0).setRawMode true (format.width * format.height * 3 / 4)).opened
                width height frameBufferBytes)
            simp only [createPlatformStream_put]
            refine ⟨_, ?_, stored⟩
            rw [← sameId]
            rfl

theorem hasNewFrame (represents : c.Represents r) (asked : id < r.issued) :
    ∃ c', c.hasNewFrame id = .ok (r.hasNewFrame id, c') ∧ c'.Represents r := by
  obtain ⟨c', ran, after⟩ := represents.query asked .hasNewFrame
  rw [Registry.query_hasNewFrame] at ran after
  obtain ⟨new, polled, same⟩ := reply_ok.1 ran
  obtain rfl := Reply.flag.inj same
  exact ⟨c', polled, after⟩

theorem probePoll (represents : c.Represents r) (asked : id < r.issued) (timeoutMs : UInt32)
    (arrivals : List (List Delivery)) (waited : UInt32) :
    (∃ gotFrame c' r', Context.probePoll id timeoutMs arrivals waited c = .ok (gotFrame, c') ∧
        Registry.poll id timeoutMs arrivals waited r = .ok (gotFrame, r') ∧ c'.Represents r') ∨
      ∃ stop, Context.probePoll id timeoutMs arrivals waited c = .error stop ∧
        Registry.poll id timeoutMs arrivals waited r = .error stop := by
  induction arrivals generalizing c r waited with
  | nil =>
      simp only [Context.probePoll, Registry.poll]
      split
      · exact Or.inr ⟨_, rfl, rfl⟩
      · exact Or.inl ⟨_, _, _, rfl, rfl, represents⟩
  | cons arrived arrivals ih =>
      simp only [Context.probePoll, Registry.poll]
      split
      · have slept := represents.deliverAll arrived
        have asked' : id < (arrived.foldl Registry.deliver r).issued := by
          rw [Registry.issued_deliverAll]
          exact asked
        obtain ⟨c', polled, after⟩ := slept.hasNewFrame asked'
        rw [polled]
        cases new : (arrived.foldl Registry.deliver r).hasNewFrame id with
        | true => exact Or.inl ⟨true, c', _, rfl, rfl, after⟩
        | false => exact ih after asked' (waited + 50)
      · exact Or.inl ⟨_, _, _, rfl, rfl, represents⟩

theorem probeDevice (represents : c.Represents r) (few : r.issued < 2 ^ 31)
    (id formatID timeoutMs : UInt32) (platform : PlatformOpen) (arrivals : List (List Delivery)) :
    (∃ gotFrame c' r',
        c.probeDevice id formatID timeoutMs platform arrivals = .ok (gotFrame, c') ∧
        r.probeDevice id formatID timeoutMs platform arrivals = .ok (gotFrame, r') ∧
        c'.Represents r') ∨
      ∃ stop, c.probeDevice id formatID timeoutMs platform arrivals = .error stop ∧
        r.probeDevice id formatID timeoutMs platform arrivals = .error stop := by
  obtain ⟨c₁, opened, after⟩ := represents.openStream few id formatID platform
  have asked := (r.openStream_issues id formatID platform).bound.2
  unfold Context.probeDevice Registry.probeDevice
  simp only [opened]
  generalize r.openStream id formatID platform = result at after asked ⊢
  obtain ⟨streamID, r₁⟩ := result
  by_cases negative : streamID < 0
  · simp only [if_pos negative]
    exact Or.inl ⟨_, _, _, rfl, rfl, after⟩
  · simp only [if_neg negative]
    rcases after.probePoll asked (if timeoutMs = 0 then 2000 else timeoutMs) arrivals 0 with
      ⟨gotFrame, c₂, r₂, polled, polled', waited⟩ | ⟨stop, stopped, stopped'⟩
    · obtain ⟨c₃, closing, closed⟩ := waited.closeStream streamID
      rw [polled, polled']
      simp only [closing]
      exact Or.inl ⟨_, _, _, rfl, rfl, closed⟩
    · rw [stopped, stopped']
      exact Or.inr ⟨stop, rfl, rfl⟩

/-- **One call.**  The context replies as the registry does and goes on representing it, or both
stop alike, or the context finds a null entry where the registry has no session. -/
theorem exec (represents : c.Represents r) (few : r.issued < 2 ^ 31) (call : Call)
    (asks : r.AsksIssued call) :
    (∃ reply c' r', c.exec call = .ok (reply, c') ∧ r.exec call = .ok (reply, r') ∧
        c'.Represents r') ∨
      (∃ stop, c.exec call = .error stop ∧ r.exec call = .error stop) ∨
      c.exec call = .error .nullDereference ∧ ∃ id, c.m_streams.lookup id = some none := by
  cases call with
  | openStream id formatID platform =>
      obtain ⟨c', ran, after⟩ := represents.openStream few id formatID platform
      exact Or.inl ⟨_, c', _, reply_ok.2 ⟨_, ran, rfl⟩, rfl, after⟩
  | openStreamRaw id formatID platform =>
      obtain ⟨c', ran, after⟩ := represents.openStreamRaw few id formatID platform
      exact Or.inl ⟨_, c', _, reply_ok.2 ⟨_, ran, rfl⟩, rfl, after⟩
  | closeStream streamID =>
      obtain ⟨c', ran, after⟩ := represents.closeStream streamID
      exact Or.inl ⟨_, c', _, reply_ok.2 ⟨_, ran, rfl⟩, rfl, after⟩
  | query streamID q =>
      obtain ⟨c', ran, after⟩ := represents.query asks q
      exact Or.inl ⟨_, c', _, ran, rfl, after⟩
  | isOpenStream streamID =>
      rcases represents.isOpenStream streamID with ran | ⟨crashed, null⟩
      · exact Or.inl ⟨_, c, _, reply_ok.2 ⟨_, ran, rfl⟩, rfl, represents⟩
      · refine Or.inr (Or.inr ⟨?_, streamID, null⟩)
        rw [Context.exec, crashed, reply]
  | isDeviceStillConnected streamID connected =>
      rcases represents.isDeviceStillConnected streamID connected with ran | ⟨crashed, null⟩
      · exact Or.inl ⟨_, c, _, reply_ok.2 ⟨_, ran, rfl⟩, rfl, represents⟩
      · refine Or.inr (Or.inr ⟨?_, streamID, null⟩)
        rw [Context.exec, crashed, reply]
  | refreshDevices found answer =>
      refine Or.inl ⟨_, { c with m_devices := found }, { r with devices := found }, rfl, rfl, ?_⟩
      exact ⟨represents.wf.same ⟨rfl, rfl, rfl, rfl, rfl, fun _ => Iff.rfl⟩, rfl,
        represents.cameras, represents.issued,
        fun id h s => (represents.sessions id h s).trans
          ⟨fun shown => ⟨shown.stored, shown.live⟩, fun shown => ⟨shown.stored, shown.live⟩⟩,
        represents.keys⟩
  | probeDevice id formatID timeoutMs platform arrivals =>
      rcases represents.probeDevice few id formatID timeoutMs platform arrivals with
        ⟨gotFrame, c', r', ran, ran', after⟩ | ⟨stop, stopped, stopped'⟩
      · refine Or.inl ⟨.flag gotFrame, c', r', reply_ok.2 ⟨_, ran, rfl⟩, ?_, after⟩
        rw [Registry.exec, ran']
      · refine Or.inr (Or.inl ⟨stop, ?_, ?_⟩)
        · rw [Context.exec, stopped, reply]
        · rw [Registry.exec, stopped']
  | deliver d => exact Or.inl ⟨_, _, _, rfl, rfl, represents.deliver d⟩

end Represents

/-! ## Over a run -/

/-- The context represents the registry, and the inputs to come are few and meet the condition. -/
structure Ahead (asks : Registry → Call → Prop) (calls : List Call) (c : Context) (r : Registry) :
    Prop where
  represents : c.Represents r
  few : r.issued + calls.length ≤ 2 ^ 31
  asked : ∀ e ∈ Run.trace Registry.exec r calls, asks e.pre e.input

section Runs

variable {asks : Registry → Call → Prop} {calls : List Call} {call : Call} {c c' : Context}
variable {r r' : Registry} {answer : Reply}

theorem Ahead.next (ahead : Ahead asks (call :: calls) c r) (ran : r.exec call = .ok (answer, r'))
    (after : c'.Represents r') : Ahead asks calls c' r' where
  represents := after
  few := by
    have grown := Registry.issued_exec ran
    have few := ahead.few
    rw [List.length_cons] at few
    omega
  asked := by
    intro e member
    refine ahead.asked e ?_
    rw [Run.trace_cons_ok calls ran]
    exact List.mem_cons_of_mem _ member

theorem Ahead.now (ahead : Ahead asks (call :: calls) c r) :
    r.issued < 2 ^ 31 ∧ ∀ answer r', r.exec call = .ok (answer, r') → asks r call := by
  constructor
  · have few := ahead.few
    rw [List.length_cons] at few
    omega
  · intro answer r' ran
    refine ahead.asked ⟨r, call, answer, r'⟩ ?_
    rw [Run.trace_cons_ok calls ran]
    exact List.mem_cons_self

/-- Queries always return. -/
theorem asksIssued_of_returned
    (asked : ∀ answer r', r.exec call = .ok (answer, r') → r.AsksIssued call) : r.AsksIssued call := by
  cases call with
  | query id q => exact asked _ _ rfl
  | _ => trivial

end Runs

/-- **A context is its registry.**  For every list of fewer than 2^31 calls, with the frames of the
capture sides and whatever the platform answers, in which no query asks for an id that is still to
be handed out: the context's replies are the registry's, up to a null dereference. -/
theorem refines_registry (devices : List DeviceInfo) (calls : List Call)
    (few : calls.length < 2 ^ 31)
    (asked : ∀ e ∈ Run.trace Registry.exec (Registry.fresh devices) calls, e.pre.AsksIssued e.input) :
    Run.UpTo (· = .nullDereference) (Run.replies exec (fresh devices) calls)
      (Run.replies Registry.exec (Registry.fresh devices) calls) := by
  refine Run.replies_simulation (R := Ahead Registry.AsksIssued) ?_
    ⟨represents_fresh devices, ?_, asked⟩
  · intro call calls c r ahead
    have asks := asksIssued_of_returned ahead.now.2
    rcases ahead.represents.exec ahead.now.1 call asks with
      ⟨answer, c', r', ran, ran', after⟩ | stopped | ⟨crashed, -⟩
    · exact Or.inl ⟨answer, c', r', ran, ran', ahead.next ran' after⟩
    · exact Or.inr (Or.inl stopped)
    · exact Or.inr (Or.inr ⟨_, rfl, crashed⟩)
  · show 0 + calls.length ≤ 2 ^ 31
    omega

/-- A closed id is asked for a new frame; the registry says that it is not open, the context
dereferences the entry the question left. -/
theorem refines_registry_closed_id :
    let devices : List DeviceInfo := [⟨[⟨1, 1, MJPG, 30, 24⟩]⟩]
    let calls : List Call := [.openStream 0 0 (.opened 1 1 3), .closeStream 0, .query 0 .hasNewFrame,
      .openStreamRaw 0 0 (.opened 1 1 3), .isOpenStream 0]
    Run.UpTo (· = .nullDereference) (Run.replies exec (fresh devices) calls)
        (Run.replies Registry.exec (Registry.fresh devices) calls) ∧
      Run.replies Registry.exec (Registry.fresh devices) calls =
        [.ok (.streamID 0), .ok (.flag true), .ok (.flag false), .ok (.streamID 1), .ok (.count 0)] :=
  ⟨refines_registry _ _ (by decide) (by decide), rfl⟩

/-! ## Clients that query open ids -/

/-- An id that is open is a key. -/
theorem Represents.known {c : Context} {r : Registry} {call : Call} (represents : c.Represents r)
    (asks : r.AsksOpen call) : c.Known call := by
  cases call with
  | query id q =>
      refine asks.symm.imp_right fun isOpen => ?_
      obtain ⟨⟨h, s⟩, known⟩ := Option.isSome_iff_exists.1 isOpen
      exact Finmap.mem_of_lookup_eq_some ((represents.sessions id h s).1 known).stored
  | _ => trivial

theorem asksOpen_of_returned {r : Registry} {call : Call}
    (asked : ∀ answer r', r.exec call = .ok (answer, r') → r.AsksOpen call) : r.AsksOpen call := by
  cases call with
  | query id q => exact asked _ _ rfl
  | _ => trivial

/-- **For a client that queries open ids the context is the registry.**  For every list of fewer
than 2^31 calls in which each query asks for an id that is open, or is refused for a negative one:
the replies are the registry's, and nothing is dereferenced that is null or deleted. -/
theorem refines_registry_open (devices : List DeviceInfo) (calls : List Call)
    (few : calls.length < 2 ^ 31)
    (asked : ∀ e ∈ Run.trace Registry.exec (Registry.fresh devices) calls, e.pre.AsksOpen e.input) :
    Run.replies exec (fresh devices) calls =
      Run.replies Registry.exec (Registry.fresh devices) calls := by
  have simulated : Run.UpTo (fun _ => False) (Run.replies exec (fresh devices) calls)
      (Run.replies Registry.exec (Registry.fresh devices) calls) := by
    refine Run.replies_simulation
      (R := fun calls c r => Ahead Registry.AsksOpen calls c r ∧ c.NullFree) ?_
      ⟨⟨represents_fresh devices, ?_, asked⟩, nullFree_fresh devices⟩
    · rintro call calls c r ⟨ahead, free⟩
      have asks := asksOpen_of_returned ahead.now.2
      rcases ahead.represents.exec ahead.now.1 call asks.asksIssued with
        ⟨answer, c', r', ran, ran', after⟩ | stopped | ⟨-, id, null⟩
      · have kept := (nullFree_exec_iff ran free).2 (ahead.represents.known asks)
        exact Or.inl ⟨answer, c', r', ran, ran', ahead.next ran' after, kept⟩
      · exact Or.inr (Or.inl stopped)
      · exact absurd null (free.entries id)
    · show 0 + calls.length ≤ 2 ^ 31
      omega
  rcases simulated with same | ⟨_, _, _, _, impossible, -⟩
  · exact same
  · exact impossible.elim

/-- A frame of the first stream arrives after that stream was closed. -/
theorem refines_registry_open_two_streams :
    let devices : List DeviceInfo := [⟨[⟨1, 1, MJPG, 30, 24⟩]⟩]
    let calls : List Call := [.openStream 0 0 (.opened 1 1 3), .openStream 0 0 (.opened 1 1 3),
      .deliver ⟨1, .submitBuffer (some [4, 5, 6])⟩, .closeStream 0,
      .deliver ⟨0, .submitBuffer (some [1, 2, 3])⟩, .query 1 (.captureFrame [0, 0, 0] 3)]
    Run.replies exec (fresh devices) calls =
        Run.replies Registry.exec (Registry.fresh devices) calls ∧
      Run.replies Registry.exec (Registry.fresh devices) calls =
        [.ok (.streamID 0), .ok (.streamID 1), .ok .none, .ok (.flag true), .ok .none,
          .ok (.frame true (some [4, 5, 6]))] :=
  ⟨refines_registry_open _ _ (by decide) (by decide), rfl⟩

end Context

end OpenpnpCapture.Common
