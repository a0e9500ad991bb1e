/-
# Common.Registry — what a context is for

The registry as a client knows it: the devices, the open streams by id, and how many ids have been
handed out.  A session is an open stream and the capture side that feeds it.  There is no pointer
and no heap, the counter is a number, and a lookup of an id that is not open changes nothing.

Capture sides are numbered in the order in which they are created, also those whose stream did not
open, since a frame may still come from one of these.
-/
import OpenpnpCapture.Common.Context

namespace OpenpnpCapture.Common

open OpenpnpCapture.Lib

set_option autoImplicit false

/-- An open stream and the number of its capture side. -/
structure Session where
  camera : Nat
  stream : Stream
deriving DecidableEq

structure Registry where
  devices : List DeviceInfo
  /-- The capture sides created so far. -/
  cameras : Nat
  /-- The ids handed out so far are those below `issued`. -/
  issued : Nat
  sessions : Int → Option Session
  issued_id : ∀ id session, sessions id = some session → 0 ≤ id ∧ id < issued

namespace Registry

def fresh (devices : List DeviceInfo) : Registry where
  devices := devices
  cameras := 0
  issued := 0
  sessions := fun _ => none
  issued_id := fun _ _ impossible => by cases impossible

/-! ## Sessions -/

/-- A capture side whose stream did not open. -/
def withCamera (r : Registry) : Registry := { r with cameras := r.cameras + 1 }

/-- A new session, under the next id. -/
def issue (r : Registry) (s : Stream) : Int × Registry :=
  (r.issued,
    { r with
      cameras := r.cameras + 1
      issued := r.issued + 1
      sessions := Function.update r.sessions r.issued (some ⟨r.cameras, s⟩)
      issued_id := by
        intro id session known
        by_cases new : id = r.issued
        · subst new
          omega
        · rw [Function.update_of_ne new] at known
          have old := r.issued_id id session known
          omega })

def remove (r : Registry) (id : Int) : Registry :=
  { r with
    sessions := Function.update r.sessions id none
    issued_id := by
      intro id' session known
      by_cases same : id' = id
      · subst same
        rw [Function.update_self] at known
        cases known
      · rw [Function.update_of_ne same] at known
        exact r.issued_id id' session known }

def mapSessions (r : Registry) (f : Int → Session → Session) : Registry :=
  { r with
    sessions := fun id => (r.sessions id).map (f id)
    issued_id := by
      intro id session known
      obtain ⟨before, stored, -⟩ := Option.map_eq_some_iff.1 known
      exact r.issued_id id before stored }

def deliver (r : Registry) (d : Delivery) : Registry :=
  r.mapSessions fun _ session =>
    if session.camera = d.stream then { session with stream := session.stream.submit d.submission }
    else session

/-! ## Calls -/

def format? (r : Registry) (id formatID : UInt32) : Option CapFormatInfo :=
  (r.devices[id.toNat]?).bind fun device => device.m_formats[formatID.toNat]?

def openStream (r : Registry) (id formatID : UInt32) (platform : PlatformOpen) : Int × Registry :=
  match r.format? id formatID, platform with
  | none, _ => (-1, r)
  | some _, .failed => (-1, r.withCamera)
  | some _, .opened width height frameBufferBytes =>
      r.issue ((Stream.new 0 0).opened width height frameBufferBytes)

/-- Only a motion JPEG format opens as a raw stream. -/
def openStreamRaw (r : Registry) (id formatID : UInt32) (platform : PlatformOpen) : Int × Registry :=
  match r.format? id formatID with
  | none => (-1, r)
  | some format =>
      if format.fourcc ≠ Context.MJPG then (-1, r)
      else
        match platform with
        | .failed => (-1, r.withCamera)
        | .opened width height frameBufferBytes =>
            r.issue (((Stream.new 0 0).setRawMode true (format.width * format.height * 3 / 4)).opened
              width height frameBufferBytes)

def isOpenStream (r : Registry) (id : Int) : Bool :=
  (r.sessions id).any fun session => session.stream.isOpen

def hasNewFrame (r : Registry) (id : Int) : Bool :=
  (r.sessions id).any fun session => session.stream.hasNewFrame

/-- A query is answered by the stream; for an id that is not open it has a reply of its own. -/
def query (r : Registry) (id : Int) (q : StreamQuery) : Reply × Registry :=
  match r.sessions id with
  | none => (q.unknown, r)
  | some session =>
      ((q.act session.stream).1,
        r.mapSessions fun id' session =>
          if id' = id then { session with stream := (q.act session.stream).2 } else session)

/-- Waiting for a frame, up to the timeout: `arrivals` are the frames of each interval. -/
def poll (id : Int) (timeoutMs : UInt32) :
    List (List Delivery) → (waited : UInt32) → Registry → Except Stop (Bool × Registry)
  | [], waited, r => if waited < timeoutMs then .error .polling else .ok (false, r)
  | arrived :: arrivals, waited, r =>
      if waited < timeoutMs then
        let r := arrived.foldl deliver r
        if r.hasNewFrame id then .ok (true, r) else poll id timeoutMs arrivals (waited + 50) r
      else .ok (false, r)

/-- A stream of its own, for as long as it takes to see a frame. -/
def probeDevice (r : Registry) (id formatID timeoutMs : UInt32) (platform : PlatformOpen)
    (arrivals : List (List Delivery)) : Except Stop (Bool × Registry) :=
  let (streamID, r) := r.openStream id formatID platform
  if streamID < 0 then .ok (false, r)
  else
    match poll streamID (if timeoutMs = 0 then 2000 else timeoutMs) arrivals 0 r with
    | .error stop => .error stop
    | .ok (gotFrame, r) => .ok (gotFrame, r.remove streamID)

def exec (r : Registry) : Call → Except Stop (Reply × Registry)
  | .openStream id formatID platform =>
      let (streamID, r) := r.openStream id formatID platform
      .ok (.streamID streamID, r)
  | .openStreamRaw id formatID platform =>
      let (streamID, r) := r.openStreamRaw id formatID platform
      .ok (.streamID streamID, r)
  | .closeStream streamID => .ok (.flag (decide (0 ≤ streamID)), r.remove streamID)
  | .isOpenStream streamID => .ok (.count (if r.isOpenStream streamID then 1 else 0), r)
  | .isDeviceStillConnected streamID connected =>
      .ok (.flag (r.isOpenStream streamID && connected), r)
  | .query streamID q => .ok (r.query streamID q)
  | .refreshDevices found answer => .ok (.flag answer, { r with devices := found })
  | .probeDevice id formatID timeoutMs platform arrivals =>
      match r.probeDevice id formatID timeoutMs platform arrivals with
      | .ok (gotFrame, r) => .ok (.flag gotFrame, r)
      | .error stop => .error stop
  | .deliver d => .ok (.none, r.deliver d)

/-! ## The ids handed out -/

section Issued

variable {r r' : Registry} {id : Int}

theorem issued_deliverAll (r : Registry) (arrived : List Delivery) :
    (arrived.foldl deliver r).issued = r.issued := by
  induction arrived generalizing r with
  | nil => rfl
  | cons d arrived ih => exact ih (r.deliver d)

theorem issued_poll {timeoutMs waited : UInt32} {arrivals : List (List Delivery)} {gotFrame : Bool}
    (ran : poll id timeoutMs arrivals waited r = .ok (gotFrame, r')) : r'.issued = r.issued := by
  induction arrivals generalizing r waited with
  | nil =>
      simp only [poll] at ran
      split at ran
      · cases ran
      · cases ran
        rfl
  | cons arrived arrivals ih =>
      simp only [poll] at ran
      split at ran
      · split at ran
        · cases ran
          exact issued_deliverAll r arrived
        · exact (ih ran).trans (issued_deliverAll r arrived)
      · cases ran
        rfl

/-- An open returns -1 and hands out no id, or returns the next one. -/
def Issues (r : Registry) (opened : Int × Registry) : Prop :=
  opened.1 = -1 ∧ opened.2.issued = r.issued ∨
    opened.1 = r.issued ∧ opened.2.issued = r.issued + 1

theorem openStream_issues (r : Registry) (device formatID : UInt32) (platform : PlatformOpen) :
    r.Issues (r.openStream device formatID platform) := by
  unfold openStream
  split
  · exact Or.inl ⟨rfl, rfl⟩
  · exact Or.inl ⟨rfl, rfl⟩
  · exact Or.inr ⟨rfl, rfl⟩

theorem openStreamRaw_issues (r : Registry) (device formatID : UInt32) (platform : PlatformOpen) :
    r.Issues (r.openStreamRaw device formatID platform) := by
  unfold openStreamRaw
  split
  · exact Or.inl ⟨rfl, rfl⟩
  · split
    · exact Or.inl ⟨rfl, rfl⟩
    · split
      · exact Or.inl ⟨rfl, rfl⟩
      · exact Or.inr ⟨rfl, rfl⟩

theorem Issues.bound {opened : Int × Registry} (issues : r.Issues opened) :
    opened.2.issued ≤ r.issued + 1 ∧ opened.1 < opened.2.issued := by
  rcases issues with ⟨id, same⟩ | ⟨id, next⟩ <;> omega

/-- A call hands out one id at most. -/
theorem issued_exec {call : Call} {reply : Reply} (ran : r.exec call = .ok (reply, r')) :
    r'.issued ≤ r.issued + 1 := by
  cases call with
  | openStream device formatID platform =>
      cases ran
      exact (r.openStream_issues device formatID platform).bound.1
  | openStreamRaw device formatID platform =>
      cases ran
      exact (r.openStreamRaw_issues device formatID platform).bound.1
  | query streamID q =>
      obtain rfl : (r.query streamID q).2 = r' := congrArg Prod.snd (Except.ok.inj ran)
      unfold query
      split
      · exact Nat.le_succ r.issued
      · exact Nat.le_succ r.issued
  | probeDevice device formatID timeoutMs platform arrivals =>
      have opened := (r.openStream_issues device formatID platform).bound.1
      simp only [exec, probeDevice] at ran
      split at ran
      · rename_i found
        cases ran
        split at found
        · cases found
          exact opened
        · split at found
          · cases found
          · rename_i polled
            cases found
            exact (Nat.le_of_eq (issued_poll polled)).trans opened
      · cases ran
  | closeStream | isOpenStream | isDeviceStillConnected | refreshDevices | deliver =>
      cases ran
      exact Nat.le_succ r.issued

end Issued

/-- A poll changes no session. -/
theorem query_hasNewFrame (r : Registry) (id : Int) :
    r.query id .hasNewFrame = (.flag (r.hasNewFrame id), r) := by
  unfold query hasNewFrame
  cases known : r.sessions id with
  | none => rfl
  | some session =>
      refine Prod.ext rfl ?_
      show r.mapSessions _ = r
      unfold mapSessions
      congr 1
      funext id'
      by_cases same : id' = id
      · subst same
        rw [known]
        simp [StreamQuery.act]
      · simp [same]

/-! ## Clients -/

/-- The call queries no id that is still to be handed out. -/
def AsksIssued (r : Registry) : Call → Prop
  | .query id _ => id < r.issued
  | _ => True

/-- The call queries an open id, or one that its own check refuses. -/
def AsksOpen (r : Registry) : Call → Prop
  | .query id q => (r.sessions id).isSome = true ∨ q.rejectsNegative = true ∧ id < 0
  | _ => True

instance (r : Registry) : (call : Call) → Decidable (r.AsksIssued call)
  | .query id _ => inferInstanceAs (Decidable (id < r.issued))
  | .openStream .. | .openStreamRaw .. | .closeStream _ | .isOpenStream _
  | .isDeviceStillConnected .. | .refreshDevices .. | .probeDevice .. | .deliver _ => isTrue trivial

instance (r : Registry) : (call : Call) → Decidable (r.AsksOpen call)
  | .query id q =>
      inferInstanceAs (Decidable ((r.sessions id).isSome = true ∨ q.rejectsNegative = true ∧ id < 0))
  | .openStream .. | .openStreamRaw .. | .closeStream _ | .isOpenStream _
  | .isDeviceStillConnected .. | .refreshDevices .. | .probeDevice .. | .deliver _ => isTrue trivial

theorem AsksOpen.asksIssued {r : Registry} {call : Call} (asks : r.AsksOpen call) :
    r.AsksIssued call := by
  cases call with
  | query id q =>
      rcases asks with isOpen | ⟨-, negative⟩
      · obtain ⟨session, stored⟩ := Option.isSome_iff_exists.1 isOpen
        exact (r.issued_id id session stored).2
      · show id < r.issued
        omega
  | _ => trivial

end Registry

end OpenpnpCapture.Common
