/-
# Common.Isolation — what other streams do is not observed

The streams of a context share its map.  `Agree` relates a run and the run without the events of
other ids, as far as one id can see: both have the same stream under it with the same contents, or
neither has one.  An event of the id keeps the relation and gets the same reply in both
(`agree_own`); any other event leaves the first context in it (`agree_other`), since no two ids
store the same stream.

The calls are those of an open stream, with `closeStream` and the frames of the capture sides.  No
id has to be open: a lookup with `operator[]` of another id adds an entry under that id only.
-/
import OpenpnpCapture.Common.IssuedIds

namespace OpenpnpCapture.Common

open OpenpnpCapture.Lib OpenpnpCapture.Lib.StdMap

set_option autoImplicit false

/-- A frame from the capture side of a stream, or a client call on an id. -/
inductive IdEvent
  | submit (stream : Handle) (submission : Submission)
  | query (streamID : Int) (q : StreamQuery)
  | closeStream (streamID : Int)

namespace IdEvent

def call : IdEvent → Call
  | submit stream submission => .deliver ⟨stream, submission⟩
  | query streamID q => .query streamID q
  | closeStream streamID => .closeStream streamID

/-- The event is one of the id, or a frame of the stream it stores. -/
def concerns (id : Int) (own : Ptr) : IdEvent → Bool
  | submit stream _ => own = some stream
  | query streamID _ | closeStream streamID => streamID = id

end IdEvent

namespace Context

def perform (c : Context) (event : IdEvent) : Except Stop (Reply × Context) :=
  c.exec event.call

/-- The stream stored under an id. -/
def streamOf (c : Context) (id : Int) : Ptr := (c.m_streams.lookup id).join

/-- The id stores the stream at `h`, with the contents `s`. -/
structure Shows (c : Context) (id : Int) (h : Handle) (s : Stream) : Prop where
  stored : c.m_streams.lookup id = some (some h)
  live : c.heap h = some s

/-- The two contexts are the same as far as the id, which stored `own` at first, can see. -/
structure Agree (id : Int) (own : Ptr) (c d : Context) : Prop where
  wf : c.Wf
  wf' : d.Wf
  view : (∃ h s, own = some h ∧ c.Shows id h s ∧ d.Shows id h s) ∨ c.NotOpen id ∧ d.NotOpen id

section Events

variable {c c' d : Context} {id : Int} {h : Handle} {s : Stream} {r : Reply} {event : IdEvent}

theorem shows_or_notOpen (wf : c.Wf) (id : Int) :
    (∃ h s, c.streamOf id = some h ∧ c.Shows id h s) ∨ c.NotOpen id := by
  cases stored : c.m_streams.lookup id with
  | none => exact Or.inr fun h impossible => by simp [stored] at impossible
  | some p =>
      cases p with
      | none => exact Or.inr fun h impossible => by simp [stored] at impossible
      | some h =>
          obtain ⟨s, live⟩ := Option.ne_none_iff_exists'.1 (wf.stored_live id h stored)
          exact Or.inl ⟨h, s, by rw [streamOf, stored, Option.join_some], stored, live⟩

/-- An event always returns. -/
theorem perform_returns (wf : c.Wf) (event : IdEvent) :
    ∃ r c', c.perform event = .ok (r, c') ∧ c'.Wf := by
  suffices returns : ∃ r c', c.perform event = .ok (r, c') by
    obtain ⟨r, c', ran⟩ := returns
    exact ⟨r, c', ran, wf.exec ran⟩
  cases event with
  | submit stream submission => exact ⟨_, _, rfl⟩
  | query streamID q =>
      rcases shows_or_notOpen wf streamID with ⟨h, s, -, shown⟩ | notOpen
      · exact ⟨_, _, query_live shown.stored shown.live q⟩
      · exact ⟨_, _, query_notOpen notOpen q⟩
  | closeStream streamID =>
      cases result : c.closeStream streamID with
      | error stop => exact absurd result (closeStream_returns c streamID stop)
      | ok closed => exact ⟨.flag closed.1, closed.2, by simp [perform, IdEvent.call, exec, result, reply]⟩

/-- No event opens a stream. -/
theorem notOpen_perform (ran : c.perform event = .ok (r, c')) (notOpen : c.NotOpen id) :
    c'.NotOpen id := by
  intro h stored
  have noneIssued : issuedId c event.call = none := by cases event <;> rfl
  rcases (exec_idStep ran).stored id h stored with before | issued
  · exact notOpen h before
  · rw [noneIssued] at issued
    cases issued

/-- An event that does not concern an id leaves its stream as it is. -/
theorem shows_perform_other (wf : c.Wf) (shown : c.Shows id h s)
    (other : event.concerns id (some h) = false) (ran : c.perform event = .ok (r, c')) :
    c'.Shows id h s := by
  -- what is put or deleted under another id is another object
  have differs (id' : Int) (h' : Handle) (apart : id' ≠ id)
      (stored : c.m_streams.lookup id' = some (some h')) : h ≠ h' := by
    rintro rfl
    exact apart (wf.stored_once id' id h stored shown.stored)
  cases event with
  | submit stream submission =>
      have apart : h ≠ stream := fun same => of_decide_eq_false other (congrArg some same)
      cases ran
      unfold deliver
      split
      · exact shown
      · exact ⟨shown.stored, (Function.update_of_ne apart _ _).trans shown.live⟩
  | query streamID q =>
      have apart : streamID ≠ id := of_decide_eq_false other
      have looked : onStream q.rejectsNegative c streamID q.unknown q.act = .ok (r, c') :=
        (query_eq c streamID q).symm.trans ran
      rcases onStream_cases looked with ⟨-, -, -, rfl⟩ | ⟨-, ⟨-, rfl, -⟩ | ⟨h', s', stored, -, -, rfl⟩⟩
      · exact shown
      · exact ⟨lookup_insertNew_of_some shown.stored, shown.live⟩
      · exact ⟨shown.stored,
          (Function.update_of_ne (differs streamID h' apart stored) _ _).trans shown.live⟩
  | closeStream streamID =>
      have apart : streamID ≠ id := of_decide_eq_false other
      obtain ⟨closed, closing, -⟩ := reply_ok.1 ran
      rcases closeStream_cases closing with ⟨-, rfl⟩ | ⟨-, p, stored, rfl⟩
      · exact shown
      · refine ⟨lookup_erase_some.2 ⟨apart.symm, shown.stored⟩, ?_⟩
        cases p with
        | none => exact shown.live
        | some h' => exact (Function.update_of_ne (differs streamID h' apart stored) _ _).trans shown.live

theorem Shows.put (shown : c.Shows id h s) (s' : Stream) : (c.put h s').Shows id h s' :=
  ⟨shown.stored, Function.update_self ..⟩

theorem Shows.deliver (shown : c.Shows id h s) (submission : Submission) :
    (c.deliver ⟨h, submission⟩).Shows id h (s.submit submission) := by
  rw [Context.deliver, shown.live]
  exact shown.put _

theorem perform_closeStream (c : Context) (streamID : Int) :
    ∃ c', c.perform (.closeStream streamID) = .ok (.flag (decide (0 ≤ streamID)), c') ∧
      c.closeStream streamID = .ok (decide (0 ≤ streamID), c') := by
  have closing : ∃ c', c.closeStream streamID = .ok (decide (0 ≤ streamID), c') := by
    unfold Context.closeStream
    by_cases negative : streamID < 0
    · exact ⟨c, by rw [if_pos negative, decide_eq_false (not_le.2 negative)]⟩
    · exact ⟨_, by rw [if_neg negative, decide_eq_true (not_lt.1 negative)]⟩
  obtain ⟨c', closed⟩ := closing
  refine ⟨c', ?_, closed⟩
  rw [perform, IdEvent.call, exec, closed]
  rfl

theorem notOpen_closeStream {streamID : Int} {closed : Bool}
    (ran : c.closeStream streamID = .ok (closed, c')) (nonneg : 0 ≤ streamID) :
    c'.NotOpen streamID := by
  intro h stored
  rw [(closeStream_lookup ran).2.2 nonneg] at stored
  cases stored

variable {own : Ptr}

/-- An event of the id has the same reply in both contexts, which stay in agreement. -/
theorem agree_own (agree : Agree id own c d) (keeps : event.concerns id own = true) :
    ∃ r c' d', c.perform event = .ok (r, c') ∧ d.perform event = .ok (r, d') ∧
      Agree id own c' d' := by
  obtain ⟨wf, wf', view⟩ := agree
  cases event with
  | submit stream submission =>
      obtain rfl : own = some stream := of_decide_eq_true keeps
      have ranC : c.perform (.submit stream submission) = .ok (.none, c.deliver ⟨stream, submission⟩) :=
        rfl
      have ranD : d.perform (.submit stream submission) = .ok (.none, d.deliver ⟨stream, submission⟩) :=
        rfl
      refine ⟨_, _, _, ranC, ranD, wf.exec ranC, wf'.exec ranD, ?_⟩
      rcases view with ⟨h, s, ⟨⟩, left, right⟩ | ⟨left, right⟩
      · exact Or.inl ⟨stream, _, rfl, left.deliver submission, right.deliver submission⟩
      · exact Or.inr ⟨notOpen_perform ranC left, notOpen_perform ranD right⟩
  | query streamID q =>
      obtain rfl : streamID = id := of_decide_eq_true keeps
      rcases view with ⟨h, s, same, left, right⟩ | ⟨left, right⟩
      · have ranC : c.perform (.query streamID q) = _ := query_live left.stored left.live q
        have ranD : d.perform (.query streamID q) = _ := query_live right.stored right.live q
        by_cases rejected : q.rejectsNegative = true ∧ streamID < 0
        · rw [if_pos rejected] at ranC ranD
          exact ⟨_, _, _, ranC, ranD, wf, wf', Or.inl ⟨h, s, same, left, right⟩⟩
        · rw [if_neg rejected] at ranC ranD
          exact ⟨_, _, _, ranC, ranD, wf.exec ranC, wf'.exec ranD,
            Or.inl ⟨h, _, same, left.put _, right.put _⟩⟩
      · have ranC : c.perform (.query streamID q) = _ := query_notOpen left q
        have ranD : d.perform (.query streamID q) = _ := query_notOpen right q
        exact ⟨_, _, _, ranC, ranD, wf.exec ranC, wf'.exec ranD,
          Or.inr ⟨notOpen_perform ranC left, notOpen_perform ranD right⟩⟩
  | closeStream streamID =>
      obtain rfl : streamID = id := of_decide_eq_true keeps
      obtain ⟨c', ranC, closingC⟩ := perform_closeStream c streamID
      obtain ⟨d', ranD, closingD⟩ := perform_closeStream d streamID
      refine ⟨_, c', d', ranC, ranD, wf.exec ranC, wf'.exec ranD, ?_⟩
      by_cases nonneg : 0 ≤ streamID
      · exact Or.inr ⟨notOpen_closeStream closingC nonneg, notOpen_closeStream closingD nonneg⟩
      · have negative : streamID < 0 := not_le.1 nonneg
        rw [Context.closeStream, if_pos negative] at closingC closingD
        obtain ⟨-, rfl⟩ := Prod.mk.inj (Except.ok.inj closingC)
        obtain ⟨-, rfl⟩ := Prod.mk.inj (Except.ok.inj closingD)
        exact view

/-- Any other event returns and leaves the agreement. -/
theorem agree_other (agree : Agree id own c d) (drops : event.concerns id own = false) :
    ∃ r c', c.perform event = .ok (r, c') ∧ Agree id own c' d := by
  obtain ⟨wf, wf', view⟩ := agree
  obtain ⟨r, c', ran, after⟩ := perform_returns wf event
  refine ⟨r, c', ran, after, wf', ?_⟩
  rcases view with ⟨h, s, rfl, left, right⟩ | ⟨left, right⟩
  · exact Or.inl ⟨h, s, rfl, shows_perform_other wf left drops ran, right⟩
  · exact Or.inr ⟨notOpen_perform ran left, right⟩

end Events

/-- **Isolation.**  From every context a run reaches, with any streams open, and for every
interleaving of frames and client calls: the replies to the events of one id are those of the run
without the events of all others. -/
theorem isolated (devices : List DeviceInfo) (calls : List Call) {c : Context}
    (reached : c ∈ Run.reached exec (fresh devices) calls) (events : List IdEvent) (id : Int) :
    Run.observed perform (IdEvent.concerns id (c.streamOf id)) c events =
      Run.replies perform c (events.filter (IdEvent.concerns id (c.streamOf id))) := by
  have wf := wf_reached c reached
  have itself : Agree id (c.streamOf id) c c := by
    refine ⟨wf, wf, ?_⟩
    rcases shows_or_notOpen wf id with ⟨h, s, own, shown⟩ | notOpen
    · exact Or.inl ⟨h, s, own, shown, shown⟩
    · exact Or.inr ⟨notOpen, notOpen⟩
  apply Run.observed_projection (R := Agree id (c.streamOf id))
  · exact fun _ _ _ keeps agree => agree_own agree keeps
  · exact fun _ _ _ drops agree => agree_other agree drops
  · exact itself

/-- Two streams of one pixel; the first is sent a frame and closed. -/
theorem isolated_two_streams :
    ∃ c ∈ Run.reached exec (fresh [⟨[⟨1, 1, MJPG, 30, 24⟩]⟩])
        [.openStream 0 0 (.opened 1 1 3), .openStream 0 0 (.opened 1 1 3)],
      Run.observed perform (IdEvent.concerns 1 (c.streamOf 1)) c
          [.submit 0 (.submitBuffer (some [1, 2, 3])), .query 1 .hasNewFrame,
            .submit 1 (.submitBuffer (some [4, 5, 6])), .closeStream 0,
            .query 1 (.captureFrame [0, 0, 0] 3)] =
        [.ok (.flag false), .ok .none, .ok (.frame true (some [4, 5, 6]))] := by
  refine ⟨_, List.mem_of_getLast? rfl, ?_⟩
  rw [isolated [⟨[⟨1, 1, MJPG, 30, 24⟩]⟩]
    [.openStream 0 0 (.opened 1 1 3), .openStream 0 0 (.opened 1 1 3)] (List.mem_of_getLast? rfl)]
  rfl

end Context

end OpenpnpCapture.Common
