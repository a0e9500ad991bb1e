/-
# Win.ComLifecycle — is everything a stream acquires released exactly once?

`lifeLog` is what a stream acquires and releases from its construction to its end, as
`Context` drives it: `openStreamRaw` deletes the object after a failed open, `openStream`
does not, and an open stream is deleted in the end.  Three defects decide the outcome:

* the constructor leaves `m_capture` and `m_videoProcAmp` uninitialised, and `close` releases
  them, so an early failure releases a pointer nobody acquired;
* `close` deletes the callback handler without clearing it, so the destructor deletes it again
  after the exit for a changed resolution, which has run `close` already;
* `openStream` drops a failed object together with what it holds.

`life_clean_iff` gives the exact condition for each of the two openers.
-/
import OpenpnpCapture.Win.PlatformStream

namespace OpenpnpCapture.Win

open OpenpnpCapture.Lib OpenpnpCapture.Lib.Lease OpenpnpCapture.Common

set_option autoImplicit false

namespace PlatformStream

inductive Opener
  | openStream
  | openStreamRaw
deriving DecidableEq, Repr

/-- The base object the opener prepares; `m_width` and `m_height` start as the memory was. -/
def base (opener : Opener) (width height estimatedJPEGSize : UInt32) : Stream :=
  match opener with
  | .openStream => Stream.new width height
  | .openStreamRaw => (Stream.new width height).setRawMode true estimatedJPEGSize

/-- What a stream acquires and releases in its life. -/
def lifeLog (opener : Opener) (base : Stream) (a : OpenAnswers) (want : Request) :
    List (Event Resource) :=
  let r := (new base).open a want
  match opener, r.1 with
  -- the failure exit of `openStream` has no `delete`
  | .openStream, false => r.2.slots.log
  | .openStream, true => r.2.close.slots.log
  | .openStreamRaw, _ => r.2.close.slots.log

/-! ## When it is clean -/

/-- `open` gets as far as the graph. -/
def Given (a : OpenAnswers) : Prop :=
  a.ownerGiven = true ∧ a.deviceGiven = true ∧ a.platformDevice = true

/-- All steps through the format search succeed. -/
def Prepared (a : OpenAnswers) (want : Request) : Prop :=
  a.createGraph = true ∧ a.createCapture = true ∧ a.queryControl = true ∧
    a.findCaptureDevice = true ∧ a.addSourceFilter = true ∧
    ∃ config, a.streamConfig = some config ∧ config.iSize = some sizeofVideoStreamConfigCaps ∧
      (formatSearch config.caps want).formatSet = true

/-- All steps from the sample grabber to `RenderStream` succeed. -/
def Connects (a : OpenAnswers) : Prop :=
  a.createSampleGrabber = true ∧ a.querySampleGrabber = true ∧ a.addSampleGrabber = true ∧
    a.setMediaType = true ∧ a.setCallback = true ∧
    (a.createNullRenderer = true → a.addNullRenderer = true) ∧ a.renderStream = true

/-- The size a connected type reports, if it is of the video-info format. -/
def ConnectedType.size? (t : Option ConnectedType) : Option (UInt32 × UInt32) :=
  t.bind fun vi => if vi.formatVideoInfo then some (vi.biWidth.toUInt32, vi.biHeight.toUInt32) else none

/-- The last connected type that reports a size reports the requested one. -/
def SizeKept (a : OpenAnswers) (want : Request) : Prop :=
  ((ConnectedType.size? a.connectedTypePost).or (ConnectedType.size? a.connectedType)).getD (0, 0) =
    (want.width, want.height)

/-- A raw stream: every step through the format search succeeds, and the exit for a changed
resolution is not taken.  A normal stream: nothing was acquired yet when it failed, or it reached
the size check. -/
def LivesCleanly (opener : Opener) (a : OpenAnswers) (want : Request) : Prop :=
  match opener with
  | .openStreamRaw => Given a ∧ Prepared a want ∧ (Connects a → SizeKept a want)
  | .openStream => ¬ (Given a ∧ a.createGraph = true) ∨ (Prepared a want ∧ Connects a)

/-! ## The slots `open` leaves -/

/-- The slots after the last step of `open` that ran. -/
def stepped (a : OpenAnswers) (want : Request) (s : Slots Resource) : Bool × Slots Resource :=
  run (prepareSteps a want ++ controlSteps a ++ connectSteps a) s

section Open

variable {s : PlatformStream} {a : OpenAnswers} {want : Request}

theorem readFinal_slots (s : PlatformStream) (t t' : Option ConnectedType) :
    ((s.readNegotiated t).readFinal t').slots = s.slots := by
  have negotiated : (s.readNegotiated t).slots = s.slots := by
    cases t with
    | none => rfl
    | some vi =>
        unfold readNegotiated
        dsimp only
        split <;> rfl
  cases t' with
  | none => exact negotiated
  | some vi =>
      unfold readFinal
      dsimp only
      split <;> exact negotiated

/-- The final size is the one `SizeKept` reads. -/
theorem readFinal_size (s : PlatformStream) (zero : s.m_width = 0 ∧ s.m_height = 0)
    (a : OpenAnswers) (want : Request) :
    (((s.readNegotiated a.connectedType).readFinal a.connectedTypePost).m_width = want.width ∧
      ((s.readNegotiated a.connectedType).readFinal a.connectedTypePost).m_height = want.height) ↔
      SizeKept a want := by
  unfold SizeKept ConnectedType.size?
  rcases a.connectedTypePost with _ | ⟨_ | _, w', h'⟩ <;>
    rcases a.connectedType with _ | ⟨_ | _, w, h⟩ <;>
    simp [readNegotiated, readFinal, zero.1, zero.2]

theorem conclude_cases (zero : s.m_width = 0 ∧ s.m_height = 0) (a : OpenAnswers) (want : Request) :
    (¬ SizeKept a want ∧ (s.conclude a want).1 = false ∧
      (s.conclude a want).2.slots = (s.slots.discardAll releases).discard .pConfig .null) ∨
    (SizeKept a want ∧ (s.conclude a want).1 = true ∧
      (s.conclude a want).2.slots = s.slots.discard .pConfig .null) := by
  have size := readFinal_size s zero a want
  have slots := readFinal_slots s a.connectedType a.connectedTypePost
  unfold conclude
  dsimp only
  generalize (s.readNegotiated a.connectedType).readFinal a.connectedTypePost = t at size slots
  by_cases kept : SizeKept a want
  · obtain ⟨width, height⟩ := size.2 kept
    rw [if_neg (by rw [width, height]; simp)]
    exact Or.inr ⟨kept, rfl, by rw [leaveScope_slots, slots]⟩
  · rw [if_pos (by rw [← not_and_or]; exact fun same => kept (size.1 same))]
    exact Or.inl ⟨kept, rfl, by rw [leaveScope_slots, close_slots, slots]⟩

/-- Where `open` can return on a stream that is not open. -/
theorem open_cases (closed : s.m_isOpen = false) (a : OpenAnswers) (want : Request) :
    (¬ Given a ∧ s.open a want = (false, s)) ∨
    (Given a ∧ (stepped a want s.slots).1 = false ∧ (s.open a want).1 = false ∧
      (s.open a want).2.slots = (stepped a want s.slots).2.discard .pConfig .null) ∨
    (Given a ∧ (stepped a want s.slots).1 = true ∧ ¬ SizeKept a want ∧ (s.open a want).1 = false ∧
      (s.open a want).2.slots =
        ((stepped a want s.slots).2.discardAll releases).discard .pConfig .null) ∨
    (Given a ∧ (stepped a want s.slots).1 = true ∧ SizeKept a want ∧ (s.open a want).1 = true ∧
      (s.open a want).2.slots = (stepped a want s.slots).2.discard .pConfig .null) := by
  unfold PlatformStream.open Given
  simp only [closed, Bool.false_eq_true, if_false]
  cases owner : a.ownerGiven with
  | false => simp
  | true =>
      cases device : a.deviceGiven with
      | false => simp
      | true =>
          cases platform : a.platformDevice with
          | false => simp
          | true =>
              have ran : s.begin.acquireAll a want =
                  ((stepped a want s.slots).1, { s.begin with slots := (stepped a want s.slots).2 }) := rfl
              rw [ran]
              cases completed : (stepped a want s.slots).1 with
              | false => simp
              | true =>
                  refine Or.inr (Or.inr ?_)
                  simp only [true_and, Bool.not_true, Bool.false_eq_true, if_false, and_self]
                  exact conclude_cases ⟨rfl, rfl⟩ a want

end Open

/-! ## The local interfaces -/

/-- The interfaces `open` returns within a block. -/
def isLocal : Resource → Bool
  | .pConfig2 | .enumPins | .pin _ | .connectedTo _ => true
  | _ => false

theorem reconnectPins_keys (i : Nat) (pins : List PinAnswer) :
    ∀ e ∈ reconnectPins i pins, (∃ j, e.key = .pin j) ∨ ∃ j, e.key = .connectedTo j := by
  induction pins generalizing i with
  | nil => exact fun e member => absurd member List.not_mem_nil
  | cons p pins ih =>
      intro e member
      rw [reconnectPins] at member
      split at member
      · simp only [List.mem_cons, List.not_mem_nil, or_false] at member
        rcases member with rfl | rfl | rfl | rfl
        · exact Or.inl ⟨i, rfl⟩
        · exact Or.inr ⟨i, rfl⟩
        · exact Or.inr ⟨i, rfl⟩
        · exact Or.inl ⟨i, rfl⟩
      · rcases List.mem_append.1 member with here | later
        · simp only [List.mem_cons, List.not_mem_nil, or_false] at here
          rcases here with rfl | rfl <;> exact Or.inl ⟨i, rfl⟩
        · exact ih (i + 1) e later

theorem clean_reconnectPins (i : Nat) (pins : List PinAnswer) : Clean (reconnectPins i pins) := by
  induction pins generalizing i with
  | nil => exact clean_nil
  | cons p pins ih =>
      rw [reconnectPins]
      split
      · have inner : Clean [.acquire (Resource.connectedTo i), .release (.connectedTo i)] :=
          clean_pair _
        refine inner.around (k := .pin i) fun e member => ?_
        simp only [List.mem_cons, List.not_mem_nil, or_false] at member
        rcases member with rfl | rfl <;> exact nofun
      · exact (clean_pair _).append (ih (i + 1))

theorem renegotiate_local (a : OpenAnswers) : ∀ e ∈ renegotiate a, isLocal e.key = true := by
  intro e member
  rcases List.mem_append.1 member with config | pins
  · split at config
    · simp only [List.mem_cons, List.not_mem_nil, or_false] at config
      rcases config with rfl | rfl <;> rfl
    · cases config
  · cases found : a.pins with
    | none => simp [found] at pins
    | some answers =>
        simp only [found, Option.elim_some, List.cons_append, List.mem_cons, List.mem_append,
          List.not_mem_nil, or_false] at pins
        rcases pins with rfl | inner | rfl
        · rfl
        · rcases reconnectPins_keys 0 answers e inner with ⟨j, key⟩ | ⟨j, key⟩ <;> rw [key] <;> rfl
        · rfl

theorem clean_renegotiate (a : OpenAnswers) : Clean (renegotiate a) := by
  refine Clean.append ?_ ?_
  · split
    · exact clean_pair _
    · exact clean_nil
  · cases a.pins with
    | none => exact clean_nil
    | some answers =>
        refine (clean_reconnectPins 0 answers).around fun e member same => ?_
        rcases reconnectPins_keys 0 answers e member with ⟨j, key⟩ | ⟨j, key⟩ <;>
          exact nomatch key.symm.trans same

/-! ## The fields after the steps -/

section Fields

variable (base : Stream) (a : OpenAnswers) (want : Request)

theorem new_holds : (new base).slots.Holds := by
  intro k
  cases k <;> rfl

/-- A new stream holds nothing. -/
theorem new_idle (k : Resource) : (new base).slots.ptr k ≠ .live := by
  intro live
  cases k <;> cases live

/-- The fields the steps fill, each once. -/
theorem filled_steps :
    filled (prepareSteps a want ++ controlSteps a ++ connectSteps a) =
      [.m_graph, .m_capture, .m_control, .m_sourceFilter, .pConfig, .m_camControl, .m_videoProcAmp,
        .m_sampleGrabberFilter, .m_sampleGrabber, .m_callbackHandler, .m_nullRenderer] := rfl

theorem steps_ready :
    Ready (prepareSteps a want ++ controlSteps a ++ connectSteps a) (new base).slots := by
  have onlyBorrow : ∀ events, Op.borrow events ∈ prepareSteps a want ++ controlSteps a ++ connectSteps a →
      events = renegotiate a := by
    intro events member
    simpa [prepareSteps, controlSteps, connectSteps] using member
  refine ⟨by rw [filled_steps]; decide, ?_, ?_, ?_⟩
  · intro k _
    cases k <;> exact nofun
  · intro events member
    rw [onlyBorrow events member]
    exact clean_renegotiate a
  · intro events member e used
    rw [onlyBorrow events member] at used
    have isLocal_ := renegotiate_local a e used
    refine ⟨fun inFields => ?_, ?_⟩
    · rw [filled_steps] at inFields
      have fields : ∀ k ∈ [Resource.m_graph, .m_capture, .m_control, .m_sourceFilter, .pConfig,
          .m_camControl, .m_videoProcAmp, .m_sampleGrabberFilter, .m_sampleGrabber,
          .m_callbackHandler, .m_nullRenderer], isLocal k = false := by decide
      exact absurd isLocal_ (by rw [fields _ inFields]; exact nofun)
    · cases key : e.key <;> exact nofun

theorem stepped_holds : (stepped a want (new base).slots).2.Holds :=
  run_holds (steps_ready base a want) (new_holds base)

theorem prepare_completes_iff (s : Slots Resource) :
    (run (prepareSteps a want) s).1 = true ↔ Prepared a want := by
  rw [run_completes_iff]
  unfold Prepared
  cases found : a.streamConfig with
  | none => simp [checks, prepareSteps, found]
  | some config =>
      simp only [checks, prepareSteps, found, List.filterMap_cons, List.filterMap_nil, List.mem_cons,
        List.not_mem_nil, or_false, forall_eq_or_imp, forall_eq, Option.isSome_some, Option.any_some,
        decide_eq_true_eq, Option.some.injEq, exists_eq_left', true_and]
      constructor
      · rintro ⟨graph, capture, control, source, added, -, size, format⟩
        exact ⟨graph, capture, control, source, added, size, format⟩
      · rintro ⟨graph, capture, control, source, added, size, format⟩
        exact ⟨graph, capture, control, source, added, by rw [size]; rfl, size, format⟩

theorem connect_completes_iff (s : Slots Resource) :
    (run (connectSteps a) s).1 = true ↔ Connects a := by
  rw [run_completes_iff]
  unfold Connects
  simp only [checks, connectSteps, List.filterMap_cons, List.filterMap_nil, List.mem_cons,
    List.not_mem_nil, or_false, forall_eq_or_imp, forall_eq, Bool.or_eq_true, Bool.not_eq_true']
  cases a.createNullRenderer <;> simp

/-- The steps after the preparation. -/
theorem stepped_of_prepared (prepared : Prepared a want) (s : Slots Resource) :
    stepped a want s =
      run (connectSteps a) (run (controlSteps a) (run (prepareSteps a want) s).2).2 := by
  have first := (prepare_completes_iff a want s).2 prepared
  have second : (run (controlSteps a) (run (prepareSteps a want) s).2).1 = true := rfl
  rw [stepped, run_append, run_append, if_pos first, if_pos second]

theorem stepped_of_not_prepared (unprepared : ¬ Prepared a want) (s : Slots Resource) :
    stepped a want s = run (prepareSteps a want) s := by
  have first : ¬ (run (prepareSteps a want) s).1 = true := fun completed =>
    unprepared ((prepare_completes_iff a want s).1 completed)
  rw [stepped, run_append, run_append, if_neg first, if_neg first]

theorem stepped_completes_iff (s : Slots Resource) :
    (stepped a want s).1 = true ↔ Prepared a want ∧ Connects a := by
  by_cases prepared : Prepared a want
  · rw [stepped_of_prepared a want prepared, connect_completes_iff]
    exact ⟨fun connects => ⟨prepared, connects⟩, And.right⟩
  · rw [stepped_of_not_prepared a want prepared, prepare_completes_iff]
    exact ⟨fun both => absurd both prepared, fun both => absurd both.1 prepared⟩

/-- After a preparation that failed, `m_videoProcAmp` holds what the memory held. -/
theorem videoProcAmp_uninitialised (unprepared : ¬ Prepared a want) :
    (stepped a want (new base).slots).2.ptr .m_videoProcAmp = .uninitialised := by
  rw [stepped_of_not_prepared a want unprepared, run_ptr_of_notMem]
  · rfl
  · rw [show filled (prepareSteps a want) =
      [.m_graph, .m_capture, .m_control, .m_sourceFilter, .pConfig] from rfl]
    decide

/-- After one that succeeded, every pointer is null or live. -/
theorem stepped_known (prepared : Prepared a want) (k : Resource) :
    (stepped a want (new base).slots).2.ptr k = .live ∨
      (stepped a want (new base).slots).2.ptr k = .null := by
  have completed := (prepare_completes_iff a want (new base).slots).2 prepared
  rw [stepped_of_prepared a want prepared]
  -- what the preparation and the control interfaces leave known stays known
  have later : ∀ s : Slots Resource, (s.ptr k = .live ∨ s.ptr k = .null) →
      (run (connectSteps a) s).2.ptr k = .live ∨ (run (connectSteps a) s).2.ptr k = .null := by
    intro s known
    rcases run_ptr_cases (connectSteps a) s k with same | changed
    · rwa [same]
    · exact changed
  refine later _ ?_
  by_cases videoProcAmp : k = .m_videoProcAmp
  · subst videoProcAmp
    exact run_acquired rfl (List.mem_cons_of_mem _ List.mem_cons_self)
  · have prepared_known : (run (prepareSteps a want) (new base).slots).2.ptr k = .live ∨
        (run (prepareSteps a want) (new base).slots).2.ptr k = .null := by
      by_cases capture : k = .m_capture
      · subst capture
        exact run_acquired completed (List.mem_cons_of_mem _ (List.mem_cons_of_mem _ List.mem_cons_self))
      · rcases run_ptr_cases (prepareSteps a want) (new base).slots k with same | changed
        · rw [same]
          cases k <;> first | exact Or.inr rfl | contradiction
        · exact changed
    rcases run_ptr_cases (controlSteps a) (run (prepareSteps a want) (new base).slots).2 k with
      same | changed
    · rwa [same]
    · exact changed

/-- Only `pConfig` and the fields that `close` releases can be live. -/
theorem stepped_live_cases {k : Resource}
    (live : (stepped a want (new base).slots).2.ptr k = .live) :
    k = .pConfig ∨ k ∈ releases.map Prod.fst := by
  by_contra outside
  obtain ⟨notConfig, notReleased⟩ := not_or.1 outside
  have unfilled : k ∉ filled (prepareSteps a want ++ controlSteps a ++ connectSteps a) := by
    rw [filled_steps]
    intro member
    have fields : ∀ k ∈ [Resource.m_graph, .m_capture, .m_control, .m_sourceFilter, .pConfig,
        .m_camControl, .m_videoProcAmp, .m_sampleGrabberFilter, .m_sampleGrabber,
        .m_callbackHandler, .m_nullRenderer], k = .pConfig ∨ k ∈ releases.map Prod.fst := by decide
    exact (fields k member).elim notConfig notReleased
  rw [stepped, run_ptr_of_notMem unfilled] at live
  exact new_idle base k live

theorem pConfig_known :
    (stepped a want (new base).slots).2.ptr .pConfig = .null ∨
      (stepped a want (new base).slots).2.ptr .pConfig = .live := by
  rcases run_ptr_cases (prepareSteps a want ++ controlSteps a ++ connectSteps a) (new base).slots
    .pConfig with same | live | null
  · exact Or.inl same
  · exact Or.inr live
  · exact Or.inl null

theorem graph_live (created : a.createGraph = true) :
    (stepped a want (new base).slots).2.ptr .m_graph = .live := by
  -- nothing after the first step fills the field
  have rest : stepped a want (new base).slots =
      run ((prepareSteps a want ++ controlSteps a ++ connectSteps a).tail)
        ((new base).slots.acquire .m_graph a.createGraph) := rfl
  rw [rest, run_ptr_of_notMem, ptr_acquire_self, created]
  · rfl
  · rw [show filled (prepareSteps a want ++ controlSteps a ++ connectSteps a).tail =
      [.m_capture, .m_control, .m_sourceFilter, .pConfig, .m_camControl, .m_videoProcAmp,
        .m_sampleGrabberFilter, .m_sampleGrabber, .m_callbackHandler, .m_nullRenderer] from rfl]
    decide

theorem callbackHandler_live (completed : (stepped a want (new base).slots).1 = true) :
    (stepped a want (new base).slots).2.ptr .m_callbackHandler = .live := by
  refine run_ensured (steps_ready base a want).distinct completed ?_ (Or.inr rfl)
  simp [connectSteps]

/-- Without a graph nothing is live. -/
theorem idle_without_graph (failed : a.createGraph = false) (k : Resource) :
    (stepped a want (new base).slots).2.ptr k ≠ .live := by
  have stopped : stepped a want (new base).slots =
      (false, (new base).slots.acquire .m_graph false) := by
    simp [stepped, prepareSteps, run, failed]
  rw [stopped]
  by_cases graph : k = .m_graph
  · subst graph
    rw [ptr_acquire_self]
    intro live
    cases live
  · rw [ptr_acquire_of_ne graph]
    exact new_idle base k

/-- The slots when `open` returns without having run `close`. -/
theorem returned_holds :
    ((stepped a want (new base).slots).2.discard .pConfig .null).Holds :=
  (stepped_holds base a want).discard (pConfig_known base a want) nofun

theorem releases_distinct : (releases.map Prod.fst).Nodup := by decide

/-- A single `close` is clean exactly after a successful preparation. -/
theorem close_clean_iff :
    Clean (((stepped a want (new base).slots).2.discard .pConfig .null).discardAll releases).log ↔
      Prepared a want := by
  have pConfig_out : Resource.pConfig ∉ releases.map Prod.fst := by decide
  have covers : ∀ k, ((stepped a want (new base).slots).2.discard .pConfig .null).ptr k = .live →
      k ∈ releases.map Prod.fst := by
    intro k live
    by_cases config : k = .pConfig
    · subst config
      rw [Slots.ptr_discard_self] at live
      split at live <;> cases live
    · rw [Slots.ptr_discard_of_ne _ config] at live
      exact (stepped_live_cases base a want live).resolve_left config
  rw [(returned_holds base a want).clean_discardAll_iff releases_distinct covers]
  constructor
  · intro known
    by_contra unprepared
    have garbage := known .m_videoProcAmp (by decide)
    rw [Slots.ptr_discard_of_ne _ (by decide), videoProcAmp_uninitialised base a want unprepared]
      at garbage
    rcases garbage with null | live
    · cases null
    · cases live
  · intro prepared k member
    have differs : k ≠ .pConfig := fun same => pConfig_out (same ▸ member)
    rw [Slots.ptr_discard_of_ne _ differs]
    exact (stepped_known base a want prepared k).symm

end Fields

/-! ## The whole life -/

section Life

variable (base : Stream) (a : OpenAnswers) (want : Request)

/-- The slots when `open` returns from the exit for a changed resolution: released once, with the
callback handler left dangling. -/
theorem mismatch_slots (completed : (stepped a want (new base).slots).1 = true) :
    (((stepped a want (new base).slots).2.discardAll releases).discard .pConfig .null).Holds ∧
      (((stepped a want (new base).slots).2.discardAll releases).discard .pConfig .null).ptr
        .m_callbackHandler = .dangling ∧
      ∀ k, (((stepped a want (new base).slots).2.discardAll releases).discard .pConfig .null).ptr k ≠
        .live := by
  obtain ⟨prepared, -⟩ := (stepped_completes_iff a want _).1 completed
  have known := fun k => (stepped_known base a want prepared k).symm
  have pConfig_out : Resource.pConfig ∉ releases.map Prod.fst := by decide
  have idle : ∀ slot ∈ releases, slot.2 ≠ .live := by decide
  have released := (stepped_holds base a want).discardAll releases_distinct idle fun k _ => known k
  have config : ((stepped a want (new base).slots).2.discardAll releases).ptr .pConfig = .null ∨
      ((stepped a want (new base).slots).2.discardAll releases).ptr .pConfig = .live := by
    rw [Slots.ptr_discardAll_of_notMem pConfig_out]
    exact known .pConfig
  refine ⟨released.discard config nofun, ?_, ?_⟩
  · have handler : (Resource.m_callbackHandler, Pointer.dangling) ∈ releases := by decide
    rw [Slots.ptr_discard_of_ne _ (by decide), Slots.ptr_discardAll_of_mem releases_distinct handler,
      callbackHandler_live base a want completed]
    rfl
  · intro k live
    by_cases isConfig : k = .pConfig
    · subst isConfig
      rw [Slots.ptr_discard_self] at live
      split at live <;> cases live
    · rw [Slots.ptr_discard_of_ne _ isConfig] at live
      by_cases member : k ∈ releases.map Prod.fst
      · exact Slots.ptr_discardAll_ne_live releases_distinct idle member live
      · rw [Slots.ptr_discardAll_of_notMem member] at live
        exact (stepped_live_cases base a want live).elim isConfig member

/-- `close` once more: the callback handler is deleted a second time. -/
theorem not_clean_second_close (completed : (stepped a want (new base).slots).1 = true) :
    ¬ Clean ((((stepped a want (new base).slots).2.discardAll releases).discard .pConfig
      .null).discardAll releases).log := by
  obtain ⟨holds, dangling, idle⟩ := mismatch_slots base a want completed
  rw [holds.clean_discardAll_iff releases_distinct fun k live => absurd live (idle k)]
  intro known
  have handler := known .m_callbackHandler (by decide)
  rw [dangling] at handler
  rcases handler with null | live
  · cases null
  · cases live

/-- A normal stream that failed before the size check holds what it acquired. -/
theorem clean_abandoned_iff :
    Clean ((stepped a want (new base).slots).2.discard .pConfig .null).log ↔
      ¬ a.createGraph = true := by
  rw [(returned_holds base a want).clean_iff]
  constructor
  · intro idle created
    refine idle .m_graph ?_
    rw [Slots.ptr_discard_of_ne _ (by decide)]
    exact graph_live base a want created
  · intro failed k live
    by_cases config : k = .pConfig
    · subst config
      rw [Slots.ptr_discard_self] at live
      split at live <;> cases live
    · rw [Slots.ptr_discard_of_ne _ config] at live
      exact idle_without_graph base a want (by simpa using failed) k live

theorem not_clean_close_new : ¬ Clean (new base).close.slots.log := by
  rw [close_slots, (new_holds base).clean_discardAll_iff releases_distinct
    fun k live => absurd live (new_idle base k)]
  intro known
  rcases known .m_capture (by decide) with null | live
  · cases null
  · cases live

end Life

section LifeLog

variable {b : Stream} {a : OpenAnswers} {want : Request}

theorem lifeLog_failed (failed : ((new b).open a want).1 = false) :
    lifeLog .openStream b a want = ((new b).open a want).2.slots.log := by
  unfold lifeLog
  simp only [failed]

theorem lifeLog_opened (opened : ((new b).open a want).1 = true) :
    lifeLog .openStream b a want = ((new b).open a want).2.close.slots.log := by
  unfold lifeLog
  simp only [opened]

theorem lifeLog_raw : lifeLog .openStreamRaw b a want = ((new b).open a want).2.close.slots.log := by
  unfold lifeLog
  simp only

end LifeLog

/-- **Acquired and released.**  For every outcome of every call of `open`: over the life of a stream
every interface pointer and the callback handler is released exactly once, and nothing else is,
exactly when the stream `LivesCleanly`. -/
theorem life_clean_iff (opener : Opener) (width height estimatedJPEGSize : UInt32)
    (a : OpenAnswers) (want : Request) :
    Clean (lifeLog opener (base opener width height estimatedJPEGSize) a want) ↔
      LivesCleanly opener a want := by
  have closed : (new (base opener width height estimatedJPEGSize)).m_isOpen = false := by
    cases opener <;> rfl
  generalize base opener width height estimatedJPEGSize = b at closed ⊢
  have steps := stepped_completes_iff a want (new b).slots
  rcases open_cases closed a want with ⟨given, ran⟩ | ⟨given, stopped, failed, slots⟩ |
    ⟨given, completed, resized, failed, slots⟩ | ⟨given, completed, kept, opened, slots⟩
  -- the arguments are rejected before anything is acquired
  · cases opener with
    | openStream =>
        rw [lifeLog_failed (by rw [ran]), ran]
        exact iff_of_true clean_nil (Or.inl fun graph => given graph.1)
    | openStreamRaw =>
        rw [lifeLog_raw, ran]
        exact iff_of_false (not_clean_close_new b) fun clean => given clean.1
  -- one of the steps fails
  · have incomplete : ¬ (Prepared a want ∧ Connects a) := fun both => by
      rw [steps.2 both] at stopped
      cases stopped
    cases opener with
    | openStream =>
        rw [lifeLog_failed failed, slots, clean_abandoned_iff]
        exact ⟨fun created => Or.inl fun graph => created graph.2,
          fun clean created => (clean.resolve_right incomplete) ⟨given, created⟩⟩
    | openStreamRaw =>
        rw [lifeLog_raw, close_slots, slots, close_clean_iff]
        exact ⟨fun prepared => ⟨given, prepared, fun connects => absurd ⟨prepared, connects⟩ incomplete⟩,
          fun clean => clean.2.1⟩
  -- the resolution has changed
  · obtain ⟨prepared, connects⟩ := steps.1 completed
    cases opener with
    | openStream =>
        rw [lifeLog_failed failed, slots]
        obtain ⟨holds, -, idle⟩ := mismatch_slots b a want completed
        exact iff_of_true (holds.clean_iff.2 idle) (Or.inr ⟨prepared, connects⟩)
    | openStreamRaw =>
        rw [lifeLog_raw, close_slots, slots]
        exact iff_of_false (not_clean_second_close b a want completed)
          fun clean => resized (clean.2.2 connects)
  -- the stream is open, and deleted later
  · obtain ⟨prepared, connects⟩ := steps.1 completed
    have closes : Clean ((new b).open a want).2.close.slots.log := by
      rw [close_slots, slots, close_clean_iff]
      exact prepared
    cases opener with
    | openStream =>
        rw [lifeLog_opened opened]
        exact iff_of_true closes (Or.inr ⟨prepared, connects⟩)
    | openStreamRaw =>
        rw [lifeLog_raw]
        exact iff_of_true closes ⟨given, prepared, fun _ => kept⟩

/-- A camera with one 1 x 1 MJPG mode for which every call succeeds, up to whether it is plugged in
and the size it settles on. -/
def oneByOneCamera (pluggedIn : Bool) (biWidth : Int32) : OpenAnswers where
  ownerGiven := true
  deviceGiven := true
  platformDevice := true
  createGraph := true
  createCapture := true
  queryControl := true
  findCaptureDevice := pluggedIn
  addSourceFilter := true
  streamConfig := some ⟨some 128, [some ⟨⟨true, true, 88, some ⟨333333, 1, 1, 24, 0x47504A4D⟩⟩, 0, 0⟩]⟩
  queryCamControl := true
  queryVideoProcAmp := true
  createSampleGrabber := true
  querySampleGrabber := true
  addSampleGrabber := true
  setMediaType := true
  setCallback := true
  createNullRenderer := true
  addNullRenderer := true
  renderStream := true
  connectedType := some ⟨true, biWidth, 1⟩
  streamConfig2 := none
  pins := none
  connectedTypePost := none

/-- Unplugged, the raw stream releases the uninitialised `m_videoProcAmp`; settling on 2 x 1, it
deletes the callback handler twice; and unplugged, the normal stream never releases the graph. -/
theorem life_not_clean_unplugged :
    ¬ Clean (lifeLog .openStreamRaw (base .openStreamRaw 0 0 0) (oneByOneCamera false 1)
        ⟨1, 1, 0x47504A4D, 30⟩) ∧
      ¬ Clean (lifeLog .openStreamRaw (base .openStreamRaw 0 0 0) (oneByOneCamera true 2)
        ⟨1, 1, 0x47504A4D, 30⟩) ∧
      ¬ Clean (lifeLog .openStream (base .openStream 0 0 0) (oneByOneCamera false 1)
        ⟨1, 1, 0x47504A4D, 30⟩) := by
  refine ⟨fun clean => ?_, fun clean => ?_, fun clean => ?_⟩
  · exact absurd (clean .m_videoProcAmp) (by decide)
  · exact absurd (clean .m_callbackHandler) (by decide)
  · exact absurd (clean .m_graph) (by decide)

end PlatformStream

end OpenpnpCapture.Win
