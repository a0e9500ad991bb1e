/-
# Win.PictureFeed — what arrives through the sample grabber is a feed of pictures

DirectShow calls `SampleCB` once for every sample.  A stream that is not raw then stores the rows
the other way round and the channels the other way round; a sample that is longer than the frame
buffer, as one of padded rows is, leaves no trace.  A shorter one is read past its end, and the
callback does not come back (`sampleCB_returns_iff`).  So without shorter samples a client sees a
feed of the samples' pictures (`directShow_feed`).
-/
import OpenpnpCapture.Common.Feed
import OpenpnpCapture.Win.FlipInvolution

namespace OpenpnpCapture.Win

open OpenpnpCapture.Lib OpenpnpCapture.Common

set_option autoImplicit false

/-- What the callback asks of a sample; `GetPointer` is the sample's bytes, `none` if it does not
return `S_OK`. -/
structure MediaSample where
  GetActualDataLength : Nat
  GetPointer : Option Bytes
  counted : ∀ data ∈ GetPointer, data.length = GetActualDataLength

/-- A conversion left the sample or the frame buffer. -/
inductive SampleFault
  | outOfBounds
deriving DecidableEq, Repr

/-- The memory from the start of a sample on; behind its end a conversion has no business. -/
def sampleMemory (data : Bytes) (offset : Nat) : UInt8 := data.getD offset 0

/-- The handler, and the stream its `m_stream` points to. -/
structure StreamCallbackHandler where
  m_stream : Option PlatformStream
  m_callbackCounter : UInt32

namespace StreamCallbackHandler

def new (stream : PlatformStream) : StreamCallbackHandler := ⟨some stream, 0⟩

def SampleCB (handler : StreamCallbackHandler) :
    Option MediaSample → Except SampleFault StreamCallbackHandler
  | none => .ok handler
  | some sample =>
      let handler := { handler with m_callbackCounter := handler.m_callbackCounter + 1 }
      let bytes := sample.GetActualDataLength
      match sample.GetPointer, handler.m_stream with
      | some data, some stream =>
          if stream.m_rawMode then
            .ok { handler with
              m_stream := some { stream with toStream := stream.submitRawBuffer (some data) } }
          else
            let call := stream.submitBuffer (sampleMemory data) bytes
            if InBounds bytes stream.m_frameBuffer.length call.accesses then
              .ok { handler with m_stream := some call.stream }
            else .error .outOfBounds
      | _, _ => .ok handler

/-- A call of a client on the stream. -/
def ask (handler : StreamCallbackHandler) (q : StreamQuery) : Reply × StreamCallbackHandler :=
  match handler.m_stream with
  | none => (q.unknown, handler)
  | some stream =>
      let r := q.act stream.toStream
      (r.1, { handler with m_stream := some { stream with toStream := r.2 } })

/-- After a fault there is nothing left to deliver to, and nothing to ask. -/
def pipeline : Pipeline (Except SampleFault StreamCallbackHandler) (Option MediaSample) where
  deliver handler sample := handler.bind fun handler => handler.SampleCB sample
  ask handler q :=
    match handler with
    | .ok handler => ((handler.ask q).1, .ok (handler.ask q).2)
    | .error fault => (.none, .error fault)

end StreamCallbackHandler

open StreamCallbackHandler

theorem submitBuffer_submits (stream : PlatformStream) (ptr : Nat → UInt8) (bytes : Nat) :
    ∃ submission : Common.Submission, submission.isRaw = false ∧
      (stream.submitBuffer ptr bytes).stream.toStream = stream.toStream.submit submission := by
  unfold PlatformStream.submitBuffer
  split
  · let image := store stream.m_frameBuffer (flipRows ptr stream.m_width stream.m_height)
    refine ⟨.converted image, rfl, ?_⟩
    simp only [Stream.submit, image, memcpy_same (length_store stream.m_frameBuffer _)]
  · exact ⟨.submitBuffer none, rfl, rfl⟩

/-- A sample is one submission; the mode settles which kind. -/
theorem sampleCB_submits {handler after : StreamCallbackHandler} {stream : PlatformStream}
    (attached : handler.m_stream = some stream) {sample : Option MediaSample}
    (returned : handler.SampleCB sample = .ok after) :
    ∃ (shared : PlatformStream) (submission : Common.Submission),
      after.m_stream = some shared ∧ submission.isRaw = stream.m_rawMode ∧
        shared.toStream = stream.toStream.submit submission := by
  have nothing : ∃ submission : Common.Submission, submission.isRaw = stream.m_rawMode ∧
      stream.toStream = stream.toStream.submit submission := by
    cases stream.m_rawMode with
    | true => exact ⟨.submitRawBuffer none, rfl, rfl⟩
    | false => exact ⟨.submitBuffer none, rfl, rfl⟩
  unfold SampleCB at returned
  split at returned
  · cases returned
    exact ⟨stream, nothing.imp fun _ same => ⟨attached, same⟩⟩
  · rename_i given
    simp only [attached] at returned
    split at returned
    · rename_i data shared _ same
      obtain rfl := Option.some.inj same
      split at returned
      · rename_i raw
        cases returned
        exact ⟨_, .submitRawBuffer (some data), rfl, raw.symm, rfl⟩
      · rename_i rgb
        split at returned
        · cases returned
          obtain ⟨submission, converted, same⟩ :=
            submitBuffer_submits stream (sampleMemory data) given.GetActualDataLength
          exact ⟨_, submission, rfl, converted.trans (Bool.eq_false_iff.2 rgb).symm, same⟩
        · cases returned
    · cases returned
      exact ⟨stream, nothing.imp fun _ same => ⟨rfl, same⟩⟩

/-- The picture in a sample whose rows begin at the bottom, each pixel as B, G, R. -/
def bottomUpPicture (ptr : Nat → UInt8) (width height : UInt32) : Bytes :=
  picture width height fun row col channel =>
    ptr ((height.toNat - row - 1) * (width.toNat * 3) + 3 * col + (2 - channel))

/-- A sample that is longer than the image is not shown. -/
def develop (width height : UInt32) : Option MediaSample → Option Bytes
  | none => none
  | some sample =>
      if sample.GetActualDataLength ≤ imageBytes width height then
        sample.GetPointer.map fun data => bottomUpPicture (sampleMemory data) width height
      else none

/-- The sample is not shorter than the image. -/
def Whole (width height : UInt32) (sample : Option MediaSample) : Prop :=
  ∀ given ∈ sample, given.GetPointer.isSome = true →
    imageBytes width height ≤ given.GetActualDataLength

/-- The handler's stream, ready at this size, with its shared part. -/
def Carries (width height : UInt32) (handler : Except SampleFault StreamCallbackHandler)
    (s : Stream) : Prop :=
  OpenRgb width height s ∧
    ∃ running stream, handler = .ok running ∧ running.m_stream = some stream ∧ stream.toStream = s

section Deliver

variable {width height : UInt32} {stream : PlatformStream}

theorem flipRows_picture (ptr : Nat → UInt8) (small : imageBytes width height < 2 ^ 32)
    {buffer : Bytes} (sized : buffer.length = imageBytes width height) :
    store buffer (flipRows ptr width height) = bottomUpPicture ptr width height := by
  refine store_eq_picture sized fun row inRows col inCols channel inPixel => ?_
  have stride := stride_of_small small (by omega)
  exact PlatformStream.lastAt_flipRows ptr (.inr stride) inRows inCols inPixel

theorem submitBuffer_received (ready : OpenRgb width height stream.toStream)
    (small : imageBytes width height < 2 ^ 32) (ptr : Nat → UInt8) (bytes : Nat) :
    (stream.submitBuffer ptr bytes).stream.toStream =
      stream.received (if bytes ≤ imageBytes width height
        then some (bottomUpPicture ptr width height) else none) := by
  rw [PlatformStream.submitBuffer, ready.sized]
  split
  · obtain ⟨-, -, rfl, rfl, sized⟩ := ready
    simp only [flipRows_picture ptr small sized, Stream.received]
  · rfl

theorem submitBuffer_inBounds (ready : OpenRgb width height stream.toStream)
    (small : imageBytes width height < 2 ^ 32) (ptr : Nat → UInt8) (bytes : Nat) :
    InBounds bytes stream.m_frameBuffer.length (stream.submitBuffer ptr bytes).accesses ↔
      imageBytes width height ≤ bytes := by
  have addressable : stream.m_frameBuffer.length < 2 ^ 64 := by
    rw [ready.sized]
    omega
  rw [PlatformStream.submitBuffer_inBounds_iff stream ptr bytes addressable]
  obtain ⟨-, -, rfl, rfl, sized⟩ := ready
  rw [sized, imageBytes_rowMajor] at *
  rcases Nat.eq_zero_or_pos stream.m_width.toNat with noCols | cols
  · exact iff_of_true (.inr (.inl noCols)) (by rw [noCols]; omega)
  rcases Nat.eq_zero_or_pos stream.m_height.toNat with noRows | rows
  · exact iff_of_true (.inr (.inr (.inl noRows))) (by rw [noRows]; omega)
  have stride : (stream.m_width * 3).toNat = stream.m_width.toNat * 3 := by
    refine uint32_mul rfl rfl ?_
    have oneRow := Nat.mul_le_mul_right (stream.m_width.toNat * 3) (Nat.succ_le_of_lt rows)
    rw [← Nat.mul_assoc, ← Nat.mul_assoc] at oneRow
    omega
  have whole : stream.m_width.toNat * 3 * (stream.m_height.toNat - 1) + 3 * stream.m_width.toNat =
      stream.m_height.toNat * stream.m_width.toNat * 3 := by
    obtain ⟨above, sameHeight⟩ : ∃ above, stream.m_height.toNat = above + 1 :=
      ⟨stream.m_height.toNat - 1, by omega⟩
    rw [sameHeight, Nat.add_sub_cancel, Nat.add_mul above, Nat.add_mul _ _ 3, Nat.one_mul,
      Nat.mul_comm _ above, ← Nat.mul_assoc, Nat.mul_comm 3]
  rw [stride, whole]
  omega

/-- The callback comes back exactly if the sample is not shorter than the image. -/
theorem sampleCB_returns_iff (ready : OpenRgb width height stream.toStream)
    (small : imageBytes width height < 2 ^ 32) {handler : StreamCallbackHandler}
    (attached : handler.m_stream = some stream) (sample : Option MediaSample) :
    (∃ after, handler.SampleCB sample = .ok after) ↔ Whole width height sample := by
  cases sample with
  | none => exact iff_of_true ⟨handler, rfl⟩ fun given none_ => by cases none_
  | some given =>
      obtain ⟨bytes, pointer, counted⟩ := given
      cases pointer with
      | none =>
          refine iff_of_true ⟨_, rfl⟩ ?_
          rintro given ⟨⟩ ⟨⟩
      | some data =>
          have whole : Whole width height (some ⟨bytes, some data, counted⟩) ↔
              imageBytes width height ≤ bytes := by
            constructor
            · intro whole
              exact whole _ rfl rfl
            · rintro long given ⟨⟩ -
              exact long
          rw [whole, ← submitBuffer_inBounds ready small (sampleMemory data) bytes]
          simp only [SampleCB, attached, ready.rgb, Bool.false_eq_true, if_false]
          split
          · rename_i inside
            exact iff_of_true ⟨_, rfl⟩ inside
          · rename_i outside
            refine iff_of_false ?_ outside
            rintro ⟨after, ⟨⟩⟩

/-- A sample that is not too short is a picture, or leaves the stream alone. -/
theorem sampleCB_received (ready : OpenRgb width height stream.toStream)
    (small : imageBytes width height < 2 ^ 32) {handler : StreamCallbackHandler}
    (attached : handler.m_stream = some stream) {sample : Option MediaSample}
    (whole : Whole width height sample) :
    ∃ after stream', handler.SampleCB sample = .ok after ∧ after.m_stream = some stream' ∧
      stream'.toStream = stream.received (develop width height sample) := by
  cases sample with
  | none => exact ⟨handler, stream, rfl, attached, rfl⟩
  | some given =>
      obtain ⟨bytes, pointer, counted⟩ := given
      cases pointer with
      | none =>
          refine ⟨_, stream, rfl, attached, ?_⟩
          simp only [develop, Option.map_none, ite_self]
          rfl
      | some data =>
          have inside := (submitBuffer_inBounds ready small (sampleMemory data) bytes).2
            (whole _ rfl rfl)
          let call := stream.submitBuffer (sampleMemory data) bytes
          refine ⟨⟨some call.stream, handler.m_callbackCounter + 1⟩, call.stream, ?_, rfl,
            submitBuffer_received ready small (sampleMemory data) bytes⟩
          simp only [SampleCB, attached, ready.rgb, Bool.false_eq_true, if_false]
          exact if_pos inside

theorem develop_whole {sample : Option MediaSample} {bytes : Bytes}
    (shown : bytes ∈ develop width height sample) : bytes.length = imageBytes width height := by
  cases sample with
  | none => cases shown
  | some given =>
      rw [develop] at shown
      split at shown
      · obtain ⟨ptr, -, rfl⟩ := Option.map_eq_some_iff.1 shown
        exact length_picture
      · cases shown

end Deliver

theorem pipeline_develops (width height : UInt32) (small : imageBytes width height < 2 ^ 32) :
    Develops pipeline width height (Carries width height) (Whole width height)
      (develop width height) where
  ready := fun _ _ held => held.1
  delivers := by
    rintro handler s sample ⟨ready, running, stream, rfl, attached, rfl⟩ whole
    exact ⟨ready.received fun _ shown => develop_whole shown,
      sampleCB_received ready small attached whole⟩
  asks := by
    rintro handler s q ⟨ready, running, stream, rfl, attached, rfl⟩
    simp only [pipeline, ask, attached, true_and]
    exact ⟨ready.act q, _, _, rfl, rfl, rfl⟩

/-- **The feed of a DirectShow stream.**  In every interleaving of calls and of samples that are not
shorter than the image, an open stream that is not raw answers as the feed of the samples' pictures
does. -/
theorem directShow_feed {width height : UInt32} (small : imageBytes width height < 2 ^ 32)
    {handler : Except SampleFault StreamCallbackHandler} {s : Stream}
    (held : Carries width height handler s) {events : List (FeedEvent (Option MediaSample))}
    (whole : ∀ sample, .arrives sample ∈ events → Whole width height sample) :
    Components.answers pipeline.step handler events =
      Components.answers (Feed.step (develop width height)) (Feed.of s) events :=
  (pipeline_develops width height small).answers_eq held whole

/-- One pixel: a padded sample leaves no trace, an unpadded one is captured. -/
theorem directShow_feed_pixel :
    Components.answers pipeline.step
        (.ok (StreamCallbackHandler.new (.new ((Stream.new 0 0).opened 1 1 3))))
        [.arrives (some ⟨4, some [1, 2, 3, 0], by simp⟩), .asks .hasNewFrame,
          .arrives (some ⟨3, some [1, 2, 3], by simp⟩), .asks (.captureFrame [0, 0, 0] 3)] =
      [.none, .flag false, .none, .frame true (some [3, 2, 1])] := by
  have held : Carries 1 1 (.ok (StreamCallbackHandler.new (.new ((Stream.new 0 0).opened 1 1 3))))
      ((Stream.new 0 0).opened 1 1 3) :=
    ⟨⟨rfl, rfl, rfl, rfl, rfl⟩, _, _, rfl, rfl, rfl⟩
  refine directShow_feed (by decide) held ?_
  intro sample member
  simp only [List.mem_cons, FeedEvent.arrives.injEq, reduceCtorEq, List.not_mem_nil, or_false,
    false_or] at member
  rcases member with rfl | rfl
  · rintro given ⟨⟩ -
    decide
  · rintro given ⟨⟩ -
    decide

end OpenpnpCapture.Win
