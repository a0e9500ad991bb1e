/-
# Win.SetFrameRate — a frame rate for a running stream

`setFrameRate` searches the capabilities for the size and code of the stream, gives the nearest to
`SetFormat` with the frame time of the rate, and has the graph reconnect the first output pin that
is connected.  A pin that is connected refuses a format, so the answer of `SetFormat` is not looked
at: `setFrameRate_outcome` says what the result depends on, which media type is given, and that
everything taken on the way is given back.

Media types are named by the index of their capability.
-/
import OpenpnpCapture.Win.ComLifecycle
import OpenpnpCapture.Win.RateSearches

namespace OpenpnpCapture.Win

open OpenpnpCapture.Lib OpenpnpCapture.Lib.Lease

set_option autoImplicit false

inductive RateResource
  | own (r : Resource)
  | mediaType (iFmt : Nat)
deriving DecidableEq, Repr

/-- A pin, and whether the graph reconnects it. -/
structure RatePin extends PinAnswer where
  reconnect : Bool
deriving DecidableEq, Repr

/-- The stream configuration interface, if it is found, and the pins, if they can be enumerated. -/
structure RateAnswers where
  streamConfig : Option StreamConfig
  pins : Option (List RatePin)
deriving DecidableEq

/-- The result, the media type given to `SetFormat`, and what is taken and given back until that
call and after it. -/
structure RateOutcome where
  result : Bool
  given : Option Nat
  before : List (Event RateResource)
  after : List (Event RateResource)
deriving DecidableEq, Repr

/-- The media types of the search: each is obtained at the start of its turn. -/
def mediaTypes (want : Request) : Nat → List (Option StreamCaps) → Rescan → List (Event Nat)
  | _, [], _ => []
  | iFmt, none :: caps, s => mediaTypes want (iFmt + 1) caps s
  | iFmt, some cap :: caps, s =>
      let next := Rescan.visitSetFrameRate want iFmt cap s
      .acquire iFmt :: (next.freed.drop s.freed.length).map .release ++
        mediaTypes want (iFmt + 1) caps next

/-- The answer of `Reconnect`, for the first pin it is called for. -/
def reconnected : List RatePin → Option Bool
  | [] => none
  | p :: pins => if p.output && p.connected then some p.reconnect else reconnected pins

/-- The capabilities the search goes over; there are none if they cannot be counted. -/
def StreamConfig.counted (config : StreamConfig) : List (Option StreamCaps) :=
  if config.iSize.isSome then config.caps else []

namespace PlatformStream

/-- The size and code of the stream, at a rate. -/
def rateRequest (s : PlatformStream) (m_requestedFourCC fps : UInt32) : Request :=
  ⟨s.m_width, s.m_height, m_requestedFourCC, fps⟩

def setFrameRate (s : PlatformStream) (m_requestedFourCC fps : UInt32) (a : RateAnswers) :
    RateOutcome :=
  if !s.m_isOpen || fps = 0 then ⟨false, none, [], []⟩
  else
    match a.streamConfig with
    | none => ⟨false, none, [], []⟩
    | some config =>
        let want := s.rateRequest m_requestedFourCC fps
        let search := Rescan.loopSetFrameRate want 0 config.counted Rescan.start
        let before := .acquire (.own .pConfig) ::
          (mediaTypes want 0 config.counted Rescan.start).map (Event.map .mediaType)
        match search.selectedConfig with
        | none => ⟨false, none, before, [.release (.own .pConfig)]⟩
        | some selectedConfig =>
            { result := a.pins.bind reconnected = some true
              given := some selectedConfig
              before
              after := [.release (.mediaType selectedConfig), .release (.own .pConfig)] ++
                a.pins.elim [] fun pins =>
                  bracket (.own .enumPins)
                    ((reconnectPins 0 (pins.map RatePin.toPinAnswer)).map (Event.map .own)) }

end PlatformStream

/-! ## The media types -/

section Search

variable {want : Request} {s : Rescan}

/-- A turn frees its own media type, or keeps it and frees the one kept before. -/
theorem visitSetFrameRate_cases (iFmt : Nat) (cap : StreamCaps) :
    ∃ gone, (Rescan.visitSetFrameRate want iFmt cap s).freed = s.freed ++ gone ∧
      (gone = [iFmt] ∧
          (Rescan.visitSetFrameRate want iFmt cap s).selectedConfig = s.selectedConfig ∨
        gone = s.selectedConfig.toList ∧
          (Rescan.visitSetFrameRate want iFmt cap s).selectedConfig = some iFmt) := by
  unfold Rescan.visitSetFrameRate Rescan.compare
  split
  · exact ⟨_, rfl, .inl ⟨rfl, rfl⟩⟩
  · split
    · split
      · exact ⟨_, rfl, .inl ⟨rfl, rfl⟩⟩
      · split
        · cases kept : s.selectedConfig with
          | none => exact ⟨[], by simp, .inr ⟨rfl, rfl⟩⟩
          | some earlier => exact ⟨[earlier], by simp [Rescan.free], .inr ⟨rfl, rfl⟩⟩
        · exact ⟨_, rfl, .inl ⟨rfl, rfl⟩⟩
    · exact ⟨_, rfl, .inl ⟨rfl, rfl⟩⟩

/-- After each turn exactly the selected media type is out. -/
theorem out_turn {log : List (Event Nat)} (out : Out log s.selectedConfig.toList) {iFmt : Nat}
    (earlier : ∀ k ∈ s.selectedConfig, k < iFmt) {next : Rescan} {gone : List Nat}
    (turn : gone = [iFmt] ∧ next.selectedConfig = s.selectedConfig ∨
      gone = s.selectedConfig.toList ∧ next.selectedConfig = some iFmt) :
    Out (log ++ .acquire iFmt :: gone.map .release) next.selectedConfig.toList := by
  have idle : iFmt ∉ s.selectedConfig.toList := fun kept =>
    absurd (earlier iFmt (Option.mem_toList.1 kept)) (Nat.lt_irrefl iFmt)
  rcases turn with ⟨rfl, same⟩ | ⟨rfl, taken⟩
  · rw [same]
    have passed := out.append (out_nil_iff.2 (clean_pair iFmt)) fun e member => by
      rcases List.mem_pair.1 member with rfl | rfl <;> exact idle
    simpa using passed
  · rw [taken]
    have both := out.acquire idle
    cases kept : s.selectedConfig with
    | none => simpa [kept] using both
    | some k =>
        have differs : k ≠ iFmt := Nat.ne_of_lt (earlier k kept)
        rw [kept] at both
        have one := both.release (k := k) (by simp [differs]) (by simp)
        simpa using one

theorem out_mediaTypes {log : List (Event Nat)} {iFmt : Nat} (caps : List (Option StreamCaps))
    (out : Out log s.selectedConfig.toList) (earlier : ∀ k ∈ s.selectedConfig, k < iFmt) :
    Out (log ++ mediaTypes want iFmt caps s)
      (Rescan.loopSetFrameRate want iFmt caps s).selectedConfig.toList := by
  induction caps generalizing iFmt s log with
  | nil => simpa [mediaTypes, Rescan.loopSetFrameRate] using out
  | cons cap caps ih =>
      cases cap with
      | none => exact ih out fun k kept => Nat.lt_succ_of_lt (earlier k kept)
      | some cap =>
          obtain ⟨gone, freed, turn⟩ := @visitSetFrameRate_cases want s iFmt cap
          have below : ∀ k ∈ (Rescan.visitSetFrameRate want iFmt cap s).selectedConfig,
              k < iFmt + 1 := by
            intro k kept
            rcases turn with ⟨-, same⟩ | ⟨-, taken⟩
            · exact Nat.lt_succ_of_lt (earlier k (same ▸ kept))
            · rw [taken] at kept
              exact Option.some.inj kept ▸ Nat.lt_succ_self iFmt
          simpa [mediaTypes, Rescan.loopSetFrameRate, freed] using
            ih (out_turn out earlier turn) below

end Search

/-! ## The pins -/

/-- The first connected output pin is one the graph reconnects. -/
def Reconnects (pins : List RatePin) : Prop :=
  ∃ earlier p later, pins = earlier ++ p :: later ∧ p.output = true ∧ p.connected = true ∧
    p.reconnect = true ∧ ∀ other ∈ earlier, ¬ (other.output = true ∧ other.connected = true)

theorem reconnected_iff {pins : List RatePin} :
    reconnected pins = some true ↔ Reconnects pins := by
  induction pins with
  | nil => simp [reconnected, Reconnects]
  | cons first rest ih =>
      rw [reconnected]
      constructor
      · intro found
        split at found
        · rename_i fits
          obtain ⟨output, connected⟩ := Bool.and_eq_true_iff.1 fits
          exact ⟨[], first, rest, rfl, output, connected, Option.some.inj found, by simp⟩
        · rename_i passed
          obtain ⟨earlier, p, later, rfl, output, connected, answer, none_⟩ := ih.1 found
          refine ⟨first :: earlier, p, later, rfl, output, connected, answer, ?_⟩
          simpa using ⟨by simpa using passed, by simpa using none_⟩
      · rintro ⟨earlier, p, later, split_, output, connected, answer, none_⟩
        cases earlier with
        | nil =>
            obtain ⟨rfl, rfl⟩ := List.cons.inj split_
            simp [output, connected, answer]
        | cons head earlier =>
            obtain ⟨rfl, rfl⟩ := List.cons.inj split_
            rw [if_neg (by simpa using none_ first List.mem_cons_self)]
            exact ih.2 ⟨earlier, p, later, rfl, output, connected, answer,
              fun other member => none_ other (List.mem_cons_of_mem _ member)⟩

/-! ## The whole call -/

namespace PlatformStream

section Call

variable {s : PlatformStream} {m_requestedFourCC fps : UInt32} {a : RateAnswers}

/-- A stream that is open, a rate, and a capability the search may end with. -/
def CanSetRate (s : PlatformStream) (m_requestedFourCC fps : UInt32) (a : RateAnswers) : Prop :=
  s.m_isOpen = true ∧ fps ≠ 0 ∧ ∃ config, a.streamConfig = some config ∧
    ∃ cap, some cap ∈ config.counted ∧ Candidate (s.rateRequest m_requestedFourCC fps) cap

theorem clean_enumPins (pins : List PinAnswer) :
    Clean (bracket (RateResource.own .enumPins)
      ((reconnectPins 0 pins).map (Event.map .own))) := by
  have inner := (out_nil_iff.2 (clean_reconnectPins 0 pins)).map
    (f := RateResource.own) fun _ _ same => RateResource.own.inj same
  refine out_nil_iff.1 (inner.bracket (fun e member => ?_) List.not_mem_nil)
  obtain ⟨event, among, rfl⟩ := List.mem_map.1 member
  rw [Event.key_map]
  rcases reconnectPins_keys 0 pins event among with ⟨j, key⟩ | ⟨j, key⟩ <;> simp [key]

/-- With a rate the search ends with the capability the one of `open` ends with. -/
theorem selected_eq {want : Request} (rated : want.fps ≠ 0) (caps : List (Option StreamCaps)) :
    (Rescan.loopSetFrameRate want 0 caps Rescan.start).selectedConfig =
      (formatSearch caps want).selectedConfig :=
  (loop_mirrors rated 0 caps (Mirrors.start want)).selected

theorem selected_isSome_iff {want : Request} (rated : want.fps ≠ 0)
    (caps : List (Option StreamCaps)) :
    (Rescan.loopSetFrameRate want 0 caps Rescan.start).selectedConfig.isSome = true ↔
      ∃ cap, some cap ∈ caps ∧ Candidate want cap := by
  have sound := (loop_mirrors rated 0 caps (Mirrors.start want)).sound.formatSet
  rw [selected_eq rated, ← formatSearch_found_iff]
  exact (congrArg (· = true) sound.symm).to_iff

/-- The configuration interface around the search. -/
theorem out_searched (want : Request) (caps : List (Option StreamCaps)) :
    Out (.acquire (.own .pConfig) ::
        (mediaTypes want 0 caps Rescan.start).map (Event.map RateResource.mediaType))
      (.own .pConfig ::
        (Rescan.loopSetFrameRate want 0 caps Rescan.start).selectedConfig.toList.map .mediaType) := by
  have types := (@out_mediaTypes want Rescan.start [] 0 caps out_nil (by simp [Rescan.start])).map
    (f := RateResource.mediaType) fun _ _ same => RateResource.mediaType.inj same
  have config : Out [Event.acquire (RateResource.own .pConfig)] [.own .pConfig] := by
    simpa using out_nil.acquire (k := RateResource.own .pConfig) (by simp)
  refine config.append types fun e member kept => ?_
  obtain ⟨iFmt, key⟩ := key_of_mem_map member
  rw [key] at kept
  cases List.mem_singleton.1 kept

/-- **What becomes of a rate.**  Whatever the calls answer:

* A media type is given to `SetFormat` exactly if the stream is open, a rate is asked for, and the
  counted capabilities hold a candidate; it is the first of the nearest, and still there.
* The call succeeds exactly if moreover the pins can be enumerated and the first connected output
  pin is reconnected.
* Everything taken is given back. -/
theorem setFrameRate_outcome (s : PlatformStream) (m_requestedFourCC fps : UInt32)
    (a : RateAnswers) :
    ((s.setFrameRate m_requestedFourCC fps a).given.isSome = true ↔
        s.CanSetRate m_requestedFourCC fps a) ∧
      (∀ k, (s.setFrameRate m_requestedFourCC fps a).given = some k →
        Out (s.setFrameRate m_requestedFourCC fps a).before [.own .pConfig, .mediaType k] ∧
        ∃ config, a.streamConfig = some config ∧ ∃ d,
          FirstMin (distances (s.rateRequest m_requestedFourCC fps) config.counted) k d) ∧
      ((s.setFrameRate m_requestedFourCC fps a).result = true ↔
        s.CanSetRate m_requestedFourCC fps a ∧ ∃ pins, a.pins = some pins ∧ Reconnects pins) ∧
      Clean ((s.setFrameRate m_requestedFourCC fps a).before ++
        (s.setFrameRate m_requestedFourCC fps a).after) := by
  unfold setFrameRate CanSetRate
  by_cases idle : (!s.m_isOpen || fps = 0) = true
  · have unable : ¬ (s.m_isOpen = true ∧ fps ≠ 0) := by simpa [imp_iff_not_or] using idle
    rw [if_pos idle]
    refine ⟨by simpa using fun open_ rated => absurd ⟨open_, rated⟩ unable, by simp,
      by simpa using fun open_ rated => absurd ⟨open_, rated⟩ unable, clean_nil⟩
  · obtain ⟨open_, rated⟩ : s.m_isOpen = true ∧ fps ≠ 0 := by simpa using idle
    rw [if_neg idle]
    cases found : a.streamConfig with
    | none => exact ⟨by simp, by simp, by simp, clean_nil⟩
    | some config =>
        have rated_ : (s.rateRequest m_requestedFourCC fps).fps ≠ 0 := rated
        have searched := out_searched (s.rateRequest m_requestedFourCC fps) config.counted
        have some_ := selected_isSome_iff rated_ config.counted
        cases selected : (Rescan.loopSetFrameRate (s.rateRequest m_requestedFourCC fps) 0
            config.counted Rescan.start).selectedConfig with
        | none =>
            rw [selected] at searched some_
            have unable : ¬ (s.m_isOpen = true ∧ fps ≠ 0 ∧ ∃ config', some config = some config' ∧
                ∃ cap, some cap ∈ config'.counted ∧
                  Candidate (s.rateRequest m_requestedFourCC fps) cap) := by
              rintro ⟨-, -, _, ⟨⟩, able⟩
              cases some_.2 able
            simp only [selected]
            refine ⟨iff_of_false (by simp) unable, by simp,
              iff_of_false (by simp) fun both => unable both.1, ?_⟩
            exact searched.releaseAll (List.nodup_singleton _)
        | some k =>
            rw [selected] at searched some_
            have able := some_.1 rfl
            simp only [selected]
            refine ⟨by simpa using ⟨open_, rated, able⟩, ?_, ?_, ?_⟩
            · rintro k' given
              obtain rfl := Option.some.inj given
              exact ⟨searched, config, rfl, (formatSearch_selected_iff rated_ _ _).1
                ((selected_eq rated_ _).symm.trans selected)⟩
            · simp only [decide_eq_true_iff, Option.bind_eq_some_iff, reconnected_iff]
              exact (and_iff_right ⟨open_, rated, config, rfl, able⟩).symm
            · have freed := searched.release (k := .mediaType k) (by simp) (by simp)
              have returned := freed.release (k := .own .pConfig) (by simp) (by simp)
              have pins : Clean (a.pins.elim [] fun pins =>
                  bracket (RateResource.own .enumPins)
                    ((reconnectPins 0 (pins.map RatePin.toPinAnswer)).map (Event.map .own))) := by
                cases a.pins with
                | none => exact clean_nil
                | some pins => exact clean_enumPins _
              refine out_nil_iff.1 ?_
              simpa using returned.append (out_nil_iff.2 pins) (by simp)

end Call

end PlatformStream

end OpenpnpCapture.Win
