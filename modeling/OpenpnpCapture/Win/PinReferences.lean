/-
# Win.PinReferences — the references of a pin search

`FindPinByCategory` makes the scoped pointer of a pin after it has asked the pin for its direction:
a pin that does not tell it is kept (`strays`).  `enumerateFrameInfo` searches a filter once, inside
scoped pointers of its own, and keeps what the search keeps.

A reference is named by what it was taken for.  The property set of `PinMatchesCategory` is taken
and released within one call and is left out.
-/
import OpenpnpCapture.Lib.Lease
import OpenpnpCapture.Win.Availability

namespace OpenpnpCapture.Win

open OpenpnpCapture.Lib.Lease OpenpnpCapture.Common

set_option autoImplicit false

/-! ## Searching for a pin -/

inductive PinReference
  | enumerator
  | pin (j : Nat)
  /-- What the caller is given. -/
  | found
deriving DecidableEq, Repr

def FindPinByCategory.references.loop (direction : PinDirection) (category : PinCategory) :
    List FilterPin → (j : Nat) → List (Event PinReference)
  | [], _ => []
  | pin :: rest, j =>
      match pin.direction with
      -- no scoped pointer has the pin yet
      | none => [.acquire (.pin j)]
      | some ThisPinDir =>
          if ThisPinDir = direction && PinMatchesCategory pin category then
            [.acquire (.pin j), .acquire .found, .release (.pin j)]
          else [.acquire (.pin j), .release (.pin j)] ++ loop direction category rest (j + 1)

def FindPinByCategory.references (filter : BaseFilter) (direction : PinDirection)
    (category : PinCategory) : List (Event PinReference) :=
  match filter.pins with
  | none => []
  | some pins => bracket .enumerator (FindPinByCategory.references.loop direction category pins 0)

/-- The first pin that does not tell its direction, if the search comes to it. -/
def strays (filter : BaseFilter) (direction : PinDirection) (category : PinCategory) :
    List PinReference :=
  if FindPinByCategory filter direction category = true then []
  else
    ((filter.pins.bind fun pins => pins.findIdx? fun pin => pin.direction.isNone).map .pin).toList

section Search

variable {direction : PinDirection} {category : PinCategory} {filter : BaseFilter}

theorem FindPinByCategory.references.out_loop (pins : List FilterPin) (j : Nat) :
    Out (loop direction category pins j)
      (if FindPinByCategory.loop direction category pins = true then [.found]
        else
          ((pins.findIdx? fun pin => pin.direction.isNone).map fun i => .pin (j + i)).toList) := by
  induction pins generalizing j with
  | nil => exact out_nil
  | cons pin rest ih =>
      rw [loop, FindPinByCategory.loop, List.findIdx?_cons]
      cases told : pin.direction with
      | none => simpa using out_nil.acquire (k := PinReference.pin j) (by simp)
      | some ThisPinDir =>
          simp only [Option.isNone_some, Bool.false_eq_true, if_false]
          split
          · have taken := (out_nil.acquire (k := PinReference.pin j) (by simp)).acquire
              (k := .found) (by simp)
            simpa using taken.release (k := .pin j) (by simp) (by simp)
          · have passed : Out [Event.acquire (PinReference.pin j), .release (.pin j)] [] :=
              out_nil_iff.2 (clean_pair _)
            have all := passed.append (ih (j + 1)) fun e _ => List.not_mem_nil
            rw [List.nil_append] at all
            simpa [Nat.add_assoc, Nat.add_comm 1, Function.comp_def] using all

theorem FindPinByCategory.references.key_loop (pins : List FilterPin) (j : Nat) :
    ∀ e ∈ loop direction category pins j, e.key ≠ .enumerator := by
  induction pins generalizing j with
  | nil => exact fun e member => absurd member List.not_mem_nil
  | cons pin rest ih =>
      rw [loop]
      cases pin.direction with
      | none => simp [Event.key]
      | some ThisPinDir =>
          simp only
          split
          · simp [Event.key]
          · intro e member
            rcases List.mem_append.1 member with here | later
            · rcases List.mem_pair.1 here with rfl | rfl <;> simp [Event.key]
            · exact ih (j + 1) e later

/-- A search keeps the pin it found, or else a stray. -/
theorem FindPinByCategory.out_references :
    Out (references filter direction category)
      (if FindPinByCategory filter direction category = true then [.found]
        else strays filter direction category) := by
  unfold references strays FindPinByCategory
  cases filter.pins with
  | none => simpa using out_nil
  | some pins =>
      have searched := @references.out_loop direction category pins 0
      have kept := searched.bracket (references.key_loop pins 0) (by split <;> simp)
      by_cases found : FindPinByCategory.loop direction category pins = true
      · simpa [found] using kept
      · simpa [found] using kept

theorem mem_strays {r : PinReference} (member : r ∈ strays filter direction category) :
    ∃ j, r = .pin j := by
  unfold strays at member
  split at member
  · cases member
  · obtain ⟨j, -, rfl⟩ := Option.map_eq_some_iff.1 (Option.mem_toList.1 member)
    exact ⟨j, rfl⟩

end Search

/-! ## Listing the formats of a device -/

inductive FrameReference
  | filter
  | pinEnum
  | search (r : PinReference)
  | streamConfig
  | mediaType (k : Nat)
deriving DecidableEq, Repr

/-- Which calls of `enumerateFrameInfo` succeed: `sized` if the size of the capabilities is right,
`caps` for each `GetStreamCaps`. -/
structure FrameAnswers where
  enumPins : Bool
  streamConfig : Bool
  sized : Bool
  caps : List Bool
deriving DecidableEq, Repr

def enumerateFrameInfo.mediaTypes : List Bool → (k : Nat) → List (Event FrameReference)
  | [], _ => []
  | false :: caps, k => mediaTypes caps (k + 1)
  | true :: caps, k =>
      [.acquire (.mediaType k), .release (.mediaType k)] ++ mediaTypes caps (k + 1)

/-- What follows once the capture pin is found. -/
def enumerateFrameInfo.configured (a : FrameAnswers) : List (Event FrameReference) :=
  if !a.streamConfig then []
  else bracket .streamConfig (if a.sized then enumerateFrameInfo.mediaTypes a.caps 0 else [])

/-- `pCap` is the filter `BindToObject` gives. -/
def enumerateFrameInfo.references (pCap : Option BaseFilter) (a : FrameAnswers) :
    List (Event FrameReference) :=
  match pCap with
  | none => []
  | some pCap =>
      bracket .filter <|
        if !a.enumPins then []
        else
          bracket .pinEnum <|
            (FindPinByCategory.references pCap .output .PIN_CATEGORY_CAPTURE).map
                (Event.map .search) ++
              if FindPinByCategory pCap .output .PIN_CATEGORY_CAPTURE then
                enumerateFrameInfo.configured a ++ [.release (.search .found)]
              else []

/-- What `enumerateFrameInfo` keeps. -/
def frameStrays (pCap : Option BaseFilter) (a : FrameAnswers) : List FrameReference :=
  match pCap with
  | none => []
  | some pCap =>
      if a.enumPins then (strays pCap .output .PIN_CATEGORY_CAPTURE).map .search else []

section Frames

variable {a : FrameAnswers}

theorem search_injective : Function.Injective FrameReference.search :=
  fun _ _ same => FrameReference.search.inj same

theorem clean_mediaTypes (caps : List Bool) (k : Nat) :
    Clean (enumerateFrameInfo.mediaTypes caps k) := by
  induction caps generalizing k with
  | nil => exact clean_nil
  | cons ok caps ih =>
      cases ok with
      | false => exact ih (k + 1)
      | true => exact (clean_pair _).append (ih (k + 1))

theorem key_mediaTypes (caps : List Bool) (k : Nat) :
    ∀ e ∈ enumerateFrameInfo.mediaTypes caps k, ∃ i, e.key = .mediaType i := by
  induction caps generalizing k with
  | nil => exact fun e member => absurd member List.not_mem_nil
  | cons ok caps ih =>
      cases ok with
      | false => exact ih (k + 1)
      | true =>
          intro e member
          rcases List.mem_append.1 member with here | later
          · rcases List.mem_pair.1 here with rfl | rfl <;> exact ⟨k, rfl⟩
          · exact ih (k + 1) e later

theorem apart_mediaTypes {caps : List Bool} {k : FrameReference} (other : ∀ i, .mediaType i ≠ k) :
    ∀ e ∈ (if a.sized then enumerateFrameInfo.mediaTypes caps 0 else []), e.key ≠ k := by
  intro e member
  split at member
  · obtain ⟨i, key⟩ := key_mediaTypes caps 0 e member
    rw [key]
    exact other i
  · cases member

theorem clean_configured : Clean (enumerateFrameInfo.configured a) := by
  unfold enumerateFrameInfo.configured
  split
  · exact clean_nil
  · refine Clean.around ?_ (apart_mediaTypes (by simp))
    split
    · exact clean_mediaTypes a.caps 0
    · exact clean_nil

theorem apart_configured {k : FrameReference} (config : .streamConfig ≠ k)
    (other : ∀ i, .mediaType i ≠ k) : ∀ e ∈ enumerateFrameInfo.configured a, e.key ≠ k := by
  unfold enumerateFrameInfo.configured
  split
  · exact fun e member => absurd member List.not_mem_nil
  · exact apart_bracket config (apart_mediaTypes other)

end Frames

/-- A search whose pin, if it finds one, is released after `used`. -/
theorem out_search {K : Type*} [DecidableEq K] {f : PinReference → K}
    (injective : Function.Injective f) {filter : BaseFilter} {direction : PinDirection}
    {category : PinCategory} {used : List (Event K)} (clean : Clean used)
    (apart : ∀ e ∈ used, e.key ≠ f .found) :
    Out ((FindPinByCategory.references filter direction category).map (Event.map f) ++
        if FindPinByCategory filter direction category then used ++ [.release (f .found)] else [])
      ((strays filter direction category).map f) := by
  have searched := (@FindPinByCategory.out_references direction category filter).map injective
  by_cases found : FindPinByCategory filter direction category = true
  · rw [if_pos found] at searched ⊢
    have through := searched.append (out_nil_iff.2 clean) fun e member held =>
      apart e member (List.mem_singleton.1 held)
    have given := through.release (k := f .found) (by simp) (by simp)
    simpa [strays, found, List.append_assoc] using given
  · rw [if_neg found] at searched ⊢
    simpa using searched

theorem enumerateFrameInfo.out_references (pCap : Option BaseFilter) (a : FrameAnswers) :
    Out (references pCap a) (frameStrays pCap a) := by
  unfold references frameStrays
  cases pCap with
  | none => exact out_nil
  | some pCap =>
      simp only
      cases a.enumPins with
      | false => exact out_nil.bracket (fun e member => absurd member List.not_mem_nil) (by simp)
      | true =>
          have search := @out_search _ _ _ search_injective pCap .output .PIN_CATEGORY_CAPTURE _
            (@clean_configured a) (apart_configured (by simp) (by simp))
          have apart (k : FrameReference) (config : .streamConfig ≠ k)
              (types : ∀ i, .mediaType i ≠ k) (pins : ∀ r, .search r ≠ k) :
              ∀ e ∈ (FindPinByCategory.references pCap .output .PIN_CATEGORY_CAPTURE).map
                  (Event.map FrameReference.search) ++
                if FindPinByCategory pCap .output .PIN_CATEGORY_CAPTURE then
                  configured a ++ [.release (.search .found)] else [], e.key ≠ k := by
            intro e member
            rcases List.mem_append.1 member with searched | later
            · obtain ⟨r, key⟩ := key_of_mem_map searched
              rw [key]
              exact pins r
            · split at later
              · rcases List.mem_append.1 later with used | last
                · exact apart_configured config types e used
                · obtain rfl := List.mem_singleton.1 last
                  exact pins .found
              · cases later
          have listed := search.bracket (apart .pinEnum (by simp) (by simp) (by simp)) (by simp)
          have pinsApart := apart_bracket (k := .pinEnum) (by simp)
            (apart .filter (by simp) (by simp) (by simp))
          exact listed.bracket pinsApart (by simp)

end OpenpnpCapture.Win
