/-
# Win.FormatSearch — the format search of `PlatformStream::open`

One pass over the capabilities keeps the best match so far: with no frame rate requested the
first match ends the pass, otherwise a match with a frame time replaces a farther one.
`distance` is `abs((int)formatFps - (int)fps)`, computed in `int`.

`formatSearch_found_iff`: the search ends with a format set exactly if some capability is a
candidate, whatever the order.  `formatSearch_selected_iff`: with a frame rate requested it ends
with the first of the nearest candidates.
-/
import OpenpnpCapture.Lib.FirstMin
import OpenpnpCapture.Lib.MachineInt
import OpenpnpCapture.Win.DirectShow
import Mathlib.Data.Int.Order.Basic

namespace OpenpnpCapture.Win

open OpenpnpCapture.Lib

set_option autoImplicit false

def INT_MAX : Int := 2 ^ 31 - 1

/-- The format the caller asks for. -/
structure Request where
  width : UInt32
  height : UInt32
  fourCC : UInt32
  fps : UInt32
deriving DecidableEq, Repr

/-- The four-character code of a capability, as the search spells it. -/
def format4CC (biCompression : UInt32) : UInt32 :=
  if biCompression = BI_RGB then multiCharacter 'R' 'G' 'B' ' ' else biCompression

def formatFps (pVih : VideoInfoHeader) : UInt32 :=
  if 0 < pVih.AvgTimePerFrame then UInt32.ofNat (10000000 / pVih.AvgTimePerFrame.toNat) else 0

/-- `abs((int)formatFps - (int)fps)`. -/
def distance (formatFps fps : UInt32) : Int :=
  int32 (int32 (int32 formatFps.toNat - int32 fps.toNat)).natAbs

/-- The state of the pass: the candidate by its index, and the media types freed. -/
structure Search where
  selectedConfig : Option Nat
  bestFpsDistance : Int
  formatSet : Bool
  freed : List Nat
deriving DecidableEq, Repr

namespace Search

def start : Search :=
  { selectedConfig := none, bestFpsDistance := INT_MAX, formatSet := false, freed := [] }

/-- `_DeleteMediaType`. -/
def free (s : Search) (iFormat : Nat) : Search :=
  { s with freed := s.freed ++ [iFormat] }

/-- The format block of a media type that passes the four checks. -/
def examined (mt : MediaType) : Option VideoInfoHeader :=
  if mt.majorVideo ∧ mt.formatVideoInfo then mt.header? else none

def sizeAndCodeMatch (want : Request) (pVih : VideoInfoHeader) : Bool :=
  pVih.biWidth.toUInt32 = want.width ∧ pVih.biHeight.toUInt32 = want.height ∧
    format4CC pVih.biCompression = want.fourCC

/-- The body of the loop for one capability; true when it ends the loop. -/
def visit (want : Request) (iFormat : Nat) (cap : StreamCaps) (s : Search) : Bool × Search :=
  match examined cap.pmtConfig with
  | none => (false, s.free iFormat)
  | some pVih =>
      if sizeAndCodeMatch want pVih then
        if want.fps = 0 then (true, { s with selectedConfig := some iFormat, formatSet := true })
        else if pVih.AvgTimePerFrame = 0 then (false, s.free iFormat)
        else if distance (formatFps pVih) want.fps < s.bestFpsDistance then
          let s := s.selectedConfig.elim s s.free
          (false, { s with
            selectedConfig := some iFormat
            bestFpsDistance := distance (formatFps pVih) want.fps
            formatSet := true })
        else (false, s.free iFormat)
      else (false, s.free iFormat)

/-- The loop from capability `iFormat` on. -/
def loop (want : Request) : Nat → List (Option StreamCaps) → Search → Search
  | _, [], s => s
  | iFormat, none :: caps, s => loop want (iFormat + 1) caps s
  | iFormat, some cap :: caps, s =>
      match visit want iFormat cap s with
      | (true, s) => s
      | (false, s) => loop want (iFormat + 1) caps s

end Search

/-- The search over all capabilities. -/
def formatSearch (caps : List (Option StreamCaps)) (want : Request) : Search :=
  Search.loop want 0 caps Search.start

/-! ## What the search finds -/

/-- A capability the search may end with. -/
def Candidate (want : Request) (cap : StreamCaps) : Prop :=
  ∃ pVih, Search.examined cap.pmtConfig = some pVih ∧ Search.sizeAndCodeMatch want pVih = true ∧
    (want.fps = 0 ∨
      (pVih.AvgTimePerFrame ≠ 0 ∧ distance (formatFps pVih) want.fps < INT_MAX))

namespace Search

variable {want : Request} {iFormat : Nat} {s : Search}

/-- A format once set stays set. -/
theorem visit_keeps (want : Request) (iFormat : Nat) (cap : StreamCaps)
    (found : s.formatSet = true) : (visit want iFormat cap s).2.formatSet = true := by
  unfold visit
  split
  · exact found
  · split
    · split
      · rfl
      · split
        · exact found
        · split
          · rfl
          · exact found
    · exact found

/-- Nothing has been selected so far. -/
def Blank (s : Search) : Prop := s.formatSet = false ∧ s.bestFpsDistance = INT_MAX

/-- From a blank state a candidate is taken, and anything else leaves the state blank. -/
theorem visit_blank (want : Request) (iFormat : Nat) (cap : StreamCaps) (blank : s.Blank) :
    (Candidate want cap → (visit want iFormat cap s).2.formatSet = true) ∧
      (¬ Candidate want cap →
        (visit want iFormat cap s).1 = false ∧ (visit want iFormat cap s).2.Blank) := by
  have freed : (s.free iFormat).Blank := blank
  unfold visit Candidate
  cases checked : examined cap.pmtConfig with
  | none => exact ⟨by simp, fun _ => ⟨rfl, blank⟩⟩
  | some pVih =>
      simp only [Option.some.injEq, exists_eq_left']
      by_cases fits : sizeAndCodeMatch want pVih = true
      · by_cases anyRate : want.fps = 0
        · simp [fits, anyRate]
        · by_cases untimed : pVih.AvgTimePerFrame = 0
          · simpa [fits, anyRate, untimed] using freed
          · by_cases close : distance (formatFps pVih) want.fps < INT_MAX
            · simp [fits, anyRate, untimed, close, blank.2]
            · simpa [fits, anyRate, untimed, close, blank.2] using freed
      · simpa [fits] using freed

theorem loop_keeps (caps : List (Option StreamCaps)) (found : s.formatSet = true) :
    (loop want iFormat caps s).formatSet = true := by
  induction caps generalizing iFormat s with
  | nil => exact found
  | cons cap caps ih =>
      cases cap with
      | none => exact ih found
      | some cap =>
          have kept := visit_keeps want iFormat cap found
          rw [loop]
          split
          · rename_i visited
            rwa [visited] at kept
          · rename_i visited
            rw [visited] at kept
            exact ih kept

theorem loop_blank (caps : List (Option StreamCaps)) (blank : s.Blank) :
    (loop want iFormat caps s).formatSet = true ↔ ∃ cap, some cap ∈ caps ∧ Candidate want cap := by
  induction caps generalizing iFormat s with
  | nil => simp [loop, blank.1]
  | cons cap caps ih =>
      cases cap with
      | none => simpa [loop] using ih blank
      | some cap =>
          obtain ⟨takes, passes⟩ := visit_blank want iFormat cap blank
          rw [loop]
          by_cases candidate : Candidate want cap
          · have taken := takes candidate
            refine iff_of_true ?_ ⟨cap, List.mem_cons_self, candidate⟩
            split
            · rename_i visited
              rwa [visited] at taken
            · rename_i visited
              rw [visited] at taken
              exact loop_keeps caps taken
          · obtain ⟨goesOn, stillBlank⟩ := passes candidate
            rw [show visit want iFormat cap s = (false, (visit want iFormat cap s).2) from
              Prod.ext goesOn rfl]
            simp only [List.mem_cons, Option.some.injEq]
            rw [ih stillBlank]
            constructor
            · rintro ⟨other, member, good⟩
              exact ⟨other, Or.inr member, good⟩
            · rintro ⟨other, rfl | member, good⟩
              · exact absurd good candidate
              · exact ⟨other, member, good⟩

end Search

/-- The search sets a format exactly if the list holds a candidate. -/
theorem formatSearch_found_iff (caps : List (Option StreamCaps)) (want : Request) :
    (formatSearch caps want).formatSet = true ↔ ∃ cap, some cap ∈ caps ∧ Candidate want cap :=
  Search.loop_blank caps ⟨rfl, rfl⟩

/-! ## Which one it selects -/

/-- The frame rate of a capability, if its media type passes the checks. -/
def capFps (cap : StreamCaps) : UInt32 :=
  (Search.examined cap.pmtConfig).elim 0 formatFps

/-- The distance with which a capability competes for a requested rate. -/
def competes (want : Request) (cap : StreamCaps) : Option Int :=
  match Search.examined cap.pmtConfig with
  | none => none
  | some pVih =>
      if Search.sizeAndCodeMatch want pVih ∧ pVih.AvgTimePerFrame ≠ 0 ∧
          distance (formatFps pVih) want.fps < INT_MAX then
        some (distance (formatFps pVih) want.fps)
      else none

/-- Those that compete are the candidates. -/
theorem competes_eq_some_iff {want : Request} (rated : want.fps ≠ 0) (cap : StreamCaps) (k : Int) :
    competes want cap = some k ↔ Candidate want cap ∧ distance (capFps cap) want.fps = k := by
  unfold competes Candidate capFps
  cases Search.examined cap.pmtConfig with
  | none => simp
  | some pVih => simp [rated]

/-- The distances of a list; a capability that could not be read does not compete. -/
def distances (want : Request) (caps : List (Option StreamCaps)) : List (Option Int) :=
  caps.map fun cap => cap.bind (competes want)

namespace Search

variable {want : Request} {iFormat : Nat} {s : Search} {best : Option (Nat × Int)}

/-- The pass remembers the best candidate so far and its distance. -/
structure Tracks (s : Search) (best : Option (Nat × Int)) : Prop where
  selected : s.selectedConfig = best.map Prod.fst
  nearest : s.bestFpsDistance = best.elim INT_MAX Prod.snd
  bounded : ∀ b, best = some b → b.2 < INT_MAX

theorem tracks_some {k : Int} (selected : s.selectedConfig = some iFormat)
    (nearest : s.bestFpsDistance = k) (bounded : k < INT_MAX) : Tracks s (some (iFormat, k)) where
  selected := selected
  nearest := by
    rw [Option.elim_some]
    exact nearest
  bounded := by
    rintro b ⟨⟩
    exact bounded

theorem Tracks.nearest_le (tracks : Tracks s best) : s.bestFpsDistance ≤ INT_MAX := by
  rw [tracks.nearest]
  cases best with
  | none => exact le_of_eq (Option.elim_none ..)
  | some b =>
      rw [Option.elim_some]
      exact le_of_lt (tracks.bounded b rfl)

/-- The comparison with `bestFpsDistance` decides what the best match is; `INT_MAX` stands for none
so far. -/
theorem Tracks.closer_eq (tracks : Tracks s best) (iFormat : Nat) (far : Int) :
    closer best iFormat (if far < INT_MAX then some far else none) =
      if far < s.bestFpsDistance then some (iFormat, far) else best := by
  by_cases near : far < INT_MAX
  · rw [if_pos near, tracks.nearest]
    cases best with
    | none => rw [Option.elim_none, if_pos near, closer]
    | some b => rw [Option.elim_some, closer]
  · have notNearer : ¬ far < s.bestFpsDistance :=
      not_lt.2 (le_trans tracks.nearest_le (not_lt.1 near))
    rw [if_neg near, if_neg notNearer, closer]

/-- With a rate requested no capability ends the pass, and only a nearer candidate is taken. -/
theorem visit_tracks (rated : want.fps ≠ 0) (iFormat : Nat) (cap : StreamCaps)
    (tracks : Tracks s best) :
    (visit want iFormat cap s).1 = false ∧
      Tracks (visit want iFormat cap s).2 (closer best iFormat (competes want cap)) := by
  have freed : Tracks (s.free iFormat) best := ⟨tracks.selected, tracks.nearest, tracks.bounded⟩
  unfold visit competes
  cases examined cap.pmtConfig with
  | none => exact ⟨rfl, freed⟩
  | some pVih =>
      by_cases fits : sizeAndCodeMatch want pVih = true
      · by_cases untimed : pVih.AvgTimePerFrame = 0
        · simpa [fits, rated, untimed, closer] using freed
        · simp only [fits, rated, untimed, if_true, if_false, ne_eq, not_false_eq_true, true_and]
          rw [tracks.closer_eq]
          generalize distance (formatFps pVih) want.fps = far
          by_cases nearer : far < s.bestFpsDistance
          · have bounded := lt_of_lt_of_le nearer tracks.nearest_le
            rw [if_pos nearer, if_pos nearer]
            exact ⟨rfl, tracks_some rfl rfl bounded⟩
          · rw [if_neg nearer, if_neg nearer]
            exact ⟨rfl, freed⟩
      · simpa [fits, closer] using freed

theorem loop_tracks (rated : want.fps ≠ 0) (caps : List (Option StreamCaps)) {keys : List (Option Int)}
    (so : Best keys best) (tracks : Tracks s best) :
    ∃ last, Best (keys ++ distances want caps) last ∧ Tracks (loop want keys.length caps s) last := by
  induction caps generalizing keys best s with
  | nil => exact ⟨best, by rwa [distances, List.map_nil, List.append_nil], tracks⟩
  | cons cap caps ih =>
      have shifted (key : Option Int) :
          keys ++ key :: distances want caps = (keys ++ [key]) ++ distances want caps := by
        rw [List.append_assoc, List.singleton_append]
      cases cap with
      | none =>
          obtain ⟨last, sound, at_⟩ := ih (best_snoc so none) tracks
          rw [← shifted, List.length_append] at *
          exact ⟨last, sound, at_⟩
      | some cap =>
          obtain ⟨goesOn, taken⟩ := visit_tracks rated keys.length cap tracks
          obtain ⟨last, sound, at_⟩ := ih (best_snoc so (competes want cap)) taken
          refine ⟨last, by rw [← shifted] at sound; exact sound, ?_⟩
          rw [List.length_append] at at_
          rw [loop, show visit want keys.length cap s =
            (false, (visit want keys.length cap s).2) from Prod.ext goesOn rfl]
          exact at_

end Search

/-- With a rate requested the search selects the first of the nearest candidates. -/
theorem formatSearch_selected_iff {want : Request} (rated : want.fps ≠ 0)
    (caps : List (Option StreamCaps)) (i : Nat) :
    (formatSearch caps want).selectedConfig = some i ↔ ∃ k, FirstMin (distances want caps) i k := by
  have untracked : Search.Tracks Search.start none := ⟨rfl, rfl, fun _ none => by cases none⟩
  obtain ⟨last, sound, tracks⟩ := Search.loop_tracks rated caps best_nil untracked
  rw [List.nil_append] at sound
  have selected : (formatSearch caps want).selectedConfig = last.map Prod.fst := tracks.selected
  rw [selected]
  constructor
  · intro found
    obtain ⟨b, same, rfl⟩ := Option.map_eq_some_iff.1 found
    exact ⟨b.2, (best_eq_some_iff sound).1 same⟩
  · rintro ⟨k, first⟩
    rw [(best_eq_some_iff sound).2 first]
    rfl

end OpenpnpCapture.Win
