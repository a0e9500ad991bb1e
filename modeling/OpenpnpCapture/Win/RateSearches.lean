/-
# Win.RateSearches — the three copies of the format search

`PlatformStream::open` searches the capabilities before `RenderStream` and again once the graph
runs; `setFrameRate` has a third copy.  The copies differ: the first keeps a `formatSet` flag and
divides only positive frame times, the second hands a match to `SetFormat` inside the loop when no
rate is requested, the third is never run without a rate.

`searches_agree`: on the same list they pick the same capability, and each frees every media type
it obtains exactly once.
-/
import Mathlib.Data.List.Nodup
import OpenpnpCapture.Win.FormatSearch

namespace OpenpnpCapture.Win

open OpenpnpCapture.Lib

set_option autoImplicit false

/-- What a search has done: the media type given to `SetFormat`, and those freed, by index. -/
structure SearchOutcome where
  picked : Option Nat
  freed : List Nat
deriving DecidableEq, Repr

/-- After the loop before `RenderStream`: `SetFormat` and `_DeleteMediaType`. -/
def Search.finish (s : Search) : SearchOutcome :=
  if s.formatSet then ⟨s.selectedConfig, s.freed ++ s.selectedConfig.toList⟩ else ⟨none, s.freed⟩

def searchBeforeRender (caps : List (Option StreamCaps)) (want : Request) : SearchOutcome :=
  (formatSearch caps want).finish

/-! ## The other two copies -/

/-- The state of the later loops; `applied` is what was given to `SetFormat` inside the loop. -/
structure Rescan where
  selectedConfig : Option Nat
  bestFpsDistance : Int
  applied : Option Nat
  freed : List Nat
deriving DecidableEq, Repr

/-- A `LONGLONG` as an `unsigned long long`. -/
def ulonglong (n : Int) : Nat :=
  if 0 ≤ n then n.toNat else 2 ^ 63 + (n + 2 ^ 63).toNat

namespace Rescan

def start : Rescan :=
  { selectedConfig := none, bestFpsDistance := INT_MAX, applied := none, freed := [] }

def free (s : Rescan) (iFmt : Nat) : Rescan :=
  { s with freed := s.freed ++ [iFmt] }

/-- `(uint32_t)(10000000ULL / pVih->AvgTimePerFrame)`, without a look at the sign. -/
def formatFps (pVih : VideoInfoHeader) : UInt32 :=
  UInt32.ofNat (10000000 / ulonglong pVih.AvgTimePerFrame)

/-- A match, when a rate is requested. -/
def compare (fps : UInt32) (iFmt : Nat) (pVih : VideoInfoHeader) (s : Rescan) : Rescan :=
  if pVih.AvgTimePerFrame = 0 then s.free iFmt
  else if distance (formatFps pVih) fps < s.bestFpsDistance then
    let s := s.selectedConfig.elim s s.free
    { s with
      selectedConfig := some iFmt
      bestFpsDistance := distance (formatFps pVih) fps }
  else s.free iFmt

/-- The body of the loop after `Run`; true when it ends the loop. -/
def visitAfterRun (want : Request) (iFmt : Nat) (cap : StreamCaps) (s : Rescan) : Bool × Rescan :=
  match Search.examined cap.pmtConfig with
  | none => (false, s.free iFmt)
  | some pVih =>
      if Search.sizeAndCodeMatch want pVih then
        if want.fps = 0 then
          let s := { s with applied := some iFmt }
          (true, s.free iFmt)
        else (false, s.compare want.fps iFmt pVih)
      else (false, s.free iFmt)

def loopAfterRun (want : Request) : Nat → List (Option StreamCaps) → Rescan → Rescan
  | _, [], s => s
  | iFmt, none :: caps, s => loopAfterRun want (iFmt + 1) caps s
  | iFmt, some cap :: caps, s =>
      match visitAfterRun want iFmt cap s with
      | (true, s) => s
      | (false, s) => loopAfterRun want (iFmt + 1) caps s

/-- The body of the loop of `setFrameRate`. -/
def visitSetFrameRate (want : Request) (iFmt : Nat) (cap : StreamCaps) (s : Rescan) : Rescan :=
  match Search.examined cap.pmtConfig with
  | none => s.free iFmt
  | some pVih =>
      if Search.sizeAndCodeMatch want pVih then s.compare want.fps iFmt pVih else s.free iFmt

def loopSetFrameRate (want : Request) : Nat → List (Option StreamCaps) → Rescan → Rescan
  | _, [], s => s
  | iFmt, none :: caps, s => loopSetFrameRate want (iFmt + 1) caps s
  | iFmt, some cap :: caps, s =>
      loopSetFrameRate want (iFmt + 1) caps (visitSetFrameRate want iFmt cap s)

/-- After the loop: `SetFormat` and `_DeleteMediaType`, if a rate is requested. -/
def finish (want : Request) (s : Rescan) : SearchOutcome :=
  if 0 < want.fps then
    match s.selectedConfig with
    | some iFmt => ⟨some iFmt, s.freed ++ [iFmt]⟩
    | none => ⟨s.applied, s.freed⟩
  else ⟨s.applied, s.freed⟩

/-- After the loop of `setFrameRate`, which returns false when nothing is selected. -/
def finishSetFrameRate (s : Rescan) : SearchOutcome :=
  match s.selectedConfig with
  | none => ⟨none, s.freed⟩
  | some iFmt => ⟨some iFmt, s.freed ++ [iFmt]⟩

end Rescan

def searchAfterRun (caps : List (Option StreamCaps)) (want : Request) : SearchOutcome :=
  (Rescan.loopAfterRun want 0 caps Rescan.start).finish want

/-- The search of `setFrameRate`, for the size and code of the stream and a rate other than 0. -/
def searchSetFrameRate (caps : List (Option StreamCaps)) (want : Request) : SearchOutcome :=
  (Rescan.loopSetFrameRate want 0 caps Rescan.start).finishSetFrameRate

/-! ## The copies agree -/

/-- A negative frame time is a huge unsigned number, and its rate 0 in every copy. -/
theorem Rescan.formatFps_eq {pVih : VideoInfoHeader} (timed : pVih.AvgTimePerFrame ≠ 0) :
    Rescan.formatFps pVih = Win.formatFps pVih := by
  unfold Rescan.formatFps Win.formatFps ulonglong
  by_cases positive : 0 < pVih.AvgTimePerFrame
  · rw [if_pos positive, if_pos (by omega)]
  · rw [if_neg positive, if_neg (by omega), Nat.div_eq_of_lt (by omega)]
    rfl

/-- What holds of the first loop until it ends. -/
structure Search.Sound (want : Request) (s : Search) : Prop where
  formatSet : s.formatSet = s.selectedConfig.isSome
  unrated : want.fps = 0 → s.selectedConfig = none

theorem Search.start_sound (want : Request) : Search.start.Sound want :=
  ⟨rfl, fun _ => rfl⟩

/-- The states of the first and of a later loop at the same capability. -/
structure Mirrors (want : Request) (s : Search) (r : Rescan) : Prop where
  selected : r.selectedConfig = s.selectedConfig
  nearest : r.bestFpsDistance = s.bestFpsDistance
  freed : r.freed = s.freed
  applied : r.applied = none
  sound : s.Sound want

namespace Mirrors

variable {want : Request} {s : Search} {r : Rescan}

theorem start (want : Request) : Mirrors want Search.start Rescan.start :=
  ⟨rfl, rfl, rfl, rfl, Search.start_sound want⟩

theorem free (mirrors : Mirrors want s r) (iFormat : Nat) :
    Mirrors want (s.free iFormat) (r.free iFormat) where
  selected := mirrors.selected
  nearest := mirrors.nearest
  freed := congrArg (· ++ [iFormat]) mirrors.freed
  applied := mirrors.applied
  sound := ⟨mirrors.sound.formatSet, mirrors.sound.unrated⟩

/-- A nearer candidate is taken by both. -/
theorem take (mirrors : Mirrors want s r) (rated : want.fps ≠ 0) (iFormat : Nat) (far : Int) :
    Mirrors want
      { s.selectedConfig.elim s s.free with
        selectedConfig := some iFormat, bestFpsDistance := far, formatSet := true }
      { r.selectedConfig.elim r r.free with
        selectedConfig := some iFormat, bestFpsDistance := far } := by
  have unrated : want.fps = 0 → some iFormat = none := fun zero => absurd zero rated
  rw [mirrors.selected]
  cases s.selectedConfig with
  | none => exact ⟨rfl, rfl, mirrors.freed, mirrors.applied, rfl, unrated⟩
  | some earlier =>
      exact ⟨rfl, rfl, congrArg (· ++ [earlier]) mirrors.freed, mirrors.applied, rfl, unrated⟩

end Mirrors

section Agreement

variable {want : Request} {s : Search} {r : Rescan}

/-- With a rate requested no copy ends its loop, and all go on alike. -/
theorem visit_mirrors (rated : want.fps ≠ 0) (iFormat : Nat) (cap : StreamCaps)
    (mirrors : Mirrors want s r) :
    ∃ next, Search.visit want iFormat cap s = (false, next) ∧
      Mirrors want next (Rescan.visitSetFrameRate want iFormat cap r) := by
  unfold Search.visit Rescan.visitSetFrameRate
  cases Search.examined cap.pmtConfig with
  | none => exact ⟨_, rfl, mirrors.free iFormat⟩
  | some pVih =>
      by_cases fits : Search.sizeAndCodeMatch want pVih = true
      · simp only [if_pos fits, if_neg rated, Rescan.compare]
        by_cases untimed : pVih.AvgTimePerFrame = 0
        · rw [if_pos untimed, if_pos untimed]
          exact ⟨_, rfl, mirrors.free iFormat⟩
        · rw [if_neg untimed, if_neg untimed, Rescan.formatFps_eq untimed, mirrors.nearest]
          split
          · exact ⟨_, rfl, mirrors.take rated iFormat _⟩
          · exact ⟨_, rfl, mirrors.free iFormat⟩
      · simp only [if_neg fits]
        exact ⟨_, rfl, mirrors.free iFormat⟩

theorem visitAfterRun_eq (rated : want.fps ≠ 0) (iFmt : Nat) (cap : StreamCaps) (r : Rescan) :
    Rescan.visitAfterRun want iFmt cap r = (false, Rescan.visitSetFrameRate want iFmt cap r) := by
  unfold Rescan.visitAfterRun Rescan.visitSetFrameRate
  cases Search.examined cap.pmtConfig with
  | none => rfl
  | some pVih =>
      simp only [if_neg rated]
      split <;> rfl

/-- The loops of the two later copies are one loop when a rate is requested. -/
theorem loopAfterRun_eq (rated : want.fps ≠ 0) (iFmt : Nat) (caps : List (Option StreamCaps))
    (r : Rescan) : Rescan.loopAfterRun want iFmt caps r = Rescan.loopSetFrameRate want iFmt caps r := by
  induction caps generalizing iFmt r with
  | nil => rfl
  | cons cap caps ih =>
      cases cap with
      | none => exact ih (iFmt + 1) r
      | some cap =>
          simp only [Rescan.loopAfterRun, visitAfterRun_eq rated, Rescan.loopSetFrameRate]
          exact ih (iFmt + 1) _

theorem loop_mirrors (rated : want.fps ≠ 0) (iFormat : Nat) (caps : List (Option StreamCaps))
    (mirrors : Mirrors want s r) :
    Mirrors want (Search.loop want iFormat caps s) (Rescan.loopSetFrameRate want iFormat caps r) := by
  induction caps generalizing iFormat s r with
  | nil => exact mirrors
  | cons cap caps ih =>
      cases cap with
      | none => exact ih (iFormat + 1) mirrors
      | some cap =>
          obtain ⟨next, visited, mirrored⟩ := visit_mirrors rated iFormat cap mirrors
          rw [Search.loop, Rescan.loopSetFrameRate, visited]
          exact ih (iFormat + 1) mirrored

theorem Mirrors.finishSetFrameRate (mirrors : Mirrors want s r) :
    r.finishSetFrameRate = s.finish := by
  unfold Rescan.finishSetFrameRate Search.finish
  rw [mirrors.selected, mirrors.freed, mirrors.sound.formatSet]
  cases s.selectedConfig with
  | none => rfl
  | some iFormat => rfl

theorem Mirrors.finish (mirrors : Mirrors want s r) : r.finish want = s.finish := by
  rw [← mirrors.finishSetFrameRate, Rescan.finish, Rescan.finishSetFrameRate]
  split
  · cases r.selectedConfig with
    | none => rw [mirrors.applied]
    | some iFmt => rfl
  · rename_i zero
    have unrated : want.fps = 0 := by
      by_contra rated
      exact zero (UInt32.pos_iff_ne_zero.2 rated)
    rw [mirrors.selected, mirrors.sound.unrated unrated, mirrors.applied]

/-- Without a rate the first match ends both loops of `open`, with the same outcome. -/
theorem visit_unrated (unrated : want.fps = 0) (iFormat : Nat) (cap : StreamCaps)
    (mirrors : Mirrors want s r) :
    ∃ ends next next', Search.visit want iFormat cap s = (ends, next) ∧
      Rescan.visitAfterRun want iFormat cap r = (ends, next') ∧
      if ends = true then next'.finish want = next.finish else Mirrors want next next' := by
  have notPositive : ¬ 0 < want.fps := by
    rw [unrated]
    exact UInt32.lt_irrefl 0
  unfold Search.visit Rescan.visitAfterRun
  cases Search.examined cap.pmtConfig with
  | none => exact ⟨false, _, _, rfl, rfl, mirrors.free iFormat⟩
  | some pVih =>
      by_cases fits : Search.sizeAndCodeMatch want pVih = true
      · simp only [if_pos fits, if_pos unrated]
        refine ⟨true, _, _, rfl, rfl, ?_⟩
        simp only [Rescan.finish, if_neg notPositive, Rescan.free, Search.finish, if_true,
          mirrors.freed, Option.toList_some]
      · simp only [if_neg fits]
        exact ⟨false, _, _, rfl, rfl, mirrors.free iFormat⟩

theorem loop_unrated (unrated : want.fps = 0) (iFormat : Nat) (caps : List (Option StreamCaps))
    (mirrors : Mirrors want s r) :
    (Rescan.loopAfterRun want iFormat caps r).finish want =
      (Search.loop want iFormat caps s).finish := by
  induction caps generalizing iFormat s r with
  | nil => exact mirrors.finish
  | cons cap caps ih =>
      cases cap with
      | none => exact ih (iFormat + 1) mirrors
      | some cap =>
          obtain ⟨ends, next, next', visited, rescanned, alike⟩ :=
            visit_unrated unrated iFormat cap mirrors
          rw [Search.loop, Rescan.loopAfterRun, visited, rescanned]
          cases ends with
          | true => exact alike
          | false => exact ih (iFormat + 1) alike

end Agreement

theorem searchSetFrameRate_eq (caps : List (Option StreamCaps)) {want : Request}
    (rated : want.fps ≠ 0) : searchSetFrameRate caps want = searchBeforeRender caps want :=
  (loop_mirrors rated 0 caps (Mirrors.start want)).finishSetFrameRate

theorem searchAfterRun_eq (caps : List (Option StreamCaps)) (want : Request) :
    searchAfterRun caps want = searchBeforeRender caps want := by
  by_cases unrated : want.fps = 0
  · exact loop_unrated unrated 0 caps (Mirrors.start want)
  · have mirrors := loop_mirrors unrated 0 caps (Mirrors.start want)
    rw [searchAfterRun, loopAfterRun_eq unrated, mirrors.finish]
    rfl

/-! ## Every media type is freed once -/

/-- Whether a capability ends the loops of `open`: a match, when no rate is requested. -/
def endsSearch (want : Request) (cap : StreamCaps) : Bool :=
  want.fps = 0 && (Search.examined cap.pmtConfig).any (Search.sizeAndCodeMatch want)

/-- The media types that `GetStreamCaps` returns from capability `iFormat` on, until the loop ends. -/
def obtained (want : Request) : Nat → List (Option StreamCaps) → List Nat
  | _, [] => []
  | iFormat, none :: caps => obtained want (iFormat + 1) caps
  | iFormat, some cap :: caps =>
      iFormat :: if endsSearch want cap then [] else obtained want (iFormat + 1) caps

theorem le_of_mem_obtained {want : Request} {iFormat k : Nat} {caps : List (Option StreamCaps)}
    (member : k ∈ obtained want iFormat caps) : iFormat ≤ k := by
  induction caps generalizing iFormat with
  | nil => cases member
  | cons cap caps ih =>
      cases cap with
      | none => exact Nat.le_of_succ_le (ih member)
      | some cap =>
          rcases List.mem_cons.1 member with rfl | later
          · exact Nat.le_refl _
          · split at later
            · cases later
            · exact Nat.le_of_succ_le (ih later)

theorem nodup_obtained (want : Request) (iFormat : Nat) (caps : List (Option StreamCaps)) :
    (obtained want iFormat caps).Nodup := by
  induction caps generalizing iFormat with
  | nil => exact List.nodup_nil
  | cons cap caps ih =>
      cases cap with
      | none => exact ih (iFormat + 1)
      | some cap =>
          rw [obtained, List.nodup_cons]
          split
          · exact ⟨List.not_mem_nil, List.nodup_nil⟩
          · refine ⟨fun again => ?_, ih (iFormat + 1)⟩
            exact absurd (le_of_mem_obtained again) (Nat.not_succ_le_self iFormat)

namespace Search

variable {want : Request} {s : Search}

/-- The media types freed, and the one still held. -/
def accounted (s : Search) : List Nat :=
  s.freed ++ s.selectedConfig.toList

theorem free_accounted (s : Search) (iFormat : Nat) :
    (s.free iFormat).accounted.Perm (iFormat :: s.accounted) := by
  rw [accounted, free, accounted, List.append_assoc, List.singleton_append]
  exact List.perm_middle

/-- One capability adds its own media type to the account. -/
theorem visit_accounted (sound : s.Sound want) (iFormat : Nat) (cap : StreamCaps) :
    ∃ next, visit want iFormat cap s = (endsSearch want cap, next) ∧
      next.accounted.Perm (iFormat :: s.accounted) ∧
      next.formatSet = next.selectedConfig.isSome ∧
      (endsSearch want cap = false → next.Sound want) := by
  have passed : (s.free iFormat).Sound want := ⟨sound.formatSet, sound.unrated⟩
  have account := s.free_accounted iFormat
  unfold visit endsSearch
  cases examined cap.pmtConfig with
  | none => exact ⟨_, by simp, account, sound.formatSet, fun _ => passed⟩
  | some pVih =>
      by_cases fits : sizeAndCodeMatch want pVih = true
      · by_cases unrated : want.fps = 0
        · simp only [if_pos fits, if_pos unrated]
          refine ⟨_, Prod.ext (by simp [unrated, fits]) rfl, ?_, rfl, ?_⟩
          · simp only [accounted, sound.unrated unrated, Option.toList_some, Option.toList_none,
              List.append_nil]
            exact List.perm_append_singleton _ _
          · intro goesOn
            simp [unrated, fits] at goesOn
        · simp only [if_pos fits, if_neg unrated]
          split
          · exact ⟨_, by simp [unrated], account, sound.formatSet, fun _ => passed⟩
          · split
            · refine ⟨_, Prod.ext (by simp [unrated]) rfl, ?_, rfl, fun _ => ?_⟩
              · cases held : s.selectedConfig with
                | none =>
                    simp only [accounted, held, Option.elim_none, Option.toList_some,
                      Option.toList_none, List.append_nil]
                    exact List.perm_append_singleton _ _
                | some earlier =>
                    simp only [accounted, held, Option.elim_some, free, Option.toList_some]
                    exact List.perm_append_singleton _ _
              · exact ⟨rfl, fun zero => absurd zero unrated⟩
            · exact ⟨_, by simp [unrated], account, sound.formatSet, fun _ => passed⟩
      · simp only [if_neg fits]
        exact ⟨_, by simp [fits], account, sound.formatSet, fun _ => passed⟩

theorem finish_freed (set_ : s.formatSet = s.selectedConfig.isSome) :
    s.finish.freed = s.accounted := by
  rw [finish, accounted, set_]
  cases s.selectedConfig with
  | none => exact (List.append_nil _).symm
  | some iFormat => rfl

/-- The loop frees what it held before and every media type it obtains. -/
theorem loop_freed (sound : s.Sound want) (iFormat : Nat) (caps : List (Option StreamCaps)) :
    (loop want iFormat caps s).finish.freed.Perm (s.accounted ++ obtained want iFormat caps) := by
  induction caps generalizing iFormat s with
  | nil =>
      rw [loop, finish_freed sound.formatSet, obtained, List.append_nil]
  | cons cap caps ih =>
      cases cap with
      | none => exact ih sound (iFormat + 1)
      | some cap =>
          obtain ⟨next, visited, account, set_, goesOn⟩ := visit_accounted sound iFormat cap
          rw [loop, visited, obtained]
          cases ends : endsSearch want cap with
          | true =>
              simp only [if_true]
              rw [finish_freed set_]
              exact account.trans (List.perm_append_singleton _ _).symm
          | false =>
              have later := ih (goesOn ends) (iFormat + 1)
              simp only [Bool.false_eq_true, if_false]
              exact later.trans ((account.append_right _).trans List.perm_middle.symm)

end Search

theorem searchBeforeRender_freed (caps : List (Option StreamCaps)) (want : Request) (k : Nat) :
    (searchBeforeRender caps want).freed.count k = if k ∈ obtained want 0 caps then 1 else 0 := by
  have account := Search.loop_freed (Search.start_sound want) 0 caps
  rw [← (nodup_obtained want 0 caps).count]
  exact account.count_eq k

/-- **The three searches agree.**  For every list and request, the two searches of `open` pick the same
capability or both none, and with a rate requested so does `setFrameRate`; and each of the three
frees every media type it obtains once. -/
theorem searches_agree (caps : List (Option StreamCaps)) (want : Request) :
    (searchAfterRun caps want).picked = (searchBeforeRender caps want).picked ∧
      (0 < want.fps →
        (searchSetFrameRate caps want).picked = (searchBeforeRender caps want).picked) ∧
      ∀ k, (searchBeforeRender caps want).freed.count k =
            (if k ∈ obtained want 0 caps then 1 else 0) ∧
          (searchAfterRun caps want).freed.count k =
            (if k ∈ obtained want 0 caps then 1 else 0) ∧
          (0 < want.fps → (searchSetFrameRate caps want).freed.count k =
            (if k ∈ obtained want 0 caps then 1 else 0)) := by
  have third (rated : 0 < want.fps) : searchSetFrameRate caps want = searchBeforeRender caps want :=
    searchSetFrameRate_eq caps (UInt32.pos_iff_ne_zero.1 rated)
  refine ⟨congrArg SearchOutcome.picked (searchAfterRun_eq caps want),
    fun rated => congrArg SearchOutcome.picked (third rated), fun k => ?_⟩
  have once := searchBeforeRender_freed caps want k
  refine ⟨once, ?_, fun rated => ?_⟩
  · rw [searchAfterRun_eq]
    exact once
  · rw [third rated]
    exact once

/-- A 640 x 480 capability in Motion JPEG. -/
def timedCaps (AvgTimePerFrame : Int) : StreamCaps where
  pmtConfig :=
    { majorVideo := true, formatVideoInfo := true, cbFormat := 88,
      pbFormat := some ⟨AvgTimePerFrame, 640, 480, 24, 0x47504A4D⟩ }
  MinFrameInterval := 0
  MaxFrameInterval := 0

/-- The first of these is selected and then outdone by the last. -/
theorem searches_agree_on_thirty :
    (searchAfterRun [some (timedCaps 666666), none, some (timedCaps 333333)]
        ⟨640, 480, 0x47504A4D, 30⟩).picked = some 2 ∧
      (searchSetFrameRate [some (timedCaps 666666), none, some (timedCaps 333333)]
        ⟨640, 480, 0x47504A4D, 30⟩).freed.count 0 = 1 := by
  obtain ⟨after, -, once⟩ := searches_agree
    [some (timedCaps 666666), none, some (timedCaps 333333)] ⟨640, 480, 0x47504A4D, 30⟩
  exact ⟨after.trans (by decide), ((once 0).2.2 (by decide)).trans (by decide)⟩

end OpenpnpCapture.Win
