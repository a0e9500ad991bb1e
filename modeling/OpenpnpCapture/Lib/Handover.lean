/-
# Lib.Handover — one item at a time, taken, used and given back

A consumer that owns nothing takes an item from a pool, uses it once and gives it back before
it takes the next.  `Moves` are the moves such a consumer can make and the stage they lead to;
a log that `Follows` them is complete rounds and at most one round that has begun
(`follows_rounds`).

So the items used are the items taken, in order, except for one taken last and not used yet
(`Follows.taken_eq`), and whatever is given back was taken last and has been used
(`Follows.givenBack`).
-/
import Mathlib.Data.List.Basic

namespace OpenpnpCapture.Lib.Handover

set_option autoImplicit false

variable {β : Type*}

inductive Move (β : Type*)
  | take (b : β)
  | use (b : β)
  | giveBack (b : β)
deriving DecidableEq, Repr

/-- How far the current round is. -/
inductive Stage (β : Type*)
  | idle
  | taken (b : β)
  | used (b : β)
deriving DecidableEq, Repr

/-- A move and the stages before and after it. -/
inductive Moves : Stage β → Move β → Stage β → Prop
  | take (b : β) : Moves .idle (.take b) (.taken b)
  | use (b : β) : Moves (.taken b) (.use b) (.used b)
  | giveBack (b : β) : Moves (.used b) (.giveBack b) .idle

/-- A log of moves from the idle stage, and the stage it ends in. -/
inductive Follows : List (Move β) → Stage β → Prop
  | nil : Follows [] .idle
  | snoc {log : List (Move β)} {s t : Stage β} {m : Move β} (before : Follows log s)
      (move : Moves s m t) : Follows (log ++ [m]) t

def taken (log : List (Move β)) : List β :=
  log.filterMap fun
    | .take b => some b
    | .use _ | .giveBack _ => none

def used (log : List (Move β)) : List β :=
  log.filterMap fun
    | .use b => some b
    | .take _ | .giveBack _ => none

/-- The moves of a whole round. -/
def round (b : β) : List (Move β) := [.take b, .use b, .giveBack b]

/-- The moves of the round a stage is in. -/
def Stage.begun : Stage β → List (Move β)
  | .idle => []
  | .taken b => [.take b]
  | .used b => [.take b, .use b]

/-- The item taken and not used yet. -/
def Stage.unused : Stage β → List β
  | .taken b => [b]
  | .idle | .used _ => []

section Rules

variable {log : List (Move β)} {s t : Stage β}

@[simp] theorem taken_append (log log' : List (Move β)) : taken (log ++ log') = taken log ++ taken log' :=
  List.filterMap_append

@[simp] theorem used_append (log log' : List (Move β)) : used (log ++ log') = used log ++ used log' :=
  List.filterMap_append

/-- A log is complete rounds and the begun one. -/
theorem follows_rounds (follows : Follows log s) :
    ∃ items : List β, log = items.flatMap round ++ s.begun := by
  induction follows with
  | nil => exact ⟨[], rfl⟩
  | snoc before move ih =>
      obtain ⟨items, rfl⟩ := ih
      cases move with
      | take b => exact ⟨items, by simp [Stage.begun]⟩
      | use b => exact ⟨items, by simp [Stage.begun]⟩
      | giveBack b => exact ⟨items ++ [b], by simp [Stage.begun, round]⟩

theorem taken_rounds (items : List β) : taken (items.flatMap round) = items := by
  induction items with
  | nil => rfl
  | cons b items ih =>
      rw [List.flatMap_cons, taken_append, ih]
      rfl

theorem used_rounds (items : List β) : used (items.flatMap round) = items := by
  induction items with
  | nil => rfl
  | cons b items ih =>
      rw [List.flatMap_cons, used_append, ih]
      rfl

/-- Every item taken is used, in order and once, before the next is taken. -/
theorem Follows.taken_eq (follows : Follows log s) : taken log = used log ++ s.unused := by
  obtain ⟨items, rfl⟩ := follows_rounds follows
  rw [taken_append, used_append, taken_rounds, used_rounds]
  cases s <;> simp [Stage.begun, Stage.unused, taken, used]

/-- What is given back was taken last, and everything taken has been used. -/
theorem Follows.givenBack (follows : Follows log s) {b : β} (move : Moves s (.giveBack b) t) :
    used log = taken log ∧ (taken log).getLast? = some b := by
  cases move
  obtain ⟨items, rfl⟩ := follows_rounds follows
  rw [taken_append, used_append, taken_rounds, used_rounds]
  simp [Stage.begun, taken, used]

end Rules

end OpenpnpCapture.Lib.Handover
