/-
# Lib.Mailbox — a one-place mailbox

The newest message replaces the one before it.  A reader may look at the message
without consuming it, or collect it: it then decides on what it finds whether to take
it (a reader whose buffer is too small declines), and a taken message stays readable
but is no longer fresh.  This is what a "latest value" buffer between a producer and a
polling consumer promises, over any type of message.

`latest_after`: after a run the mailbox holds the last message posted in it, or what it
held before when none was.
-/
import OpenpnpCapture.Lib.Run

namespace OpenpnpCapture.Lib

set_option autoImplicit false

variable {α : Type*}

/-- A mailbox; fresh mail is there to be read. -/
structure Mailbox (α : Type*) where
  latest : Option α
  fresh : Bool
  held : fresh = true → latest.isSome = true

namespace Mailbox

def empty : Mailbox α := ⟨none, false, by simp⟩

def post (a : α) : Mailbox α := ⟨some a, true, by simp⟩

def collect (m : Mailbox α) : Mailbox α := ⟨m.latest, false, by simp⟩

/-- What the two parties do: `post` is the producer, `collect` and `look` the consumer. -/
inductive Act (α : Type*)
  | post (a : α)
  | collect (takes : Option α → Bool)
  | look

def step (m : Mailbox α) : Act α → Mailbox α
  | .post a => post a
  | .collect takes => if takes m.latest then m.collect else m
  | .look => m

/-- The messages posted in a run, in order. -/
def posted (acts : List (Act α)) : List α :=
  acts.filterMap fun
    | .post a => some a
    | _ => none

theorem latest_after (m : Mailbox α) (acts : List (Act α)) :
    (Run.after step m acts).latest = (posted acts).getLast?.or m.latest := by
  induction acts generalizing m with
  | nil => rfl
  | cons act acts ih =>
      rw [Run.after_cons, ih]
      cases act with
      | post a =>
          show (posted acts).getLast?.or (some a) = (a :: posted acts).getLast?.or m.latest
          rw [List.getLast?_cons]
          cases (posted acts).getLast? <;> rfl
      | collect takes => by_cases taken : takes m.latest <;> simp [posted, step, collect, taken]
      | look => simp [posted, step]

theorem latest_after_empty (acts : List (Act α)) :
    (Run.after step (empty : Mailbox α) acts).latest = (posted acts).getLast? := by
  rw [latest_after]
  exact Option.or_none

end Mailbox

end OpenpnpCapture.Lib
