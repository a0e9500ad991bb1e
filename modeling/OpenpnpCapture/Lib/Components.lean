/-
# Lib.Components — machines whose state falls into independent components

Each input is about one component of the state: it reads and changes that one only.  What it asks of
the component may depend on the state it meets, as when the world outside has to play along; `see`
says what it comes to.  `Splits` says so of a machine, seen through a view of its state.

* `answers_about`: the answers to the inputs about one component are those the component gives to
  these inputs alone.
* `answers_related`: two machines answer alike when each component of the one is related to that
  of the other, and related components answer alike what the inputs come to.

Both speak of what a machine that always answers says (`answers`); `answers_simulation` is the rule
for two such machines as a whole.
-/
import Mathlib.Data.List.Basic
import Mathlib.Logic.Function.Basic

namespace OpenpnpCapture.Lib.Components

set_option autoImplicit false

variable {S T P V I J O : Type*}

/-- What a machine that always answers says to a list of inputs. -/
def answers (step : S → I → O × S) : S → List I → List O
  | _, [] => []
  | s, i :: is => (step s i).1 :: answers step (step s i).2 is

/-- Two machines in related states answer alike, when each input is answered alike in related
states and leaves related states. -/
theorem answers_simulation {R : S → T → Prop} {step : S → I → O × S} {step' : T → I → O × T}
    {is : List I}
    (keeps : ∀ i ∈ is, ∀ s t, R s t → (step s i).1 = (step' t i).1 ∧ R (step s i).2 (step' t i).2)
    {s : S} {t : T} (related : R s t) : answers step s is = answers step' t is := by
  induction is generalizing s t with
  | nil => rfl
  | cons i is ih =>
      obtain ⟨same, next⟩ := keeps i List.mem_cons_self s t related
      rw [answers, answers, same, ih (fun j member => keeps j (List.mem_cons_of_mem i member)) next]

/-- Inputs in another form are inputs of the machine that reads this form. -/
theorem answers_map (step : S → I → O × S) (form : J → I) (s : S) (js : List J) :
    answers step s (js.map form) = answers (fun s j => step s (form j)) s js := by
  induction js generalizing s with
  | nil => rfl
  | cons j js ih => rw [List.map_cons, answers, answers, ih]

/-- What it says to the inputs that are kept. -/
def answersTo (keep : I → Bool) (step : S → I → O × S) (s : S) (is : List I) : List O :=
  ((is.zip (answers step s is)).filter fun asked => keep asked.1).map Prod.snd

theorem answersTo_cons_kept {keep : I → Bool} {step : S → I → O × S} (s : S) {i : I} (is : List I)
    (keeps : keep i = true) :
    answersTo keep step s (i :: is) = (step s i).1 :: answersTo keep step (step s i).2 is := by
  simp [answersTo, answers, keeps]

theorem answersTo_cons_dropped {keep : I → Bool} {step : S → I → O × S} (s : S) {i : I} (is : List I)
    (drops : keep i = false) :
    answersTo keep step s (i :: is) = answersTo keep step (step s i).2 is := by
  simp [answersTo, answers, drops]

/-- What the inputs come to, each in the state it meets. -/
def observed (see : S → I → J) (step : S → I → O × S) : S → List I → List J
  | _, [] => []
  | s, i :: is => see s i :: observed see step (step s i).2 is

/-- What the inputs come to that are kept. -/
def observedTo (keep : I → Bool) (see : S → I → J) (step : S → I → O × S) (s : S) (is : List I) :
    List J :=
  ((is.zip (observed see step s is)).filter fun asked => keep asked.1).map Prod.snd

theorem observedTo_cons_kept {keep : I → Bool} {see : S → I → J} {step : S → I → O × S} (s : S)
    {i : I} (is : List I) (keeps : keep i = true) :
    observedTo keep see step s (i :: is) = see s i :: observedTo keep see step (step s i).2 is := by
  simp [observedTo, observed, keeps]

theorem observedTo_cons_dropped {keep : I → Bool} {see : S → I → J} {step : S → I → O × S} (s : S)
    {i : I} (is : List I) (drops : keep i = false) :
    observedTo keep see step s (i :: is) = observedTo keep see step (step s i).2 is := by
  simp [observedTo, observed, drops]

/-- Seen through `view`, a step is one of the component it is about, and leaves the others. -/
structure Splits [DecidableEq P] (step : S → I → O × S) (about : I → P) (see : S → I → J)
    (part : P → V → J → O × V) (view : S → P → V) : Prop where
  answer : ∀ s i, (step s i).1 = (part (about i) (view s (about i)) (see s i)).1
  state : ∀ s i, view (step s i).2 =
    Function.update (view s) (about i) (part (about i) (view s (about i)) (see s i)).2

section Rules

variable [DecidableEq P] {step : S → I → O × S} {about : I → P} {see : S → I → J}
  {part : P → V → J → O × V} {view : S → P → V}

theorem Splits.own (splits : Splits step about see part view) (s : S) (i : I) :
    view (step s i).2 (about i) = (part (about i) (view s (about i)) (see s i)).2 := by
  rw [splits.state, Function.update_self]

theorem Splits.other (splits : Splits step about see part view) (s : S) {i : I} {p : P}
    (apart : p ≠ about i) : view (step s i).2 p = view s p := by
  rw [splits.state, Function.update_of_ne apart]

/-- A component does not notice the inputs about the others. -/
theorem Splits.answers_about (splits : Splits step about see part view) (p : P) (s : S)
    (is : List I) :
    answersTo (fun i => about i = p) step s is =
      answers (part p) (view s p) (observedTo (fun i => about i = p) see step s is) := by
  induction is generalizing s with
  | nil => rfl
  | cons i is ih =>
      by_cases same : about i = p
      · rw [answersTo_cons_kept s is (decide_eq_true same),
          observedTo_cons_kept s is (decide_eq_true same), ih, answers]
        subst same
        rw [splits.answer, splits.own]
      · rw [answersTo_cons_dropped s is (decide_eq_false same),
          observedTo_cons_dropped s is (decide_eq_false same), ih, splits.other s (Ne.symm same)]

/-- Two machines whose components are related, with inputs that come to what related components
answer alike. -/
theorem answers_related {W K : Type*} {R : P → V → W → Prop} {step' : T → I → O × T}
    {see' : T → I → K} {part' : P → W → K → O × W} {view' : T → P → W}
    (splits : Splits step about see part view) (splits' : Splits step' about see' part' view')
    {is : List I} {form : I → J} {form' : I → K}
    (alike : ∀ i ∈ is, ∀ v w, R (about i) v w →
      (part (about i) v (form i)).1 = (part' (about i) w (form' i)).1 ∧
        R (about i) (part (about i) v (form i)).2 (part' (about i) w (form' i)).2)
    {s : S} {t : T} (seen : observed see step s is = is.map form)
    (seen' : observed see' step' t is = is.map form')
    (related : ∀ p, R p (view s p) (view' t p)) :
    answers step s is = answers step' t is := by
  induction is generalizing s t with
  | nil => rfl
  | cons i is ih =>
      obtain ⟨saw, seen⟩ := List.cons.inj seen
      obtain ⟨saw', seen'⟩ := List.cons.inj seen'
      obtain ⟨same, next⟩ := alike i List.mem_cons_self _ _ (related (about i))
      rw [answers, answers, splits.answer, splits'.answer, saw, saw', same,
        ih (fun j member => alike j (List.mem_cons_of_mem i member)) seen seen']
      intro p
      by_cases here : p = about i
      · subst here
        rw [splits.own, splits'.own, saw, saw']
        exact next
      · rw [splits.other s here, splits'.other t here]
        exact related p

end Rules

end OpenpnpCapture.Lib.Components
