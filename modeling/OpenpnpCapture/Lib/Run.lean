/-
# Lib.Run — runs of a machine whose steps may stop

A step takes a state and an input; it either returns an output and the next state
or stops (a fault, or a call that has not come back).  `trace` keeps one `Entry` for
each step that returned, so a property of "every step of every run" is a property of
the members of a trace, and `reached` lists the states between two steps.

* `reached_invariant`: an invariant kept by every step holds in every state reached.
* `reached_iff_trace`: when one step keeps `P` exactly if its input meets `C`, a whole
  run keeps `P` exactly if every step of it meets `C`.
* `trace_history`, `endState_history`: an invariant of the past of a run together with its state
  holds before each step, and after any part of the run.
* `replies_insert`: an input that returns and leaves the state alone can be inserted
  anywhere in a run without changing any later reply.
* `observed_projection`: the answers to some of the inputs are those of the run without the others,
  when a relation between the two runs survives each step.
* `replies_simulation`: a relation that each step of two machines keeps makes their replies the
  same, up to a crash of the first.
* `after_history`: an invariant of the inputs of a total machine together with its state.
* `after_simulation`: a relation kept by each step of two total machines relates the
  states they end in.
* `after_lastWritten`: what a run leaves to be read is what was written last.
* `finish_simulation`: when each step of a machine that may stop returns exactly on the inputs of
  `C`, a run of it returns exactly if all its inputs are of `C`, and it follows a total machine.
-/
import Mathlib.Data.List.Induction

namespace OpenpnpCapture.Lib.Run

set_option autoImplicit false

variable {S I O F : Type*}

/-- One step that returned. -/
structure Entry (S I O : Type*) where
  pre : S
  input : I
  output : O
  post : S

/-- The steps of a run, in order; the run ends at the first input that stops. -/
def trace (step : S → I → Except F (O × S)) : S → List I → List (Entry S I O)
  | _, [] => []
  | s, i :: is =>
      match step s i with
      | .ok (o, t) => ⟨s, i, o, t⟩ :: trace step t is
      | .error _ => []

/-- The states a run passes through, the first one included. -/
def reached (step : S → I → Except F (O × S)) (s : S) (is : List I) : List S :=
  s :: (trace step s is).map Entry.post

/-- What a run answers, up to and including the first stop. -/
def replies (step : S → I → Except F (O × S)) : S → List I → List (Except F O)
  | _, [] => []
  | s, i :: is =>
      match step s i with
      | .ok (o, t) => .ok o :: replies step t is
      | .error f => [.error f]

section Rules

variable {step : S → I → Except F (O × S)}

theorem trace_cons_ok {s t : S} {i : I} {o : O} (is : List I) (ok : step s i = .ok (o, t)) :
    trace step s (i :: is) = ⟨s, i, o, t⟩ :: trace step t is := by
  simp only [trace, ok]

theorem trace_cons_error {s : S} {i : I} {f : F} (is : List I) (stop : step s i = .error f) :
    trace step s (i :: is) = [] := by
  simp only [trace, stop]

/-- Every entry of a trace is a step of the machine. -/
theorem step_of_mem_trace {s : S} {is : List I} {e : Entry S I O} (member : e ∈ trace step s is) :
    step e.pre e.input = .ok (e.output, e.post) := by
  induction is generalizing s with
  | nil => simp [trace] at member
  | cons i is ih =>
      cases result : step s i with
      | error f => simp [trace_cons_error is result] at member
      | ok ot =>
          rw [trace_cons_ok is result, List.mem_cons] at member
          rcases member with rfl | later
          · exact result
          · exact ih later

theorem input_mem_of_mem_trace {s : S} {is : List I} {e : Entry S I O} (member : e ∈ trace step s is) :
    e.input ∈ is := by
  induction is generalizing s with
  | nil => simp [trace] at member
  | cons i is ih =>
      cases result : step s i with
      | error f => simp [trace_cons_error is result] at member
      | ok ot =>
          rw [trace_cons_ok is result, List.mem_cons] at member
          rcases member with rfl | later
          · exact List.mem_cons_self
          · exact List.mem_cons_of_mem _ (ih later)

theorem reached_cons_ok {s t : S} {i : I} {o : O} (is : List I) (ok : step s i = .ok (o, t)) :
    reached step s (i :: is) = s :: reached step t is := by
  simp only [reached, trace_cons_ok is ok, List.map_cons]

/-- Each step of a run starts in a state the run reached. -/
theorem pre_mem_reached {s : S} {is : List I} {e : Entry S I O} (member : e ∈ trace step s is) :
    e.pre ∈ reached step s is := by
  induction is generalizing s with
  | nil => simp [trace] at member
  | cons i is ih =>
      cases result : step s i with
      | error f => simp [trace_cons_error is result] at member
      | ok ot =>
          rw [trace_cons_ok is result, List.mem_cons] at member
          rw [reached_cons_ok is result]
          rcases member with rfl | later
          · exact List.mem_cons_self
          · exact List.mem_cons_of_mem _ (ih later)

theorem post_mem_reached {s : S} {is : List I} {e : Entry S I O} (member : e ∈ trace step s is) :
    e.post ∈ reached step s is :=
  List.mem_cons_of_mem _ (List.mem_map_of_mem member)

/-- An invariant that every step of the run keeps holds in every state reached. -/
theorem reached_invariant {J : S → Prop} {s : S} {is : List I} (start : J s)
    (keeps : ∀ e ∈ trace step s is, J e.pre → J e.post) : ∀ t ∈ reached step s is, J t := by
  induction is generalizing s with
  | nil => simpa [reached, trace] using start
  | cons i is ih =>
      intro t member
      cases result : step s i with
      | error f =>
          simp only [reached, trace_cons_error is result, List.map_nil, List.mem_singleton] at member
          exact member ▸ start
      | ok ot =>
          rw [trace_cons_ok is result] at keeps
          rw [reached_cons_ok is result, List.mem_cons] at member
          rcases member with rfl | later
          · exact start
          · exact ih (keeps _ List.mem_cons_self start)
              (fun e he => keeps e (List.mem_cons_of_mem _ he)) t later

/-- An invariant of the machine itself. -/
theorem reached_of_preserved {J : S → Prop} {s : S} {is : List I} (start : J s)
    (preserved : ∀ s i o t, step s i = .ok (o, t) → J s → J t) : ∀ t ∈ reached step s is, J t :=
  reached_invariant start fun _ member => preserved _ _ _ _ (step_of_mem_trace member)

/-- One input again and again, each time with a step that counts up. -/
theorem exists_reached_replicate {P : Nat → S → Prop} {i : I} {s : S} {m n : Nat} (start : P m s)
    (counts : ∀ k s, k < m + n → P k s → ∃ o t, step s i = .ok (o, t) ∧ P (k + 1) t) :
    ∃ t ∈ reached step s (List.replicate n i), P (m + n) t := by
  induction n generalizing m s with
  | zero => exact ⟨s, List.mem_cons_self, start⟩
  | succ n ih =>
      have total : m + (n + 1) = m + 1 + n := by omega
      rw [total] at counts ⊢
      obtain ⟨o, t, ok, next⟩ := counts m s (by omega) start
      obtain ⟨last, member, holds⟩ := ih next counts
      rw [List.replicate_succ, reached_cons_ok _ ok]
      exact ⟨last, List.mem_cons_of_mem _ member, holds⟩

/-- **Exactness over runs.**  `J` is an invariant of the machine.  If a step from a `J`-state with
`P` ends in `P` exactly when its input meets `C`, then `P` holds in every state a run reaches
exactly when every step of the run meets `C`. -/
theorem reached_iff_trace {J P : S → Prop} {C : S → I → Prop} {s : S} (startJ : J s) (startP : P s)
    (preserved : ∀ s i o t, step s i = .ok (o, t) → J s → J t)
    (exact_ : ∀ s i o t, step s i = .ok (o, t) → J s → P s → (P t ↔ C s i)) (is : List I) :
    (∀ t ∈ reached step s is, P t) ↔ ∀ e ∈ trace step s is, C e.pre e.input := by
  constructor
  · intro all e member
    have ran := step_of_mem_trace member
    have good := reached_of_preserved startJ preserved e.pre (pre_mem_reached member)
    exact (exact_ _ _ _ _ ran good (all _ (pre_mem_reached member))).1
      (all _ (post_mem_reached member))
  · intro meets
    have both : ∀ t ∈ reached step s is, J t ∧ P t := by
      refine reached_invariant ⟨startJ, startP⟩ fun _ member hold => ?_
      have ran := step_of_mem_trace member
      exact ⟨preserved _ _ _ _ ran hold.1, (exact_ _ _ _ _ ran hold.1 hold.2).2 (meets _ member)⟩
    exact fun t member => (both t member).2

/-- The same exactness for a property of the steps themselves. -/
theorem trace_iff_trace {J : S → Prop} {Q : Entry S I O → Prop} {C : S → I → Prop} {s : S}
    (start : J s) (preserved : ∀ s i o t, step s i = .ok (o, t) → J s → J t)
    (exact_ : ∀ s i o t, step s i = .ok (o, t) → J s → (Q ⟨s, i, o, t⟩ ↔ C s i)) (is : List I) :
    (∀ e ∈ trace step s is, Q e) ↔ ∀ e ∈ trace step s is, C e.pre e.input := by
  have pointwise : ∀ e ∈ trace step s is, (Q e ↔ C e.pre e.input) := fun e member =>
    exact_ _ _ _ _ (step_of_mem_trace member)
      (reached_of_preserved start preserved e.pre (pre_mem_reached member))
  exact ⟨fun all e member => (pointwise e member).1 (all e member),
    fun all e member => (pointwise e member).2 (all e member)⟩

/-- An invariant that links the steps made so far to the state they led to. -/
theorem trace_history {H : List (Entry S I O) → S → Prop} {s : S} (start : H [] s)
    (extended : ∀ past s i o t, H past s → step s i = .ok (o, t) → H (past ++ [⟨s, i, o, t⟩]) t)
    (is : List I) {past future : List (Entry S I O)} {e : Entry S I O}
    (split : trace step s is = past ++ e :: future) : H past e.pre := by
  suffices ∀ (before : List (Entry S I O)) (s : S), H before s →
      trace step s is = past ++ e :: future → H (before ++ past) e.pre from this [] s start split
  clear start split s
  induction is generalizing past with
  | nil =>
      intro before s _ split
      simp [trace] at split
  | cons i is ih =>
      intro before s holds split
      cases result : step s i with
      | error f => simp [trace_cons_error is result] at split
      | ok ot =>
          obtain ⟨o, t⟩ := ot
          rw [trace_cons_ok is result] at split
          cases past with
          | nil =>
              obtain ⟨rfl, -⟩ := List.cons.inj split
              rw [List.append_nil]
              exact holds
          | cons first past =>
              obtain ⟨rfl, rest⟩ := List.cons.inj split
              have later := ih (before ++ [⟨s, i, o, t⟩]) t (extended before s i o t holds result) rest
              rwa [List.append_assoc] at later

/-- Where an element of a list with one more at its end stands: it is that one, or before it. -/
theorem snoc_eq_append_cons {α : Type*} {past before after : List α} {last a : α}
    (split : past ++ [last] = before ++ a :: after) :
    before = past ∧ a = last ∨ ∃ rest, after = rest ++ [last] ∧ past = before ++ a :: rest := by
  rcases List.eq_nil_or_concat after with rfl | ⟨rest, b, rfl⟩
  · obtain ⟨rfl, same⟩ := List.append_inj' split rfl
    exact Or.inl ⟨rfl, (List.singleton_inj.1 same).symm⟩
  · rw [List.concat_eq_append, ← List.cons_append, ← List.append_assoc] at split
    obtain ⟨rfl, same⟩ := List.append_inj' split rfl
    obtain rfl := List.singleton_inj.1 same
    exact Or.inr ⟨rest, List.concat_eq_append, rfl⟩

/-- The state after some steps of a run. -/
def endState (s : S) (past : List (Entry S I O)) : S :=
  past.getLast?.elim s Entry.post

/-- A step of a run starts in the state the steps before it ended in. -/
theorem pre_eq_endState {s : S} {is : List I} {past future : List (Entry S I O)} {e : Entry S I O}
    (split : trace step s is = past ++ e :: future) : e.pre = endState s past :=
  trace_history (H := fun past t => t = endState s past) rfl
    (fun _ _ _ _ _ _ _ => by simp [endState]) is split

/-- The same invariant in the state after any part of the run. -/
theorem endState_history {H : List (Entry S I O) → S → Prop} {s : S} (start : H [] s)
    (extended : ∀ past s i o t, H past s → step s i = .ok (o, t) → H (past ++ [⟨s, i, o, t⟩]) t)
    (is : List I) {past future : List (Entry S I O)} (split : trace step s is = past ++ future) :
    H past (endState s past) := by
  rcases List.eq_nil_or_concat past with rfl | ⟨before, e, rfl⟩
  · exact start
  · rw [List.concat_eq_append, List.append_assoc, List.singleton_append] at split
    have member : e ∈ trace step s is := split ▸ List.mem_append_right _ List.mem_cons_self
    have holds := trace_history start extended is split
    rw [List.concat_eq_append, endState, List.getLast?_concat]
    exact extended before e.pre e.input e.output e.post holds (step_of_mem_trace member)

theorem replies_cons_ok {s t : S} {i : I} {o : O} (is : List I) (ok : step s i = .ok (o, t)) :
    replies step s (i :: is) = .ok o :: replies step t is := by
  simp only [replies, ok]

/-- An input without effect, inserted in front of any continuation, only adds its own reply. -/
theorem replies_insert {s : S} {i : I} {o : O} (idle : step s i = .ok (o, s)) (is : List I) :
    replies step s (i :: is) = .ok o :: replies step s is :=
  replies_cons_ok is idle

/-- What a run answers to the inputs that are kept. -/
def observed (step : S → I → Except F (O × S)) (keep : I → Bool) (s : S) (is : List I) :
    List (Except F O) :=
  ((is.zip (replies step s is)).filter fun asked => keep asked.1).map Prod.snd

theorem observed_cons_kept {keep : I → Bool} {s t : S} {i : I} {o : O} (is : List I)
    (ok : step s i = .ok (o, t)) (keeps : keep i = true) :
    observed step keep s (i :: is) = .ok o :: observed step keep t is := by
  simp [observed, replies_cons_ok is ok, keeps]

theorem observed_cons_dropped {keep : I → Bool} {s t : S} {i : I} {o : O} (is : List I)
    (ok : step s i = .ok (o, t)) (drops : keep i = false) :
    observed step keep s (i :: is) = observed step keep t is := by
  simp [observed, replies_cons_ok is ok, drops]

/-- Two related states answer a kept input alike and stay related, and a dropped input answers and
leaves the first related to the second: then the answers to the kept inputs are those of the run
that has no others. -/
theorem observed_projection {R : S → S → Prop} {keep : I → Bool}
    (kept : ∀ s t i, keep i = true → R s t →
      ∃ o s' t', step s i = .ok (o, s') ∧ step t i = .ok (o, t') ∧ R s' t')
    (dropped : ∀ s t i, keep i = false → R s t → ∃ o s', step s i = .ok (o, s') ∧ R s' t)
    {s t : S} (related : R s t) (is : List I) :
    observed step keep s is = replies step t (is.filter keep) := by
  induction is generalizing s t with
  | nil => rfl
  | cons i is ih =>
      cases keeps : keep i with
      | true =>
          obtain ⟨o, s', t', left, right, next⟩ := kept s t i keeps related
          rw [observed_cons_kept is left keeps, List.filter_cons_of_pos keeps,
            replies_cons_ok _ right, ih next]
      | false =>
          obtain ⟨o, s', left, next⟩ := dropped s t i keeps related
          rw [observed_cons_dropped is left keeps,
            List.filter_cons_of_neg (Bool.eq_false_iff.1 keeps), ih next]

end Rules

/-! ## Two machines -/

/-- The replies on the left are those on the right, or stop with a crash where the right ones go
on. -/
def UpTo (crash : F → Prop) (left right : List (Except F O)) : Prop :=
  left = right ∨ ∃ past f reply rest, crash f ∧ left = past ++ [.error f] ∧
    right = past ++ reply :: rest

theorem upTo_cons {crash : F → Prop} {left right : List (Except F O)} (reply : Except F O)
    (upTo : UpTo crash left right) : UpTo crash (reply :: left) (reply :: right) := by
  rcases upTo with rfl | ⟨past, f, next, rest, crashed, rfl, rfl⟩
  · exact Or.inl rfl
  · exact Or.inr ⟨reply :: past, f, next, rest, crashed, rfl, rfl⟩

/-- The relation may speak about the inputs still to come. -/
theorem replies_simulation {A B : Type*} {stepA : A → I → Except F (O × A)}
    {stepB : B → I → Except F (O × B)} {crash : F → Prop} {R : List I → A → B → Prop}
    (keeps : ∀ i is a b, R (i :: is) a b →
      (∃ o a' b', stepA a i = .ok (o, a') ∧ stepB b i = .ok (o, b') ∧ R is a' b') ∨
        (∃ f, stepA a i = .error f ∧ stepB b i = .error f) ∨ ∃ f, crash f ∧ stepA a i = .error f)
    {a : A} {b : B} {is : List I} (related : R is a b) :
    UpTo crash (replies stepA a is) (replies stepB b is) := by
  induction is generalizing a b with
  | nil => exact Or.inl rfl
  | cons i is ih =>
      rcases keeps i is a b related with
        ⟨o, a', b', left, right, next⟩ | ⟨f, left, right⟩ | ⟨f, crashed, left⟩
      · rw [replies_cons_ok is left, replies_cons_ok is right]
        exact upTo_cons _ (ih next)
      · exact Or.inl (by simp only [replies, left, right])
      · refine Or.inr ⟨[], f, ?_⟩
        cases right : stepB b i with
        | ok ob => exact ⟨.ok ob.1, replies stepB ob.2 is, crashed, by simp [replies, left],
            by simp [replies, right]⟩
        | error f' => exact ⟨.error f', [], crashed, by simp [replies, left],
            by simp [replies, right]⟩

/-! ## Total machines -/

section Total

variable {A B : Type*}

/-- The state a total machine ends in. -/
def after (step : S → I → S) (s : S) (is : List I) : S :=
  is.foldl step s

@[simp] theorem after_cons (step : S → I → S) (s : S) (i : I) (is : List I) :
    after step s (i :: is) = after step (step s i) is := rfl

theorem after_append (step : S → I → S) (s : S) (first second : List I) :
    after step s (first ++ second) = after step (after step s first) second :=
  List.foldl_append

/-- An invariant that links the inputs so far to the state they led to. -/
theorem after_history {H : List I → S → Prop} {step : S → I → S} {s : S} (start : H [] s)
    (extended : ∀ past t i, H past t → H (past ++ [i]) (step t i)) (is : List I) :
    H is (after step s is) := by
  induction is using List.reverseRecOn with
  | nil => exact start
  | append_singleton past i ih =>
      rw [after_append]
      exact extended past _ i ih

/-- A relation that one input of each machine keeps relates the states of the two runs. -/
theorem after_simulation {R : A → B → Prop} {stepA : A → I → A} {stepB : B → I → B}
    (keeps : ∀ a b i, R a b → R (stepA a i) (stepB b i)) {a : A} {b : B} (related : R a b)
    (is : List I) : R (after stepA a is) (after stepB b is) := by
  induction is generalizing a b with
  | nil => exact related
  | cons i is ih => exact ih (keeps a b i related)

/-- What the last input wrote that wrote something. -/
def lastWritten {V : Type*} (step : S → I → S) (written : S → I → Option V) : S → List I → Option V
  | _, [] => none
  | s, i :: is => (lastWritten step written (step s i) is).or (written s i)

/-- If a step leaves what it wrote, or what was there, then so does a run. -/
theorem after_lastWritten {V : Type*} {step : S → I → S} {written : S → I → Option V}
    {R : S → Option V} (left : ∀ s i, R (step s i) = (written s i).or (R s)) (s : S) (is : List I) :
    R (after step s is) = (lastWritten step written s is).or (R s) := by
  induction is generalizing s with
  | nil => rfl
  | cons i is ih => rw [after_cons, ih, left, lastWritten, Option.or_assoc]

/-- The state a machine that may stop ends in, if none of the steps stopped. -/
def finish (step : S → I → Except F S) (s : S) (is : List I) : Except F S :=
  is.foldlM step s

/-- A machine that may stop, next to a total one.  If its steps from related states return exactly
on the inputs of `C`, its runs return exactly if all their inputs are of `C`. -/
theorem finish_simulation {R : A → B → Prop} {C : I → Prop} {stepA : A → I → Except F A}
    {stepB : B → I → B} (returns : ∀ a b i, R a b → ((∃ a', stepA a i = .ok a') ↔ C i))
    (keeps : ∀ a b i a', R a b → stepA a i = .ok a' → R a' (stepB b i)) {a : A} {b : B}
    (related : R a b) (is : List I) :
    ((∃ t, finish stepA a is = .ok t) ↔ ∀ i ∈ is, C i) ∧
      ∀ t, finish stepA a is = .ok t → R t (after stepB b is) := by
  induction is generalizing a b with
  | nil =>
      refine ⟨iff_of_true ⟨a, rfl⟩ (fun i member => absurd member List.not_mem_nil), ?_⟩
      rintro t ⟨⟩
      exact related
  | cons i is ih =>
      have here := returns a b i related
      rw [List.forall_mem_cons, ← here]
      cases result : stepA a i with
      | error f =>
          have stopped : finish stepA a (i :: is) = .error f := by
            rw [finish, List.foldlM_cons, result]
            rfl
          rw [stopped]
          refine ⟨iff_of_false ?_ ?_, ?_⟩
          · rintro ⟨t, ⟨⟩⟩
          · rintro ⟨⟨t, ⟨⟩⟩, -⟩
          · rintro t ⟨⟩
      | ok next =>
          have goesOn : finish stepA a (i :: is) = finish stepA next is := by
            rw [finish, List.foldlM_cons, result]
            rfl
          obtain ⟨runs, ends⟩ := ih (keeps a b i next related result)
          rw [goesOn, runs]
          exact ⟨(and_iff_right ⟨next, rfl⟩).symm, ends⟩

end Total

end OpenpnpCapture.Lib.Run
