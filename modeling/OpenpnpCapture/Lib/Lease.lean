/-
# Lib.Lease — every resource acquired is released exactly once

Pointers are slots that are uninitialised, null, live, or dangling after a delete that does
not clear them.  A log records what was acquired and released.  `lease` reads the log of one
resource: `free` when each acquisition so far was followed by one release, `held` when the
last one is still out, `broken` from the first wrong event on (a second release, a release of
something never acquired, an acquisition over a resource still held).

A straight-line program fills slots and may return early at a check.  `Holds` says that the
log agrees with the slots, `run_holds` that a program keeps it whatever the answers, and
`clean_discardAll_iff` when releasing a list of slots leaves every resource free.
-/
import Mathlib.Data.List.Nodup
import Mathlib.Data.List.Basic
import Mathlib.Logic.Function.Basic

namespace OpenpnpCapture.Lib.Lease

set_option autoImplicit false

variable {K : Type*} [DecidableEq K]

inductive Event (K : Type*)
  | acquire (k : K)
  | release (k : K)
deriving DecidableEq, Repr

def Event.key : Event K → K
  | .acquire k => k
  | .release k => k

/-- What a log says about one resource. -/
inductive Standing
  | free
  | held
  | broken
deriving DecidableEq, Repr

/-- One event on the resource. -/
def Standing.next : Standing → Event K → Standing
  | .free, .acquire _ => .held
  | .held, .release _ => .free
  | _, _ => .broken

/-- The lease of `k` after a log, from a given one. -/
def lease (k : K) (l : Standing) (log : List (Event K)) : Standing :=
  log.foldl (fun l e => if e.key = k then l.next e else l) l

/-- Every acquisition of the log was followed by one release, and nothing else was released. -/
def Clean (log : List (Event K)) : Prop :=
  ∀ k, lease k .free log = .free

section Logs

variable {k : K} {l : Standing}

@[simp] theorem lease_nil : lease k l [] = l := rfl

theorem lease_append (log log' : List (Event K)) :
    lease k l (log ++ log') = lease k (lease k l log) log' :=
  List.foldl_append

theorem lease_acquire_self (k : K) (l : Standing) (log : List (Event K)) :
    lease k l (.acquire k :: log) = lease k (l.next (.acquire k)) log := by
  simp [lease, Event.key]

theorem lease_release_self (k : K) (l : Standing) (log : List (Event K)) :
    lease k l (.release k :: log) = lease k (l.next (.release k)) log := by
  simp [lease, Event.key]

theorem lease_cons_other {e : Event K} (log : List (Event K)) (other : e.key ≠ k) :
    lease k l (e :: log) = lease k l log := by
  simp only [lease, List.foldl_cons, if_neg other]

theorem lease_acquire_other {j : K} (log : List (Event K)) (other : j ≠ k) :
    lease k l (.acquire j :: log) = lease k l log :=
  lease_cons_other log other

theorem lease_release_other {j : K} (log : List (Event K)) (other : j ≠ k) :
    lease k l (.release j :: log) = lease k l log :=
  lease_cons_other log other

/-- Events on other resources do not matter. -/
theorem lease_of_apart {log : List (Event K)} (apart : ∀ e ∈ log, e.key ≠ k) :
    lease k l log = l := by
  induction log with
  | nil => rfl
  | cons e log ih =>
      rw [lease_cons_other log (apart e List.mem_cons_self)]
      exact ih fun e' member => apart e' (List.mem_cons_of_mem _ member)

/-- Nor do they if they are left out. -/
theorem lease_filter_other {j : K} (log : List (Event K)) (other : j ≠ k) :
    lease k l (log.filter fun e => e.key ≠ j) = lease k l log := by
  induction log generalizing l with
  | nil => rfl
  | cons e log ih =>
      rw [List.filter_cons]
      by_cases same : e.key = j
      · rw [if_neg (by simpa using same), ih, lease_cons_other log (same ▸ other)]
      · rw [if_pos (by simpa using same)]
        exact ih

theorem Clean.append {log log' : List (Event K)} (clean : Clean log) (clean' : Clean log') :
    Clean (log ++ log') := by
  intro k
  rw [lease_append, clean k, clean' k]

theorem clean_nil : Clean ([] : List (Event K)) := fun _ => rfl

/-- A resource held around a clean log that does not touch it. -/
theorem Clean.around {log : List (Event K)} (clean : Clean log) {k : K}
    (apart : ∀ e ∈ log, e.key ≠ k) : Clean (.acquire k :: log ++ [.release k]) := by
  intro j
  by_cases mine : k = j
  · subst mine
    rw [List.cons_append, lease_acquire_self, lease_append, lease_of_apart apart,
      lease_release_self]
    rfl
  · rw [List.cons_append, lease_acquire_other _ mine, lease_append, clean j,
      lease_release_other _ mine]
    rfl

theorem clean_pair (k : K) : Clean [.acquire k, .release k] :=
  clean_nil.around fun e member => by simp at member

end Logs

/-! ## Several resources at once -/

/-- Exactly the listed resources are out. -/
def Out (log : List (Event K)) (held : List K) : Prop :=
  ∀ k, lease k .free log = if k ∈ held then .held else .free

section Several

variable {log : List (Event K)} {held : List K} {k : K}

theorem out_nil : Out ([] : List (Event K)) [] := fun _ => rfl

theorem Out.unbroken (out : Out log held) (k : K) : lease k .free log ≠ .broken := by
  rw [out k]
  split <;> exact nofun

theorem Out.standing (out : Out log held) (k : K) :
    lease k .free log = .free ∨ lease k .free log = .held ∧ k ∈ held := by
  rw [out k]
  split
  · rename_i member
    exact Or.inr ⟨rfl, member⟩
  · exact Or.inl rfl

theorem Out.acquire (out : Out log held) (idle : k ∉ held) :
    Out (log ++ [.acquire k]) (held ++ [k]) := by
  intro j
  rw [lease_append, out j]
  by_cases same : k = j
  · subst same
    rw [if_neg idle, lease_acquire_self, if_pos (List.mem_append_right _ List.mem_cons_self)]
    rfl
  · have other : (j ∈ held ++ [k]) ↔ j ∈ held := by simp [Ne.symm same]
    rw [lease_acquire_other _ same, lease_nil]
    simp only [other]

theorem out_nil_iff : Out log [] ↔ Clean log := by
  simp [Out, Clean]

theorem Out.release (out : Out log held) (distinct : held.Nodup) (member : k ∈ held) :
    Out (log ++ [.release k]) (held.erase k) := by
  intro j
  rw [lease_append, out j]
  by_cases same : k = j
  · subst same
    rw [if_pos member, lease_release_self, if_neg fun rest => (distinct.mem_erase_iff.1 rest).1 rfl]
    rfl
  · have other : (j ∈ held.erase k) ↔ j ∈ held := List.mem_erase_of_ne (Ne.symm same)
    rw [lease_release_other _ same, lease_nil]
    simp only [other]

/-- Acquiring several, each once. -/
theorem Out.acquireAll {ks : List K} (out : Out log held) (distinct : (held ++ ks).Nodup) :
    Out (log ++ ks.map .acquire) (held ++ ks) := by
  induction ks generalizing log held with
  | nil => simpa using out
  | cons k ks ih =>
      have idle : k ∉ held := fun member =>
        (List.nodup_append.1 distinct).2.2 k member k List.mem_cons_self rfl
      have later : (held ++ [k] ++ ks).Nodup := by simpa using distinct
      simpa using ih (out.acquire idle) later

/-- Releasing some of them. -/
theorem Out.releaseSome {gone : List K} (out : Out log held) (distinct : held.Nodup)
    (once : gone.Nodup) (among : gone ⊆ held) :
    Out (log ++ gone.map .release) (held.filter (· ∉ gone)) := by
  induction gone generalizing log held with
  | nil => simpa using out
  | cons k gone ih =>
      obtain ⟨apart, once⟩ := List.nodup_cons.1 once
      have rest : gone ⊆ held.erase k := fun j member => by
        have differs : j ≠ k := fun same => apart (same ▸ member)
        exact (List.mem_erase_of_ne differs).2 (among (List.mem_cons_of_mem _ member))
      have all := ih (out.release distinct (among List.mem_cons_self)) (distinct.erase k) once rest
      rw [distinct.erase_eq_filter, List.filter_filter, List.append_assoc] at all
      have same : held.filter (fun j => decide (j ∉ gone) && (j != k)) =
          held.filter (· ∉ k :: gone) := by
        refine List.filter_congr fun j _ => ?_
        by_cases first : j = k <;> simp [first]
      rw [← same]
      exact all

/-- A log that leaves the resources already out alone. -/
theorem Out.append {log' : List (Event K)} {held' : List K} (out : Out log held)
    (out' : Out log' held') (apart : ∀ e ∈ log', e.key ∉ held) :
    Out (log ++ log') (held ++ held') := by
  intro k
  rw [lease_append, out k]
  by_cases mine : k ∈ held
  · rw [if_pos mine, if_pos (List.mem_append_left _ mine)]
    exact lease_of_apart fun e member same => apart e member (same ▸ mine)
  · have rest : (k ∈ held ++ held') ↔ k ∈ held' := by simp [mine]
    rw [if_neg mine, out' k]
    simp only [rest]

/-- Releasing all of them, each once. -/
theorem Out.releaseAll (out : Out log held) (distinct : held.Nodup) :
    Clean (log ++ held.map .release) := by
  induction held generalizing log with
  | nil =>
      intro k
      rw [List.map_nil, List.append_nil, out k]
      exact if_neg List.not_mem_nil
  | cons k held ih =>
      obtain ⟨unlisted, rest⟩ := List.nodup_cons.1 distinct
      have fewer : Out (log ++ [.release k]) held := by
        intro j
        rw [lease_append, out j]
        by_cases same : k = j
        · subst same
          rw [if_pos List.mem_cons_self, lease_release_self, if_neg unlisted]
          rfl
        · rw [lease_release_other _ same, lease_nil]
          simp [Ne.symm same]
      have all := ih fewer rest
      rwa [List.append_assoc] at all

end Several

/-! ## Nested resources -/

section Nested

variable {J : Type*} [DecidableEq J] {log : List (Event K)} {held : List K} {k : K}

/-- A resource that is held around a log, as by a scoped pointer. -/
def bracket (k : K) (log : List (Event K)) : List (Event K) := .acquire k :: log ++ [.release k]

theorem Out.bracket (out : Out log held) (apart : ∀ e ∈ log, e.key ≠ k) (unheld : k ∉ held) :
    Out (bracket k log) held := by
  intro j
  rw [Lease.bracket, List.cons_append]
  by_cases mine : k = j
  · subst mine
    rw [lease_acquire_self, lease_append, lease_of_apart apart, lease_release_self, if_neg unheld]
    rfl
  · rw [lease_acquire_other _ mine, lease_append, lease_release_other _ mine, lease_nil]
    exact out j

omit [DecidableEq K] in
theorem apart_bracket {j : K} (other : k ≠ j) (apart : ∀ e ∈ log, e.key ≠ j) :
    ∀ e ∈ bracket k log, e.key ≠ j := by
  intro e member
  rcases List.mem_append.1 member with inner | last
  · rcases List.mem_cons.1 inner with rfl | inside
    · exact other
    · exact apart e inside
  · obtain rfl := List.mem_singleton.1 last
    exact other

/-- Nothing is out exactly if the list of what is out is empty. -/
theorem Out.clean_iff (out : Out log held) : Clean log ↔ held = [] := by
  constructor
  · intro clean
    refine List.eq_nil_iff_forall_not_mem.2 fun k member => ?_
    have still := out k
    rw [clean k, if_pos member] at still
    cases still
  · rintro rfl
    exact out_nil_iff.1 out

/-- The event, on a resource by another name. -/
def Event.map (f : J → K) : Event J → Event K
  | .acquire j => .acquire (f j)
  | .release j => .release (f j)

omit [DecidableEq K] [DecidableEq J] in
theorem Event.key_map (f : J → K) (e : Event J) : (e.map f).key = f e.key := by
  cases e <;> rfl

omit [DecidableEq K] [DecidableEq J] in
theorem key_of_mem_map {f : J → K} {log : List (Event J)} {e : Event K}
    (member : e ∈ log.map (Event.map f)) : ∃ j, e.key = f j := by
  obtain ⟨inner, -, rfl⟩ := List.mem_map.1 member
  exact ⟨inner.key, inner.key_map f⟩

theorem lease_map {f : J → K} (injective : Function.Injective f) (j : J) (l : Standing)
    (log : List (Event J)) : lease (f j) l (log.map (Event.map f)) = lease j l log := by
  induction log generalizing l with
  | nil => rfl
  | cons e log ih =>
      rw [List.map_cons]
      cases e with
      | acquire i =>
          by_cases same : i = j
          · subst same
            rw [Event.map, lease_acquire_self, lease_acquire_self, ih]
            cases l <;> rfl
          · rw [Event.map, lease_acquire_other _ fun both => same (injective both),
              lease_acquire_other _ same, ih]
      | release i =>
          by_cases same : i = j
          · subst same
            rw [Event.map, lease_release_self, lease_release_self, ih]
            cases l <;> rfl
          · rw [Event.map, lease_release_other _ fun both => same (injective both),
              lease_release_other _ same, ih]

theorem Out.map {f : J → K} (injective : Function.Injective f) {log : List (Event J)}
    {held : List J} (out : Out log held) : Out (log.map (Event.map f)) (held.map f) := by
  intro k
  by_cases named : ∃ j, f j = k
  · obtain ⟨j, rfl⟩ := named
    rw [lease_map injective, out j]
    simp only [List.mem_map_of_injective injective]
  · have apart : ∀ e ∈ log.map (Event.map f), e.key ≠ k := fun e member same => by
      obtain ⟨j, key⟩ := key_of_mem_map member
      exact named ⟨j, key.symm.trans same⟩
    have unheld : k ∉ held.map f := fun member => by
      obtain ⟨j, -, same⟩ := List.mem_map.1 member
      exact named ⟨j, same⟩
    rw [lease_of_apart apart, if_neg unheld]

end Nested

/-! ## Several owners -/

section Owners

variable {N : Type*} [DecidableEq N] {n m : N} {l : Standing}

/-- The event, on the resource of an owner. -/
def Event.owned (n : N) : Event K → Event (N × K) := Event.map (Prod.mk n)

/-- The event, without the owner. -/
def Event.unowned : Event (N × K) → Event K
  | .acquire key => .acquire key.2
  | .release key => .release key.2

/-- What an owner sees of a log. -/
def part (n : N) (log : List (Event (N × K))) : List (Event K) :=
  (log.filter fun e => e.key.1 = n).map Event.unowned

omit [DecidableEq K] in
theorem part_append (log log' : List (Event (N × K))) :
    part n (log ++ log') = part n log ++ part n log' := by
  simp [part]

omit [DecidableEq K] in
theorem part_owned_self (log : List (Event K)) : part n (log.map (Event.owned n)) = log := by
  induction log with
  | nil => rfl
  | cons e log ih => cases e <;> simpa [part, Event.owned, Event.map, Event.unowned, Event.key] using ih

omit [DecidableEq K] in
theorem part_owned_other (log : List (Event K)) (other : m ≠ n) :
    part n (log.map (Event.owned m)) = [] := by
  induction log with
  | nil => rfl
  | cons e log ih => cases e <;> simpa [part, Event.owned, Event.map, Event.key, other] using ih

/-- A resource's lease is read from its owner's part. -/
theorem lease_part (k : K) (log : List (Event (N × K))) :
    lease (n, k) l log = lease k l (part n log) := by
  induction log generalizing l with
  | nil => rfl
  | cons e log ih =>
      by_cases mine : e.key.1 = n
      · have seen : part n (e :: log) = e.unowned :: part n log := by simp [part, mine]
        rw [seen]
        show lease (n, k) (if e.key = (n, k) then l.next e else l) log =
          lease k (if e.unowned.key = k then l.next e.unowned else l) (part n log)
        have key : e.unowned.key = e.key.2 := by cases e <;> rfl
        have next : l.next e.unowned = l.next e := by cases e <;> cases l <;> rfl
        rw [ih, key, next]
        by_cases same : e.key.2 = k
        · rw [if_pos (Prod.ext mine same), if_pos same]
        · rw [if_neg fun both => same (congrArg Prod.snd both), if_neg same]
      · have unseen : part n (e :: log) = part n log := by simp [part, mine]
        rw [unseen, lease_cons_other log fun both => mine (congrArg Prod.fst both), ih]

end Owners

/-! ## Slots -/

inductive Pointer
  | uninitialised
  | null
  | live
  | dangling
deriving DecidableEq, Repr

structure Slots (K : Type*) where
  ptr : K → Pointer
  log : List (Event K)

namespace Slots

/-- A call that fills the slot: with a new resource on success, with null on failure. -/
def acquire (s : Slots K) (k : K) (ok : Bool) : Slots K :=
  if ok then { ptr := Function.update s.ptr k .live, log := s.log ++ [.acquire k] }
  else { s with ptr := Function.update s.ptr k .null }

/-- `if (p != nullptr)` release it; `leaves` is what the slot holds afterwards. -/
def discard (s : Slots K) (k : K) (leaves : Pointer) : Slots K :=
  if s.ptr k = .null then s
  else { ptr := Function.update s.ptr k leaves, log := s.log ++ [.release k] }

def discardAll (s : Slots K) (slots : List (K × Pointer)) : Slots K :=
  slots.foldl (fun s slot => s.discard slot.1 slot.2) s

/-- The log agrees with the slots: exactly the live ones are out. -/
def Holds (s : Slots K) : Prop :=
  ∀ k, lease k .free s.log = if s.ptr k = .live then .held else .free

section Rules

variable {s : Slots K}

theorem Holds.clean_iff (holds : s.Holds) : Clean s.log ↔ ∀ k, s.ptr k ≠ .live := by
  constructor
  · intro clean k live
    have out := holds k
    rw [if_pos live, clean k] at out
    cases out
  · intro idle k
    rw [holds k, if_neg (idle k)]

theorem Holds.acquire (holds : s.Holds) {k : K} (idle : s.ptr k ≠ .live) (ok : Bool) :
    (s.acquire k ok).Holds := by
  intro j
  have before := holds j
  unfold Slots.acquire
  cases ok with
  | true =>
      simp only [if_true, lease_append, before]
      by_cases same : k = j
      · subst same
        simp [lease_acquire_self, Standing.next, idle]
      · rw [lease_acquire_other _ same, lease_nil, Function.update_of_ne (Ne.symm same)]
  | false =>
      simp only [Bool.false_eq_true, if_false, before]
      by_cases same : k = j
      · subst same
        simp [idle]
      · rw [Function.update_of_ne (Ne.symm same)]

/-- Clean events on resources that are not out. -/
theorem Holds.borrow (holds : s.Holds) {events : List (Event K)} (clean : Clean events)
    (apart : ∀ e ∈ events, s.ptr e.key ≠ .live) :
    ({ s with log := s.log ++ events } : Slots K).Holds := by
  intro k
  show lease k .free (s.log ++ events) = if s.ptr k = .live then .held else .free
  rw [lease_append, holds k]
  by_cases live : s.ptr k = .live
  · rw [if_pos live]
    exact lease_of_apart fun e member same => apart e member (same ▸ live)
  · rw [if_neg live]
    exact clean k

theorem ptr_discard_of_ne {k j : K} (leaves : Pointer) (differs : j ≠ k) :
    (s.discard k leaves).ptr j = s.ptr j := by
  unfold discard
  split
  · rfl
  · exact Function.update_of_ne differs _ _

theorem ptr_discard_self (k : K) (leaves : Pointer) :
    (s.discard k leaves).ptr k = if s.ptr k = .null then .null else leaves := by
  unfold discard
  split
  · assumption
  · exact Function.update_self _ _ _

/-- A release that finds null or a live pointer. -/
theorem Holds.discard (holds : s.Holds) {k : K} {leaves : Pointer}
    (known : s.ptr k = .null ∨ s.ptr k = .live) (idle : leaves ≠ .live) :
    (s.discard k leaves).Holds := by
  rcases known with null | live
  · rw [Slots.discard, if_pos null]
    exact holds
  · rw [Slots.discard, if_neg (by rw [live]; exact nofun)]
    intro j
    show lease j .free (s.log ++ [.release k]) = _
    rw [lease_append, holds j]
    by_cases same : k = j
    · subst same
      simp [live, idle, lease_release_self, Standing.next]
    · rw [lease_release_other _ same, lease_nil]
      simp only [Function.update_of_ne (Ne.symm same)]

/-- Releasing a list of slots, each null or live. -/
theorem Holds.discardAll (holds : s.Holds) {slots : List (K × Pointer)}
    (distinct : (slots.map Prod.fst).Nodup) (idle : ∀ slot ∈ slots, slot.2 ≠ .live)
    (known : ∀ k ∈ slots.map Prod.fst, s.ptr k = .null ∨ s.ptr k = .live) :
    (s.discardAll slots).Holds := by
  induction slots generalizing s with
  | nil => exact holds
  | cons slot slots ih =>
      simp only [List.map_cons, List.nodup_cons] at distinct
      refine ih (holds.discard (known slot.1 List.mem_cons_self) (idle slot List.mem_cons_self))
        distinct.2 (fun slot member => idle slot (List.mem_cons_of_mem _ member)) fun k member => ?_
      have differs : k ≠ slot.1 := fun same => distinct.1 (same ▸ member)
      rw [ptr_discard_of_ne _ differs]
      exact known k (List.mem_cons_of_mem _ member)

/-- The lease of `j` after releasing a list of slots: one more release if `j` is in the list and
not null. -/
theorem lease_discardAll {slots : List (K × Pointer)} (distinct : (slots.map Prod.fst).Nodup) (j : K) :
    lease j .free (s.discardAll slots).log =
      if j ∈ slots.map Prod.fst ∧ s.ptr j ≠ .null then
        (lease j .free s.log).next (.release j)
      else lease j .free s.log := by
  induction slots generalizing s with
  | nil => simp [discardAll]
  | cons slot slots ih =>
      obtain ⟨k, leaves⟩ := slot
      simp only [List.map_cons, List.nodup_cons] at distinct
      rw [show s.discardAll ((k, leaves) :: slots) = (s.discard k leaves).discardAll slots from rfl,
        ih distinct.2]
      by_cases same : j = k
      · subst same
        rw [if_neg fun both => distinct.1 both.1]
        unfold discard
        by_cases null : s.ptr j = .null
        · simp [null]
        · simp only [null, if_false, lease_append, List.map_cons, List.mem_cons, true_or, ne_eq,
            not_false_eq_true, and_self, if_true]
          rw [lease_release_self, lease_nil]
      · have unchanged : lease j .free (s.discard k leaves).log = lease j .free s.log := by
          unfold discard
          split
          · rfl
          · rw [lease_append, lease_release_other _ (Ne.symm same), lease_nil]
        rw [unchanged, ptr_discard_of_ne leaves same]
        simp only [List.map_cons, List.mem_cons, same, false_or]

theorem ptr_discardAll_of_notMem {slots : List (K × Pointer)} {j : K}
    (absent : j ∉ slots.map Prod.fst) : (s.discardAll slots).ptr j = s.ptr j := by
  induction slots generalizing s with
  | nil => rfl
  | cons slot slots ih =>
      simp only [List.map_cons, List.mem_cons, not_or] at absent
      rw [show s.discardAll (slot :: slots) = (s.discard slot.1 slot.2).discardAll slots from rfl,
        ih absent.2, ptr_discard_of_ne _ absent.1]

theorem ptr_discardAll_of_mem {slots : List (K × Pointer)} (distinct : (slots.map Prod.fst).Nodup)
    {j : K} {leaves : Pointer} (member : (j, leaves) ∈ slots) :
    (s.discardAll slots).ptr j = if s.ptr j = .null then .null else leaves := by
  induction slots generalizing s with
  | nil => cases member
  | cons slot slots ih =>
      simp only [List.map_cons, List.nodup_cons] at distinct
      rw [show s.discardAll (slot :: slots) = (s.discard slot.1 slot.2).discardAll slots from rfl]
      rcases List.mem_cons.1 member with rfl | later
      · rw [ptr_discardAll_of_notMem distinct.1, ptr_discard_self]
      · have differs : j ≠ slot.1 := by
          rintro rfl
          exact distinct.1 (List.mem_map.2 ⟨_, later, rfl⟩)
        rw [ih distinct.2 later, ptr_discard_of_ne _ differs]

/-- Nothing released is live. -/
theorem ptr_discardAll_ne_live {slots : List (K × Pointer)} (distinct : (slots.map Prod.fst).Nodup)
    (idle : ∀ slot ∈ slots, slot.2 ≠ .live) {j : K} (member : j ∈ slots.map Prod.fst) :
    (s.discardAll slots).ptr j ≠ .live := by
  obtain ⟨slot, entry, same⟩ := List.mem_map.1 member
  have listed : (j, slot.2) ∈ slots := by
    rw [← same]
    exact entry
  rw [ptr_discardAll_of_mem distinct listed]
  split
  · exact nofun
  · exact idle slot entry

/-- **Releasing everything.**  When all live slots are in the list, releasing the list leaves every
resource free exactly when each of its slots was null or live. -/
theorem Holds.clean_discardAll_iff (holds : s.Holds) {slots : List (K × Pointer)}
    (distinct : (slots.map Prod.fst).Nodup) (covers : ∀ k, s.ptr k = .live → k ∈ slots.map Prod.fst) :
    Clean (s.discardAll slots).log ↔
      ∀ k ∈ slots.map Prod.fst, s.ptr k = .null ∨ s.ptr k = .live := by
  unfold Clean
  simp only [lease_discardAll distinct, holds _]
  constructor
  · intro clean k member
    by_contra unknown
    obtain ⟨notNull, notLive⟩ := not_or.1 unknown
    have broken := clean k
    rw [if_pos ⟨member, notNull⟩, if_neg notLive] at broken
    cases broken
  · intro known k
    by_cases live : s.ptr k = .live
    · rw [if_pos ⟨covers k live, by rw [live]; exact nofun⟩, if_pos live]
      rfl
    · by_cases member : k ∈ slots.map Prod.fst
      · have null := (known k member).resolve_right live
        rw [if_neg fun both => both.2 null, if_neg live]
      · rw [if_neg fun both => member both.1, if_neg live]

end Rules

end Slots

/-! ## Programs -/

/-- A statement: leave early unless a check holds, fill a slot, fill it if it is null, or use
resources that are released again at once. -/
inductive Op (K : Type*)
  | check (ok : Bool)
  | acquire (k : K) (ok : Bool)
  | ensure (k : K)
  | borrow (events : List (Event K))

/-- The program, and whether it ran to its end. -/
def run : List (Op K) → Slots K → Bool × Slots K
  | [], s => (true, s)
  | .check ok :: ops, s => if ok then run ops s else (false, s)
  | .acquire k ok :: ops, s => run ops (s.acquire k ok)
  | .ensure k :: ops, s => run ops (if s.ptr k = .null then s.acquire k true else s)
  | .borrow events :: ops, s => run ops { s with log := s.log ++ events }

/-- The slots a program fills. -/
def filled (ops : List (Op K)) : List K :=
  ops.filterMap fun
    | .acquire k _ => some k
    | .ensure k => some k
    | _ => none

/-- The checks of a program. -/
def checks (ops : List (Op K)) : List Bool :=
  ops.filterMap fun
    | .check ok => some ok
    | _ => none

/-- A program that can run from these slots: it fills each slot at most once and no live one, and
what it borrows is clean and none of the slots. -/
structure Ready (ops : List (Op K)) (s : Slots K) : Prop where
  distinct : (filled ops).Nodup
  idle : ∀ k ∈ filled ops, s.ptr k ≠ .live
  clean : ∀ events, Op.borrow events ∈ ops → Clean events
  apart : ∀ events, Op.borrow events ∈ ops → ∀ e ∈ events, e.key ∉ filled ops ∧ s.ptr e.key ≠ .live

section Programs

variable {ops : List (Op K)} {s : Slots K}

theorem run_append (ops ops' : List (Op K)) (s : Slots K) :
    run (ops ++ ops') s = if (run ops s).1 = true then run ops' (run ops s).2 else run ops s := by
  induction ops generalizing s with
  | nil => rfl
  | cons op ops ih =>
      cases op with
      | check ok => cases ok <;> simp [run, ih]
      | acquire k ok => exact ih _
      | ensure k => exact ih _
      | borrow events => exact ih _

theorem run_completes_iff : (run ops s).1 = true ↔ ∀ ok ∈ checks ops, ok = true := by
  induction ops generalizing s with
  | nil => simp [run, checks]
  | cons op ops ih =>
      cases op with
      | check ok => cases ok <;> simp [run, checks, ih]
      | acquire k ok => simpa [run, checks] using ih
      | ensure k => simpa [run, checks] using ih
      | borrow events => simpa [run, checks] using ih

theorem ptr_acquire_of_ne {k j : K} {ok : Bool} (differs : j ≠ k) :
    (s.acquire k ok).ptr j = s.ptr j := by
  unfold Slots.acquire
  split <;> exact Function.update_of_ne differs _ _

theorem ptr_acquire_self (k : K) (ok : Bool) :
    (s.acquire k ok).ptr k = if ok then .live else .null := by
  unfold Slots.acquire
  split <;> exact Function.update_self _ _ _

/-- A program leaves the slots it does not fill alone. -/
theorem run_ptr_of_notMem {j : K} (absent : j ∉ filled ops) : (run ops s).2.ptr j = s.ptr j := by
  induction ops generalizing s with
  | nil => rfl
  | cons op ops ih =>
      cases op with
      | check ok =>
          cases ok with
          | true => exact ih absent
          | false => rfl
      | acquire k ok =>
          obtain ⟨differs, rest⟩ := not_or.1 fun h => absent (List.mem_cons.2 h)
          exact (ih rest).trans (ptr_acquire_of_ne differs)
      | ensure k =>
          obtain ⟨differs, rest⟩ := not_or.1 fun h => absent (List.mem_cons.2 h)
          refine (ih rest).trans ?_
          split
          · exact ptr_acquire_of_ne differs
          · rfl
      | borrow events => exact ih absent

theorem Ready.tail {op : Op K} (ready : Ready (op :: ops) s) (other : filled (op :: ops) = filled ops) :
    Ready ops s where
  distinct := other ▸ ready.distinct
  idle := fun k member => ready.idle k (other ▸ member)
  clean := fun events member => ready.clean events (List.mem_cons_of_mem _ member)
  apart := fun events member e used => other ▸ ready.apart events (List.mem_cons_of_mem _ member) e used

/-- Filling the first slot leaves a program that is ready for the rest. -/
theorem Ready.after {op : Op K} {k : K} (ready : Ready (op :: ops) s)
    (fills : filled (op :: ops) = k :: filled ops) (ok : Bool) : Ready ops (s.acquire k ok) := by
  have split_ := List.nodup_cons.1 (fills ▸ ready.distinct)
  have apart_ : ∀ events, Op.borrow events ∈ ops → ∀ e ∈ events,
      (e.key ≠ k ∧ e.key ∉ filled ops) ∧ s.ptr e.key ≠ .live := by
    intro events member e used
    have both := ready.apart events (List.mem_cons_of_mem _ member) e used
    rw [fills, List.mem_cons, not_or] at both
    exact both
  refine ⟨split_.2, ?_, fun events member => ready.clean events (List.mem_cons_of_mem _ member), ?_⟩
  · intro j member
    have differs : j ≠ k := fun same => split_.1 (same ▸ member)
    rw [ptr_acquire_of_ne differs]
    exact ready.idle j (fills ▸ List.mem_cons_of_mem _ member)
  · intro events member e used
    obtain ⟨⟨differs, unfilled⟩, idle⟩ := apart_ events member e used
    rw [ptr_acquire_of_ne differs]
    exact ⟨unfilled, idle⟩

/-- **Programs keep the log in step with the slots**, wherever they return. -/
theorem run_holds (ready : Ready ops s) (holds : s.Holds) : (run ops s).2.Holds := by
  induction ops generalizing s with
  | nil => exact holds
  | cons op ops ih =>
      cases op with
      | check ok =>
          cases ok with
          | true => exact ih (ready.tail rfl) holds
          | false => exact holds
      | acquire k ok =>
          exact ih (ready.after rfl ok) (holds.acquire (ready.idle k List.mem_cons_self) ok)
      | ensure k =>
          rw [run]
          split
          · exact ih (ready.after rfl true) (holds.acquire (ready.idle k List.mem_cons_self) true)
          · have rest : Ready ops s := by
              refine ⟨(List.nodup_cons.1 ready.distinct).2,
                fun j member => ready.idle j (List.mem_cons_of_mem _ member),
                fun events member => ready.clean events (List.mem_cons_of_mem _ member), ?_⟩
              intro events member e used
              obtain ⟨unfilled, idle⟩ := ready.apart events (List.mem_cons_of_mem _ member) e used
              exact ⟨fun later => unfilled (List.mem_cons_of_mem _ later), idle⟩
            exact ih rest holds
      | borrow events =>
          have clean := ready.clean events List.mem_cons_self
          have apart := fun e used => (ready.apart events List.mem_cons_self e used).2
          have rest : Ready ops { s with log := s.log ++ events } :=
            ⟨ready.distinct, ready.idle,
              fun events member => ready.clean events (List.mem_cons_of_mem _ member),
              fun events member => ready.apart events (List.mem_cons_of_mem _ member)⟩
          exact ih rest (holds.borrow clean apart)

/-- A pointer a program may leave in a slot it started with. -/
theorem run_ptr_cases (ops : List (Op K)) (s : Slots K) (j : K) :
    (run ops s).2.ptr j = s.ptr j ∨ (run ops s).2.ptr j = .live ∨ (run ops s).2.ptr j = .null := by
  induction ops generalizing s with
  | nil => exact Or.inl rfl
  | cons op ops ih =>
      have filled_cases : ∀ (k : K) (ok : Bool), (s.acquire k ok).ptr j = s.ptr j ∨
          (s.acquire k ok).ptr j = .live ∨ (s.acquire k ok).ptr j = .null := by
        intro k ok
        by_cases same : j = k
        · subst same
          rw [ptr_acquire_self]
          cases ok <;> simp
        · exact Or.inl (ptr_acquire_of_ne same)
      have chain : ∀ t : Slots K, (t.ptr j = s.ptr j ∨ t.ptr j = .live ∨ t.ptr j = .null) →
          (run ops t).2.ptr j = s.ptr j ∨ (run ops t).2.ptr j = .live ∨
            (run ops t).2.ptr j = .null := by
        intro t start
        rcases ih t with same | rest
        · rw [same]
          exact start
        · exact Or.inr rest
      cases op with
      | check ok =>
          cases ok with
          | true => exact chain s (Or.inl rfl)
          | false => exact Or.inl rfl
      | acquire k ok => exact chain _ (filled_cases k ok)
      | ensure k =>
          rw [run]
          split
          · exact chain _ (filled_cases k true)
          · exact chain s (Or.inl rfl)
      | borrow events => exact chain _ (Or.inl rfl)

/-- A slot that a completed program filled is no longer uninitialised. -/
theorem run_acquired {k : K} {ok : Bool} (completed : (run ops s).1 = true)
    (member : Op.acquire k ok ∈ ops) :
    (run ops s).2.ptr k = .live ∨ (run ops s).2.ptr k = .null := by
  induction ops generalizing s with
  | nil => cases member
  | cons op ops ih =>
      rcases List.mem_cons.1 member with rfl | later
      · rcases run_ptr_cases ops (s.acquire k ok) k with same | known
        · rw [run, same, ptr_acquire_self]
          cases ok <;> simp
        · exact known
      · cases op with
        | check passes =>
            cases passes with
            | true => exact ih completed later
            | false => cases completed
        | acquire j filled_ => exact ih completed later
        | ensure j => exact ih completed later
        | borrow events => exact ih completed later

/-- A slot that a completed program ensures is live, if it was null or live before. -/
theorem run_ensured {k : K} (distinct : (filled ops).Nodup) (completed : (run ops s).1 = true)
    (member : Op.ensure k ∈ ops) (known : s.ptr k = .live ∨ s.ptr k = .null) :
    (run ops s).2.ptr k = .live := by
  induction ops generalizing s with
  | nil => cases member
  | cons op ops ih =>
      rcases List.mem_cons.1 member with rfl | later
      · have unfilled := (List.nodup_cons.1 distinct).1
        rw [run, run_ptr_of_notMem unfilled]
        rcases known with live | null
        · rw [if_neg (by rw [live]; exact nofun), live]
        · rw [if_pos null, ptr_acquire_self]
          rfl
      · have fills : k ∈ filled ops := List.mem_filterMap.2 ⟨_, later, rfl⟩
        cases op with
        | check passes =>
            cases passes with
            | true => exact ih distinct completed later known
            | false => cases completed
        | acquire j ok =>
            obtain ⟨first, rest⟩ := List.nodup_cons.1 distinct
            have differs : k ≠ j := fun same => first (same ▸ fills)
            refine ih rest completed later ?_
            rwa [ptr_acquire_of_ne differs]
        | ensure j =>
            obtain ⟨first, rest⟩ := List.nodup_cons.1 distinct
            have differs : k ≠ j := fun same => first (same ▸ fills)
            refine ih rest completed later ?_
            split
            · rwa [ptr_acquire_of_ne differs]
            · exact known
        | borrow events => exact ih distinct completed later known

end Programs

end OpenpnpCapture.Lib.Lease
