/-
# Mac.StreamLedger — what the streams of a context leave behind

`openStream` and `openStreamRaw` make a stream and open it once; `closeStream` deletes one that is
open.  A stream that did not open is deleted by `openStreamRaw`, and forgotten by `openStream`.
`open` acquires a capture session, an output, a queue, a delegate and a `UVCCtrl`, and locks the
configuration of the device in between.  It does not look at whether it got the lock, and gives it
back all the same; nor at the session, the output and the queue, which are taken to be made always.
The destructor knows the session and the `UVCCtrl`.

`streams_ledger` is the balance over any run of these calls: by how far `open` got, which objects of
a stream are still out, and that none is released twice or before it is acquired, but for a lock that
was not got.
-/
import OpenpnpCapture.Mac.ControlInterface

namespace OpenpnpCapture.Mac

open OpenpnpCapture.Lib.Lease OpenpnpCapture.Common

set_option autoImplicit false

/-- A call of `open` on a new stream: its arguments and answers, whether `lockForConfiguration` gives
`YES`, the numbers of the device, and what `UVCCtrl::create` gets. -/
structure Opening where
  answers : OpenAnswers
  lockForConfiguration : Bool
  width : UInt32
  height : UInt32
  fourCC : UInt32
  m_vid : UInt16
  m_pid : UInt16
  m_busLocation : UInt32
  services : Option (List IOKit.UsbService)
  interface : IOKit.InterfaceAnswers

/-- A stream after `open`: the result, the pointers that are not null, and what was acquired and
released. -/
structure Owner where
  opened : Bool
  m_nativeSession : Bool
  m_uvc : Bool
  log : List (Event IOKit.Object)

/-- `open` of a new stream, as far as it acquires and releases. -/
def openNew (o : Opening) : Owner :=
  if !o.answers.ownerGiven then ⟨false, false, false, []⟩
  else if !o.answers.deviceGiven then ⟨false, false, false, []⟩
  else if !o.answers.platformDevice then ⟨false, false, false, []⟩
  else if !o.answers.captureDevice then ⟨false, false, false, []⟩
  else if !o.answers.deviceInput then ⟨false, true, false, [.acquire .session]⟩
  else
    match o.answers.m_platformFormats.find? fun format =>
        format.width = o.width && format.height = o.height && format.mediaSubType = o.fourCC with
    | none => ⟨false, true, false, [.acquire .session]⟩
    | some _ =>
        -- no error checking on the lock
        let prepared : List (Event IOKit.Object) :=
          [.acquire .session] ++ (if o.lockForConfiguration then [.acquire .configuration] else []) ++
            [.acquire .output, .acquire .queue]
        -- the device stays locked
        if !o.answers.captureDelegate then ⟨false, true, false, prepared⟩
        else
          let uvc := IOKit.create o.m_vid o.m_pid o.m_busLocation o.services o.interface
          { opened := true
            m_nativeSession := true
            m_uvc := uvc.1
            log := prepared ++ [.acquire .captureDelegate, .release .configuration] ++ uvc.2 }

/-- The destructor, with the `close` it ends with. -/
def Owner.destroy (s : Owner) : List (Event IOKit.Object) :=
  (if s.m_uvc then IOKit.destroy else []) ++ if s.m_nativeSession then [.release .session] else []

inductive StreamCall
  /-- `openStreamRaw` if `raw`. -/
  | openStream (raw : Bool) (o : Opening)
  /-- By the number of the stream. -/
  | closeStream (n : Nat)

/-- The streams of a context, numbered as they are made. -/
structure Streams where
  made : Nat
  live : Nat → Option Owner
  log : List (Event (Nat × IOKit.Object))

namespace Streams

def start : Streams := ⟨0, fun _ => none, []⟩

def step (s : Streams) : StreamCall → Streams
  | .openStream raw o =>
      let stream := openNew o
      -- only `openStreamRaw` deletes a stream that did not open
      let deleted := if raw && !stream.opened then stream.destroy else []
      { made := s.made + 1
        live := if stream.opened then Function.update s.live s.made (some stream) else s.live
        log := s.log ++ (stream.log ++ deleted).map (Event.owned s.made) }
  | .closeStream n =>
      match s.live n with
      | none => s
      | some stream =>
          { s with
            live := Function.update s.live n none
            log := s.log ++ stream.destroy.map (Event.owned n) }

def run (calls : List StreamCall) : Streams := calls.foldl step start

end Streams

/-! ## How far a stream got -/

inductive Stage
  | refused
  | noFormat
  | noDelegate
  | opened
deriving DecidableEq, Repr

/-- By the answers `open` gets. -/
def Opening.stage (o : Opening) : Stage :=
  if !(o.answers.ownerGiven && o.answers.deviceGiven && o.answers.platformDevice &&
      o.answers.captureDevice) then .refused
  else if !o.answers.deviceInput ||
      decide (⟨o.width, o.height, o.fourCC⟩ ∉ o.answers.m_platformFormats) then .noFormat
  else if !o.answers.captureDelegate then .noDelegate
  else .opened

/-- The service whose interfaces the stream's `UVCCtrl` is for. -/
def Opening.service (o : Opening) : Option Nat :=
  (IOKit.findDevice o.m_vid o.m_pid o.m_busLocation o.services).1

/-- How the lock stands when `open` returns. -/
def Opening.configuration (o : Opening) : Standing :=
  match o.stage with
  | .refused | .noFormat => .free
  | .noDelegate => if o.lockForConfiguration then .held else .free
  | .opened => if o.lockForConfiguration then .free else .broken

/-- What else is out when `open` returns. -/
def Opening.held (o : Opening) : List IOKit.Object :=
  match o.stage with
  | .refused => []
  | .noFormat => [.session]
  | .noDelegate => [.session, .output, .queue]
  | .opened =>
      [.session, .output, .queue, .captureDelegate] ++ IOKit.remains o.service o.interface

/-- What the destructor of a stream releases. -/
def released : IOKit.Object → Bool
  | .session | .controlInterface => true
  | _ => false

/-- What is out of a stream but the lock, by whether it was deleted. -/
def Opening.leaves (o : Opening) (deleted : Bool) : List IOKit.Object :=
  if deleted then o.held.filter fun k => !released k else o.held

/-- How an object of a stream stands; deleting the stream does nothing about the lock. -/
def Opening.standing (o : Opening) (deleted : Bool) (k : IOKit.Object) : Standing :=
  if k = .configuration then o.configuration
  else if k ∈ o.leaves deleted then .held else .free

/-- The events on objects other than the lock. -/
def unlocked (log : List (Event IOKit.Object)) : List (Event IOKit.Object) :=
  log.filter fun e => e.key ≠ .configuration

section OneStream

variable {o : Opening}

/-- What `open` acquires before it asks for a delegate. -/
def prepared (locked : Bool) : List (Event IOKit.Object) :=
  [.acquire .session] ++ (if locked then [.acquire .configuration] else []) ++
    [.acquire .output, .acquire .queue]

theorem openNew_eq (o : Opening) :
    openNew o =
      match o.stage with
      | .refused => ⟨false, false, false, []⟩
      | .noFormat => ⟨false, true, false, [.acquire .session]⟩
      | .noDelegate => ⟨false, true, false, prepared o.lockForConfiguration⟩
      | .opened =>
          let uvc := IOKit.create o.m_vid o.m_pid o.m_busLocation o.services o.interface
          ⟨true, true, uvc.1, prepared o.lockForConfiguration ++
            [.acquire .captureDelegate, .release .configuration] ++ uvc.2⟩ := by
  obtain ⟨⟨ownerGiven, deviceGiven, platformDevice, captureDevice, deviceInput, formats, delegate⟩,
    locked, width, height, fourCC, _⟩ := o
  unfold openNew Opening.stage
  cases ownerGiven
  · rfl
  cases deviceGiven
  · rfl
  cases platformDevice
  · rfl
  cases captureDevice
  · rfl
  cases deviceInput
  · rfl
  by_cases listed : ⟨width, height, fourCC⟩ ∈ formats
  · obtain ⟨format, found⟩ := Option.isSome_iff_exists.1 (find?_format_isSome.2 listed)
    cases delegate <;> simp [found, listed, prepared]
  · have missing := mt find?_format_isSome.1 listed
    rw [Option.not_isSome_iff_eq_none] at missing
    simp [missing, listed]

theorem opened_iff : (openNew o).opened = true ↔ o.stage = .opened := by
  rw [openNew_eq]
  cases o.stage <;> simp

theorem unlocked_append (first second : List (Event IOKit.Object)) :
    unlocked (first ++ second) = unlocked first ++ unlocked second :=
  List.filter_append first second

theorem unlocked_of_apart {log : List (Event IOKit.Object)}
    (apart : ∀ e ∈ log, e.key ≠ .configuration) : unlocked log = log :=
  List.filter_eq_self.2 fun e member => decide_eq_true (apart e member)

theorem apart_create (o : Opening) :
    ∀ e ∈ (IOKit.create o.m_vid o.m_pid o.m_busLocation o.services o.interface).2,
      e.key ≠ .configuration := by
  intro e member same
  have usb := IOKit.usb_create o.services o.interface e member
  rw [same] at usb
  cases usb

theorem apart_destroy (s : Owner) : ∀ e ∈ s.destroy, e.key ≠ .configuration := by
  unfold Owner.destroy
  cases s.m_uvc <;> cases s.m_nativeSession <;> decide

theorem unlocked_prepared (locked : Bool) :
    unlocked (prepared locked) = [IOKit.Object.session, .output, .queue].map .acquire := by
  cases locked <;> rfl

theorem out_prepared : Out ([IOKit.Object.session, .output, .queue].map Event.acquire)
    [.session, .output, .queue] := by
  have acquired : Out ([] ++ [IOKit.Object.session, .output, .queue].map Event.acquire)
      ([] ++ [.session, .output, .queue]) := out_nil.acquireAll (by decide)
  exact acquired

/-- The lock after `open`: it is given back if the stream opened, whether it was got or not. -/
theorem configuration_openNew (o : Opening) :
    lease .configuration .free (openNew o).log = o.configuration := by
  rw [openNew_eq, Opening.configuration]
  cases o.stage with
  | refused => rfl
  | noFormat => rfl
  | noDelegate => cases o.lockForConfiguration <;> rfl
  | opened =>
      simp only
      rw [lease_append, lease_of_apart (apart_create o)]
      cases o.lockForConfiguration <;> rfl

/-- The balance of `open`. -/
theorem out_openNew (o : Opening) : Out (unlocked (openNew o).log) o.held := by
  rw [openNew_eq, Opening.held]
  cases o.stage with
  | refused => exact out_nil
  | noFormat => exact out_nil.acquire List.not_mem_nil
  | noDelegate =>
      simp only
      rw [unlocked_prepared]
      exact out_prepared
  | opened =>
      have started : Out ([IOKit.Object.session, .output, .queue].map Event.acquire ++
          [.acquire .captureDelegate]) [.session, .output, .queue, .captureDelegate] :=
        out_prepared.acquire (by decide)
      have created : Out (IOKit.create o.m_vid o.m_pid o.m_busLocation o.services o.interface).2
          (IOKit.remains o.service o.interface) := IOKit.out_create o.services o.interface
      simp only
      rw [unlocked_append, unlocked_append, unlocked_prepared, unlocked_of_apart (apart_create o)]
      refine started.append created fun e member listed => ?_
      have usb := IOKit.usb_create o.services o.interface e member
      have others : ∀ k ∈ [IOKit.Object.session, .output, .queue, .captureDelegate],
          k.usb = false := by decide
      rw [others _ listed] at usb
      cases usb

theorem nodup_held (o : Opening) : o.held.Nodup := by
  unfold Opening.held
  cases o.stage with
  | refused | noFormat | noDelegate => simp
  | opened =>
      unfold IOKit.remains IOKit.kept
      cases o.service with
      | none => simp
      | some i =>
          cases o.interface.all <;> cases o.interface.interfaceIterator <;>
            cases o.interface.usbInterface <;> cases o.interface.plugInInterface <;>
              cases o.interface.objectRelease <;> simp

theorem session_mem_held (o : Opening) :
    .session ∈ o.held ↔ (openNew o).m_nativeSession = true := by
  rw [openNew_eq, Opening.held]
  cases o.stage <;> simp

theorem controlInterface_mem_held (o : Opening) :
    .controlInterface ∈ o.held ↔ (openNew o).m_uvc = true := by
  rw [openNew_eq, Opening.held]
  cases o.stage with
  | refused | noFormat | noDelegate => simp
  | opened =>
      show _ ↔ (IOKit.create _ _ _ o.services o.interface).1 = true
      rw [IOKit.create_fst]
      show _ ↔ (o.service.isSome && o.interface.all) = true
      unfold IOKit.remains IOKit.kept
      cases o.service with
      | none => simp
      | some i =>
          cases made : o.interface.all with
          | false =>
              cases o.interface.interfaceIterator <;> cases o.interface.usbInterface <;>
                cases o.interface.plugInInterface <;> cases o.interface.objectRelease <;> simp
          | true =>
              have iterator : o.interface.interfaceIterator = true := by
                simp only [IOKit.InterfaceAnswers.all, Bool.and_eq_true] at made
                exact made.1.1.1.1
              simp [iterator]

/-- The balance of a stream that is deleted. -/
theorem out_destroy (o : Opening) :
    Out (unlocked ((openNew o).log ++ (openNew o).destroy)) (o.leaves true) := by
  rw [unlocked_append, unlocked_of_apart (apart_destroy _)]
  have session := session_mem_held o
  have interface := controlInterface_mem_held o
  have balance (gone : List IOKit.Object) (once : gone.Nodup)
      (all : ∀ k, k ∈ gone ↔ k ∈ o.held ∧ released k = true) :
      Out (unlocked (openNew o).log ++ gone.map .release) (o.leaves true) := by
    have among : gone ⊆ o.held := fun k member => ((all k).1 member).1
    have rest := (out_openNew o).releaseSome (nodup_held o) once among
    have same : o.held.filter (· ∉ gone) = o.leaves true := by
      refine List.filter_congr fun k member => ?_
      simp [all k, member]
    rw [← same]
    exact rest
  unfold Owner.destroy
  cases native : (openNew o).m_nativeSession <;> cases uvc : (openNew o).m_uvc <;>
    rw [native] at session <;> rw [uvc] at interface
  · refine balance [] List.nodup_nil fun k => ?_
    cases k <;> simp [released, session, interface]
  · refine balance [.controlInterface] (by decide) fun k => ?_
    cases k <;> simp [released, session, interface]
  · refine balance [.session] (by decide) fun k => ?_
    cases k <;> simp [released, session, interface]
  · refine balance [.controlInterface, .session] (by decide) fun k => ?_
    cases k <;> simp [released, session, interface]

/-- How the objects stand, by what is out and how the lock stands. -/
theorem standing_of_out {log : List (Event IOKit.Object)} {deleted : Bool}
    (locked : lease .configuration .free log = o.configuration)
    (out : Out (unlocked log) (o.leaves deleted)) (k : IOKit.Object) :
    lease k .free log = o.standing deleted k := by
  unfold Opening.standing
  by_cases lock : k = .configuration
  · rw [if_pos lock, lock, locked]
  · rw [if_neg lock, ← out k]
    exact (lease_filter_other log (Ne.symm lock)).symm

theorem standing_openNew (o : Opening) (k : IOKit.Object) :
    lease k .free (openNew o).log = o.standing false k := by
  have out : Out (unlocked (openNew o).log) (o.leaves false) := out_openNew o
  exact standing_of_out (configuration_openNew o) out k

theorem standing_destroy (o : Opening) (k : IOKit.Object) :
    lease k .free ((openNew o).log ++ (openNew o).destroy) = o.standing true k := by
  refine standing_of_out ?_ (out_destroy o) k
  rw [lease_append, lease_of_apart (apart_destroy _), configuration_openNew]

end OneStream

/-! ## Runs -/

/-- The calls that make a stream, in order; stream `n` is made by number `n`. -/
def openings (calls : List StreamCall) : List (Bool × Opening) :=
  calls.filterMap fun
    | .openStream raw o => some (raw, o)
    | .closeStream _ => none

/-- The part of the log that is about a stream, by whether it is live. -/
inductive Traced (s : Streams) (n : Nat) (raw : Bool) (o : Opening) : Prop
  | failed (unopened : (openNew o).opened = false) (gone : s.live n = none)
      (log : part n s.log = (openNew o).log ++ if raw then (openNew o).destroy else [])
  | live (opened : (openNew o).opened = true) (here : s.live n = some (openNew o))
      (log : part n s.log = (openNew o).log)
  | closed (opened : (openNew o).opened = true) (gone : s.live n = none)
      (log : part n s.log = (openNew o).log ++ (openNew o).destroy)

/-- Every stream that was made is traced, and there is no other. -/
structure Accounted (s : Streams) (made : List (Bool × Opening)) : Prop where
  count : s.made = made.length
  traced : ∀ n raw o, made[n]? = some (raw, o) → Traced s n raw o
  others : ∀ n, made.length ≤ n → s.live n = none ∧ part n s.log = []

/-- A step that leaves the stream and its part of the log alone. -/
theorem Traced.congr {s t : Streams} {n : Nat} {raw : Bool} {o : Opening}
    (traced : Traced s n raw o) (live : t.live n = s.live n)
    (log : part n t.log = part n s.log) : Traced t n raw o := by
  cases traced with
  | failed unopened gone same => exact .failed unopened (live.trans gone) (log.trans same)
  | live opened here same => exact .live opened (live.trans here) (log.trans same)
  | closed opened gone same => exact .closed opened (live.trans gone) (log.trans same)

namespace Accounted

variable {s : Streams} {made : List (Bool × Opening)}

theorem start : Accounted Streams.start [] :=
  ⟨rfl, fun n raw o listed => by simp at listed, fun n _ => ⟨rfl, rfl⟩⟩

/-- The stream that was just made. -/
theorem traced_made (accounted : Accounted s made) (raw : Bool) (o : Opening) :
    Traced (s.step (.openStream raw o)) s.made raw o := by
  obtain ⟨idle, silent⟩ := accounted.others s.made accounted.count.ge
  have own : part s.made (s.step (.openStream raw o)).log = (openNew o).log ++
      if raw && !(openNew o).opened then (openNew o).destroy else [] := by
    show part s.made (s.log ++ _) = _
    rw [part_append, silent, part_owned_self, List.nil_append]
  cases opened : (openNew o).opened with
  | false =>
      refine .failed opened ?_ ?_
      · show (if (openNew o).opened = true then _ else s.live) s.made = none
        rw [opened, if_neg Bool.false_ne_true, idle]
      · rw [own, opened, Bool.not_false, Bool.and_true]
  | true =>
      refine .live opened ?_ ?_
      · show (if (openNew o).opened = true then _ else s.live) s.made = _
        rw [opened, if_pos rfl, Function.update_self]
      · rw [own, opened, Bool.not_true, Bool.and_false, if_neg Bool.false_ne_true, List.append_nil]

theorem openStream (accounted : Accounted s made) (raw : Bool) (o : Opening) :
    Accounted (s.step (.openStream raw o)) (made ++ [(raw, o)]) := by
  have elsewhere {n : Nat} (other : n ≠ s.made) :
      (s.step (.openStream raw o)).live n = s.live n ∧
        part n (s.step (.openStream raw o)).log = part n s.log := by
    refine ⟨?_, ?_⟩
    · show (if (openNew o).opened = true then Function.update s.live s.made (some (openNew o))
        else s.live) n = s.live n
      split
      · exact Function.update_of_ne other _ _
      · rfl
    · show part n (s.log ++ _) = _
      rw [part_append, part_owned_other _ (Ne.symm other), List.append_nil]
  have own := accounted.traced_made raw o
  obtain ⟨count, traced, others⟩ := accounted
  refine ⟨by simp [Streams.step, count], fun n raw' o' listed => ?_, fun n beyond => ?_⟩
  · rw [List.getElem?_append] at listed
    split at listed
    · rename_i earlier
      obtain ⟨sameLive, sameLog⟩ := elsewhere (n := n) (by omega)
      exact (traced n raw' o' listed).congr sameLive sameLog
    · rename_i late
      have bound := (List.getElem?_eq_some_iff.1 listed).1
      simp only [List.length_singleton] at bound
      have last : n - made.length = 0 := by omega
      rw [last] at listed
      obtain ⟨rfl, rfl⟩ := Prod.mk.inj (Option.some.inj listed)
      obtain rfl : n = s.made := by omega
      exact own
  · rw [List.length_append, List.length_singleton] at beyond
    obtain ⟨sameLive, sameLog⟩ := elsewhere (n := n) (by omega)
    obtain ⟨none_, nothing⟩ := others n (by omega)
    exact ⟨sameLive.trans none_, sameLog.trans nothing⟩

theorem closeStream (accounted : Accounted s made) (m : Nat) :
    Accounted (s.step (.closeStream m)) made := by
  cases found : s.live m with
  | none =>
      have unchanged : s.step (.closeStream m) = s := by simp [Streams.step, found]
      rw [unchanged]
      exact accounted
  | some stream =>
      obtain ⟨count, traced, others⟩ := accounted
      have next : s.step (.closeStream m) =
          { s with
            live := Function.update s.live m none
            log := s.log ++ stream.destroy.map (Event.owned m) } := by
        simp [Streams.step, found]
      have elsewhere {n : Nat} (other : n ≠ m) : (s.step (.closeStream m)).live n = s.live n ∧
          part n (s.step (.closeStream m)).log = part n s.log := by
        rw [next]
        refine ⟨Function.update_of_ne other _ _, ?_⟩
        show part n (s.log ++ _) = _
        rw [part_append, part_owned_other _ (Ne.symm other), List.append_nil]
      refine ⟨by rw [next]; exact count, fun n raw o listed => ?_, fun n beyond => ?_⟩
      · by_cases same : n = m
        · subst same
          cases traced n raw o listed with
          | failed unopened gone log => rw [gone] at found; cases found
          | closed opened gone log => rw [gone] at found; cases found
          | live opened here log =>
              obtain rfl : openNew o = stream := Option.some.inj (here.symm.trans found)
              rw [next]
              refine .closed opened (Function.update_self _ _ _) ?_
              show part n (s.log ++ _) = _
              rw [part_append, part_owned_self, log]
        · obtain ⟨sameLive, sameLog⟩ := elsewhere same
          exact (traced n raw o listed).congr sameLive sameLog
      · obtain ⟨none_, nothing⟩ := others n beyond
        have other : n ≠ m := fun same => by
          rw [← same, none_] at found
          cases found
        obtain ⟨sameLive, sameLog⟩ := elsewhere other
        exact ⟨sameLive.trans none_, sameLog.trans nothing⟩

theorem foldl (accounted : Accounted s made) (calls : List StreamCall) :
    Accounted (calls.foldl Streams.step s) (made ++ openings calls) := by
  induction calls generalizing s made with
  | nil => simpa [openings] using accounted
  | cons call calls ih =>
      cases call with
      | openStream raw o => simpa [openings] using ih (accounted.openStream raw o)
      | closeStream n => exact ih (accounted.closeStream n)

end Accounted

/-- The stream was deleted: it is no longer live, or it did not open and was made by
`openStreamRaw`. -/
def Streams.deletes (s : Streams) (n : Nat) (raw : Bool) (o : Opening) : Bool :=
  if o.stage = .opened then (s.live n).isNone else raw

/-- How the objects of a traced stream stand. -/
theorem Traced.standing {s : Streams} {n : Nat} {raw : Bool} {o : Opening} (traced : Traced s n raw o)
    (k : IOKit.Object) : lease k .free (part n s.log) = o.standing (s.deletes n raw o) k := by
  unfold Streams.deletes
  cases traced with
  | failed unopened gone log =>
      have stage : o.stage ≠ .opened := fun opened => by
        rw [opened_iff.2 opened] at unopened
        cases unopened
      rw [log, if_neg stage]
      cases raw with
      | true => exact standing_destroy o k
      | false =>
          rw [if_neg Bool.false_ne_true, List.append_nil]
          exact standing_openNew o k
  | live opened here log =>
      rw [log, here, if_pos (opened_iff.1 opened)]
      exact standing_openNew o k
  | closed opened gone log =>
      rw [log, gone, if_pos (opened_iff.1 opened)]
      exact standing_destroy o k

/-- **The balance of a run.**  Whatever streams were opened and closed, in any order and with any
answers: of every stream exactly the objects it leaves are out, and none was released twice or
before it was acquired, but for the lock of the device's configuration.  That one is given back by
a stream that opened though it was not got, and kept by one that got it and found no delegate. -/
theorem streams_ledger (calls : List StreamCall) :
    let s := Streams.run calls
    (∀ n raw o k, (openings calls)[n]? = some (raw, o) →
      lease (n, k) .free s.log = o.standing (s.deletes n raw o) k) ∧
      ∀ n k, (openings calls).length ≤ n → lease (n, k) .free s.log = .free := by
  intro s
  have accounted : Accounted s ([] ++ openings calls) := Accounted.start.foldl calls
  rw [List.nil_append] at accounted
  refine ⟨fun n raw o k listed => ?_, fun n k beyond => ?_⟩
  · rw [lease_part]
    exact (accounted.traced n raw o listed).standing k
  · rw [lease_part, (accounted.others n beyond).2]
    rfl

end OpenpnpCapture.Mac
