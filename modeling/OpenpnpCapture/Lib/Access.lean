/-
# Lib.Access — the memory accesses of a conversion

A routine that reads one buffer and writes another is the list of its accesses, in order.
`InBounds` says that none leaves the two buffers; `store` is what the writes leave in the
destination.  A write outside the destination changes no byte of it.  `lastAt` is the value an
offset is left with, so two routines agree exactly if it does (`store_alike_iff`).

`raster` is the row-by-row, column-by-column loop; its cells are numbered row-major.
-/
import Mathlib.Data.List.Basic
import OpenpnpCapture.Lib.Bytes

namespace OpenpnpCapture.Lib

set_option autoImplicit false

inductive Access
  | read (offset : Nat)
  | write (offset : Nat) (value : UInt8)
deriving DecidableEq, Repr

namespace Access

/-- Inside a source of `readable` bytes, respectively a destination of `writable`. -/
def Within (readable writable : Nat) : Access → Prop
  | .read offset => offset < readable
  | .write offset _ => offset < writable

@[simp] theorem within_read (readable writable offset : Nat) :
    (Access.read offset).Within readable writable ↔ offset < readable := Iff.rfl

@[simp] theorem within_write (readable writable offset : Nat) (value : UInt8) :
    (Access.write offset value).Within readable writable ↔ offset < writable := Iff.rfl

instance (readable writable : Nat) : DecidablePred (Within readable writable)
  | .read offset => inferInstanceAs (Decidable (offset < readable))
  | .write offset _ => inferInstanceAs (Decidable (offset < writable))

end Access

def InBounds (readable writable : Nat) (accesses : List Access) : Prop :=
  ∀ access ∈ accesses, access.Within readable writable

instance (readable writable : Nat) (accesses : List Access) :
    Decidable (InBounds readable writable accesses) :=
  inferInstanceAs (Decidable (∀ access ∈ accesses, access.Within readable writable))

/-- The destination after the writes. -/
def store (buffer : Bytes) : List Access → Bytes
  | [] => buffer
  | .read _ :: rest => store buffer rest
  | .write offset value :: rest => store (buffer.set offset value) rest

/-- The values written, in order. -/
def written (accesses : List Access) : Bytes :=
  accesses.filterMap fun
    | .read _ => none
    | .write _ value => some value

/-- The offsets written, in order. -/
def places (accesses : List Access) : List Nat :=
  accesses.filterMap fun
    | .read _ => none
    | .write offset _ => some offset

/-- Reads of the first `n` bytes. -/
def reads (n : Nat) : List Access :=
  (List.range n).map .read

/-- Writes of `data` to consecutive places from `start` on. -/
def writes (start : Nat) : Bytes → List Access
  | [] => []
  | value :: rest => .write start value :: writes (start + 1) rest

/-- The value last written to an offset. -/
def lastAt (offset : Nat) : List Access → Option UInt8
  | [] => none
  | .read _ :: rest => lastAt offset rest
  | .write place value :: rest => (lastAt offset rest).or (if place = offset then some value else none)

/-- A copy of `data` to the start of the destination. -/
def copies (data : Bytes) : List Access :=
  reads data.length ++ writes 0 data

/-- `body` at every cell, row by row. -/
def raster (rows cols : Nat) (body : Nat → Nat → List Access) : List Access :=
  (List.range rows).flatMap fun row => (List.range cols).flatMap fun col => body row col

/-! ## Bounds -/

section Bounds

variable {readable writable : Nat}

@[simp] theorem inBounds_nil : InBounds readable writable [] := by
  intro access member
  cases member

@[simp] theorem inBounds_cons {access : Access} {rest : List Access} :
    InBounds readable writable (access :: rest) ↔
      access.Within readable writable ∧ InBounds readable writable rest :=
  List.forall_mem_cons

@[simp] theorem inBounds_append {first second : List Access} :
    InBounds readable writable (first ++ second) ↔
      InBounds readable writable first ∧ InBounds readable writable second :=
  List.forall_mem_append

theorem inBounds_flatMap {α : Type} {items : List α} {body : α → List Access} :
    InBounds readable writable (items.flatMap body) ↔
      ∀ item ∈ items, InBounds readable writable (body item) := by
  simp only [InBounds, List.mem_flatMap]
  constructor
  · intro bounds item member access inside
    exact bounds access ⟨item, member, inside⟩
  · rintro bounds access ⟨item, member, inside⟩
    exact bounds item member access inside

@[simp] theorem inBounds_reads {n : Nat} :
    InBounds readable writable (reads n) ↔ n ≤ readable := by
  simp only [InBounds, reads, List.forall_mem_map, List.mem_range, Access.within_read]
  constructor
  · intro bounds
    rcases Nat.eq_zero_or_pos n with rfl | positive
    · exact Nat.zero_le _
    · have last := bounds (n - 1) (by omega)
      omega
  · intro room offset inside
    omega

theorem inBounds_writes {start : Nat} {data : Bytes} :
    InBounds readable writable (writes start data) ↔
      data = [] ∨ start + data.length ≤ writable := by
  induction data generalizing start with
  | nil => simp [writes]
  | cons value rest ih =>
      simp only [writes, inBounds_cons, Access.within_write, ih, List.length_cons, reduceCtorEq,
        false_or]
      constructor
      · rintro ⟨inside, rfl | room⟩
        · simp only [List.length_nil]
          omega
        · omega
      · intro room
        exact ⟨by omega, .inr (by omega)⟩

theorem inBounds_copies {data : Bytes} :
    InBounds readable writable (copies data) ↔
      data.length ≤ readable ∧ data.length ≤ writable := by
  rw [copies, inBounds_append, inBounds_reads, inBounds_writes, Nat.zero_add]
  refine and_congr_right fun _ => or_iff_right_of_imp ?_
  rintro rfl
  exact Nat.zero_le _

theorem inBounds_raster {rows cols : Nat} {body : Nat → Nat → List Access} :
    InBounds readable writable (raster rows cols body) ↔
      ∀ row < rows, ∀ col < cols, InBounds readable writable (body row col) := by
  simp only [raster, inBounds_flatMap, List.mem_range]

end Bounds

/-! ## What is stored -/

@[simp] theorem written_append (first second : List Access) :
    written (first ++ second) = written first ++ written second :=
  List.filterMap_append

theorem store_append (buffer : Bytes) (first second : List Access) :
    store buffer (first ++ second) = store (store buffer first) second := by
  induction first generalizing buffer with
  | nil => rfl
  | cons access rest ih =>
      cases access with
      | read offset => exact ih buffer
      | write offset value => exact ih (buffer.set offset value)

@[simp] theorem length_store (buffer : Bytes) (accesses : List Access) :
    (store buffer accesses).length = buffer.length := by
  induction accesses generalizing buffer with
  | nil => rfl
  | cons access rest ih =>
      cases access with
      | read offset => exact ih buffer
      | write offset value => rw [store, ih, List.length_set]

theorem store_reads (buffer : Bytes) (n : Nat) : store buffer (reads n) = buffer := by
  unfold reads
  induction List.range n with
  | nil => rfl
  | cons offset rest ih => exact ih

theorem getElem?_store_writes (buffer data : Bytes) (start i : Nat) :
    (store buffer (writes start data))[i]? =
      if start ≤ i ∧ i < start + data.length ∧ i < buffer.length then data[i - start]?
      else buffer[i]? := by
  induction data generalizing buffer start with
  | nil =>
      have none_inside : ¬ (start ≤ i ∧ i < start + 0 ∧ i < buffer.length) := by omega
      rw [List.length_nil, if_neg none_inside]
      rfl
  | cons value rest ih =>
      rw [writes, store, ih, List.length_set, List.length_cons, List.getElem?_set]
      rcases Nat.lt_trichotomy i start with before | rfl | after
      · rw [if_neg (by omega), if_neg (by omega), if_neg (by omega)]
      · rw [if_neg (by omega), if_pos rfl, Nat.sub_self, List.getElem?_cons_zero]
        split
        · rw [if_pos (by omega)]
        · rw [if_neg (by omega), List.getElem?_eq_none (by omega)]
      · rw [if_neg (show ¬ start = i by omega), show i - start = i - (start + 1) + 1 by omega,
          List.getElem?_cons_succ]
        refine if_congr ?_ rfl rfl
        omega

/-- Writes from the start store what `memcpy` leaves. -/
theorem store_writes (buffer data : Bytes) :
    store buffer (writes 0 data) = memcpy buffer data data.length := by
  apply List.ext_getElem?
  intro i
  rw [getElem?_store_writes, memcpy, List.take_length, List.getElem?_take]
  by_cases inside : i < buffer.length
  · rw [if_pos inside]
    by_cases copied : i < data.length
    · rw [if_pos ⟨Nat.zero_le _, by omega, inside⟩, List.getElem?_append_left copied]
      rfl
    · rw [if_neg (by omega), List.getElem?_append_right (by omega), List.getElem?_drop]
      congr 1
      omega
  · rw [if_neg (by omega), if_neg inside, List.getElem?_eq_none (by omega)]

theorem store_copies (buffer data : Bytes) :
    store buffer (copies data) = memcpy buffer data data.length := by
  rw [copies, store_append, store_reads, store_writes]

theorem write_mem_of_lastAt {offset : Nat} {accesses : List Access} {value : UInt8}
    (last : lastAt offset accesses = some value) : .write offset value ∈ accesses := by
  induction accesses with
  | nil => cases last
  | cons access rest ih =>
      cases access with
      | read _ => exact List.mem_cons_of_mem _ (ih last)
      | write place stored =>
          rcases Option.or_eq_some_iff.1 last with later | ⟨-, here⟩
          · exact List.mem_cons_of_mem _ (ih later)
          · obtain ⟨rfl, same⟩ := Option.ite_none_right_eq_some.1 here
            obtain rfl := Option.some.inj same
            exact List.mem_cons_self

theorem lastAt_eq_none_iff {offset : Nat} {accesses : List Access} :
    lastAt offset accesses = none ↔ ∀ value, .write offset value ∉ accesses := by
  constructor
  · induction accesses with
    | nil => exact fun _ value member => nomatch member
    | cons access rest ih =>
        intro untouched value member
        cases access with
        | read _ => exact ih untouched value ((List.mem_cons.1 member).resolve_left nofun)
        | write place stored =>
            obtain ⟨later, elsewhere⟩ := Option.or_eq_none_iff.1 untouched
            rcases List.mem_cons.1 member with here | inRest
            · obtain ⟨rfl, rfl⟩ := Access.write.inj here
              rw [if_pos rfl] at elsewhere
              cases elsewhere
            · exact ih later value inRest
  · intro untouched
    by_contra touched
    obtain ⟨value, last⟩ := Option.ne_none_iff_exists'.1 touched
    exact untouched value (write_mem_of_lastAt last)

/-- An offset that is only ever given one value. -/
theorem lastAt_eq_some {offset : Nat} {accesses : List Access} {value : UInt8}
    (touched : .write offset value ∈ accesses)
    (only : ∀ other, .write offset other ∈ accesses → other = value) :
    lastAt offset accesses = some value := by
  cases last : lastAt offset accesses with
  | none => exact absurd touched (lastAt_eq_none_iff.1 last value)
  | some other => rw [only other (write_mem_of_lastAt last)]

/-- An offset holds the value last written to it, or what it held before. -/
theorem getElem?_store (buffer : Bytes) (accesses : List Access) (offset : Nat) :
    (store buffer accesses)[offset]? = buffer[offset]?.map (lastAt offset accesses).getD := by
  induction accesses generalizing buffer with
  | nil => cases old : buffer[offset]? <;> exact old
  | cons access rest ih =>
      cases access with
      | read _ => exact ih buffer
      | write place value =>
          rw [store, ih, List.getElem?_set, lastAt]
          by_cases here : place = offset
          · subst here
            cases old : buffer[place]? with
            | none =>
                have outside : ¬ place < buffer.length := Nat.not_lt.2 (List.getElem?_eq_none_iff.1 old)
                simp [outside]
            | some before =>
                have inside := (List.getElem?_eq_some_iff.1 old).1
                cases lastAt place rest <;> simp [inside]
          · simp [here]

theorem getElem?_store_of_lastAt {buffer : Bytes} {accesses : List Access} {offset : Nat}
    {value : UInt8} (inside : offset < buffer.length)
    (last : lastAt offset accesses = some value) :
    (store buffer accesses)[offset]? = some value := by
  rw [getElem?_store, last, List.getElem?_eq_getElem inside]
  rfl

theorem eq_of_getD {a b : Option UInt8} (shown : ∀ filler, a.getD filler = b.getD filler) :
    a = b := by
  have differs (value : UInt8) : value ≠ value + 1 := by simp
  cases a with
  | none =>
      cases b with
      | none => rfl
      | some value => exact absurd (shown (value + 1)).symm (differs value)
  | some value =>
      cases b with
      | none => exact absurd (shown (value + 1)) (differs value)
      | some other => exact congrArg some (shown 0)

/-- Two conversions leave the same buffer, whatever it held before, exactly if they write the same
offsets of it and the same value last. -/
theorem store_alike_iff {size : Nat} {first second : List Access} :
    (∀ buffer, buffer.length = size → store buffer first = store buffer second) ↔
      ∀ offset < size, lastAt offset first = lastAt offset second := by
  constructor
  · intro alike offset inside
    have shown (filler : UInt8) :
        (lastAt offset first).getD filler = (lastAt offset second).getD filler := by
      have stored := getElem?_store (List.replicate size filler) first offset
      rw [alike _ List.length_replicate, getElem?_store, List.getElem?_replicate_of_lt inside]
        at stored
      exact (Option.some.inj stored).symm
    exact eq_of_getD shown
  · intro alike buffer sized
    apply List.ext_getElem?
    intro offset
    rw [getElem?_store, getElem?_store]
    rcases Nat.lt_or_ge offset size with inside | outside
    · rw [alike offset inside]
    · rw [List.getElem?_eq_none (by omega)]
      rfl

/-- A conversion that writes every offset leaves the image of what it writes last. -/
theorem store_eq {buffer image : Bytes} {accesses : List Access}
    (sized : buffer.length = image.length)
    (each : ∀ offset < image.length, lastAt offset accesses = image[offset]?) :
    store buffer accesses = image := by
  apply List.ext_getElem?
  intro offset
  rw [getElem?_store]
  rcases Nat.lt_or_ge offset image.length with inside | outside
  · rw [each offset inside, List.getElem?_eq_getElem inside, List.getElem?_eq_getElem (by omega)]
    rfl
  · rw [List.getElem?_eq_none outside, List.getElem?_eq_none (by omega)]
    rfl

theorem mem_raster {rows cols : Nat} {body : Nat → Nat → List Access} {access : Access} :
    access ∈ raster rows cols body ↔ ∃ row < rows, ∃ col < cols, access ∈ body row col := by
  simp only [raster, List.mem_flatMap, List.mem_range]

/-- Loops whose bodies do the same to every buffer do the same to every buffer. -/
theorem store_raster_congr {rows cols : Nat} {first second : Nat → Nat → List Access}
    (alike : ∀ row < rows, ∀ col < cols, ∀ buffer,
      store buffer (first row col) = store buffer (second row col)) (buffer : Bytes) :
    store buffer (raster rows cols first) = store buffer (raster rows cols second) := by
  have flatMap_congr {bodies bodies' : Nat → List Access} {items : List Nat}
      (same : ∀ item ∈ items, ∀ buffer, store buffer (bodies item) = store buffer (bodies' item))
      (buffer : Bytes) :
      store buffer (items.flatMap bodies) = store buffer (items.flatMap bodies') := by
    induction items generalizing buffer with
    | nil => rfl
    | cons item rest ih =>
        rw [List.flatMap_cons, List.flatMap_cons, store_append, store_append,
          same item List.mem_cons_self, ih fun later member =>
            same later (List.mem_cons_of_mem _ member)]
  refine flatMap_congr (fun row inRows => ?_) buffer
  exact flatMap_congr fun col inCols =>
    alike row (List.mem_range.1 inRows) col (List.mem_range.1 inCols)

/-! ## Where is written -/

theorem places_raster (rows cols : Nat) (body : Nat → Nat → List Access) :
    places (raster rows cols body) =
      (List.range rows).flatMap fun row => (List.range cols).flatMap fun col =>
        places (body row col) := by
  simp only [places, raster, List.filterMap_flatMap]

/-- Consecutive blocks of `size` numbers are consecutive numbers. -/
theorem flatMap_range_blocks (start size n : Nat) :
    ((List.range n).flatMap fun i => (List.range size).map fun k => start + size * i + k) =
      (List.range (n * size)).map (start + ·) := by
  induction n with
  | zero => rw [Nat.zero_mul]; rfl
  | succ n ih =>
      rw [List.range_succ, List.flatMap_append, ih, Nat.succ_mul, List.range_add, List.map_append,
        List.flatMap_singleton, List.map_map, Nat.mul_comm size n]
      simp only [Function.comp_def, Nat.add_assoc]

/-- A loop that writes block after block, each cell its own, writes every offset once, in order. -/
theorem places_raster_blocks {rows cols size : Nat} {body : Nat → Nat → List Access}
    (each : ∀ row < rows, ∀ col < cols,
      places (body row col) = (List.range size).map fun k => size * (row * cols + col) + k) :
    places (raster rows cols body) = List.range (rows * cols * size) := by
  have row_eq (row : Nat) (inRows : row ∈ List.range rows) :
      ((List.range cols).flatMap fun col => places (body row col)) =
        (List.range (cols * size)).map fun k => 0 + cols * size * row + k := by
    rw [Nat.zero_add, ← flatMap_range_blocks]
    apply List.flatMap_congr
    intro col inCols
    rw [each row (List.mem_range.1 inRows) col (List.mem_range.1 inCols)]
    simp only [Nat.mul_add, Nat.mul_comm, Nat.mul_left_comm]
  rw [places_raster, List.flatMap_congr row_eq, flatMap_range_blocks, Nat.mul_assoc]
  simp only [Nat.zero_add, List.map_id']

/-! ## The three channels of a pixel -/

theorem forall_channel {P : Nat → Prop} : (∀ channel < 3, P channel) ↔ P 0 ∧ P 1 ∧ P 2 := by
  constructor
  · intro all
    exact ⟨all 0 (by decide), all 1 (by decide), all 2 (by decide)⟩
  · rintro ⟨red, green, blue⟩ channel bound
    match channel, bound with
    | 0, _ => exact red
    | 1, _ => exact green
    | 2, _ => exact blue

theorem exists_channel {P : Nat → Prop} : (∃ channel < 3, P channel) ↔ P 0 ∨ P 1 ∨ P 2 := by
  have none_of := forall_channel (P := fun channel => ¬ P channel)
  simpa only [not_forall, not_and_or, not_not, exists_prop] using not_congr none_of

/-! ## Row-major numbers -/

section RowMajor

variable {rows cols : Nat}

theorem rowMajor_lt {row col : Nat} (inRows : row < rows) (inCols : col < cols) :
    row * cols + col < rows * cols :=
  calc row * cols + col < row * cols + cols := by omega
    _ = (row + 1) * cols := (Nat.succ_mul row cols).symm
    _ ≤ rows * cols := Nat.mul_le_mul_right cols inRows

/-- The same with the area written as width times height. -/
theorem rowMajor_lt_area {row col : Nat} (inRows : row < rows) (inCols : col < cols) :
    row * cols + col < cols * rows := by
  rw [Nat.mul_comm cols]
  exact rowMajor_lt inRows inCols

/-- Every number below the area is the number of a cell. -/
theorem exists_rowMajor {cell : Nat} (inArea : cell < rows * cols) :
    ∃ row < rows, ∃ col < cols, row * cols + col = cell := by
  have cols_pos : 0 < cols := by
    rcases Nat.eq_zero_or_pos cols with rfl | positive
    · rw [Nat.mul_zero] at inArea
      omega
    · exact positive
  refine ⟨cell / cols, ?_, cell % cols, Nat.mod_lt _ cols_pos, Nat.div_add_mod' cell cols⟩
  exact Nat.div_lt_of_lt_mul (Nat.mul_comm rows cols ▸ inArea)

/-- Every offset of an image of three bytes a cell is a channel of a cell. -/
theorem exists_cell {offset : Nat} (inside : offset < rows * cols * 3) :
    ∃ row < rows, ∃ col < cols, ∃ channel < 3, 3 * (row * cols + col) + channel = offset := by
  have inArea : offset / 3 < rows * cols := by omega
  obtain ⟨row, inRows, col, inCols, cell⟩ := exists_rowMajor inArea
  exact ⟨row, inRows, col, inCols, offset % 3, Nat.mod_lt _ (by decide), by omega⟩

theorem rowMajor_div {row col : Nat} (inCols : col < cols) : (row * cols + col) / cols = row := by
  rw [Nat.add_comm, Nat.add_mul_div_right _ _ (by omega), Nat.div_eq_of_lt inCols, Nat.zero_add]

theorem rowMajor_mod {row col : Nat} (inCols : col < cols) : (row * cols + col) % cols = col := by
  rw [Nat.add_comm, Nat.add_mul_mod_self_right, Nat.mod_eq_of_lt inCols]

theorem rowMajor_inj {row col row' col' : Nat} (inCols : col < cols) (inCols' : col' < cols)
    (same : row * cols + col = row' * cols + col') : row = row' ∧ col = col' := by
  have rows := congrArg (· / cols) same
  have columns := congrArg (· % cols) same
  simp only [rowMajor_div inCols, rowMajor_div inCols', rowMajor_mod inCols,
    rowMajor_mod inCols'] at rows columns
  exact ⟨rows, columns⟩

end RowMajor

end OpenpnpCapture.Lib
