/-
# Lib.Text — markers and numbers in a text

`indexOf?` is the first place a marker stands.  A marker that ends in a character found nowhere
else in it stands where that character does: `indexOf?_marker` finds it behind a text without the
character, `indexOf?_past` leaves behind an occurrence of the character that ends something else.

`leadingNat` and `hexValues` read digits up to the first other character; `leadingNat_decimal` and
`hexValues_hex` read written numbers back.
-/
import Mathlib.Data.List.Infix
import Mathlib.Data.Nat.Digits.Defs

namespace OpenpnpCapture.Lib.Text

set_option autoImplicit false

/-! ## Markers -/

section Markers

variable {α : Type*} [DecidableEq α]

/-- The first place of a marker. -/
def indexOf? (marker : List α) : List α → Option Nat
  | [] => if marker = [] then some 0 else none
  | head :: rest =>
      if marker <+: head :: rest then some 0 else (indexOf? marker rest).map (· + 1)

theorem indexOf?_of_prefix {marker text : List α} (here : marker <+: text) :
    indexOf? marker text = some 0 := by
  cases text with
  | nil => exact if_pos (List.prefix_nil.1 here)
  | cons head rest => exact if_pos here

theorem indexOf?_cons {marker : List α} {head : α} {rest : List α}
    (notHere : ¬ marker <+: head :: rest) :
    indexOf? marker (head :: rest) = (indexOf? marker rest).map (· + 1) :=
  if_neg notHere

variable {stem : List α} {last : α}

omit [DecidableEq α] in
/-- The first occurrence of a character splits a text in one way. -/
theorem split_unique {left right left' right' : List α} (first : last ∉ left)
    (first' : last ∉ left') (same : left ++ last :: right = left' ++ last :: right') :
    left = left' ∧ right = right' := by
  rcases List.append_eq_append_iff.1 same with ⟨between, rfl, tail⟩ | ⟨between, rfl, tail⟩
  · cases between with
    | nil => exact ⟨(List.append_nil _).symm, (List.cons.inj tail).2⟩
    | cons head between =>
        obtain ⟨rfl, -⟩ := List.cons.inj tail
        simp at first'
  · cases between with
    | nil => exact ⟨List.append_nil _, (List.cons.inj tail).2.symm⟩
    | cons head between =>
        obtain ⟨rfl, -⟩ := List.cons.inj tail
        simp at first

omit [DecidableEq α] in
/-- A marker stands at the start only if its last character comes first where it ends. -/
theorem prefix_iff_split (inner : last ∉ stem) {left right : List α} (first : last ∉ left) :
    stem ++ [last] <+: left ++ last :: right ↔ stem = left := by
  constructor
  · rintro ⟨after, same⟩
    rw [List.append_assoc, List.singleton_append] at same
    exact (split_unique inner first same).1
  · rintro rfl
    exact ⟨right, by simp⟩

/-- Behind a text without its last character, a marker is found. -/
theorem indexOf?_marker (inner : last ∉ stem) {before : List α} (after : List α)
    (fresh : last ∉ before) :
    indexOf? (stem ++ [last]) (before ++ (stem ++ last :: after)) = some before.length := by
  induction before with
  | nil => exact indexOf?_of_prefix ⟨after, by simp⟩
  | cons head before ih =>
      have rest : last ∉ before := fun member => fresh (List.mem_cons_of_mem head member)
      have first : last ∉ head :: before ++ stem := by
        rw [List.mem_append, not_or]
        exact ⟨fresh, inner⟩
      have notHere : ¬ stem ++ [last] <+: head :: before ++ (stem ++ last :: after) := by
        rw [← List.append_assoc, prefix_iff_split inner first]
        intro same
        have lengths := congrArg List.length same
        simp only [List.cons_append, List.length_cons, List.length_append] at lengths
        omega
      rw [List.cons_append] at notHere ⊢
      rw [indexOf?_cons notHere, ih rest]
      rfl

/-- Where the character ends something else, the search goes on behind it. -/
theorem indexOf?_past (inner : last ∉ stem) {before : List α} (after : List α)
    (fresh : last ∉ before) (ends : ¬ stem <:+ before) :
    indexOf? (stem ++ [last]) (before ++ last :: after) =
      (indexOf? (stem ++ [last]) after).map (before.length + 1 + ·) := by
  induction before with
  | nil =>
      have notHere : ¬ stem ++ [last] <+: last :: after := by
        rintro ⟨right, same⟩
        cases stem with
        | nil => exact ends List.suffix_rfl
        | cons head stem =>
            obtain rfl : head = last := (List.cons.inj same).1
            exact inner List.mem_cons_self
      rw [List.nil_append, indexOf?_cons notHere]
      simp [Nat.add_comm]
  | cons head before ih =>
      have rest : last ∉ before := fun member => fresh (List.mem_cons_of_mem head member)
      have notHere : ¬ stem ++ [last] <+: head :: before ++ last :: after := by
        rw [prefix_iff_split inner fresh]
        rintro rfl
        exact ends List.suffix_rfl
      have later : ¬ stem <:+ before := fun suffix =>
        ends (suffix.trans (List.suffix_cons head before))
      rw [List.cons_append] at notHere ⊢
      rw [indexOf?_cons notHere, ih rest later, Option.map_map]
      congr 1
      funext i
      simp only [Function.comp_apply, List.length_cons]
      omega

end Markers

/-! ## Decimal numbers -/

/-- The number the leading digits spell. -/
def leadingNat (text : List Char) : Nat :=
  Nat.ofDigitChars 10 (text.takeWhile Char.isDigit) 0

theorem leadingNat_decimal (n : Nat) {after : List Char}
    (ends : ∀ next ∈ after.head?, next.isDigit = false) :
    leadingNat (Nat.toDigits 10 n ++ after) = n := by
  have stops : after.takeWhile Char.isDigit = [] := by
    cases after with
    | nil => rfl
    | cons next after => simp [ends next rfl]
  have digits : ∀ c ∈ Nat.toDigits 10 n, c.isDigit = true := fun c member =>
    Nat.isDigit_of_mem_toDigits (by decide) (by decide) member
  rw [leadingNat, List.takeWhile_append_of_pos digits, stops, List.append_nil,
    Nat.ofDigitChars_ten_toDigits]

/-! ## Hexadecimal numbers -/

/-- The last `width` hexadecimal digits of a number. -/
def hexDigits : Nat → Nat → List Nat
  | 0, _ => []
  | width + 1, n => hexDigits width (n / 16) ++ [n % 16]

/-- `%0{width}x` of a number that fits. -/
def hex (width n : Nat) : List Char :=
  (hexDigits width n).map Nat.digitChar

def hexValue? (c : Char) : Option Nat :=
  if '0' ≤ c ∧ c ≤ '9' then some (c.toNat - '0'.toNat)
  else if 'a' ≤ c ∧ c ≤ 'f' then some (c.toNat - 'a'.toNat + 10)
  else if 'A' ≤ c ∧ c ≤ 'F' then some (c.toNat - 'A'.toNat + 10)
  else none

/-- The values of the leading hexadecimal digits. -/
def hexValues : List Char → List Nat
  | [] => []
  | c :: rest =>
      match hexValue? c with
      | none => []
      | some value => value :: hexValues rest

def ofHexDigits (digits : List Nat) : Nat :=
  digits.foldl (fun n digit => 16 * n + digit) 0

theorem hexDigits_lt {width n digit : Nat} (member : digit ∈ hexDigits width n) : digit < 16 := by
  induction width generalizing n with
  | zero => cases member
  | succ width ih =>
      rcases List.mem_append.1 member with earlier | here
      · exact ih earlier
      · rw [List.mem_singleton.1 here]
        exact Nat.mod_lt n (by decide)

@[simp] theorem length_hexDigits (width n : Nat) : (hexDigits width n).length = width := by
  induction width generalizing n with
  | zero => rfl
  | succ width ih => simp [hexDigits, ih]

@[simp] theorem length_hex (width n : Nat) : (hex width n).length = width := by
  simp [hex]

theorem ofHexDigits_hexDigits {width n : Nat} (fits : n < 16 ^ width) :
    ofHexDigits (hexDigits width n) = n := by
  induction width generalizing n with
  | zero =>
      obtain rfl : n = 0 := by simpa using fits
      rfl
  | succ width ih =>
      have fewer : n / 16 < 16 ^ width := by
        rw [Nat.pow_succ] at fits
        omega
      have split_ : ofHexDigits (hexDigits (width + 1) n) =
          16 * ofHexDigits (hexDigits width (n / 16)) + n % 16 := by
        simp [hexDigits, ofHexDigits, List.foldl_append]
      rw [split_, ih fewer]
      omega

theorem hexValue?_digitChar {digit : Nat} (small : digit < 16) :
    hexValue? (Nat.digitChar digit) = some digit := by
  have all : ∀ digit < 16, hexValue? (Nat.digitChar digit) = some digit := by decide
  exact all digit small

theorem hexValues_digits {digits : List Nat} (small : ∀ digit ∈ digits, digit < 16) :
    hexValues (digits.map Nat.digitChar) = digits := by
  induction digits with
  | nil => rfl
  | cons digit digits ih =>
      simp only [List.map_cons, hexValues, hexValue?_digitChar (small digit List.mem_cons_self),
        ih fun later member => small later (List.mem_cons_of_mem _ member)]

/-- A written number is read back. -/
theorem hexValues_hex (width n : Nat) : hexValues (hex width n) = hexDigits width n :=
  hexValues_digits fun _ member => hexDigits_lt member

/-- What is written has hexadecimal digits only. -/
theorem hexValue?_isSome {width n : Nat} {c : Char} (member : c ∈ hex width n) :
    (hexValue? c).isSome = true := by
  obtain ⟨digit, listed, rfl⟩ := List.mem_map.1 member
  rw [hexValue?_digitChar (hexDigits_lt listed)]
  rfl

end OpenpnpCapture.Lib.Text
