/-
# Documents of one line

A document that ends with its first line is read by reading that line.

In base ten, a whole number of too many digits is not read at all. In base sixteen there is no
such limit, so a document can hold a whole number that cannot be shown: one with too many
digits once it is written in base ten.
-/

import Mathlib.Algebra.Ring.Nat
import SourceDiagnostics.Proofs.Toml.Value
import SourceDiagnostics.Toml.Document

namespace SourceDiagnostics

theorem Text.foldLineEnds_of_not_mem {text : Text} (free : '\r' ∉ text) :
    text.foldLineEnds = text := by
  induction text with
  | nil => rfl
  | cons c text ih =>
      obtain ⟨other, free⟩ := not_or.mp (fun either => free (List.mem_cons.mpr either))
      rw [foldLineEnds.eq_def]
      split
      next start => cases start
      next start =>
        cases start
        exact absurd rfl other
      next start =>
        cases start
        rw [ih free]

/-- A decimal numeral has enough digits for its number. -/
theorem Text.lt_pow_length_ofNat (n : Nat) : n < 10 ^ (ofNat n).length := by
  rw [ofNat]
  induction n using Nat.strong_induction_on with
  | _ n ih =>
      rw [Nat.toDigits_eq_if (by decide)]
      split
      next small => simpa using small
      next large =>
        have front := ih (n / 10) (Nat.div_lt_self (by omega) (by decide))
        rw [List.length_append, List.length_singleton, pow_succ]
        omega

namespace Toml

/-! ## The only line -/

theorem linesWithin_of_line {fuel : Nat} {draft after : Draft} {text : Text}
    (start : skipBlanks text = text) (nonempty : text ≠ [])
    (read : line (fuel + 1) draft text = .ok (after, [])) :
    linesWithin (fuel + 1) draft text = .ok after := by
  rw [linesWithin, start]
  split
  next ended => exact absurd rfl nonempty
  next =>
    rw [read]
    cases fuel <;> rfl

theorem entryWithin_of_value {fuel : Nat} {path : KeyPath} {value : Value} {text rest left : Text}
    (named : key text = .ok (path, '=' :: rest))
    (read : valueWithin fuel (skipBlanks rest) = .ok (value, left)) :
    entryWithin (fuel + 1) text = .ok (path, value, left) := by
  rw [entryWithin, named]
  simp only [bind, Except.bind, read]
  rfl

/-- A key with its value, behind which the line ends, is written onto the draft. -/
theorem line_of_entry {fuel : Nat} {draft after : Draft} {path : KeyPath} {value : Value} {c : Char}
    {text : Text} (start : isKeyStart c = true)
    (read : entryWithin fuel (c :: text) = .ok (path, value, []))
    (written : draft.write? path value = some after) :
    line fuel draft (c :: text) = .ok (after, []) := by
  have other : c ≠ '[' := by
    rintro rfl
    cases start
  rw [line.eq_def]
  split
  next bracket => exact absurd (List.cons.inj bracket).1 other
  next bracket => exact absurd (List.cons.inj bracket).1 other
  next whole =>
    rw [← (List.cons.inj whole).1, if_pos start, read]
    dsimp only [bind, Except.bind]
    rw [written]
    rfl
  next ended => cases ended

/-- A line without a carriage return, after which nothing is left, makes up the document. -/
theorem document_of_line {text : Text} {after : Draft} (free : '\r' ∉ text)
    (start : skipBlanks text = text) (nonempty : text ≠ [])
    (read : ∀ fuel, line (fuel + 2) {} text = .ok (after, [])) :
    document text = .ok after.table := by
  obtain ⟨fuel, length⟩ := Nat.exists_eq_add_one.mpr (List.length_pos_iff.mpr nonempty)
  rw [document, Text.foldLineEnds_of_not_mem free, length,
    linesWithin_of_line start nonempty (read fuel)]
  rfl

/-! ## Base sixteen -/

/-- Whether a character is a digit in base sixteen. -/
def isHexadecimal (c : Char) : Bool := (hexadecimal? [c]).isSome

private theorem moreDigits_of_all {isDigit : Char → Bool} (free : isDigit '_' = false) {text : Text}
    (all : ∀ c ∈ text, isDigit c = true) : moreDigits isDigit text = (text, []) := by
  induction text with
  | nil => rfl
  | cons c text ih =>
      obtain ⟨digit, digits⟩ := List.forall_mem_cons.mp all
      rw [moreDigits.eq_def]
      split
      next end' => cases end'
      next start =>
        cases start
        rw [free] at digit
        cases digit
      next start =>
        cases start
        rw [if_pos digit, ih digits]

theorem digits?_of_all {isDigit : Char → Bool} (free : isDigit '_' = false) {c : Char} {text : Text}
    (all : ∀ d ∈ c :: text, isDigit d = true) :
    digits? isDigit (c :: text) = some (c :: text, []) := by
  obtain ⟨digit, digits⟩ := List.forall_mem_cons.mp all
  rw [digits?, if_pos digit, moreDigits_of_all free digits]

private theorem fixedNumber?_of_not_digit {width low high : Nat} {text : Text}
    (other : ∃ c ∈ text.take width, c.isDigit = false) :
    fixedNumber? width low high text = none := by
  obtain ⟨c, among, other⟩ := other
  refine if_neg fun ⟨_, digits, _⟩ => ?_
  rw [List.all_eq_true.mp digits c among] at other
  cases other

/-- What begins like a number in base sixteen is neither a date nor a time. -/
theorem moment?_hexadecimal (text : Text) : moment? ('0' :: 'x' :: text) = none := by
  have date : fixedNumber? 4 0 9999 ('0' :: 'x' :: text) = none :=
    fixedNumber?_of_not_digit ⟨'x', by simp, by decide⟩
  have time : fixedNumber? 2 0 23 ('0' :: 'x' :: text) = none :=
    fixedNumber?_of_not_digit ⟨'x', by simp, by decide⟩
  rw [moment?, date?, time?, time, date]
  rfl

theorem valueWithin_hexadecimal (fuel : Nat) {c : Char} {text : Text}
    (all : ∀ d ∈ c :: text, isHexadecimal d = true) :
    valueWithin (fuel + 1) ('0' :: 'x' :: c :: text) =
      .ok (.integer (valueIn 16 (c :: text)), []) := by
  have read : digits? (fun d => (hexadecimal? [d]).isSome) (c :: text) = some (c :: text, []) :=
    digits?_of_all (by decide) all
  have based : based? ('0' :: 'x' :: c :: text) =
      some (.integer (valueIn 16 (c :: text)), []) := by
    rw [based?, read]
    rfl
  simp only [valueWithin, momentOrNumber, moment?_hexadecimal, based]
  rfl

/-- A number is at least its first digit, moved to the front of its numeral. -/
private theorem pow_mul_le_foldl (base n : Nat) (digits : Text) :
    base ^ digits.length * n ≤
      digits.foldl (fun n c => base * n + ((hexadecimal? [c]).getD 0)) n := by
  induction digits generalizing n with
  | nil => simp
  | cons c digits ih =>
      rw [List.foldl_cons, List.length_cons, pow_succ, mul_assoc]
      exact Nat.le_trans (Nat.mul_le_mul_left _ (Nat.le_add_right _ _)) (ih _)

theorem pow_le_valueIn (base : Nat) {c : Char} (first : hexadecimal? [c] = some 1)
    (digits : Text) : base ^ digits.length ≤ valueIn base (c :: digits) := by
  rw [valueIn, List.foldl_cons, first]
  simpa using pow_mul_le_foldl base 1 digits

/-- Seventy-two digits in base sixteen are worth more than eighty-six in base ten. -/
private theorem ten_pow_le_sixteen_pow {few many : Nat} (count : Nat) (le : few ≤ 86 * count)
    (ge : 72 * count ≤ many) : 10 ^ few ≤ 16 ^ many :=
  calc 10 ^ few ≤ 10 ^ (86 * count) := Nat.pow_le_pow_right (by decide) le
    _ = (10 ^ 86) ^ count := pow_mul 10 86 count
    _ ≤ (16 ^ 72) ^ count := Nat.pow_le_pow_left (by decide) count
    _ = 16 ^ (72 * count) := (pow_mul 16 72 count).symm
    _ ≤ 16 ^ many := Nat.pow_le_pow_right (by decide) ge

/-- A one before so many digits in base sixteen is a number of too many digits in base ten. -/
theorem containsLong_hexadecimal {digits : Text} (many : 3600 ≤ digits.length) :
    (Value.integer (valueIn 16 ('1' :: digits))).ContainsLong := by
  refine ⟨_, .integer, (Nat.pow_lt_pow_iff_right (show 1 < 10 by decide)).mp ?_⟩
  calc 10 ^ Value.digitLimit ≤ 16 ^ digits.length := ten_pow_le_sixteen_pow 50 (by decide) many
    _ ≤ valueIn 16 ('1' :: digits) := pow_le_valueIn 16 (by decide) digits
    _ < 10 ^ _ := Text.lt_pow_length_ofNat _

end Toml

end SourceDiagnostics
