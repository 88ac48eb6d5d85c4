/-
# Whole numbers as users type them

A whole number may be typed with blanks around it, a sign in front, zeros at its
beginning and single underscores between its digits. The digits may be those of
any script, since every decimal digit has a value whatever it looks like.

Decimal digits come in runs of ten neighbours from zero to nine, so the table
holds the zeros only. Of the blanks, those beyond the first control block are
the spaces and separators of all scripts.
-/

import SourceDiagnostics.Text

namespace SourceDiagnostics.Text

/-- The zeros of all runs of decimal digits. -/
def digitZeros : List Nat :=
  [0x30, 0x660, 0x6f0, 0x7c0, 0x966, 0x9e6, 0xa66, 0xae6, 0xb66, 0xbe6, 0xc66, 0xce6, 0xd66,
    0xde6, 0xe50, 0xed0, 0xf20, 0x1040, 0x1090, 0x17e0, 0x1810, 0x1946, 0x19d0, 0x1a80, 0x1a90,
    0x1b50, 0x1bb0, 0x1c40, 0x1c50, 0xa620, 0xa8d0, 0xa900, 0xa9d0, 0xa9f0, 0xaa50, 0xabf0,
    0xff10, 0x104a0, 0x10d30, 0x11066, 0x110f0, 0x11136, 0x111d0, 0x112f0, 0x11450, 0x114d0,
    0x11650, 0x116c0, 0x11730, 0x118e0, 0x11950, 0x11c50, 0x11d50, 0x11da0, 0x16a60, 0x16ac0,
    0x16b50, 0x1d7ce, 0x1d7d8, 0x1d7e2, 0x1d7ec, 0x1d7f6, 0x1e140, 0x1e2f0, 0x1e950, 0x1fbf0]

/-- The value of a decimal digit of any script. -/
def digitValue? (c : Char) : Option Nat :=
  (digitZeros.find? fun first => first ≤ c.toNat && c.toNat < first + 10).map (c.toNat - ·)

/-- The ranges of characters that may surround a number. -/
def surroundingRanges : List (Nat × Nat) :=
  [(0x09, 0x0d), (0x20, 0x20), (0x85, 0x85), (0xa0, 0xa0), (0x1680, 0x1680), (0x2000, 0x200a),
    (0x2028, 0x2029), (0x202f, 0x202f), (0x205f, 0x205f), (0x3000, 0x3000)]

/-- Whether a character may surround a number. -/
def isSurrounding (c : Char) : Bool :=
  surroundingRanges.any fun (low, high) => low ≤ c.toNat && c.toNat ≤ high

/-- A text without what may surround a number, at both ends. -/
def trimmed (text : Text) : Text :=
  ((text.dropWhile isSurrounding).reverse.dropWhile isSurrounding).reverse

/-- The values of digits up to the end of a text, where an underscore may stand
between two of them. -/
def digitValues? : Text → Option (List Nat)
  | [] => none
  | [c] => (digitValue? c).map ([·])
  | c :: '_' :: text => do return (← digitValue? c) :: (← digitValues? text)
  | c :: text => do return (← digitValue? c) :: (← digitValues? text)

/-- The number without sign that a text spells. -/
def natural? (text : Text) : Option Nat := do
  let digits ← digitValues? text
  if numeralLimit < digits.length then none
  return digits.foldl (fun n digit => 10 * n + digit) 0

/-- The whole number that a text spells. -/
def integer? (text : Text) : Option Int :=
  match text.trimmed with
  | '-' :: digits => (natural? digits).map fun n => -(n : Int)
  | '+' :: digits => (natural? digits).map Int.ofNat
  | digits => (natural? digits).map Int.ofNat

end SourceDiagnostics.Text
