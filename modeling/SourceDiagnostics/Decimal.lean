/-
# Decimal numerals and binary numbers

A number with a decimal point is written in decimal and kept in binary with 53
significant bits. This module holds the two directions: the binary number
nearest to a decimal numeral, and the shortest decimal numeral whose nearest
binary number is a given one.

Both are computed exactly, with whole numbers only. A finite binary number is a
sign, a whole number and a power of two; rounding is a division whose ties go to
the even neighbour. The numbers that round to a given one form an interval whose
ends are half a step away; the shortest numeral is the point of the coarsest
decimal grid that has a point in the interval, and it is found next to the
number itself. Of two such points the nearer one is taken, and the even one when
the number lies halfway between them.
-/

import SourceDiagnostics.Text

namespace SourceDiagnostics

/-- A binary number of 53 significant bits, which is `mantissa * 2 ^ exponent` with a sign, or
one of the values beyond. -/
inductive Binary where
  | finite (negative : Bool) (mantissa : Nat) (exponent : Int)
  | infinite (negative : Bool)
  | undefined
deriving DecidableEq, Repr

namespace Binary

/-- The quotient of two numbers, rounded to the nearest whole number and to the
even one of two that are equally near. -/
def roundQuotient (numerator denominator : Nat) : Nat :=
  let quotient := numerator / denominator
  let twice := 2 * (numerator % denominator)
  if twice > denominator || (twice = denominator && quotient % 2 = 1) then quotient + 1
  else quotient

/-- The exponent of the least step between two binary numbers. -/
def leastExponent : Int := -1074

/-- The exponent of the greatest step between two binary numbers. -/
def greatestExponent : Int := 971

/-- The binary number nearest to a positive quotient. Its step is the one that
makes the mantissa a number of 53 bits, but never below the least. -/
def ofQuotient (negative : Bool) (numerator denominator : Nat) : Binary :=
  let size : Int := (numerator.log2 : Int) - denominator.log2
  let below :=
    if 0 ≤ size then numerator < denominator * Nat.pow 2 size.toNat
    else numerator * Nat.pow 2 (-size).toNat < denominator
  let exponent := max leastExponent ((if below then size - 1 else size) - 52)
  let mantissa :=
    if 0 ≤ exponent then roundQuotient numerator (denominator * Nat.pow 2 exponent.toNat)
    else roundQuotient (numerator * Nat.pow 2 (-exponent).toNat) denominator
  let carried := mantissa = Nat.pow 2 53
  let mantissa := if carried then Nat.pow 2 52 else mantissa
  let exponent := if carried then exponent + 1 else exponent
  if greatestExponent < exponent then .infinite negative else .finite negative mantissa exponent

/-- The binary number nearest to `digits * 10 ^ exponent`. A number of more than
400 digits before the point, or with as many zeros behind it, is settled without
computing it. -/
def ofDecimal (negative : Bool) (digits : Nat) (exponent : Int) : Binary :=
  let size : Int := (Text.ofNat digits).length + exponent
  if digits = 0 || size < -400 then .finite negative 0 leastExponent
  else if 400 < size then .infinite negative
  else if 0 ≤ exponent then ofQuotient negative (digits * Nat.pow 10 exponent.toNat) 1
  else ofQuotient negative digits (Nat.pow 10 (-exponent).toNat)

/-- Whether a number is zero, of either sign. -/
def isZero : Binary → Bool
  | .finite _ mantissa _ => mantissa = 0
  | _ => false

end Binary

/-- How the digits of a number and the place of its point are written. -/
structure Decimal.Layout where
  /-- The least power of ten of the first digit that is written with a point
  in its place. -/
  least : Int
  /-- The greatest power of ten of the first digit that is written so. -/
  greatest : Int
  /-- How many digits the power of ten has at least when it is written out. -/
  exponentWidth : Nat

namespace Decimal

/-- The decimal digits of a number and the power of ten of the first of them. -/
structure Digits where
  digits : Text
  /-- The power of ten of the first digit. -/
  exponent : Int
deriving DecidableEq, Repr

/-- The power of ten in which `shortest` counts. No binary number comes near
it. -/
def unit : Nat := 400

/-- The whole number whose point lies `unit` places from its right end, as
digits without zeros at the end. -/
def Digits.ofGrid (count power : Nat) : Digits :=
  let digits := Text.ofNat count
  { digits := (digits.reverse.dropWhile (· == '0')).reverse
    exponent := (digits.length : Int) - 1 + power - unit }

/-- Among the two grid points next to `value / denominator`, where the grid has
steps of `10 ^ power`, the nearest one that lies between the bounds. Halfway
between two of them it is the even one. -/
def gridPoint? (low value high denominator power : Nat) (closed : Bool) : Option Nat :=
  let step := denominator * Nat.pow 10 power
  let below := value / step
  let inside (point : Nat) : Bool :=
    if closed then low ≤ point * step && point * step ≤ high
    else low < point * step && point * step < high
  let twice := 2 * (value % step)
  let nearBelow := twice < step || (twice = step && below % 2 = 0)
  if inside below && (nearBelow || !inside (below + 1)) then some below
  else if inside (below + 1) then some (below + 1)
  else none

/-- The shortest decimal numeral that reads back as `mantissa * 2 ^ exponent`,
and the nearest to it of those. All numbers are counted in quarters of the
binary step and in units of `10 ^ -unit`. -/
def shortest (mantissa : Nat) (exponent : Int) : Digits :=
  let scale := Nat.pow 10 unit * Nat.pow 2 (exponent - 2).toNat
  let denominator := Nat.pow 2 (2 - exponent).toNat
  let value := 4 * mantissa * scale
  let lowGap := if mantissa = Nat.pow 2 52 && Binary.leastExponent < exponent then 1 else 2
  let low := (4 * mantissa - lowGap) * scale
  let high := (4 * mantissa + 2) * scale
  let size := (Text.ofNat (value / denominator)).length
  let candidates := (List.range 17).filterMap fun count =>
    let power := size - 1 - count
    (gridPoint? low value high denominator power (mantissa % 2 = 0)).map fun point =>
      Digits.ofGrid point power
  candidates.head?.getD ⟨['0'], 0⟩

/-- Digits and their power of ten as a numeral. -/
def Layout.numeral (layout : Layout) (number : Digits) : Text :=
  let digits := number.digits
  let exponent := number.exponent
  if layout.least ≤ exponent && exponent ≤ layout.greatest then
    if exponent < 0 then
      "0.".toList ++ List.replicate (-exponent - 1).toNat '0' ++ digits
    else
      let whole := exponent.toNat + 1
      let fraction := digits.drop whole
      (digits.take whole).rightpad whole '0' ++ '.' :: (if fraction.isEmpty then ['0'] else fraction)
  else
    digits.take 1 ++ (if digits.length = 1 then [] else '.' :: digits.drop 1) ++ 'e' ::
      (if exponent < 0 then '-' else '+') :: Text.padded layout.exponentWidth exponent.natAbs

/-- Numbers from a ten-thousandth up to sixteen digits are written with the
point in its place, others with a power of ten of two digits or more. -/
def plain : Layout := ⟨-4, 15, 2⟩

end Decimal

/-- A binary number as the shortest numeral that reads back as it. -/
def Binary.text : Binary → Text
  | .undefined => "nan".toList
  | .infinite negative => (if negative then ['-'] else []) ++ "inf".toList
  | .finite negative mantissa exponent =>
    (if negative then ['-'] else []) ++
      Decimal.plain.numeral (if mantissa = 0 then ⟨['0'], 0⟩ else Decimal.shortest mantissa exponent)

end SourceDiagnostics
