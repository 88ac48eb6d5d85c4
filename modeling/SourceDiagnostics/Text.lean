/-
# Texts and lines

Everything this library reads, quotes and prints is a list of characters.
Offsets, columns and lengths therefore count characters, never bytes.

This module fixes the vocabulary that the rest of the library shares: the
lines of a text, the carriage return that a line may carry at its end, the two
ways of folding foreign line ends into newlines, decimal and hexadecimal numerals,
and the words for truth values. Reading bytes, quoting and numbers typed by a user have modules of
their own.

There is a limit to the digits of a whole number that is read or written. A numeral
beyond it is refused, and whatever was to show the number is not shown at all.
-/

namespace SourceDiagnostics

/-- A text, seen as the list of its characters. -/
abbrev Text := List Char

namespace Text

/-- The lines of a text: what stands between its newlines. There is always at
least one, and a text that ends in a newline has an empty last line. -/
def lines (text : Text) : List Text := text.splitOn '\n'

/-- The number of newlines in a text. -/
def newlines (text : Text) : Nat := text.count '\n'

/-- What follows the last newline of a text; the whole text if there is none. -/
def lastLine (text : Text) : Text :=
  (text.reverse.takeWhile (· != '\n')).reverse

/-- What precedes the first newline of a text; the whole text if there is none. -/
def firstLine (text : Text) : Text := text.takeWhile (· != '\n')

/-- The text without one carriage return at its end, if it has one there. -/
def dropCarriageReturn (text : Text) : Text :=
  if text.getLast? = some '\r' then text.dropLast else text

/-- A line is blank when at most a carriage return stands on it. Spaces and
tabs do not make a line blank. -/
def isBlank (line : Text) : Bool := line.dropCarriageReturn.isEmpty

/-- Every line end, whether a newline, a carriage return or the pair of both,
becomes one newline. -/
def unifyLineEnds : Text → Text
  | [] => []
  | '\r' :: '\n' :: rest => '\n' :: unifyLineEnds rest
  | '\r' :: rest => '\n' :: unifyLineEnds rest
  | c :: rest => c :: unifyLineEnds rest

/-- Every carriage return that stands before a newline is dropped; a lone one
stays. -/
def foldLineEnds : Text → Text
  | [] => []
  | '\r' :: '\n' :: rest => '\n' :: foldLineEnds rest
  | c :: rest => c :: foldLineEnds rest

/-- The decimal numeral of a natural number. -/
def ofNat (n : Nat) : Text := Nat.toDigits 10 n

/-- The decimal numeral of an integer, with a sign only below zero. -/
def ofInt : Int → Text
  | .ofNat n => ofNat n
  | .negSucc n => '-' :: ofNat (n + 1)

/-- The most decimal digits with which a whole number is read or written. -/
def numeralLimit : Nat := 4300

/-- Whether the decimal numeral of an integer stays within the limit. The sign
is no digit. -/
def isWritable (n : Int) : Bool := (ofNat n.natAbs).length ≤ numeralLimit

/-- Why a whole number is not written. -/
inductive NumeralFault where
  | tooLong
deriving DecidableEq, Repr

/-- The wording of the reason. -/
def NumeralFault.message : NumeralFault → Text
  | .tooLong =>
    "Exceeds the limit (".toList ++ Text.ofNat numeralLimit ++
      " digits) for integer string conversion; use sys.set_int_max_str_digits() to increase the limit".toList

/-- The decimal numeral of an integer, if it may be written. -/
def numeral (n : Int) : Except NumeralFault Text :=
  if isWritable n then .ok (ofInt n) else .error .tooLong

/-- The decimal numeral of a number, filled with zeros to at least `width`
digits. -/
def padded (width n : Nat) : Text := (ofNat n).leftpad width '0'

/-- The lower-case hexadecimal numeral of a number, filled with zeros to at
least `width` digits. -/
def hexadecimal (width n : Nat) : Text := (Nat.toDigits 16 n).leftpad width '0'

/-- The word for a truth value. -/
def ofBool (value : Bool) : Text := if value then "True".toList else "False".toList

/-- Whether a text begins with a given one. -/
def startsWith (text start : Text) : Bool := start.isPrefixOf text

/-- Whether a text ends with a given one. -/
def endsWith (text ending : Text) : Bool := ending.isSuffixOf text

end Text

end SourceDiagnostics
