/-
# File addresses

Editors name files by addresses: a scheme and the path, written with the
characters that an address may hold. All other characters are written byte by
byte, each byte as a percent sign and two upper-case hexadecimal digits.

The path of an address is absolute, so two addresses are equal only when the
absolute paths are.
-/

import SourceDiagnostics.Path
import SourceDiagnostics.Text.Utf8

namespace SourceDiagnostics.LanguageServer

/-- Whether a byte stands for itself in an address: letters, digits, the four
marks that an address leaves alone, and the slash between names. -/
def isUnreserved (byte : UInt8) : Bool :=
  let c := Char.ofNat byte.toNat
  byte < 0x80 && (c.isAlphanum || "_.-~/".toList.contains c)

/-- The upper-case hexadecimal digit of a number below sixteen. -/
def upperDigit (n : Nat) : Char := (Nat.digitChar n).toUpper

/-- One byte as it stands in an address. -/
def addressByte (byte : UInt8) : Text :=
  if isUnreserved byte then [Char.ofNat byte.toNat]
  else ['%', upperDigit (byte.toNat / 16), upperDigit (byte.toNat % 16)]

/-- What an address of a file begins with. -/
def fileScheme : Text := "file://".toList

/-- The address of a file whose absolute path has the given text. -/
def fileAddress (path : Text) : Text := fileScheme ++ (Utf8.encode path).flatMap addressByte

end SourceDiagnostics.LanguageServer
