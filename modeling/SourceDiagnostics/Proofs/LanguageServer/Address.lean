/-
# Reading an address back

The address of a file is the scheme and the path, byte by byte. A byte stands for itself or is
a percent sign and two hexadecimal digits, and no byte that stands for itself is a percent
sign, so the bytes can be read back one after the other. They are the encoding of the path and
give its characters back.

So an address leads to one path, and files with different paths have different addresses,
whatever characters their names are made of and wherever their relative paths start.
-/

import SourceDiagnostics.LanguageServer
import SourceDiagnostics.Proofs.Path
import SourceDiagnostics.Proofs.Text.Utf8

namespace SourceDiagnostics.LanguageServer

/-! ## Escaped bytes -/

/-- A character that stands for itself in an address: a letter from A to Z in either case, a
digit, or one of five marks. -/
def Plain (c : Char) : Prop :=
  'A' ≤ c ∧ c ≤ 'Z' ∨ 'a' ≤ c ∧ c ≤ 'z' ∨ '0' ≤ c ∧ c ≤ '9' ∨ c ∈ ['_', '.', '-', '~', '/']

instance (c : Char) : Decidable (Plain c) := inferInstanceAs (Decidable (_ ∨ _))

/-- The hexadecimal digits, in order. -/
def hexDigits : Text := "0123456789ABCDEF".toList

/-- The number for which a hexadecimal digit stands, in either case. -/
def digit? (c : Char) : Option Nat := hexDigits.idxOf? c.toUpper

/-- What follows the scheme of an address: characters that stand for themselves, and percent
signs with two digits each. -/
inductive Escaped : Text → Prop
  | nil : Escaped []
  | plain {c : Char} {rest : Text} (stands : Plain c) (more : Escaped rest) : Escaped (c :: rest)
  | triple {high low : Char} {rest : Text} (first : high ∈ hexDigits) (second : low ∈ hexDigits)
      (more : Escaped rest) : Escaped ('%' :: high :: low :: rest)

/-- The bytes of an escaped text. A percent sign without two digits spoils it, and so does a
character that is more than one byte. -/
def unescape? : Text → Option Bytes
  | [] => some []
  | '%' :: high :: low :: rest => do
    let high ← digit? high
    let low ← digit? low
    (unescape? rest).map (UInt8.ofNat (16 * high + low) :: ·)
  | '%' :: _ => none
  | c :: rest => if c.toNat < 0x80 then (unescape? rest).map (UInt8.ofNat c.toNat :: ·) else none

namespace Plain

variable {c : Char}

/-- The last character that stands for itself is the tilde. -/
private theorem le_tilde (plain : Plain c) : c ≤ '~' := by
  rcases plain with ⟨_, le⟩ | ⟨_, le⟩ | ⟨_, le⟩ | mark
  · exact Char.le_trans le (by decide)
  · exact Char.le_trans le (by decide)
  · exact Char.le_trans le (by decide)
  · have marks : ['_', '.', '-', '~', '/'].all (· ≤ '~') = true := by decide
    exact of_decide_eq_true (List.all_eq_true.mp marks c mark)

theorem toNat_lt (plain : Plain c) : c.toNat < 0x80 :=
  Nat.lt_of_le_of_lt (UInt32.le_iff_toNat_le.mp (Char.le_def.mp plain.le_tilde)) (by decide)

theorem ne_percent (plain : Plain c) : c ≠ '%' := by
  rintro rfl
  exact absurd plain (by decide)

end Plain

private theorem isAlphanum_iff (c : Char) :
    c.isAlphanum = true ↔
      ('A' ≤ c ∧ c ≤ 'Z' ∨ 'a' ≤ c ∧ c ≤ 'z') ∨ '0' ≤ c ∧ c ≤ '9' := by
  change (decide ('A'.val ≤ c.val ∧ c.val ≤ 'Z'.val) ||
      decide ('a'.val ≤ c.val) && decide (c.val ≤ 'z'.val) ||
    decide ('0'.val ≤ c.val) && decide (c.val ≤ '9'.val)) = true ↔ _
  simp only [Bool.or_eq_true, Bool.and_eq_true, decide_eq_true_eq, Char.le_def]

theorem isUnreserved_iff (byte : UInt8) :
    isUnreserved byte = true ↔ byte.toNat < 0x80 ∧ Plain (Char.ofNat byte.toNat) := by
  rw [isUnreserved, Bool.and_eq_true, Bool.or_eq_true, isAlphanum_iff, decide_eq_true_iff,
    UInt8.lt_iff_toNat_lt, List.contains_iff_mem, or_assoc, or_assoc]
  rfl

private theorem digit?_upperDigit : ∀ n < 16, digit? (upperDigit n) = some n := by decide

private theorem upperDigit_mem : ∀ n < 16, upperDigit n ∈ hexDigits := by decide

/-- A byte is written as the character it is, which stands for itself, or by its two digits. -/
theorem addressByte_cases (byte : UInt8) :
    (∃ c, Plain c ∧ UInt8.ofNat c.toNat = byte ∧ addressByte byte = [c]) ∨
      addressByte byte = ['%', upperDigit (byte.toNat / 16), upperDigit (byte.toNat % 16)] := by
  by_cases kept : isUnreserved byte = true
  · obtain ⟨small, plain⟩ := (isUnreserved_iff byte).mp kept
    refine .inl ⟨Char.ofNat byte.toNat, plain, ?_, if_pos kept⟩
    have valid : byte.toNat.isValidChar := .inl (by omega)
    have same : (Char.ofNat byte.toNat).toNat = byte.toNat := by
      rw [Char.ofNat, dif_pos valid]
      rfl
    rw [same, UInt8.ofNat_toNat]
  · exact .inr (if_neg kept)

private theorem unescape?_plain_cons {c : Char} (plain : Plain c) (rest : Text) :
    unescape? (c :: rest) = (unescape? rest).map (UInt8.ofNat c.toNat :: ·) := by
  rw [unescape?, if_pos plain.toNat_lt]
  · intro _ _ _ same
    exact absurd same plain.ne_percent
  · intro same
    exact absurd same plain.ne_percent

private theorem unescape?_triple {high low : Char} {first second : Nat}
    (one : digit? high = some first)
    (other : digit? low = some second) (rest : Text) :
    unescape? ('%' :: high :: low :: rest) =
      (unescape? rest).map (UInt8.ofNat (16 * first + second) :: ·) := by
  rw [unescape?, one, other]
  rfl

/-- A written byte is read, and what follows it is read on its own. -/
theorem unescape?_addressByte_append (byte : UInt8) (rest : Text) :
    unescape? (addressByte byte ++ rest) = (unescape? rest).map (byte :: ·) := by
  have small : byte.toNat < 256 := byte.toNat_lt
  rcases addressByte_cases byte with ⟨c, plain, same, written⟩ | written
  · rw [written, List.singleton_append, unescape?_plain_cons plain, same]
  · have whole : UInt8.ofNat (16 * (byte.toNat / 16) + byte.toNat % 16) = byte := by
      rw [Nat.div_add_mod, UInt8.ofNat_toNat]
    have read := unescape?_triple (digit?_upperDigit (byte.toNat / 16) (by omega))
      (digit?_upperDigit (byte.toNat % 16) (by omega)) rest
    rw [whole] at read
    rw [written]
    exact read

theorem unescape?_flatMap_addressByte (bytes : Bytes) :
    unescape? (bytes.flatMap addressByte) = some bytes := by
  induction bytes with
  | nil => rfl
  | cons byte bytes ih =>
      rw [List.flatMap_cons, unescape?_addressByte_append, ih, Option.map_some]

theorem escaped_flatMap_addressByte (bytes : Bytes) : Escaped (bytes.flatMap addressByte) := by
  induction bytes with
  | nil => exact .nil
  | cons byte bytes ih =>
      have small : byte.toNat < 256 := byte.toNat_lt
      rw [List.flatMap_cons]
      rcases addressByte_cases byte with ⟨c, plain, -, written⟩ | written
      · rw [written]
        exact .plain plain ih
      · rw [written]
        exact .triple (upperDigit_mem _ (by omega)) (upperDigit_mem _ (by omega)) ih

/-! ## Addresses of files -/

theorem fileAddress_inj {first second : Text} :
    fileAddress first = fileAddress second ↔ first = second := by
  refine ⟨fun same => ?_, fun same => by rw [same]⟩
  have bytes : Utf8.encode first = Utf8.encode second := by
    have read := congrArg unescape? (List.append_cancel_left same)
    rwa [unescape?_flatMap_addressByte, unescape?_flatMap_addressByte, Option.some_inj] at read
  have texts := congrArg Utf8.decode bytes
  rwa [Utf8.decode_encode, Utf8.decode_encode, Except.ok.injEq] at texts

/-- The address of a file leads back to its path. Behind the scheme stand only characters that
stand for themselves and percent signs with two digits each, and reading the bytes that they
make up gives the text of the path as it is from the root. So two files have the same address
exactly if their paths from the root are the same, wherever each of them was named. -/
theorem address_determines_path {source : Source} (onDisk : source.onDisk = true)
    (directory : Path) :
    let path := (Path.ofText source.path).absolute directory
    (∃ body bytes, address directory source = "file://".toList ++ body ∧ Escaped body ∧
      unescape? body = some bytes ∧ Utf8.decode bytes = .ok path.text) ∧
    (directory.isAbsolute = true → path.isAbsolute = true) ∧
    ∀ (other : Source) (directory' : Path), other.onDisk = true →
      (address directory' other = address directory source ↔
        (Path.ofText other.path).absolute directory' = path) := by
  intro path
  have written : address directory source = fileAddress path.text := if_pos onDisk
  refine ⟨?_, fun rooted => Path.isAbsolute_absolute rooted _, fun other directory' onDisk' => ?_⟩
  · exact ⟨_, Utf8.encode path.text, written, escaped_flatMap_addressByte _,
      unescape?_flatMap_addressByte _, Utf8.decode_encode path.text⟩
  · have written' : address directory' other =
        fileAddress ((Path.ofText other.path).absolute directory').text := if_pos onDisk'
    rw [written, written', fileAddress_inj, Path.text_injective.eq_iff]

/-- A relative path with a step that goes nowhere and a name of all kinds of characters, and the
same path from the root, written in another way and used elsewhere. -/
theorem address_determines_path_of_odd_name :
    let directory := Path.ofText "/w".toList
    let source : Source := ⟨"./a b/%2F:ü€😀\n~".toList, true, ['x']⟩
    let other : Source := ⟨"/w//a b/%2F:ü€😀\n~".toList, true, []⟩
    let body := "/w/a%20b/%252F%3A%C3%BC%E2%82%AC%F0%9F%98%80%0A~".toList
    source.onDisk = true ∧ other.onDisk = true ∧ directory.isAbsolute = true ∧
      address directory source = "file://".toList ++ body ∧ Escaped body ∧
      (unescape? body).map Utf8.decode = some (.ok "/w/a b/%2F:ü€😀\n~".toList) ∧
      ((Path.ofText source.path).absolute directory).isAbsolute = true ∧
      address .top other = address directory source := by
  intro directory source other body
  have written : address directory source = "file://".toList ++ body := by decide +kernel
  have path : ((Path.ofText source.path).absolute directory).text =
      "/w/a b/%2F:ü€😀\n~".toList := by decide +kernel
  have rooted : directory.isAbsolute = true := by decide
  obtain ⟨⟨told, bytes, whole, escaped, read, decoded⟩, starts, alike⟩ :=
    address_determines_path (show source.onDisk = true from rfl) directory
  obtain rfl : body = told := List.append_cancel_left (written.symm.trans whole)
  refine ⟨rfl, rfl, rooted, written, escaped, ?_, starts rooted, ?_⟩
  · rw [read, Option.map_some, decoded, path]
  · exact (alike other .top rfl).mpr (by decide +kernel)

end SourceDiagnostics.LanguageServer
