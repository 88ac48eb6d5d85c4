/-
# Bytes as text

Files and standard input hold bytes. Reading them is strict: either every byte
belongs to the encoding of a character, or the first place where that fails is
reported with its position, the bytes at fault and one of three reasons.

A sequence is accepted only in its shortest form and never for a surrogate or a
number beyond the last character. All of that is settled by the byte after the
lead byte, so a lead byte carries the range in which its successor must lie;
later bytes always lie in the general range of continuation bytes.
-/

import SourceDiagnostics.Text

namespace SourceDiagnostics

/-- Bytes, in order. -/
abbrev Bytes := List UInt8

namespace Utf8

/-- The encoding of a text: the encodings of its characters one after the other. -/
def encode (text : Text) : Bytes := text.flatMap String.utf8EncodeChar

/-- Why bytes are not the encoding of a character. -/
inductive Reason where
  | startByte
  | continuationByte
  | unfinished
deriving DecidableEq, Repr

/-- The first place where bytes fail to be a text. -/
structure Fault where
  /-- How many bytes precede the sequence at fault. -/
  start : Nat
  first : UInt8
  /-- How many more bytes are at fault. -/
  more : Nat
  reason : Reason
deriving DecidableEq, Repr

/-- The wording of a reason. -/
def Reason.message : Reason → Text
  | .startByte => "invalid start byte".toList
  | .continuationByte => "invalid continuation byte".toList
  | .unfinished => "unexpected end of data".toList

/-- The wording of a fault: one byte is named by its value, several by the
positions of the first and the last. -/
def Fault.message (fault : Fault) : Text :=
  "'utf-8' codec can't decode ".toList ++
    (if fault.more = 0 then
      "byte 0x".toList ++ Text.hexadecimal 2 fault.first.toNat ++ " in position ".toList ++
        Text.ofNat fault.start
    else
      "bytes in position ".toList ++ Text.ofNat fault.start ++ '-' ::
        Text.ofNat (fault.start + fault.more)) ++
    ": ".toList ++ fault.reason.message

/-- What a lead byte of a longer sequence announces. -/
structure Lead where
  /-- The part of the character's number that the lead byte carries. -/
  payload : Nat
  /-- The least byte that may follow. -/
  low : Nat
  high : Nat
  /-- How many continuation bytes follow in all. -/
  length : Nat
deriving Repr

/-- What a byte announces at the start of a sequence; `none` for a byte that
starts none. -/
def Lead.ofByte? (byte : UInt8) : Option Lead :=
  let n := byte.toNat
  if n < 0x80 then some ⟨n, 0x80, 0xbf, 0⟩
  else if n < 0xc2 then none
  else if n < 0xe0 then some ⟨n - 0xc0, 0x80, 0xbf, 1⟩
  else if n = 0xe0 then some ⟨0, 0xa0, 0xbf, 2⟩
  else if n = 0xed then some ⟨0xd, 0x80, 0x9f, 2⟩
  else if n < 0xf0 then some ⟨n - 0xe0, 0x80, 0xbf, 2⟩
  else if n = 0xf0 then some ⟨0, 0x90, 0xbf, 3⟩
  else if n < 0xf4 then some ⟨n - 0xf0, 0x80, 0xbf, 3⟩
  else if n = 0xf4 then some ⟨4, 0x80, 0x8f, 3⟩
  else none

/-- Reads `length` continuation bytes, the first of which lies between `low`
and `high`, onto the number `value`. On failure the answer tells how many of
them were in place. -/
def continuation (value low high : Nat) :
    Nat → Bytes → Except (Nat × Reason) (Nat × Bytes)
  | 0, bytes => .ok (value, bytes)
  | _ + 1, [] => .error (0, .unfinished)
  | length + 1, byte :: bytes =>
    if low ≤ byte.toNat ∧ byte.toNat ≤ high then
      match continuation (value * 0x40 + (byte.toNat - 0x80)) 0x80 0xbf length bytes with
      | .ok result => .ok result
      | .error (count, reason) => .error (count + 1, reason)
    else .error (0, .continuationByte)

theorem continuation_length_le {value low high length : Nat} {bytes : Bytes} {n : Nat}
    {rest : Bytes} (h : continuation value low high length bytes = .ok (n, rest)) :
    rest.length ≤ bytes.length := by
  fun_induction continuation value low high length bytes generalizing n rest with
  | case1 => simp_all
  | case2 => simp at h
  | case3 value low high length byte bytes _ result hresult ih =>
    obtain ⟨n', rest'⟩ := result
    simp only [Except.ok.injEq, Prod.mk.injEq] at h
    have := ih hresult
    simp_all only [List.length_cons]
    omega
  | case4 => simp at h
  | case5 => simp at h

/-- Reads bytes as a text; `start` bytes have been read before. -/
def decodeFrom (start : Nat) : Bytes → Except Fault Text
  | [] => .ok []
  | byte :: bytes =>
    match Lead.ofByte? byte with
    | none => .error ⟨start, byte, 0, .startByte⟩
    | some lead =>
      match _h : continuation lead.payload lead.low lead.high lead.length bytes with
      | .error (count, reason) => .error ⟨start, byte, count, reason⟩
      | .ok (n, rest) =>
        match decodeFrom (start + 1 + lead.length) rest with
        | .ok text => .ok (Char.ofNat n :: text)
        | .error fault => .error fault
termination_by bytes => bytes.length
decreasing_by
  have := continuation_length_le _h
  simp only [List.length_cons]
  omega

/-- Reads bytes as a text. -/
def decode (bytes : Bytes) : Except Fault Text := decodeFrom 0 bytes

end Utf8

end SourceDiagnostics
