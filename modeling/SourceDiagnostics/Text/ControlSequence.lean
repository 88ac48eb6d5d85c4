/-
# Terminal control sequences

A control sequence is an escape character and an opening bracket, then
parameter characters, then intermediate characters, then one final character.
Which characters play these three parts differs between tools, so the shape of
a sequence is a value, and finding and deleting sequences is defined for every
shape.

A sequence that lacks its final character is no sequence: its escape character
is an ordinary character of the text, and the search goes on after it.
-/

import SourceDiagnostics.Text

namespace SourceDiagnostics

/-- The characters that may stand in a control sequence, by the part they play. -/
structure ControlSequence where
  /-- Characters that may follow the opening bracket. -/
  parameter : Char → Bool
  /-- Characters that may follow the parameters. -/
  intermediate : Char → Bool
  /-- Characters that complete the sequence. -/
  final : Char → Bool

namespace ControlSequence

/-- The general shape of a control sequence. -/
def general : ControlSequence where
  parameter c := '0' ≤ c && c ≤ '?'
  intermediate c := ' ' ≤ c && c ≤ '/'
  final c := '@' ≤ c && c ≤ '~'

/-- What follows the control sequence at the head of a text, if there is one. -/
def rest? (shape : ControlSequence) : Text → Option Text
  | '\x1b' :: '[' :: text =>
    match (text.dropWhile shape.parameter).dropWhile shape.intermediate with
    | c :: rest => if shape.final c then some rest else none
    | [] => none
  | _ => none

theorem length_rest?_lt {shape : ControlSequence} {text rest : Text}
    (h : shape.rest? text = some rest) : rest.length < text.length := by
  unfold rest? at h
  split at h
  · rename_i tail
    split at h
    · rename_i c rest' hdrop
      have h₁ := (List.dropWhile_suffix shape.parameter (l := tail)).length_le
      have h₂ := (List.dropWhile_suffix shape.intermediate
        (l := tail.dropWhile shape.parameter)).length_le
      rw [hdrop] at h₂
      split at h <;> simp_all only [Option.some.injEq, List.length_cons, reduceCtorEq]
      omega
    · simp at h
  · simp at h

/-- The text without its control sequences, searched from left to right. -/
def strip (shape : ControlSequence) : Text → Text
  | [] => []
  | c :: text =>
    match _h : shape.rest? (c :: text) with
    | some rest => strip shape rest
    | none => c :: strip shape text
termination_by text => text.length
decreasing_by
  · exact length_rest?_lt _h
  · simp

end ControlSequence

end SourceDiagnostics
