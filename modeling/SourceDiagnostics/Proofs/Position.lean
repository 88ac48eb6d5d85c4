/-
# Positions computed from offsets

An offset inside a text is kept as it is, and one outside is moved to the nearer
end. Once that is settled, the line and the column of a position speak about the
front part of the text up to its offset: the line counts the newlines there, and
the column what follows the last of them.
-/

import SourceDiagnostics.Proofs.Text.Lines
import SourceDiagnostics.Source

namespace SourceDiagnostics.Source

open Text

variable (source : Source)

theorem clamp_le (offset : Int) : source.clamp offset ≤ source.code.length := by
  rw [clamp]
  omega

theorem clamp_of_le {offset : Nat} (inside : offset ≤ source.code.length) :
    source.clamp offset = offset := by
  rw [clamp]
  omega

/-- A position is that of the offset it was moved to. -/
theorem position_clamp (offset : Int) :
    source.position (source.clamp offset) = source.position offset := by
  rw [position, position, clamp_of_le source (clamp_le source offset)]

theorem position_of_le {offset : Nat} (inside : offset ≤ source.code.length) :
    source.position offset =
      { offset := offset
        line := newlines (source.code.take offset) + 1
        column := (lastLine (source.code.take offset)).length + 1
        source := some source } := by
  rw [position, clamp_of_le source inside]

end SourceDiagnostics.Source
