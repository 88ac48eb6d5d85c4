/-
# Places

What is said about where an error happened is a place: nothing at all, a point,
or a range from one position up to another.

A place has a start, which is unknown when nothing is said, and only a range has
an end. A note about a place points to its start, unless nothing is said.
-/

import SourceDiagnostics.Source

namespace SourceDiagnostics

/-- Where something is said to have happened. -/
inductive Place where
  | nowhere
  | point (position : Position)
  | range (start stop : Position)
deriving DecidableEq

namespace Place

/-- The start of a place; unknown for a place that says nothing. -/
def start : Place → Position
  | .nowhere => .unknown
  | .point position => position
  | .range start _ => start

/-- The end of a place, when it is a range. -/
def stop : Place → Option Position
  | .nowhere | .point _ => none
  | .range _ stop => some stop

/-- Where a note about a place points: to its start, if it says anything. -/
def notePosition : Place → Option Position
  | .nowhere => none
  | .point position => some position
  | .range start _ => some start

end Place

end SourceDiagnostics
