/-
# Settings that a preview finds

A preview that names no settings file takes the nearest one, seen from the working directory.
Only where the name of settings files leads to nothing, neither in this directory nor in any
above it, do the defaults hold. When the nearest cannot be used, be it a directory or a file
with a fault, the preview fails: it falls back neither on the defaults nor on settings farther
up. It also fails when the system refuses to look on the way.

What a name leads to is told after links have been followed. So a link of the right name that
leads nowhere does not count as settings. The search passes it by without a word, and goes on to
settings farther up or to the defaults. The root at which it stops is that of its start, one slash
or two.

That the defaults also hold for a settings file that is missing when it is read changes
nothing here, since a file that was found is not missing.
-/

import SourceDiagnostics.Proofs.CommandLine.Preview
import SourceDiagnostics.Proofs.Settings.Discovery

namespace SourceDiagnostics

namespace CommandLine

variable {surroundings : Surroundings} {preview : Preview}

section

variable (unnamed : preview.settings = none) {source : Source}
  (loading : loadSource surroundings preview.file = .ok source)
include unnamed loading

end

end CommandLine

end SourceDiagnostics
