/-
# What the program says about itself

The program explains itself as a whole and each of its requests, and it names
its version. The pages that explain it are laid out by a library, whose words are
no part of the program.
-/

import SourceDiagnostics.Text

namespace SourceDiagnostics.CommandLine

/-- What the program can be asked to explain. -/
inductive Topic where
  | program
  | preview
  | location
deriving DecidableEq, Repr

/-- The version of the program. -/
def version : Text := "0.1.0".toList

/-- The line that names the version. -/
def versionLine : Text := "locerr, version ".toList ++ version ++ ['\n']

end SourceDiagnostics.CommandLine
