/-
# Options among arguments

An argument that begins with a dash and has more to it is an option. An option
of two dashes and a name may take a value: what follows an equals sign, or else
the next argument, whatever that looks like. Short options are letters behind
one dash, any number of them together, and take no value.

Two dashes alone end the options. An option is known by its whole name; there
are no abbreviations. A command either accepts options anywhere among its other
arguments or stops at the first argument that is none.
-/

import SourceDiagnostics.Text

namespace SourceDiagnostics.CommandLine

/-- How a command line can be wrong. An option is used wrongly that lacks its value, or has one
although it takes none. -/
inductive Misuse where
  | noArguments
  | noCommand
  | unknownCommand
  | unknownOption
  | optionUse
  | missingParameter
  | badParameter
  | extraArguments
deriving DecidableEq, Repr

/-- The options of a command, each with its meaning. -/
structure Options (Meaning : Type) where
  /-- Options with a long name that take no value. -/
  flags : List (Text × Meaning) := []
  /-- Options with a long name that take a value. -/
  valued : List (Text × Meaning) := []
  /-- Letters that stand for options without a value. -/
  letters : List (Char × Meaning) := []

/-- An option as it was given. -/
structure Given (Meaning : Type) where
  meaning : Meaning
  /-- Its value, if it takes one. -/
  value : Option Text := none
deriving DecidableEq

/-- What was found among arguments. -/
structure Found (Meaning : Type) where
  options : List (Given Meaning) := []
  others : List Text := []
deriving DecidableEq

variable {Meaning : Type}

/-- What was found, with one more option in front. -/
def Found.withOption (option : Given Meaning) (found : Found Meaning) : Found Meaning :=
  { found with options := option :: found.options }

/-- What was found, with one more other argument in front. -/
def Found.withOther (argument : Text) (found : Found Meaning) : Found Meaning :=
  { found with others := argument :: found.others }

/-- Two dashes. -/
def dashes : Text := ['-', '-']

/-- Whether an argument is an option, or the dashes that end the options. -/
def isOption : Text → Bool
  | '-' :: _ :: _ => true
  | _ => false

/-- The value behind the equals sign of an argument, if it has one. -/
def attachedValue? (argument : Text) : Option Text :=
  match argument.dropWhile (· != '=') with
  | _ :: value => some value
  | [] => none

namespace Options

/-- The options that the letters of an argument stand for. -/
def short (options : Options Meaning) : Text → Except Misuse (List (Given Meaning))
  | [] => .ok []
  | c :: letters =>
    match options.letters.lookup c with
    | none => .error .unknownOption
    | some meaning => do return ⟨meaning, none⟩ :: (← short options letters)

/-- Finds options among arguments. With `anywhere`, they may stand behind other
arguments. -/
def find (options : Options Meaning) (anywhere : Bool) :
    List Text → Except Misuse (Found Meaning)
  | [] => .ok {}
  | argument :: arguments =>
    if argument = dashes then .ok { others := arguments }
    else if isOption argument then
      let name := argument.takeWhile (· != '=')
      match options.valued.lookup name, attachedValue? argument with
      | some meaning, some value => do
        return (← find options anywhere arguments).withOption ⟨meaning, some value⟩
      | some meaning, none =>
        match arguments with
        | value :: arguments => do
          return (← find options anywhere arguments).withOption ⟨meaning, some value⟩
        | [] => .error .optionUse
      | none, attached =>
        match options.flags.lookup name with
        | some meaning =>
          if attached.isSome then .error .optionUse
          else do return (← find options anywhere arguments).withOption ⟨meaning, none⟩
        | none =>
          if argument.startsWith dashes then .error .unknownOption
          else do
            let letters ← options.short (argument.drop 1)
            let found ← find options anywhere arguments
            return { found with options := letters ++ found.options }
    else if anywhere then do return (← find options anywhere arguments).withOther argument
    else .ok { others := argument :: arguments }

end Options

namespace Found

variable [DecidableEq Meaning]

/-- Whether an option was given. -/
def has (found : Found Meaning) (meaning : Meaning) : Bool :=
  found.options.any (·.meaning = meaning)

/-- All values of an option, in order. -/
def values (found : Found Meaning) (meaning : Meaning) : List Text :=
  (found.options.filter (·.meaning = meaning)).filterMap Given.value

/-- The value of an option; the last one when it was given more than once. -/
def value? (found : Found Meaning) (meaning : Meaning) : Option Text :=
  (found.values meaning).getLast?

/-- The options that were given, in the order of their first mention. -/
def meanings (found : Found Meaning) : List Meaning :=
  (found.options.map Given.meaning).eraseDups

end Found

end SourceDiagnostics.CommandLine
