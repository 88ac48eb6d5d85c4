/-
# The characters of error messages

The messages of the program are made of fixed words, numerals and quotations, so
whatever was wrong with a file or its settings, they hold no control character. There
are two exceptions. The complaint about a color mode begins with the path of the
settings file as it was given, and whatever stands in that path stands in the
message. The complaint about a text that is no document is worded by a library.
-/

import SourceDiagnostics.CommandLine.Outcome
import SourceDiagnostics.Proofs.Text.Printable

namespace SourceDiagnostics

open Text (Printable printable_append_iff printable_cons_iff printable_nil printable_ofNat
  printable_ofInt printable_quoted)

/-! ## Values -/

namespace Toml

theorem printable_shownParts {kind : Text} (name : Printable kind) {parts : List Text}
    (each : ∀ part ∈ parts, Printable part) : Printable (shownParts kind parts) := by
  rw [shownParts, printable_append_iff, printable_append_iff, printable_cons_iff]
  exact ⟨⟨name, by decide, .intercalate (by decide) each⟩, by decide⟩

theorem printable_of_mem_map_ofNat {numbers : List Nat} :
    ∀ part ∈ numbers.map Text.ofNat, Printable part := by
  intro part mem
  obtain ⟨n, _, rfl⟩ := List.mem_map.mp mem
  exact printable_ofNat n

private theorem printable_shownZone (minutes : Int) : Printable (shownZone minutes) := by
  rw [shownZone]
  split
  · decide
  · simp only [printable_append_iff]
    refine ⟨⟨by decide, ?_⟩, by decide⟩
    split
    · exact printable_append_iff.mpr ⟨by decide, printable_ofInt _⟩
    · exact printable_append_iff.mpr ⟨by decide, printable_ofInt _⟩

private theorem printable_shownDateTime (date : Date) (time : Time) (zone : Option Int) :
    Printable (shownDateTime date time zone) := by
  refine printable_shownParts (by decide) (List.forall_mem_append.mpr ⟨printable_of_mem_map_ofNat, ?_⟩)
  cases zone with
  | none => exact List.forall_mem_nil _
  | some minutes =>
      rw [List.forall_mem_singleton, printable_append_iff]
      exact ⟨by decide, printable_shownZone minutes⟩

private theorem Kind.printable_name (kind : Kind) : Printable kind.name := by
  cases kind <;> decide

namespace Value

mutual

/-- A value is shown in printable characters. -/
theorem printable_shown : ∀ value : Value, Printable value.shown
  | .text value => printable_quoted value
  | .integer value => printable_ofInt value
  | .float value => value.printable_text
  | .boolean value => Text.printable_ofBool value
  | .date _ => printable_shownParts (by decide) printable_of_mem_map_ofNat
  | .time _ => printable_shownParts (by decide) printable_of_mem_map_ofNat
  | .dateTime day clock zone => printable_shownDateTime day clock zone
  | .array items => by
      rw [shown, printable_append_iff, printable_cons_iff]
      exact ⟨⟨by decide, .intercalate (by decide) (printable_shownItems items)⟩, by decide⟩
  | .table entries => by
      rw [shown, printable_append_iff, printable_cons_iff]
      exact ⟨⟨by decide, .intercalate (by decide) (printable_shownEntries entries)⟩, by decide⟩

theorem printable_shownItems : ∀ items : List Value, ∀ part ∈ shownItems items, Printable part
  | [] => List.forall_mem_nil _
  | item :: items => by
      rw [shownItems, List.forall_mem_cons]
      exact ⟨printable_shown item, printable_shownItems items⟩

theorem printable_shownEntries :
    ∀ entries : List (Text × Value), ∀ part ∈ shownEntries entries, Printable part
  | [] => List.forall_mem_nil _
  | (key, value) :: entries => by
      rw [shownEntries, List.forall_mem_cons, printable_append_iff, printable_append_iff]
      exact ⟨⟨⟨printable_quoted key, by decide⟩, printable_shown value⟩, printable_shownEntries entries⟩

end

end Value

private theorem printable_longInteger (digits : Nat) (malformed : Text) :
    Printable ((Fault.longInteger digits).message malformed) := by
  have limit : Printable ("Exceeds the limit (".toList ++ Text.ofNat Value.digitLimit) :=
    .append (by decide +kernel) (printable_ofNat _)
  exact ((limit.append (by decide +kernel)).append (printable_ofNat digits)).append
    (by decide +kernel)

end Toml

/-! ## Messages -/

theorem LookupFault.printable_message (fault : LookupFault) (path : Text) :
    Printable (fault.message path) := by
  have number : Printable ("[Errno ".toList ++ Text.ofNat fault.number) :=
    .append (by decide) (printable_ofNat _)
  have meaning : Printable fault.meaning := by
    cases fault with
    | refused refusal => cases refusal <;> decide
    | _ => decide
  exact (((number.append (by decide)).append meaning).append (by decide)).append
    (printable_quoted path)

theorem Utf8.Fault.printable_message (fault : Utf8.Fault) : Printable fault.message := by
  have reason : Printable fault.reason.message := by
    cases fault.reason <;> decide
  refine Printable.append (.append (.append (by decide) ?_) (by decide)) reason
  split
  · have byte : Printable ("byte 0x".toList ++ Text.hexadecimal 2 fault.first.toNat) :=
      .append (by decide) (Text.printable_hexadecimal _ _)
    exact (byte.append (by decide)).append (printable_ofNat _)
  · have bytes : Printable ("bytes in position ".toList ++ Text.ofNat fault.start) :=
      .append (by decide) (printable_ofNat _)
    exact bytes.append (printable_cons_iff.mpr ⟨by decide, printable_ofNat _⟩)

theorem ReadFault.printable_message (fault : ReadFault) : Printable fault.message := by
  cases fault with
  | opening fault =>
      cases fault with
      | embeddedNul => exact (by decide : Printable OpenFault.embeddedNulMessage)
      | lookup fault path => exact fault.printable_message path
  | decoding fault => exact fault.printable_message

theorem FileTree.ResolveFault.printable_message (fault : FileTree.ResolveFault) :
    Printable fault.message := by
  cases fault with
  | embeddedNul => exact (by decide : Printable OpenFault.embeddedNulMessage)
  | circle path => exact .append (by decide) (printable_quoted path)

theorem DiscoveryFault.printable_message (fault : DiscoveryFault) : Printable fault.message := by
  cases fault with
  | notFound => decide +kernel
  | start fault => exact fault.printable_message
  | lookup fault path => exact fault.printable_message path

theorem Text.NumeralFault.printable_message (fault : Text.NumeralFault) :
    Printable fault.message := by
  cases fault
  exact .append (.append (by decide +kernel) (printable_ofNat _)) (by decide +kernel)

/-- Of the faults of the settings, only the one about a color mode shows a text as it
is, and that is the path of its file; and a library words what is wrong with a text that is
no document. -/
private theorem Settings.Fault.printable_message_or {malformed : Text} (fault : Settings.Fault) :
    Printable (fault.message malformed) ∨
      (fault = .document .malformed ∧ fault.message malformed = malformed) ∨
      ∃ path value behind, fault = .color path value ∧ fault.message malformed = path ++ behind ∧
        Printable behind := by
  cases fault with
  | reading fault => exact .inl fault.printable_message
  | document fault =>
      cases fault with
      | malformed => exact .inr (.inl ⟨rfl, rfl⟩)
      | longInteger digits => exact .inl (Toml.printable_longInteger digits malformed)
  | noTable kind => exact .inl (.append (.append (by decide) kind.printable_name) (by decide +kernel))
  | base kind => exact .inl (.append (.append (by decide +kernel) kind.printable_name) (by decide))
  | baseLost fault => exact .inl fault.printable_message
  | color path value =>
      by_cases long : value.hasLongInteger = true
      · have message : Fault.message malformed (.color path value) = longIntegerMessage := if_pos long
        exact .inl (message ▸ Text.NumeralFault.printable_message .tooLong)
      · refine .inr (.inr ⟨path, value, ": invalid color mode ".toList ++ value.shown ++
          " (expected auto, always or never)".toList, rfl, ?_, ?_⟩)
        · refine (if_neg long : Fault.message malformed (.color path value) = _).trans ?_
          rw [List.append_assoc, List.append_assoc, List.append_assoc]
        · exact .append (.append (by decide +kernel) value.printable_shown) (by decide +kernel)

/-- A character that cannot be printed comes into a message with the path of a settings file
that names no color mode, or with the words of a library, and in no other way. -/
theorem CommandLine.Fault.of_mem_message {library : Library} {fault : Fault} {c : Char}
    (unprintable : Text.isUnprintable c = true) (mem : c ∈ fault.message library) :
    (fault = .settings (.document .malformed) ∧ c ∈ library.malformed) ∨
      ∃ path value, fault = .settings (.color path value) ∧ c ∈ path := by
  have absent {text : Text} (printable : Printable text) : c ∉ text := fun among =>
    Bool.false_ne_true ((printable c among).symm.trans unprintable)
  cases fault with
  | source fault => exact absurd mem (absent fault.printable_message)
  | discovery fault => exact absurd mem (absent fault.printable_message)
  | numeral fault => exact absurd mem (absent fault.printable_message)
  | settings fault =>
      change c ∈ Settings.Fault.message library.malformed fault at mem
      rcases fault.printable_message_or with
        printable | ⟨rfl, worded⟩ | ⟨path, value, behind, rfl, split, printable⟩
      · exact absurd mem (absent printable)
      · exact .inl ⟨rfl, worded ▸ mem⟩
      · rw [split, List.mem_append] at mem
        exact .inr ⟨path, value, rfl, mem.resolve_right (absent printable)⟩

end SourceDiagnostics
