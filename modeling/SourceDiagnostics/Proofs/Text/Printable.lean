/-
# Printable texts

Numerals and quotations are printable, whatever number or text they stand for. So
a message that is put together from fixed words, numerals and quotations is one
line without control characters, and no path or value that it quotes can break it.
-/

import Mathlib.Tactic.IntervalCases
import SourceDiagnostics.Decimal
import SourceDiagnostics.Text.Quoted

namespace SourceDiagnostics

namespace Text

/-- A text without unprintable characters. -/
def Printable (text : Text) : Prop := ∀ c ∈ text, isUnprintable c = false

/-- The characters from the space up to the tilde are printable. -/
private theorem isUnprintable_of_ascii {c : Char} (low : ' ' ≤ c) (high : c ≤ '~') :
    isUnprintable c = false := by
  have bounds : 0x20 ≤ c.toNat ∧ c.toNat ≤ 0x7e := ⟨low, high⟩
  simp [isUnprintable, isPlaneEnd, unprintableRanges]
  omega

/-- Most texts need no look at the ranges. -/
instance (text : Text) : Decidable text.Printable :=
  if ascii : text.all (fun c => ' ' ≤ c && c ≤ '~') = true then
    .isTrue fun c mem => by
      have within := List.all_eq_true.mp ascii c mem
      rw [Bool.and_eq_true, decide_eq_true_iff, decide_eq_true_iff] at within
      exact isUnprintable_of_ascii within.1 within.2
  else List.decidableBAll (fun c => isUnprintable c = false) text

@[simp]
theorem printable_nil : Printable [] := List.forall_mem_nil _

@[simp]
theorem printable_cons_iff {c : Char} {text : Text} :
    Printable (c :: text) ↔ isUnprintable c = false ∧ Printable text :=
  List.forall_mem_cons

@[simp]
theorem printable_append_iff {first second : Text} :
    Printable (first ++ second) ↔ Printable first ∧ Printable second :=
  List.forall_mem_append

theorem Printable.append {first second : Text} (front : Printable first)
    (back : Printable second) : Printable (first ++ second) :=
  printable_append_iff.mpr ⟨front, back⟩

theorem Printable.of_subset {part text : Text} (whole : Printable text) (subset : part ⊆ text) :
    Printable part :=
  fun c mem => whole c (subset mem)

theorem Printable.flatMap {α : Type} {items : List α} {f : α → Text}
    (each : ∀ item ∈ items, Printable (f item)) : Printable (items.flatMap f) := by
  intro c mem
  obtain ⟨item, among, within⟩ := List.mem_flatMap.mp mem
  exact each item among c within

theorem Printable.intercalate {separator : Text} (between : Printable separator)
    {parts : List Text} (each : ∀ part ∈ parts, Printable part) :
    Printable (separator.intercalate parts) := by
  induction parts with
  | nil => exact printable_nil
  | cons part rest ih =>
      rw [List.forall_mem_cons] at each
      cases rest with
      | nil => simpa using each.1
      | cons next others =>
          rw [List.intercalate_cons_cons]
          simp only [printable_append_iff]
          exact ⟨⟨each.1, between⟩, ih each.2⟩

theorem printable_replicate {c : Char} (printable : isUnprintable c = false) (count : Nat) :
    Printable (List.replicate count c) := by
  intro d mem
  rw [List.eq_of_mem_replicate mem]
  exact printable

/-! ## Numerals -/

theorem printable_toDigits {base : Nat} (low : 1 < base) (high : base ≤ 16) (n : Nat) :
    Printable (Nat.toDigits base n) := by
  have digit : ∀ k < 16, isUnprintable k.digitChar = false := by decide
  induction n using Nat.strong_induction_on with
  | _ n ih =>
      rw [Nat.toDigits_eq_if low]
      split
      · rename_i small
        simpa using digit n (by omega)
      · rename_i large
        have last := Nat.mod_lt n (show 0 < base by omega)
        rw [printable_append_iff]
        exact ⟨ih _ (Nat.div_lt_self (by omega) low), by simpa using digit (n % base) (by omega)⟩

theorem printable_ofNat (n : Nat) : Printable (ofNat n) :=
  printable_toDigits (by decide) (by decide) n

theorem printable_ofInt (n : Int) : Printable (ofInt n) := by
  cases n with
  | ofNat n => exact printable_ofNat n
  | negSucc n => exact printable_cons_iff.mpr ⟨by decide, printable_ofNat (n + 1)⟩

theorem printable_leftpad {text : Text} (printable : Printable text) (width : Nat) :
    Printable (text.leftpad width '0') :=
  printable_append_iff.mpr ⟨printable_replicate (by decide) _, printable⟩

theorem printable_hexadecimal (width n : Nat) : Printable (hexadecimal width n) :=
  printable_leftpad (printable_toDigits (by decide) (by decide) n) width

theorem printable_ofBool (value : Bool) : Printable (ofBool value) := by
  cases value <;> decide

/-! ## Quotations -/

private theorem printable_numericEscape (c : Char) : Printable (numericEscape c) := by
  have escape {letter : Char} (printable : isUnprintable letter = false) (width : Nat) :
      Printable ('\\' :: letter :: hexadecimal width c.toNat) :=
    printable_cons_iff.mpr ⟨by decide, printable_cons_iff.mpr
      ⟨printable, printable_hexadecimal width c.toNat⟩⟩
  rw [numericEscape]
  split
  · exact escape (by decide) 2
  · split
    · exact escape (by decide) 4
    · exact escape (by decide) 8

private theorem printable_quotedChar {mark : Char} (printable : isUnprintable mark = false)
    (c : Char) :
    Printable (quotedChar mark c) := by
  rw [quotedChar]
  split
  · rename_i marked
    have itself : isUnprintable c = false := by
      rcases Bool.or_eq_true_iff.mp marked with same | same
      · rw [of_decide_eq_true same]
        exact printable
      · rw [of_decide_eq_true same]
        decide
    exact printable_cons_iff.mpr ⟨by decide, printable_cons_iff.mpr ⟨itself, printable_nil⟩⟩
  split
  · decide
  split
  · decide
  split
  · decide
  split
  · exact printable_numericEscape c
  · rename_i other
    exact printable_cons_iff.mpr ⟨Bool.eq_false_iff.mpr other, printable_nil⟩

/-- A quoted text is printable whatever the text holds. -/
theorem printable_quoted (text : Text) : Printable text.quoted := by
  have mark : isUnprintable text.quotationMark = false := by
    rw [quotationMark]
    split <;> decide
  rw [quoted, printable_append_iff, printable_cons_iff]
  exact ⟨⟨mark, .flatMap fun c _ => printable_quotedChar mark c⟩,
    printable_cons_iff.mpr ⟨mark, printable_nil⟩⟩

end Text

/-! ## Binary numbers -/

namespace Decimal

open Text

private theorem printable_ofGrid (count power : Nat) :
    Printable (Digits.ofGrid count power).digits := by
  refine (printable_ofNat count).of_subset fun c mem => ?_
  rw [Digits.ofGrid, List.mem_reverse] at mem
  exact List.mem_reverse.mp ((List.dropWhile_suffix _).mem mem)

theorem printable_shortest (mantissa : Nat) (exponent : Int) :
    Printable (shortest mantissa exponent).digits := by
  unfold shortest
  dsimp only
  generalize found : List.head? _ = first
  cases first with
  | none => exact (by decide : Printable ['0'])
  | some number =>
      obtain ⟨count, _, made⟩ := List.mem_filterMap.mp (List.mem_of_head? found)
      obtain ⟨point, _, rfl⟩ := Option.map_eq_some_iff.mp made
      exact printable_ofGrid point _

theorem printable_numeral (layout : Layout) {number : Digits}
    (digits : Printable number.digits) : Printable (layout.numeral number) := by
  have part (count : Nat) : Printable (number.digits.take count) :=
    digits.of_subset (List.take_subset count _)
  have rest (count : Nat) : Printable (number.digits.drop count) :=
    digits.of_subset (List.drop_subset count _)
  have zeros (count : Nat) : Printable (List.replicate count '0') :=
    printable_replicate (by decide) count
  unfold Layout.numeral
  simp only
  split
  · split
    · simp only [printable_append_iff]
      exact ⟨⟨by decide, zeros _⟩, digits⟩
    · rw [printable_append_iff, printable_cons_iff]
      refine ⟨printable_append_iff.mpr ⟨part _, zeros _⟩, by decide, ?_⟩
      split
      · decide
      · exact rest _
  · rw [printable_append_iff, printable_append_iff, printable_cons_iff, printable_cons_iff]
    refine ⟨⟨part 1, ?_⟩, by decide, ?_, printable_leftpad (printable_ofNat _) _⟩
    · split
      · exact printable_nil
      · exact printable_cons_iff.mpr ⟨by decide, rest 1⟩
    · split <;> decide

end Decimal

theorem Binary.printable_text (number : Binary) : number.text.Printable := by
  cases number with
  | undefined => exact (by decide : Text.Printable "nan".toList)
  | infinite negative =>
      cases negative
      · exact (by decide : Text.Printable "inf".toList)
      · exact (by decide : Text.Printable "-inf".toList)
  | finite negative mantissa exponent =>
      rw [text, Text.printable_append_iff]
      refine ⟨by split <;> decide, Decimal.printable_numeral _ ?_⟩
      split
      · exact (by decide : Text.Printable ['0'])
      · exact Decimal.printable_shortest mantissa exponent

end SourceDiagnostics
