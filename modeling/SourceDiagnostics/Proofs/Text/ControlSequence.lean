/-
# Deleting control sequences

`ControlSequence.rest?` reads a sequence part by part, each part as far as it
goes. As long as the three parts of a shape have no character in common, that is
the same as asking whether the text begins with a word of the shape, so there is
never a choice where a sequence ends.

Deleting sequences from two texts that stand one behind the other is therefore
deleting them from each, unless a sequence that is begun in the first is completed
in the second. The second text prevents that when no sequence can go on with its
first character. A text is left as it is just when no sequence occurs in it.
-/

import Mathlib.Data.List.TakeWhile
import SourceDiagnostics.Text.ControlSequence

namespace SourceDiagnostics.ControlSequence

variable {shape : ControlSequence}

/-- No character plays two parts in the sequences of a shape. -/
structure Distinct (shape : ControlSequence) : Prop where
  intermediate : ∀ c, shape.intermediate c = true → shape.parameter c = false
  final : ∀ c, shape.final c = true → shape.parameter c = false ∧ shape.intermediate c = false

/-- The words of a shape. -/
inductive IsSequence (shape : ControlSequence) : Text → Prop
  | intro (parameters intermediates : Text) (c : Char)
      (parameter : ∀ p ∈ parameters, shape.parameter p = true)
      (intermediate : ∀ i ∈ intermediates, shape.intermediate i = true)
      (final : shape.final c = true) :
      IsSequence shape ('\x1b' :: '[' :: (parameters ++ (intermediates ++ [c])))

/-- A text with a sequence somewhere in it. -/
def Occurs (shape : ControlSequence) (text : Text) : Prop :=
  ∃ word, shape.IsSequence word ∧ word <:+: text

/-- The characters that a sequence can go on with once it has begun. -/
def Continues (shape : ControlSequence) (c : Char) : Prop :=
  c = '[' ∨ shape.parameter c = true ∨ shape.intermediate c = true ∨ shape.final c = true

instance (shape : ControlSequence) (c : Char) : Decidable (shape.Continues c) :=
  inferInstanceAs (Decidable (_ ∨ _ ∨ _ ∨ _))

/-- A text that no sequence begun in front of it can go on into. -/
def Interrupts (shape : ControlSequence) (text : Text) : Prop :=
  ∀ c ∈ text.head?, ¬ shape.Continues c

/-! ## Sequences as words -/

private theorem IsSequence.continues_of_mem {c : Char} {text : Text}
    (word : shape.IsSequence (c :: text)) : ∀ d ∈ text, shape.Continues d := by
  cases word with
  | intro parameters intermediates last parameter intermediate final =>
      intro d mem
      simp only [List.mem_cons, List.mem_append, List.not_mem_nil, or_false] at mem
      rcases mem with bracket | among | among | rfl
      · exact .inl bracket
      · exact .inr (.inl (parameter d among))
      · exact .inr (.inr (.inl (intermediate d among)))
      · exact .inr (.inr (.inr final))

theorem IsSequence.ne_nil {word : Text} (sequence : shape.IsSequence word) : word ≠ [] := by
  cases sequence
  exact List.cons_ne_nil _ _

/-- What remains behind a sequence is what the word at the head of the text
leaves. -/
theorem rest?_eq_some_iff (distinct : shape.Distinct) {text rest : Text} :
    shape.rest? text = some rest ↔ ∃ word, shape.IsSequence word ∧ text = word ++ rest := by
  constructor
  · intro found
    unfold rest? at found
    split at found
    · rename_i body
      have outer : body = body.takeWhile shape.parameter ++ body.dropWhile shape.parameter :=
        List.takeWhile_append_dropWhile.symm
      generalize body.dropWhile shape.parameter = behind at found outer
      have inner : behind =
          behind.takeWhile shape.intermediate ++ behind.dropWhile shape.intermediate :=
        List.takeWhile_append_dropWhile.symm
      split at found
      · rename_i c remaining stop
        rw [stop] at inner
        split at found
        · rename_i final
          obtain rfl : remaining = rest := by simpa using found
          refine ⟨_, .intro (body.takeWhile shape.parameter) (behind.takeWhile shape.intermediate) c
            (fun p mem => List.mem_takeWhile_imp mem) (fun i mem => List.mem_takeWhile_imp mem)
            final, ?_⟩
          calc
            '\x1b' :: '[' :: body = '\x1b' :: '[' :: (body.takeWhile shape.parameter ++
                (behind.takeWhile shape.intermediate ++ c :: remaining)) := by rw [← inner, ← outer]
            _ = _ := by simp
        · exact absurd found nofun
      · exact absurd found nofun
    · exact absurd found nofun
  · rintro ⟨word, sequence, rfl⟩
    cases sequence with
    | intro parameters intermediates c parameter intermediate final =>
        have stop := distinct.final c final
        have last : (c :: rest).dropWhile shape.intermediate = c :: rest :=
          List.dropWhile_cons_of_neg (by simp [stop.2])
        have middle : (intermediates ++ c :: rest).dropWhile shape.parameter =
            intermediates ++ c :: rest := by
          cases intermediates with
          | nil => exact List.dropWhile_cons_of_neg (by simp [stop.1])
          | cons i others =>
              have other := distinct.intermediate i (intermediate i List.mem_cons_self)
              exact List.dropWhile_cons_of_neg (by simp [other])
        simp only [List.cons_append, List.append_assoc, List.nil_append, rest?]
        rw [List.dropWhile_append_of_pos parameter, middle,
          List.dropWhile_append_of_pos intermediate, last]
        exact if_pos final

/-- A text is a sequence if nothing remains behind the one at its head. -/
theorem isSequence_iff (distinct : shape.Distinct) (word : Text) :
    shape.IsSequence word ↔ shape.rest? word = some [] := by
  rw [rest?_eq_some_iff distinct]
  constructor
  · intro sequence
    exact ⟨word, sequence, (List.append_nil word).symm⟩
  · rintro ⟨whole, sequence, rfl⟩
    rwa [List.append_nil]

theorem rest?_eq_none_of_ne {c : Char} (ne : c ≠ '\x1b') (text : Text) :
    shape.rest? (c :: text) = none := by
  unfold rest?
  split
  · rename_i same
    exact absurd (List.cons.inj same).1 ne
  · rfl

/-! ## Deleting them -/

@[simp]
theorem strip_nil (shape : ControlSequence) : shape.strip [] = [] := by
  rw [strip]

private theorem strip_of_rest?_eq_some {text rest : Text} (found : shape.rest? text = some rest) :
    shape.strip text = shape.strip rest := by
  fun_cases strip shape text with
  | case1 => exact absurd found nofun
  | case2 c text other same => rw [Option.some.inj (same.symm.trans found)]
  | case3 c text absent => exact absurd (found.symm.trans absent) nofun

theorem strip_cons_of_rest?_eq_none {c : Char} {text : Text}
    (absent : shape.rest? (c :: text) = none) :
    shape.strip (c :: text) = c :: shape.strip text := by
  have whole : ∀ other, other = c :: text → shape.strip other = c :: shape.strip text := by
    intro other same
    fun_cases strip shape other with
    | case1 => cases same
    | case2 d behind rest found =>
        rw [same, absent] at found
        cases found
    | case3 d behind => rw [(List.cons.inj same).1, (List.cons.inj same).2]
  exact whole _ rfl

/-- A sequence at the head of a text leaves no trace. -/
theorem strip_sequence_append (distinct : shape.Distinct) {word : Text}
    (sequence : shape.IsSequence word) (rest : Text) :
    shape.strip (word ++ rest) = shape.strip rest :=
  strip_of_rest?_eq_some ((rest?_eq_some_iff distinct).mpr ⟨word, sequence, rfl⟩)

/-- No sequence begins in a text without escape characters. -/
theorem strip_append_of_escape_not_mem {first : Text} (plain : '\x1b' ∉ first) (second : Text) :
    shape.strip (first ++ second) = first ++ shape.strip second := by
  induction first with
  | nil => rfl
  | cons c first ih =>
      rw [List.mem_cons, not_or] at plain
      rw [List.cons_append, strip_cons_of_rest?_eq_none (rest?_eq_none_of_ne (Ne.symm plain.1) _),
        ih plain.2, List.cons_append]

theorem strip_of_escape_not_mem {text : Text} (plain : '\x1b' ∉ text) :
    shape.strip text = text := by
  calc
    shape.strip text = shape.strip (text ++ []) := by rw [List.append_nil]
    _ = text ++ shape.strip [] := strip_append_of_escape_not_mem plain []
    _ = text := by rw [strip_nil, List.append_nil]

/-- A text that interrupts sequences has no part in those of the text before it. -/
theorem rest?_append_eq_none (distinct : shape.Distinct) {first second : Text}
    (interrupts : shape.Interrupts second) (nonempty : first ≠ [])
    (absent : shape.rest? first = none) : shape.rest? (first ++ second) = none := by
  rw [Option.eq_none_iff_forall_ne_some] at absent ⊢
  intro rest found
  obtain ⟨word, sequence, split⟩ := (rest?_eq_some_iff distinct).mp found
  rcases List.append_eq_append_iff.mp split with ⟨more, longer, rfl⟩ | ⟨left, shorter, _⟩
  · cases more with
    | nil =>
        rw [List.append_nil] at longer
        exact absent [] ((rest?_eq_some_iff distinct).mpr ⟨word, sequence, by simp [longer]⟩)
    | cons d more =>
        -- The word reaches into the second text, which begins with one of its characters.
        obtain ⟨c, tail, rfl⟩ := List.exists_cons_of_ne_nil nonempty
        rw [longer, List.cons_append] at sequence
        exact interrupts d rfl (sequence.continues_of_mem d (by simp))
  · exact absent left ((rest?_eq_some_iff distinct).mpr ⟨word, sequence, shorter⟩)

/-- Sequences can be deleted on both sides of an interruption apart. -/
theorem strip_append (distinct : shape.Distinct) (first : Text) {second : Text}
    (interrupts : shape.Interrupts second) :
    shape.strip (first ++ second) = shape.strip first ++ shape.strip second := by
  fun_induction strip shape first with
  | case1 => rfl
  | case2 c first rest found ih =>
      obtain ⟨word, sequence, split⟩ := (rest?_eq_some_iff distinct).mp found
      rw [split, List.append_assoc, strip_sequence_append distinct sequence, ih]
  | case3 c first absent ih =>
      have still := rest?_append_eq_none distinct interrupts (List.cons_ne_nil c first) absent
      rw [List.cons_append] at still ⊢
      rw [strip_cons_of_rest?_eq_none still, ih, List.cons_append]

theorem length_strip_le (shape : ControlSequence) (text : Text) :
    (shape.strip text).length ≤ text.length := by
  fun_induction strip shape text with
  | case1 => exact Nat.le_refl _
  | case2 c text rest found ih => exact ih.trans (Nat.le_of_lt (length_rest?_lt found))
  | case3 c text absent ih => exact Nat.succ_le_succ ih

/-- Deleting sequences changes exactly the texts that have some. -/
theorem strip_eq_self_iff (distinct : shape.Distinct) (text : Text) :
    shape.strip text = text ↔ ¬ shape.Occurs text := by
  fun_induction strip shape text with
  | case1 =>
      refine iff_of_true rfl ?_
      rintro ⟨word, sequence, within⟩
      exact sequence.ne_nil (List.infix_nil.mp within)
  | case2 c text rest found ih =>
      obtain ⟨word, sequence, split⟩ := (rest?_eq_some_iff distinct).mp found
      have shorter := (length_strip_le shape rest).trans_lt (length_rest?_lt found)
      refine iff_of_false (fun same => ?_) (fun without => without ⟨word, sequence, ?_⟩)
      · rw [same] at shorter
        exact Nat.lt_irrefl _ shorter
      · rw [split]
        exact (List.prefix_append word rest).isInfix
  | case3 c text absent ih =>
      have begins : ∀ word, shape.IsSequence word → ¬ word <+: c :: text := by
        rintro word sequence ⟨rest, split⟩
        have found := (rest?_eq_some_iff distinct).mpr ⟨word, sequence, split.symm⟩
        exact absurd (absent.symm.trans found) nofun
      have moved : shape.Occurs (c :: text) ↔ shape.Occurs text := by
        constructor
        · rintro ⟨word, sequence, within⟩
          exact ⟨word, sequence, (List.infix_cons_iff.mp within).resolve_left (begins word sequence)⟩
        · rintro ⟨word, sequence, within⟩
          exact ⟨word, sequence, within.trans (List.suffix_cons c text).isInfix⟩
      rw [List.cons_inj_right, ih, moved]

/-! ## Interruptions -/

theorem interrupts_nil (shape : ControlSequence) : shape.Interrupts [] :=
  fun _ first => absurd first (Option.not_mem_none _)

theorem interrupts_cons {c : Char} (other : ¬ shape.Continues c) (text : Text) :
    shape.Interrupts (c :: text) := by
  intro d first
  obtain rfl : c = d := Option.some.inj first
  exact other

/-- What follows an interruption matters only if that is empty. -/
theorem Interrupts.append {first second : Text} (front : shape.Interrupts first)
    (back : shape.Interrupts second) : shape.Interrupts (first ++ second) := by
  cases first with
  | nil => exact back
  | cons c first => exact interrupts_cons (front c rfl) _

/-! ## Two shapes -/

/-- Sequences of digits, semicolons and question marks that a letter completes. All
that chooses the look of a text is of this shape. -/
def lettered : ControlSequence where
  parameter c := c = ';' || c = '?' || c.isDigit
  intermediate _ := false
  final c := c.isAlpha

theorem lettered_distinct : lettered.Distinct where
  intermediate _ middle := absurd middle Bool.false_ne_true
  final c final := by
    refine ⟨?_, rfl⟩
    have letter : c.isUpper = true ∨ c.isLower = true := Bool.or_eq_true_iff.mp final
    delta Char.isUpper Char.isLower at letter
    simp [lettered, Char.isDigit, Char.ext_iff, UInt32.le_iff_toNat_le,
      ← UInt32.toNat_inj] at letter ⊢
    omega

theorem general_distinct : general.Distinct where
  intermediate c middle := by
    simp [general, Char.le_def, UInt32.le_iff_toNat_le] at middle ⊢
    omega
  final c final := by
    simp [general, Char.le_def, UInt32.le_iff_toNat_le] at final ⊢
    omega

/-- The sequences of a shape can be told apart from what follows them, and none runs over the
end of a line. -/
structure LineBound (shape : ControlSequence) : Prop where
  distinct : shape.Distinct
  newline : ¬ shape.Continues '\n'

theorem lettered_lineBound : lettered.LineBound := ⟨lettered_distinct, by decide⟩

theorem general_lineBound : general.LineBound := ⟨general_distinct, by decide⟩

end SourceDiagnostics.ControlSequence
