/-
# What a store keeps

A store holds failures and lists of notes, and a report only names its list. This
module fixes when a store is sound: the list of every report is there, no two
reports name the same one, and a cause is a foreign failure of the store. Only two
things ever happen to a store, a failure is put into it or a note is added to a
report, and both keep it sound.

For a sound store, each of the two is settled by what it does to the failures as
they are seen through their handles. Putting a failure in shows it under the fresh
handle and changes none of the others. Adding a note shows in one report and
changes none of the others, since nobody else looks into its list.
-/

import SourceDiagnostics.Failure.Store

namespace SourceDiagnostics

/-- A failure with more notes; a foreign failure has no notes to grow. -/
def Failure.addNotes : Failure → List Note → Failure
  | .foreign arisen, _ => .foreign arisen
  | .report made, more =>
    .report { made with diagnostic.notes := made.diagnostic.notes ++ more }

@[simp] theorem Failure.addNotes_nil (failure : Failure) : failure.addNotes [] = failure := by
  cases failure with
  | foreign arisen => rfl
  | report made => rw [addNotes, List.append_nil]

theorem Failure.addNotes_append (failure : Failure) (first second : List Note) :
    failure.addNotes (first ++ second) = (failure.addNotes first).addNotes second := by
  cases failure with
  | foreign arisen => rfl
  | report made => rw [addNotes, addNotes, addNotes, List.append_assoc]

/-- The list that a stored report keeps its notes in. -/
def StoredFailure.list? : StoredFailure → Option ListHandle
  | .foreign _ => none
  | .report stored => some stored.notes

namespace Store

/-- The list that the report under a handle keeps its notes in. -/
def list? (store : Store) (handle : Handle) : Option ListHandle :=
  store.failures[handle]?.bind StoredFailure.list?

/-- The list that a failure gets when it is put in. -/
def freshList? (store : Store) : Failure → Option ListHandle
  | .foreign _ => none
  | .report _ => some store.lists.length

/-- Every report has a list to itself, and every cause is a foreign failure. -/
structure Sound (store : Store) : Prop where
  present : ∀ handle list, store.list? handle = some list → list < store.lists.length
  /-- A list belongs to one report. -/
  separate : ∀ first second list, store.list? first = some list → store.list? second = some list →
    first = second
  /-- What a report was promoted from is a foreign failure of the store. -/
  causes : ∀ handle report cause, store.report? handle = some report → report.cause = some cause →
    ∃ failure, store.get? cause = some (.foreign failure)

variable {store : Store}

theorem sound_empty : Sound {} where
  present := nofun
  separate := nofun
  causes := fun _ _ _ held => absurd held nofun

theorem report?_eq_some_iff {handle : Handle} {report : Report} :
    store.report? handle = some report ↔ store.get? handle = some (.report report) := by
  rw [report?]
  cases store.get? handle with
  | none => exact ⟨nofun, nofun⟩
  | some held =>
      cases held with
      | foreign failure => exact ⟨nofun, nofun⟩
      | report made => simp

theorem get?_of_length_le {handle : Handle} (fresh : store.failures.length ≤ handle) :
    store.get? handle = none := by
  rw [get?, List.getElem?_eq_none fresh, Option.map_none]

theorem get?_ne_none {handle : Handle} (present : handle < store.failures.length) :
    store.get? handle ≠ none := by
  rw [get?, List.getElem?_eq_getElem present]
  exact nofun

theorem lt_of_get? {handle : Handle} {failure : Failure} (held : store.get? handle = some failure) :
    handle < store.failures.length := by
  refine Nat.lt_of_not_le fun fresh => ?_
  rw [get?_of_length_le fresh] at held
  exact absurd held nofun

/-! ## Putting a failure in -/

theorem getElem?_concat {α : Type} (values : List α) (value : α) (index : Nat) :
    (values ++ [value])[index]? = if index = values.length then some value else values[index]? := by
  split
  · rename_i last
    rw [last, List.getElem?_concat_length]
  · rename_i other
    rcases Nat.lt_or_gt_of_ne other with before | behind
    · rw [List.getElem?_append_left before]
    · rw [List.getElem?_eq_none (by simp; omega), List.getElem?_eq_none (by omega)]

theorem length_failures_insert (store : Store) (failure : Failure) :
    (store.insert failure).1.failures.length = store.failures.length + 1 := by
  cases failure <;> exact List.length_append

theorem insert_snd (store : Store) (failure : Failure) :
    (store.insert failure).2 = store.failures.length := by
  cases failure <;> rfl

/-- What is stored under the fresh handle is the failure with its fresh list. -/
theorem getElem?_failures_insert (store : Store) (failure : Failure) :
    ∃ stored : StoredFailure, stored.list? = store.freshList? failure ∧
      (store.insert failure).1.assemble stored = failure ∧
      ∀ handle, (store.insert failure).1.failures[handle]? =
        if handle = store.failures.length then some stored else store.failures[handle]? := by
  cases failure with
  | foreign arisen => exact ⟨.foreign arisen, rfl, rfl, getElem?_concat _ _⟩
  | report made =>
      refine ⟨.report _, rfl, ?_, getElem?_concat _ _⟩
      simp only [insert, assemble, notesIn, List.getElem?_concat_length, Option.getD_some]

/-- The list of a fresh report is fresh. -/
theorem list?_insert (store : Store) (failure : Failure) (handle : Handle) :
    (store.insert failure).1.list? handle =
      if handle = store.failures.length then store.freshList? failure else store.list? handle := by
  obtain ⟨stored, named, _, failures⟩ := getElem?_failures_insert store failure
  rw [list?, failures]
  split
  · rw [Option.bind_some, named]
  · rfl

/-- A fresh list does not disturb what is in the others. -/
theorem assemble_insert (store : Store) (failure : Failure) {stored : StoredFailure}
    (present : ∀ list ∈ stored.list?, list < store.lists.length) :
    (store.insert failure).1.assemble stored = store.assemble stored := by
  cases stored with
  | foreign arisen => rfl
  | report report =>
      cases failure with
      | foreign arisen => rfl
      | report made =>
          rw [assemble, assemble, notesIn, notesIn, insert,
            List.getElem?_append_left (present report.notes rfl)]

/-- Putting a failure in shows it under the fresh handle and leaves all others as
they are. -/
theorem get?_insert (sound : store.Sound) (failure : Failure) (handle : Handle) :
    (store.insert failure).1.get? handle =
      if handle = store.failures.length then some failure else store.get? handle := by
  obtain ⟨stored, _, fresh, failures⟩ := getElem?_failures_insert store failure
  rw [get?, failures]
  split
  · rw [Option.map_some, fresh]
  · rw [get?]
    cases held : store.failures[handle]? with
    | none => rfl
    | some older =>
        have present : ∀ list ∈ older.list?, list < store.lists.length := by
          intro list named
          refine sound.present handle list ?_
          rw [list?, held, Option.bind_some, named]
        rw [Option.map_some, Option.map_some, assemble_insert store failure present]

private theorem length_lists_insert_le (store : Store) (failure : Failure) :
    store.lists.length ≤ (store.insert failure).1.lists.length := by
  cases failure with
  | foreign arisen => exact Nat.le_refl _
  | report made =>
      rw [insert, List.length_append]
      exact Nat.le_add_right _ _

/-- A fresh list lies behind the lists that were there. -/
private theorem eq_length_of_freshList? {failure : Failure} {list : ListHandle}
    (named : store.freshList? failure = some list) :
    list = store.lists.length ∧ list < (store.insert failure).1.lists.length := by
  cases failure with
  | foreign arisen => exact absurd named nofun
  | report made =>
      obtain rfl := Option.some.inj named
      refine ⟨rfl, ?_⟩
      rw [insert, List.length_append]
      exact Nat.lt_succ_self _

/-- A store stays sound when a failure is put in whose cause is a foreign failure
already there. -/
theorem sound_insert (sound : store.Sound) {failure : Failure}
    (arisen : ∀ report cause, failure = .report report → report.cause = some cause →
      ∃ origin, store.get? cause = some (.foreign origin)) :
    (store.insert failure).1.Sound where
  present := by
    intro handle list named
    rw [list?_insert] at named
    split at named
    · exact (eq_length_of_freshList? named).2
    · exact Nat.lt_of_lt_of_le (sound.present handle list named) (length_lists_insert_le store failure)
  separate := by
    intro first second list firstNamed secondNamed
    rw [list?_insert] at firstNamed secondNamed
    -- A list cannot be fresh for one report and have been there for another.
    have disjoint {handle : Handle} (older : store.list? handle = some list)
        (newer : store.freshList? failure = some list) : False := by
      have before := sound.present handle list older
      rw [(eq_length_of_freshList? newer).1] at before
      exact Nat.lt_irrefl _ before
    by_cases firstFresh : first = store.failures.length
    · by_cases secondFresh : second = store.failures.length
      · rw [firstFresh, secondFresh]
      · rw [if_pos firstFresh] at firstNamed
        rw [if_neg secondFresh] at secondNamed
        exact (disjoint secondNamed firstNamed).elim
    · rw [if_neg firstFresh] at firstNamed
      by_cases secondFresh : second = store.failures.length
      · rw [if_pos secondFresh] at secondNamed
        exact (disjoint firstNamed secondNamed).elim
      · rw [if_neg secondFresh] at secondNamed
        exact sound.separate first second list firstNamed secondNamed
  causes := by
    intro handle report cause held caused
    rw [report?_eq_some_iff, get?_insert sound] at held
    have origin : ∃ origin, store.get? cause = some (.foreign origin) := by
      split at held
      · exact arisen report cause (Option.some.inj held) caused
      · exact sound.causes handle report cause (report?_eq_some_iff.mpr held) caused
    obtain ⟨origin, found⟩ := origin
    refine ⟨origin, ?_⟩
    rw [get?_insert sound, if_neg (Nat.ne_of_lt (lt_of_get? found)), found]

/-! ## Adding a note -/

theorem failures_addNote (store : Store) (handle : Handle) (note : Note) :
    (store.addNote handle note).failures = store.failures := by
  rw [addNote]
  split <;> rfl

private theorem list?_addNote (store : Store) (handle : Handle) (note : Note) (other : Handle) :
    (store.addNote handle note).list? other = store.list? other := by
  rw [list?, list?, failures_addNote]

private theorem length_lists_addNote (store : Store) (handle : Handle) (note : Note) :
    (store.addNote handle note).lists.length = store.lists.length := by
  rw [addNote]
  split
  · exact List.length_modify _ _ _
  · rfl

/-- A handle that holds no report takes no note. -/
private theorem addNote_of_list?_eq_none {handle : Handle} (unlisted : store.list? handle = none)
    (note : Note) :
    store.addNote handle note = store := by
  rw [addNote]
  split
  · rename_i report held
    rw [list?, held, Option.bind_some] at unlisted
    exact absurd unlisted nofun
  · rfl

private theorem addNote_of_list?_eq_some {handle : Handle} {list : ListHandle}
    (named : store.list? handle = some list) (note : Note) :
    store.addNote handle note = { store with lists := store.lists.modify list (· ++ [note]) } := by
  obtain ⟨stored, held, owned⟩ := Option.bind_eq_some_iff.mp named
  cases stored with
  | foreign arisen => exact absurd owned nofun
  | report report =>
      obtain rfl := Option.some.inj owned
      rw [addNote, held]

/-- Adding a note shows in the report under the handle and nowhere else. -/
theorem get?_addNote (sound : store.Sound) (handle : Handle) (note : Note) (other : Handle) :
    (store.addNote handle note).get? other =
      if other = handle then (store.get? other).map (·.addNotes [note]) else store.get? other := by
  rw [get?, get?, failures_addNote]
  cases held : store.failures[other]? with
  | none => simp
  | some stored =>
      cases stored with
      | foreign arisen =>
          simp only [Option.map_some, assemble, Failure.addNotes, ite_self]
      | report owner =>
          have owned : store.list? other = some owner.notes := by
            rw [list?, held]
            rfl
          have there := sound.present other _ owned
          split
          · rename_i here
            rw [addNote_of_list?_eq_some (here ▸ owned)]
            simp [assemble, notesIn, List.getElem?_eq_getElem there, Failure.addNotes]
          · rename_i elsewhere
            cases target : store.list? handle with
            | none => rw [addNote_of_list?_eq_none target]
            | some list =>
                have apart : list ≠ owner.notes := fun same =>
                  elsewhere (sound.separate other handle list (same ▸ owned) target)
                rw [addNote_of_list?_eq_some target]
                simp [assemble, notesIn, apart]

/-- A store stays sound when a note is added. -/
theorem sound_addNote (sound : store.Sound) (handle : Handle) (note : Note) :
    (store.addNote handle note).Sound where
  present := by
    intro other list named
    rw [list?_addNote] at named
    rw [length_lists_addNote]
    exact sound.present other list named
  separate := by
    intro first second list firstNamed secondNamed
    rw [list?_addNote] at firstNamed secondNamed
    exact sound.separate first second list firstNamed secondNamed
  causes := by
    intro other report cause held caused
    have before : ∃ made, store.get? other = some (.report made) ∧ made.cause = some cause := by
      rw [report?_eq_some_iff, get?_addNote sound] at held
      split at held
      · obtain ⟨made, found, grown⟩ := Option.map_eq_some_iff.mp held
        cases made with
        | foreign arisen => exact absurd grown nofun
        | report made =>
            obtain rfl := Failure.report.inj grown
            exact ⟨made, found, caused⟩
      · exact ⟨report, held, caused⟩
    obtain ⟨made, found, same⟩ := before
    obtain ⟨origin, root⟩ := sound.causes other made cause (report?_eq_some_iff.mpr found) same
    refine ⟨origin, ?_⟩
    rw [get?_addNote sound, root]
    split <;> rfl

end Store

end SourceDiagnostics
