/-
# How reports come to be what they are

A report is made by one step and from then on only grows notes. What it is now is
what it was made as and one note for each later step that was aimed at it, in the
order of the steps, through whatever register it was reached. All else about it
stays, and no other report has a part in its notes: a copy begins with the notes
that were there when it was made and then goes its own way.

The growth is an induction over the later steps, which carries that the session is
sound. Where a report came from is found by following a session from its beginning
to the first step after which the report is there.

The converse is as important: a step that makes a failure really makes one. What a
relocation or a copy results in is an object of its own, under a handle that was in
no register before, and its register still holds that handle when the session ends.
-/

import SourceDiagnostics.Proofs.Failure.Step

namespace SourceDiagnostics.Session

variable {session : Session} {directory : Path}

/-- The notes that steps add, one after the other, to the report under a handle. -/
def notesOver (session : Session) (directory : Path) (handle : Handle) : List Step → List Note
  | [] => []
  | step :: later =>
    session.notesFor handle step ++
      notesOver (session.step directory step).1 directory handle later

theorem sound_empty : ({} : Session).Sound where
  store := Store.sound_empty
  registers := fun _ _ held => absurd held nofun

theorem sound_step (sound : session.Sound) (directory : Path) (step : Step) :
    (session.step directory step).1.Sound :=
  (effect_step sound directory step).sound sound

theorem sound_run (sound : session.Sound) (directory : Path) (steps : List Step) :
    (session.run directory steps).Sound := by
  induction steps generalizing session with
  | nil => exact sound
  | cons step later ih => exact ih (sound_step sound directory step)

/-- A failure stays under its handle and grows by the notes that are meant for it. -/
theorem get?_step_of_some (sound : session.Sound) (directory : Path) (step : Step) {handle : Handle}
    {failure : Failure} (held : session.store.get? handle = some failure) :
    (session.step directory step).1.store.get? handle =
      some (failure.addNotes (session.notesFor handle step)) := by
  rw [(effect_step sound directory step).get? sound, held,
    if_neg (Nat.ne_of_lt (Store.lt_of_get? held)), Option.map_some]

/-- So it does over any number of steps. -/
theorem get?_run_of_some (sound : session.Sound) (directory : Path) (steps : List Step)
    {handle : Handle} {failure : Failure} (held : session.store.get? handle = some failure) :
    (session.run directory steps).store.get? handle =
      some (failure.addNotes (session.notesOver directory handle steps)) := by
  induction steps generalizing session failure with
  | nil => rw [notesOver, Failure.addNotes_nil, ← held, run, List.foldl_nil]
  | cons step later ih =>
      have next := ih (sound_step sound directory step) (get?_step_of_some sound directory step held)
      rw [notesOver, Failure.addNotes_append, ← next]
      rfl

/-- A failure that was not there before a run was made by one of its steps. -/
theorem exists_made?_of_get?_run (sound : session.Sound) (directory : Path) {steps : List Step}
    {handle : Handle} {failure : Failure} (unseen : session.store.get? handle = none)
    (held : (session.run directory steps).store.get? handle = some failure) :
    ∃ before birth later original, steps = before ++ birth :: later ∧
      (session.run directory before).made? birth = some original ∧
      handle = (session.run directory before).store.failures.length ∧
      failure = original.addNotes
        (((session.run directory before).step directory birth).1.notesOver directory handle later) := by
  induction steps generalizing session with
  | nil =>
      rw [run, List.foldl_nil, unseen] at held
      exact absurd held nofun
  | cons step later ih =>
      have next := sound_step sound directory step
      cases seen : (session.step directory step).1.store.get? handle with
      | none =>
          obtain ⟨before, birth, rest, original, split, made, fresh, grown⟩ := ih next seen held
          exact ⟨step :: before, birth, rest, original, congrArg (step :: ·) split, made, fresh, grown⟩
      | some original =>
          -- The handle is the fresh one, or nothing would be seen under it.
          have made := (effect_step sound directory step).get? sound handle
          rw [seen, unseen] at made
          split at made
          · rename_i fresh
            have grown := get?_run_of_some next directory later seen
            exact ⟨[], step, later, original, rfl, made.symm, fresh,
              Option.some.inj (held.symm.trans grown)⟩
          · exact absurd made nofun

/-- The handle that a step results in: a fresh one if it makes a failure, and that of
the report if it adds a note. -/
def result? (session : Session) (step : Step) : Option Handle :=
  if (session.made? step).isSome then some session.store.failures.length
  else (session.noted? step).map Prod.fst

theorem result?_of_made? {step : Step} {failure : Failure}
    (making : session.made? step = some failure) :
    session.result? step = some session.store.failures.length := by
  rw [result?, making]
  rfl

/-- A step puts what it results in behind the registers that are there. -/
theorem registers_step (sound : session.Sound) (directory : Path) (step : Step) :
    (session.step directory step).1.registers = session.registers ++ [session.result? step] := by
  have effect := effect_step sound directory step
  generalize (session.step directory step).1 = next at effect
  cases effect with
  | silent making noting => rw [pass, result?, making, noting]; rfl
  | noted making noting present => rw [record, result?, making, noting]; rfl
  | made making noting => rw [record, Store.insert_snd, result?, making]; rfl

/-- Registers that are there keep what they hold. -/
theorem exists_registers_run (sound : session.Sound) (directory : Path) (steps : List Step) :
    ∃ results, results.length = steps.length ∧
      (session.run directory steps).registers = session.registers ++ results := by
  induction steps generalizing session with
  | nil => exact ⟨[], rfl, (List.append_nil _).symm⟩
  | cons step later ih =>
      obtain ⟨results, length, registers⟩ := ih (sound_step sound directory step)
      refine ⟨session.result? step :: results, congrArg (· + 1) length, ?_⟩
      rw [registers_step sound, List.append_assoc] at registers
      exact registers

/-- The register of a step is the one of its number, whatever is done later. -/
theorem handle?_length (directory : Path) (before : List Step) (step : Step) (later : List Step) :
    (({} : Session).run directory (before ++ step :: later)).handle? before.length =
      (({} : Session).run directory before).result? step := by
  have sound := sound_run sound_empty directory before
  obtain ⟨earlier, length, registers⟩ := exists_registers_run sound_empty directory before
  obtain ⟨results, _, after⟩ :=
    exists_registers_run (sound_step sound directory step) directory later
  rw [registers_step sound, registers] at after
  have whole : (({} : Session).run directory (before ++ step :: later)).registers =
      earlier ++ (({} : Session).run directory before).result? step :: results := by
    rw [run, List.foldl_append]
    simpa [run] using after
  rw [handle?, whole, ← length, List.getElem?_append_right (Nat.le_refl _), Nat.sub_self]
  rfl

/-- The life of a report in a session that took steps before its birth and later
ones after it. The step of its birth put it under a handle that was not in use. -/
structure Life (directory : Path) (before : List Step) (birth : Step) (later : List Step)
    (handle : Handle) (original report : Report) : Prop where
  made : (({} : Session).run directory before).made? birth = some (.report original)
  fresh : handle = (({} : Session).run directory before).store.failures.length
  result : ((({} : Session).run directory before).step directory birth).1.registers =
    (({} : Session).run directory before).registers ++ [some handle]
  /-- Later steps added the notes that were meant for it and left the rest alone. -/
  grown : report =
    { original with
      diagnostic.notes := original.diagnostic.notes ++
        ((({} : Session).run directory before).step directory birth).1.notesOver directory handle later }
  /-- No other report keeps its notes in the same list. -/
  unshared : ∀ other list,
    (({} : Session).run directory (before ++ birth :: later)).store.list? handle = some list →
    (({} : Session).run directory (before ++ birth :: later)).store.list? other = some list →
    other = handle
  /-- It has no cause, or it was promoted from a foreign failure, which is still what
  it was, and took its message over. -/
  cause : ∀ cause, report.cause = some cause → ∃ target place message origin,
    birth = .perform (.wrap target place message) ∧
    (({} : Session).run directory before).handle? target = some cause ∧
    (({} : Session).run directory before).store.get? cause = some (.foreign origin) ∧
    (({} : Session).run directory (before ++ birth :: later)).store.get? cause =
      some (.foreign origin) ∧
    report.diagnostic.message = origin.message

/-- Every report of a session has a life. -/
theorem exists_life (directory : Path) {steps : List Step} {handle : Handle}
    {report : Report}
    (held : (({} : Session).run directory steps).store.report? handle = some report) :
    ∃ before birth later original, steps = before ++ birth :: later ∧
      Life directory before birth later handle original report := by
  obtain ⟨before, birth, later, failure, rfl, made, fresh, grown⟩ :=
    exists_made?_of_get?_run sound_empty directory rfl (Store.report?_eq_some_iff.mp held)
  have earlier := sound_run sound_empty directory before
  cases failure with
  | foreign arisen => exact absurd grown nofun
  | report original =>
      obtain rfl := Failure.report.inj grown
      refine ⟨before, birth, later, original, rfl, made, fresh, ?_, rfl, ?_, ?_⟩
      · rw [registers_step earlier, result?_of_made? made, fresh]
      · intro other list named shared
        exact (sound_run sound_empty directory _).store.separate other handle list shared named
      · intro cause caused
        obtain ⟨target, place, added, origin, wrapped, there, foreign, message⟩ :=
          wrap_of_cause earlier made caused
        have kept := get?_run_of_some earlier directory (birth :: later) foreign
        refine ⟨target, place, added, origin, wrapped, there, foreign, ?_, message⟩
        rw [run, List.foldl_append]
        exact kept

/-- What a failure that a step made is when later steps have been taken. No register held it
before, that of its step holds it still, and it is what it was made as, with the notes that
were meant for it. -/
structure Lasts (directory : Path) (before : List Step) (birth : Step) (later : List Step)
    (original : Failure) : Prop where
  unused : ∀ register, (({} : Session).run directory before).handle? register ≠
    some (({} : Session).run directory before).store.failures.length
  held : (({} : Session).run directory (before ++ birth :: later)).handle? before.length =
    some (({} : Session).run directory before).store.failures.length
  grown : (({} : Session).run directory (before ++ birth :: later)).store.get?
      (({} : Session).run directory before).store.failures.length =
    some (original.addNotes
      (((({} : Session).run directory before).step directory birth).1.notesOver directory
        (({} : Session).run directory before).store.failures.length later))

private theorem lasts_of_made? (directory : Path) {before : List Step} {birth : Step}
    (later : List Step)
    {original : Failure}
    (making : (({} : Session).run directory before).made? birth = some original) :
    Lasts directory before birth later original := by
  have sound := sound_run sound_empty directory before
  constructor
  · intro register held
    exact Nat.lt_irrefl _ (sound.registers register _ held)
  · rw [handle?_length, result?_of_made? making]
  · have born : ((({} : Session).run directory before).step directory birth).1.store.get?
        (({} : Session).run directory before).store.failures.length = some original := by
      rw [(effect_step sound directory birth).get? sound, if_pos rfl, making]
    rw [run, List.foldl_append]
    exact get?_run_of_some (sound_step sound directory birth) directory later born

/-- Whatever a session does, a report is what it was made as and one note for each
later step that was aimed at it. Each step has a register of its own: that of one that
makes a failure holds the fresh object, that of one that adds a note the report it adds
it to, and that of any other nothing. -/
theorem exists_life_of_report (directory : Path) (steps : List Step) :
    (∀ handle report,
      (({} : Session).run directory steps).store.report? handle = some report →
      ∃ before birth later original, steps = before ++ birth :: later ∧
        Life directory before birth later handle original report) ∧
    ∀ before step later, steps = before ++ step :: later →
      (({} : Session).run directory steps).handle? before.length =
        (({} : Session).run directory before).result? step ∧
      ∀ original, (({} : Session).run directory before).made? step = some original →
        Lasts directory before step later original := by
  constructor
  · intro handle report held
    exact exists_life directory held
  · rintro before step later rfl
    exact ⟨handle?_length directory before step later, fun _ => lasts_of_made? directory later⟩

/-- A failure of other code is promoted, and the promotion is copied and said again about
another place. Then it gets a note through each of its two registers, and the copy and the
relocation get one each. -/
def promotedAndCopied : List Step :=
  [.perform (.foreign (.general "ValueError".toList [.text "bad digit".toList])),
    .perform (.wrap 0 .nowhere "in a number".toList),
    .perform (.duplicate 1),
    .perform (.wrap 1 (.point .unknown) "in a list".toList),
    .look (.messages 2),
    .perform (.note 2 ⟨"of the copy".toList, none⟩),
    .perform (.relocate 3 (.point .unknown)),
    .perform (.note 3 ⟨"in a table".toList, none⟩),
    .perform (.note 6 ⟨"elsewhere".toList, none⟩)]

/-- Promotion and copy share the first note, and none of the later ones. The relocation
begins without notes, in the register of its step and in that of its note. -/
theorem exists_life_of_promotedAndCopied :
    let steps := promotedAndCopied
    let last := ({} : Session).run .top steps
    ∃ promotion copied relocated,
      last.store.report? 1 = some promotion ∧ last.store.report? 2 = some copied ∧
      last.store.report? 3 = some relocated ∧
      promotion.diagnostic.notes.map Note.message =
        ["in a number".toList, "in a list".toList, "in a table".toList] ∧
      copied.diagnostic.notes.map Note.message = ["in a number".toList, "of the copy".toList] ∧
      relocated.diagnostic.message = "bad digit".toList ∧
      relocated.diagnostic.notes.map Note.message = ["elsewhere".toList] ∧
      (∃ before birth later original, steps = before ++ birth :: later ∧
        Life .top before birth later 1 original promotion) ∧
      (∃ before birth later original, steps = before ++ birth :: later ∧
        Life .top before birth later 2 original copied) ∧
      (∃ before birth later original, steps = before ++ birth :: later ∧
        Life .top before birth later 3 original relocated) ∧
      last.handle? 6 = some 3 ∧ last.handle? 8 = some 3 ∧
      ∃ original, Lasts .top (steps.take 6) steps[6] (steps.drop 7) original := by
  intro steps last
  obtain ⟨lives, results⟩ := exists_life_of_report .top steps
  refine ⟨_, _, _, rfl, rfl, rfl, rfl, rfl, rfl, rfl, lives 1 _ rfl, lives 2 _ rfl, lives 3 _ rfl,
    ?_, ?_, ?_⟩
  · exact (results (steps.take 6) _ (steps.drop 7) rfl).1.trans rfl
  · exact (results (steps.take 8) _ (steps.drop 9) rfl).1.trans rfl
  · exact ⟨_, (results (steps.take 6) steps[6] (steps.drop 7) rfl).2 _ rfl⟩

end SourceDiagnostics.Session
