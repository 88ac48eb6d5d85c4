/-
# What a step does to the failures

There are many kinds of steps, but at most one thing comes of each: a failure is
made, or a report gets a note. Which of the two it is depends on what the registers
hold when the step is taken. Wrapping goes either way: it adds a note to a report
and promotes anything else.

`made?` and `noted?` say what comes of a step, looking only at what the registers
hold, and the results below are that stepping does just that. Both are read from
the failures as they are seen, so they say nothing about lists and where they are
kept. Every session that is reached from the empty one is sound, which is what
keeps a handle in a register from pointing to nothing.
-/

import SourceDiagnostics.Failure.Step
import SourceDiagnostics.Proofs.Failure.Store

namespace SourceDiagnostics

/-- A failure as a copy has it. A copied report has no cause. -/
def Failure.copy : Failure → Failure
  | .foreign arisen => .foreign arisen
  | .report made => .report { made with cause := none }

namespace Session

/-- The store is sound, and the handles in registers are those of its failures. -/
structure Sound (session : Session) : Prop where
  store : session.store.Sound
  /-- A register holds a failure or nothing. -/
  registers : ∀ register handle, session.handle? register = some handle →
    handle < session.store.failures.length

variable (session : Session)

/-- The handle of the report in a register. -/
def reportHandle? (register : Register) : Option Handle :=
  (session.handle? register).filter fun handle => (session.store.report? handle).isSome

/-- What the failure in a register says. -/
def message (register : Register) : Text :=
  ((session.failure? register).map Failure.message).getD Description.absent

/-- The failure that a step makes. -/
def made? : Step → Option Failure
  | .perform (.foreign failure) => some (.foreign failure)
  | .perform (.report kind diagnostic) =>
    some (.report { kind := kind, diagnostic := diagnostic })
  | .perform (.reportWithNotesOf kind diagnostic donor) =>
    (session.report? donor).map fun report => .report
      { kind := kind, diagnostic := { diagnostic with notes := report.diagnostic.notes } }
  | .perform (.note _ _) => none
  | .perform (.wrap target place message) =>
    match session.report? target with
    | some _ => none
    | none => some (.report
      { diagnostic := (Diagnostic.ofPlace place (session.message target)).addNote ⟨message, none⟩
        cause := session.handle? target })
  | .perform (.relocate target place) =>
    some (.report { diagnostic := Diagnostic.ofPlace place (session.message target) })
  | .perform (.duplicate target) => (session.failure? target).map Failure.copy
  | .look _ => none

/-- The note that a step adds and the report that it adds it to. -/
def noted? : Step → Option (Handle × Note)
  | .perform (.note target note) => (session.reportHandle? target).map (·, note)
  | .perform (.wrap target place message) =>
    (session.reportHandle? target).map (·, ⟨message, place.notePosition⟩)
  | _ => none

/-- The notes that a step adds to the report under a handle: one or none. -/
def notesFor (handle : Handle) (step : Step) : List Note :=
  match session.noted? step with
  | some (target, note) => if handle = target then [note] else []
  | none => []

/-- What may come of a step: nothing, a report that gets a note, or a failure that is made. The
latter two are its result. -/
inductive Effect (step : Step) : Session → Prop where
  | silent (making : session.made? step = none) (noting : session.noted? step = none) :
    Effect step session.pass
  | noted {handle : Handle} {note : Note} (making : session.made? step = none)
    (noting : session.noted? step = some (handle, note))
    (present : handle < session.store.failures.length) :
    Effect step (session.record (session.store.addNote handle note, handle))
  | made {failure : Failure} (making : session.made? step = some failure)
    (noting : session.noted? step = none) :
    Effect step (session.record (session.store.insert failure))

variable {session}

theorem failure?_of_handle? {register : Register} {handle : Handle}
    (held : session.handle? register = some handle) :
    session.failure? register = session.store.get? handle := by
  rw [failure?, held, Option.bind_some]

theorem report?_of_handle? {register : Register} {handle : Handle}
    (held : session.handle? register = some handle) :
    session.report? register = session.store.report? handle := by
  rw [report?, held, Option.bind_some]

theorem reportHandle?_of_handle? {register : Register} {handle : Handle}
    (held : session.handle? register = some handle) :
    session.reportHandle? register =
      if (session.store.report? handle).isSome then some handle else none := by
  rw [reportHandle?, held, Option.filter_some]

theorem Sound.exists_failure (sound : session.Sound) {register : Register} {handle : Handle}
    (held : session.handle? register = some handle) :
    ∃ failure, session.store.get? handle = some failure :=
  Option.ne_none_iff_exists'.mp (Store.get?_ne_none (sound.registers register handle held))

theorem step_perform (session : Session) (directory : Path) (action : Action) :
    (session.step directory (.perform action)).1 = (session.perform? action).getD session.pass := rfl

/-- Wrapping a report adds a note to it, and anything else is promoted. -/
private theorem effect_wrap (sound : session.Sound) (directory : Path) (target : Register)
    (place : Place)
    (message : Text) :
    session.Effect (.perform (.wrap target place message))
      (session.step directory (.perform (.wrap target place message))).1 := by
  rw [step_perform, perform?]
  cases held : session.handle? target with
  | none =>
      apply Effect.made
      · simp only [made?, report?, Session.message, failure?, held, Option.bind_none]
        rfl
      · rw [noted?, reportHandle?, held]
        rfl
  | some handle =>
      change session.Effect _ (session.record (session.store.wrap handle place message))
      obtain ⟨failure, there⟩ := sound.exists_failure held
      rw [Store.wrap, there]
      cases failure with
      | foreign arisen =>
          have foreign : session.store.report? handle = none := by
            rw [Store.report?, there]
          apply Effect.made
          · simp only [made?, report?_of_handle? held, foreign, Session.message,
              failure?_of_handle? held, there, held]
            rfl
          · rw [noted?, reportHandle?_of_handle? held, foreign]
            rfl
      | report made =>
          have found : session.store.report? handle = some made := by
            rw [Store.report?, there]
          apply Effect.noted
          · simp only [made?, report?_of_handle? held, found]
          · rw [noted?, reportHandle?_of_handle? held, found]
            rfl
          · exact sound.registers target handle held

/-- Copying makes a failure when there is one to copy. -/
private theorem effect_duplicate (sound : session.Sound) (directory : Path) (target : Register) :
    session.Effect (.perform (.duplicate target))
      (session.step directory (.perform (.duplicate target))).1 := by
  rw [step_perform, perform?]
  cases held : session.handle? target with
  | none =>
      refine .silent ?_ rfl
      rw [made?, failure?, held, Option.bind_none, Option.map_none]
  | some handle =>
      change session.Effect _ (session.record (session.store.duplicate handle))
      obtain ⟨failure, there⟩ := sound.exists_failure held
      have making : session.made? (.perform (.duplicate target)) = some failure.copy := by
        rw [made?, failure?_of_handle? held, there, Option.map_some]
      rw [Store.duplicate, there]
      cases failure with
      | foreign arisen => exact .made making rfl
      | report made => exact .made making rfl

/-- A step does what `made?` and `noted?` say, and nothing else. -/
theorem effect_step (sound : session.Sound) (directory : Path) (step : Step) :
    session.Effect step (session.step directory step).1 := by
  cases step with
  | look view => exact .silent rfl rfl
  | perform action =>
      cases action with
      | foreign failure => exact .made rfl rfl
      | report kind diagnostic => exact .made rfl rfl
      | reportWithNotesOf kind diagnostic donor =>
          rw [step_perform, perform?]
          cases held : session.report? donor with
          | none => exact .silent (by rw [made?, held, Option.map_none]) rfl
          | some report => exact .made (by rw [made?, held, Option.map_some]) rfl
      | note target note =>
          rw [step_perform, perform?]
          cases held : session.handle? target with
          | none => exact .silent rfl (by rw [noted?, reportHandle?, held]; rfl)
          | some handle =>
              change session.Effect _ (((session.store.report? handle).bind fun _ =>
                some (session.record (session.store.addNote handle note, handle))).getD session.pass)
              cases found : session.store.report? handle with
              | none =>
                  apply Effect.silent rfl
                  rw [noted?, reportHandle?_of_handle? held, found]
                  rfl
              | some report =>
                  refine .noted rfl ?_ (sound.registers target handle held)
                  rw [noted?, reportHandle?_of_handle? held, found]
                  rfl
      | wrap target place message => exact effect_wrap sound directory target place message
      | relocate target place =>
          rw [step_perform, perform?]
          cases held : session.handle? target with
          | none =>
              refine .made ?_ rfl
              rw [made?, Session.message, failure?, held]
              rfl
          | some handle =>
              change session.Effect _ (session.record (session.store.relocate handle place))
              obtain ⟨failure, there⟩ := sound.exists_failure held
              rw [Store.relocate, there]
              refine .made ?_ rfl
              rw [made?, Session.message, failure?_of_handle? held, there]
              rfl
      | duplicate target => exact effect_duplicate sound directory target

/-- Only wrapping gives a report a cause: the foreign failure that was wrapped,
whose message the report took over. -/
theorem wrap_of_cause (sound : session.Sound) {step : Step} {report : Report} {cause : Handle}
    (making : session.made? step = some (.report report)) (caused : report.cause = some cause) :
    ∃ target place message origin, step = .perform (.wrap target place message) ∧
      session.handle? target = some cause ∧ session.store.get? cause = some (.foreign origin) ∧
      report.diagnostic.message = origin.message := by
  cases step with
  | look view => exact absurd making nofun
  | perform action =>
      cases action with
      | foreign failure => exact absurd making nofun
      | report kind diagnostic =>
          obtain rfl := Failure.report.inj (Option.some.inj making)
          exact absurd caused nofun
      | reportWithNotesOf kind diagnostic donor =>
          obtain ⟨donated, held, same⟩ := Option.map_eq_some_iff.mp making
          obtain rfl := Failure.report.inj same
          exact absurd caused nofun
      | note target note => exact absurd making nofun
      | relocate target place =>
          obtain rfl := Failure.report.inj (Option.some.inj making)
          exact absurd caused nofun
      | duplicate target =>
          obtain ⟨failure, held, same⟩ := Option.map_eq_some_iff.mp making
          cases failure with
          | foreign arisen => exact absurd same nofun
          | report made =>
              obtain rfl := Failure.report.inj same
              exact absurd caused nofun
      | wrap target place message =>
          rw [made?] at making
          split at making
          · exact absurd making nofun
          · rename_i unreported
            obtain rfl := Failure.report.inj (Option.some.inj making)
            change session.handle? target = some cause at caused
            rw [report?_of_handle? caused] at unreported
            obtain ⟨failure, there⟩ := sound.exists_failure caused
            cases failure with
            | report made =>
                rw [Store.report?_eq_some_iff.mpr there] at unreported
                exact absurd unreported nofun
            | foreign origin =>
                refine ⟨target, place, message, origin, rfl, caused, there, ?_⟩
                change session.message target = origin.message
                rw [Session.message, failure?_of_handle? caused, there]
                rfl

theorem handle?_record (session : Session) (result : Store × Handle) (register : Register) :
    (session.record result).handle? register =
      if register = session.registers.length then some result.2 else session.handle? register := by
  rw [handle?, record, Store.getElem?_concat]
  split
  · rfl
  · rfl

private theorem handle?_pass (session : Session) (register : Register) :
    session.pass.handle? register =
      if register = session.registers.length then none else session.handle? register := by
  rw [handle?, pass, Store.getElem?_concat]
  split
  · rfl
  · rfl

/-- Whatever comes of a step, the session stays sound. -/
theorem Effect.sound {step : Step} {next : Session} (effect : session.Effect step next)
    (sound : session.Sound) : next.Sound := by
  cases effect with
  | silent making noting =>
      constructor
      · exact sound.store
      · intro register handle held
        rw [handle?_pass] at held
        split at held
        · exact absurd held nofun
        · exact sound.registers register handle held
  | noted making noting present =>
      constructor
      · exact Store.sound_addNote sound.store _ _
      · intro register handle held
        change handle < (session.store.addNote _ _).failures.length
        rw [Store.failures_addNote]
        rw [handle?_record] at held
        split at held
        · rwa [← Option.some.inj held]
        · exact sound.registers register handle held
  | made making noting =>
      constructor
      · apply Store.sound_insert sound.store
        rintro report cause rfl caused
        obtain ⟨_, _, _, origin, _, _, there, _⟩ := wrap_of_cause sound making caused
        exact ⟨origin, there⟩
      · intro register handle held
        change handle < (session.store.insert _).1.failures.length
        rw [Store.length_failures_insert]
        rw [handle?_record, Store.insert_snd] at held
        split at held
        · rw [← Option.some.inj held]
          exact Nat.lt_succ_self _
        · exact Nat.lt_succ_of_lt (sound.registers register handle held)

/-- What is seen under a handle after a step: what the step made, if the handle is
the fresh one, and else what was seen before with the notes added by the step. -/
theorem Effect.get? {step : Step} {next : Session} (effect : session.Effect step next)
    (sound : session.Sound) (handle : Handle) :
    next.store.get? handle =
      if handle = session.store.failures.length then session.made? step
      else (session.store.get? handle).map (·.addNotes (session.notesFor handle step)) := by
  have unseen : session.store.get? session.store.failures.length = none :=
    Store.get?_of_length_le (Nat.le_refl _)
  cases effect with
  | silent making noting =>
      change session.store.get? handle = _
      rw [notesFor, noting]
      split
      · rename_i fresh
        rw [fresh, unseen, making]
      · simp
  | noted making noting present =>
      rename_i target note
      change (session.store.addNote target note).get? handle = _
      rw [Store.get?_addNote sound.store, notesFor, noting]
      by_cases fresh : handle = session.store.failures.length
      · have elsewhere : session.store.failures.length ≠ target := (Nat.ne_of_lt present).symm
        rw [if_pos fresh, fresh, if_neg elsewhere, unseen, making]
      · rw [if_neg fresh]
        by_cases same : handle = target
        · simp [same]
        · simp [same]
  | made making noting =>
      rename_i failure
      change (session.store.insert failure).1.get? handle = _
      rw [Store.get?_insert sound.store, notesFor, noting, making]
      simp

end Session

end SourceDiagnostics
