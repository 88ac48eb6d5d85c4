/-
# Remarks in turn

A failure is handed on from one part of a tool to the next, and each may remark on it:
say more about it, or say it again about another place. What it is in the end depends on
the order. A relocation forgets everything but the message, so only what comes behind the
last one counts. Without any, a report keeps growing notes, while a foreign failure is
promoted by the first remark, which then has no position of its own because it tells the
place of the report.

`Yields` states these rules for the whole of the remarks, and a remark in front of others
is shown to obey them. The rest is an induction on the remarks, which carries that the
session is sound and that the last result is a report.
-/

import SourceDiagnostics.Proofs.Failure.History

namespace SourceDiagnostics

/-- More that is said about a failure, and about which place. -/
structure Wrapping where
  place : Place
  message : Text

/-- The note that says it. It points to the place, or to the start of a range, and nowhere
if nothing is said about a place. -/
def Wrapping.note (wrapping : Wrapping) : Note :=
  match wrapping.place with
  | .nowhere => ⟨wrapping.message, none⟩
  | .point position => ⟨wrapping.message, some position⟩
  | .range start _ => ⟨wrapping.message, some start⟩

private theorem Wrapping.note_eq (wrapping : Wrapping) :
    wrapping.note = ⟨wrapping.message, wrapping.place.notePosition⟩ := by
  obtain ⟨place, message⟩ := wrapping
  cases place <;> rfl

/-- What a part of a tool does with a failure that it hands on. -/
inductive Remark where
  | wrap (wrapping : Wrapping)
  | relocate (place : Place)

namespace Remark

/-- The action on the failure in a register. -/
def action (target : Register) : Remark → Action
  | .wrap wrapping => .wrap target wrapping.place wrapping.message
  | .relocate place => .relocate target place

/-- The report that a remark on the failure under a handle results in. -/
def report (handle : Handle) (failure : Failure) : Remark → Report
  | .relocate place => { diagnostic := Diagnostic.ofPlace place failure.message }
  | .wrap wrapping =>
    match failure with
    | .report made => { made with diagnostic.notes := made.diagnostic.notes ++ [wrapping.note] }
    | .foreign arisen =>
      { diagnostic := (Diagnostic.ofPlace wrapping.place arisen.message).addNote
          ⟨wrapping.message, none⟩
        cause := some handle }

/-- What remarks on the failure under a handle yield: the report under another handle, or
under the same.

Behind a relocation, the report is about that place, and what is said since then are its
notes. Of what was before, the message is left. A report that is not relocated remains
itself and gets a note for each remark. A foreign failure is promoted by the first remark,
which tells where the report is and leaves a note without a position. -/
inductive Yields (handle : Handle) (failure : Failure) : List Remark → Handle → Report → Prop
  | relocated (earlier : List Remark) (place : Place) (later : List Wrapping) (result : Handle) :
    Yields handle failure (earlier ++ .relocate place :: later.map .wrap) result
      { diagnostic := ⟨place.start, place.stop, failure.message, later.map Wrapping.note⟩
        cause := none }
  | grown (original : Report) (same : failure = .report original) (wrappings : List Wrapping) :
    Yields handle failure (wrappings.map .wrap) handle
      { original with
        diagnostic.notes := original.diagnostic.notes ++ wrappings.map Wrapping.note }
  | promoted (arisen : Foreign) (same : failure = .foreign arisen) (first : Wrapping)
    (later : List Wrapping) (result : Handle) :
    Yields handle failure (.wrap first :: later.map .wrap) result
      { diagnostic := ⟨first.place.start, first.place.stop, arisen.message,
          ⟨first.message, none⟩ :: later.map Wrapping.note⟩
        cause := some handle }

variable {handle middle result : Handle} {failure : Failure} {remark : Remark}
  {remarks : List Remark} {yielded : Report}

/-- The message goes through all remarks. -/
theorem Yields.message (yields : Yields handle failure remarks result yielded) :
    yielded.diagnostic.message = failure.message := by
  cases yields with
  | relocated earlier place later result => rfl
  | grown original same wrappings =>
      rw [same]
      rfl
  | promoted arisen same first later result =>
      rw [same]
      rfl

private theorem message_report (handle : Handle) (failure : Failure) (remark : Remark) :
    (remark.report handle failure).diagnostic.message = failure.message := by
  cases failure <;> cases remark <;> rfl

/-- A remark in front of others. What the others yield is told by the report that it
results in, which is the same object if more is said about a report. -/
theorem Yields.cons
    (after : Yields middle (.report (remark.report handle failure)) remarks result yielded)
    (kept : ∀ wrapping original, remark = .wrap wrapping → failure = .report original →
      middle = handle) :
    Yields handle failure (remark :: remarks) result yielded := by
  cases after with
  | relocated earlier place later =>
      have message : (Failure.report (remark.report handle failure)).message = failure.message :=
        message_report handle failure remark
      rw [message]
      exact .relocated (remark :: earlier) place later result
  | promoted arisen same => exact absurd same nofun
  | grown original same wrappings =>
      obtain rfl := Failure.report.inj same
      cases remark with
      | relocate place => exact .relocated [] place wrappings middle
      | wrap first =>
          cases failure with
          | foreign arisen => exact .promoted arisen rfl first wrappings middle
          | report made =>
              obtain rfl := kept first made rfl rfl
              have grown : Yields middle (.report made) ((first :: wrappings).map .wrap) middle _ :=
                .grown made rfl (first :: wrappings)
              rwa [List.map_cons, List.map_cons, List.append_cons] at grown

end Remark

namespace Session

variable {session : Session} {directory : Path} {target : Register} {handle : Handle}
  {failure : Failure}

/-- Makes remarks in turn, the first on the failure in a register and each other on the
result of the one before. The answer names the register of the last result. -/
def remark (session : Session) (directory : Path) (target : Register) :
    List Remark → Session × Register
  | [] => (session, target)
  | next :: later =>
    (session.step directory (.perform (next.action target))).1.remark directory
      session.registers.length later

/-- The result of a step is in the register of its number. -/
theorem handle?_record_length (session : Session) (result : Store × Handle) :
    (session.record result).handle? session.registers.length = some result.2 := by
  rw [handle?_record, if_pos rfl]

/-- A fresh report is found under the handle that is recorded with it. -/
private theorem get?_record_insert (sound : session.Sound) (report : Report) :
    (session.record (session.store.insert (.report report))).store.get?
      (session.store.insert (.report report)).2 = some (.report report) := by
  rw [record, Store.get?_insert sound.store, if_pos (Store.insert_snd _ _)]

private theorem step_relocate (directory : Path) (held : session.handle? target = some handle)
    (there : session.store.get? handle = some failure) (place : Place) :
    (session.step directory (.perform (.relocate target place))).1 =
      session.record (session.store.insert (.report
        { diagnostic := Diagnostic.ofPlace place failure.message })) := by
  rw [step_perform, perform?, held]
  change session.record (session.store.relocate handle place) = _
  rw [Store.relocate, there, Option.map_some, Option.getD_some]

private theorem step_wrap_of_foreign (directory : Path) {arisen : Foreign}
    (held : session.handle? target = some handle)
    (there : session.store.get? handle = some (.foreign arisen)) (place : Place) (message : Text) :
    (session.step directory (.perform (.wrap target place message))).1 =
      session.record (session.store.insert (.report
        { diagnostic := (Diagnostic.ofPlace place arisen.message).addNote ⟨message, none⟩
          cause := some handle })) := by
  rw [step_perform, perform?, held]
  change session.record (session.store.wrap handle place message) = _
  rw [Store.wrap, there]

private theorem step_wrap_of_report (directory : Path) {made : Report}
    (held : session.handle? target = some handle)
    (there : session.store.get? handle = some (.report made)) (wrapping : Wrapping) :
    (session.step directory (.perform (.wrap target wrapping.place wrapping.message))).1 =
      session.record (session.store.addNote handle wrapping.note, handle) := by
  rw [step_perform, perform?, held]
  change session.record (session.store.wrap handle wrapping.place wrapping.message) = _
  rw [Store.wrap, there, wrapping.note_eq]

/-- A remark results in a report, which is the same object if more is said about a report. -/
theorem exists_report_of_remark (sound : session.Sound) (directory : Path)
    (held : session.handle? target = some handle)
    (there : session.store.get? handle = some failure) (remark : Remark) :
    let next := (session.step directory (.perform (remark.action target))).1
    ∃ result, next.handle? session.registers.length = some result ∧
      next.store.get? result = some (.report (remark.report handle failure)) ∧
      ∀ wrapping original, remark = .wrap wrapping → failure = .report original →
        result = handle := by
  intro next
  -- All remarks but one make a fresh report.
  have fresh (made : next = session.record
        (session.store.insert (.report (remark.report handle failure)))) :
      ∃ result, next.handle? session.registers.length = some result ∧
        next.store.get? result = some (.report (remark.report handle failure)) := by
    rw [made]
    exact ⟨_, handle?_record_length _ _, get?_record_insert sound _⟩
  cases remark with
  | relocate place =>
      obtain ⟨result, named, found⟩ := fresh (step_relocate directory held there place)
      exact ⟨result, named, found, fun _ _ said => by cases said⟩
  | wrap wrapping =>
      cases failure with
      | foreign arisen =>
          obtain ⟨result, named, found⟩ := fresh
            (step_wrap_of_foreign directory held there wrapping.place wrapping.message)
          exact ⟨result, named, found, fun _ _ _ same => by cases same⟩
      | report original =>
          have grown : next = session.record (session.store.addNote handle wrapping.note, handle) :=
            step_wrap_of_report directory held there wrapping
          refine ⟨handle, ?_, ?_, fun _ _ _ _ => rfl⟩
          · rw [grown, handle?_record_length]
          · rw [grown, record, Store.get?_addNote sound.store, if_pos rfl, there]
            rfl

/-- Remarks on a report yield a report. -/
theorem exists_yields_of_report (sound : session.Sound) (directory : Path) {original : Report}
    (held : session.handle? target = some handle)
    (there : session.store.get? handle = some (.report original)) (remarks : List Remark) :
    ∃ result report,
      (session.remark directory target remarks).1.handle?
        (session.remark directory target remarks).2 = some result ∧
      (session.remark directory target remarks).1.store.get? result = some (.report report) ∧
      Remark.Yields handle (.report original) remarks result report := by
  induction remarks generalizing session target handle original with
  | nil =>
      have unchanged : Remark.Yields handle (.report original) [] handle _ := .grown original rfl []
      rw [List.map_nil, List.append_nil] at unchanged
      exact ⟨handle, original, held, there, unchanged⟩
  | cons next later ih =>
      obtain ⟨middle, result, made, kept⟩ :=
        exists_report_of_remark sound directory held there next
      obtain ⟨last, report, named, found, yields⟩ :=
        ih (sound_step sound directory _) result made
      exact ⟨last, report, named, found, yields.cons kept⟩

/-- A foreign failure is still what it was after remarks. -/
theorem get?_remark_of_foreign (sound : session.Sound) (directory : Path) (target : Register)
    {arisen : Foreign} (there : session.store.get? handle = some (.foreign arisen))
    (remarks : List Remark) :
    (session.remark directory target remarks).1.store.get? handle = some (.foreign arisen) := by
  induction remarks generalizing session target with
  | nil => exact there
  | cons next later ih =>
      exact ih (sound_step sound directory _) _ (get?_step_of_some sound directory _ there)

/-- What remarks in turn yield. In any session that is reached from the empty one, they are
made on the failure in a register. Then the last result is a report, and it says what the
failure says, whatever the remarks. Its place, its notes and its cause are those that the
rules of `Yields` tell, and a foreign failure that is its cause is still what it was. -/
theorem exists_yields_of_remarks {before : List Step} {directory : Path} {target : Register}
    {handle : Handle} {failure : Failure}
    (held : (({} : Session).run directory before).handle? target = some handle)
    (there : (({} : Session).run directory before).store.get? handle = some failure)
    {remarks : List Remark} (nonempty : remarks ≠ []) :
    let last := (({} : Session).run directory before).remark directory target remarks
    ∃ result report,
      last.1.handle? last.2 = some result ∧ last.1.store.get? result = some (.report report) ∧
      report.diagnostic.message = failure.message ∧
      Remark.Yields handle failure remarks result report ∧
      ∀ arisen, failure = .foreign arisen → last.1.store.get? handle = some (.foreign arisen) := by
  have sound := sound_run sound_empty directory before
  obtain ⟨next, later, rfl⟩ := List.exists_cons_of_ne_nil nonempty
  obtain ⟨middle, named, made, kept⟩ := exists_report_of_remark sound directory held there next
  obtain ⟨result, report, last, found, after⟩ :=
    exists_yields_of_report (sound_step sound directory _) directory named made later
  have yields := after.cons kept
  refine ⟨result, report, last, found, yields.message, yields, ?_⟩
  rintro arisen rfl
  exact get?_remark_of_foreign sound directory target there (next :: later)

/-- A relocation between wrappings: what was said before it is gone, and so is the cause. -/
theorem exists_yields_of_relocation_between :
    let arisen : Foreign := .general "ValueError".toList [.text "bad digit".toList]
    let before : List Step := [.perform (.foreign arisen)]
    let remarks : List Remark :=
      [.wrap ⟨.point .unknown, "in a number".toList⟩, .relocate (.point .unknown),
        .wrap ⟨.nowhere, "in a list".toList⟩, .wrap ⟨.range .unknown .unknown, "in a table".toList⟩]
    let last := (({} : Session).run .top before).remark .top 0 remarks
    let report : Report :=
      { diagnostic := ⟨.unknown, none, "bad digit".toList,
          [⟨"in a list".toList, none⟩, ⟨"in a table".toList, some .unknown⟩]⟩ }
    (({} : Session).run .top before).handle? 0 = some 0 ∧
      (({} : Session).run .top before).store.get? 0 = some (.foreign arisen) ∧
      last.1.handle? last.2 = some 2 ∧ last.1.store.get? 2 = some (.report report) ∧
      report.diagnostic.message = (Failure.foreign arisen).message ∧
      Remark.Yields 0 (.foreign arisen) remarks 2 report := by
  intro arisen before remarks last report
  have held : (({} : Session).run .top before).handle? 0 = some 0 := rfl
  have there : (({} : Session).run .top before).store.get? 0 = some (.foreign arisen) := rfl
  have named : last.1.handle? last.2 = some 2 := by decide +kernel
  have found : last.1.store.get? 2 = some (.report report) := by decide +kernel
  obtain ⟨result, yielded, named', found', message, yields, _⟩ :=
    exists_yields_of_remarks held there (List.cons_ne_nil _ _ : remarks ≠ [])
  obtain rfl := Option.some.inj (named.symm.trans named')
  obtain rfl := Failure.report.inj (Option.some.inj (found.symm.trans found'))
  exact ⟨held, there, named, found, message, yields⟩

end Session

end SourceDiagnostics
