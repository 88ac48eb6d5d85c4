/-
# Steps of a session

A step of a session does something to failures or looks at them. Looking answers
with what a tool shows: the text of a failure, the messages, the excerpt and the
layout of a report, reports written out by a renderer, or what an editor is told.
Only the text can be asked of every register; the rest is what reports have.

A step that looks makes nothing, and neither does one that cannot be performed.
Both leave their register empty.
-/

import SourceDiagnostics.Failure.Session
import SourceDiagnostics.LanguageServer

namespace SourceDiagnostics

/-- What is looked at. Paths in a layout are shortened against a directory, which is the
working directory when none is given. -/
inductive View where
  | text (target : Register)
  | messages (target : Register)
  | excerpt (target : Register)
  | segments (target : Register) (base : Option Path)
  | rendering (renderer : Renderer) (targets : List Register)
  | editorMessage (target : Register) (tool : Text)

namespace View

/-- What looking answers with. -/
inductive Answer where
  | text (text : Text)
  | texts (texts : List Text)
  | excerpt (excerpt : Excerpt)
  | segments (segments : List Segment)
  | editorMessage (message : LanguageServer.Message)

/-- Why there is nothing to be seen. -/
inductive Fault where
  | noReport (register : Register)
  | editor (fault : LanguageServer.Fault)
  | numeral (fault : Text.NumeralFault)

end View

/-- A step of a session. -/
inductive Step where
  | perform (action : Action)
  | look (view : View)

namespace Session

/-- The diagnostic of the report in a register. -/
def diagnostic (session : Session) (register : Register) : Except View.Fault Diagnostic :=
  match session.report? register with
  | some report => .ok report.diagnostic
  | none => .error (.noReport register)

/-- What a register holds, as one text. -/
def text (session : Session) (directory : Path) (register : Register) :
    Except Text.NumeralFault Text :=
  match session.failure? register with
  | some (.foreign failure) => .ok failure.message
  | some (.report report) => report.diagnostic.text directory
  | none => .ok Description.absent

/-- What looking shows in a working directory. -/
def look (session : Session) (directory : Path) : View → Except View.Fault View.Answer
  | .text target => do return .text (← (session.text directory target).mapError .numeral)
  | .messages target => do return .texts (← session.diagnostic target).messages
  | .excerpt target => do return .excerpt (← session.diagnostic target).excerpt
  | .segments target base => do
    let diagnostic ← session.diagnostic target
    return .segments (← (diagnostic.segments (base.getD directory)).mapError .numeral)
  | .rendering renderer targets => do
    let texts ← targets.mapM fun target => do
      (renderer.render directory (← session.diagnostic target)).mapError .numeral
    return .text texts.flatten
  | .editorMessage target tool => do
    let diagnostic ← session.diagnostic target
    return .editorMessage (← (LanguageServer.message directory diagnostic tool).mapError .editor)

/-- Takes a step in a working directory. The answer is that of a step that
looks. -/
def step (session : Session) (directory : Path) :
    Step → Session × Option (Except View.Fault View.Answer)
  | .perform action => ((session.perform? action).getD session.pass, none)
  | .look view => (session.pass, some (session.look directory view))

/-- Takes steps one after the other. -/
def run (session : Session) (directory : Path) (steps : List Step) : Session :=
  steps.foldl (fun session step => (session.step directory step).1) session

end Session

end SourceDiagnostics
