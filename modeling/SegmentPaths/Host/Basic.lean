/-
What a program may ask of the machine it runs on: files, standard input and
environment variables.  The answers come in a monad, so that the same program
runs on a real machine and on one that is only described.
-/
import SegmentPaths.Settings.Template

namespace SegmentPaths

/-- Why a file cannot be read: nothing is there, or what is there is no text. -/
inductive FileFailure
  | missing (reason : String)
  | unreadable (reason : String)
deriving DecidableEq

def FileFailure.reason : FileFailure → String
  | .missing reason => reason
  | .unreadable reason => reason

/-- The text of a file or the reason why there is none. -/
abbrev FileText := Except FileFailure String

structure Host (m : Type → Type) where
  file : String → m FileText
  input : m FileText
  setting : String → m (Option String)

/-- The text that bytes spell in UTF-8. -/
def FileText.ofBytes (bytes : ByteArray) : FileText :=
  match String.fromUTF8? bytes with
  | some source => .ok source
  | none => .error (.unreadable "stream did not contain valid UTF-8")

/-- The environment of a template: the values of the variables in it. -/
def Host.environmentOf {m : Type → Type} [Monad m] (host : Host m) (source : String) :
    m Environment := do
  let names := (Template.parts source).filterMap TemplatePart.name?
  let found ← names.mapM (fun name => do pure (name, ← host.setting name))
  pure (fun name => (found.lookup name).join)

end SegmentPaths
