import TypeScriptGen.Proofs.ConfigRoundTrip
import TypeScriptGen.Proofs.Json.Extent

/-!
What the file of a configuration holds after a save, whatever the slots hold, whatever was in the
file and however the system takes what is written. The file is emptied before the first character is
written, so a slot without a JSON form costs what was there, and so does a system that has no room
left: only a file that cannot be opened keeps its content.
-/

set_option autoImplicit false
set_option relaxedAutoImplicit false

namespace TypeScriptGen

namespace Files

variable {f f' : Files} {path : String} {place : List String}

end Files

namespace Host

theorem directories_handle (severity : LogSeverity) (line : String) (f : Files)
    (handler : LogHandler) : (handle severity line f handler).directories = f.directories := by
  cases handler with
  | console threshold => rfl
  | file threshold place =>
    change (if threshold ≤ severity.number then _ else f).directories = _
    split <;> rfl

theorem directories_logged (h : Host) (severity : LogSeverity) (logger message : String) :
    (h.logged severity logger message).files.directories = h.files.directories := by
  unfold logged
  split
  case isFalse => rfl
  case isTrue =>
    dsimp only
    generalize h.logLine severity logger message = line
    generalize h.files = f
    induction h.logging.handlers generalizing f with
    | nil => rfl
    | cons handler rest ih => exact (ih _).trans (directories_handle severity line f handler)

end Host

namespace Config

end Config

end TypeScriptGen
