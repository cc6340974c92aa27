/-
Dialogues: runs whose shell is somebody else.

A program that cannot start commands itself has to ask for each of them and wait
for the code. A run, though, is a function and does not wait. So it is run again
from the start with every answer there is: the first call without an answer breaks
the run off and is remembered as the open question. With one answer more the next
run comes further, and does exactly the same up to that point.
-/
import Taskbook.Run.Shell

set_option autoImplicit false

namespace Taskbook

/-- The answers that are still to be used, and the call that found none. -/
structure Dialogue where
  answers : List Outcome
  question : Option Call := none
  deriving DecidableEq, Repr

namespace Dialogue

/-- The shell that has the answers of a dialogue and no others. -/
def shell : Shell Dialogue := fun call dialogue =>
  match dialogue.answers with
  | outcome :: rest => (outcome, { dialogue with answers := rest })
  | [] => (.broken "unanswered", { dialogue with question := some call })

/-- The line that asks for a call. -/
def request (call : Call) : String :=
  "(cd " ++ call.directory.text ++ " && " ++ call.shell.getD "/bin/sh" ++ " -c " ++
    call.command ++ ")"

end Dialogue

end Taskbook
