/-
The shell, seen from a run: something that is called with a command and answers
once.

A shell may remember. Its answer can depend on every call before, so it is a
function that takes a state and gives the next one, and a run carries the state
from call to call. What a call says is complete: the command to the letter, the
directory to start in, the program to interpret it, and the environment, unless
the environment is simply inherited.

A call ends in one of three ways. The command exits with a code; or it could not
be started, for a reason that the system words; or something else went wrong,
which is nobody's business here and ends the run.
-/
import Taskbook.Directory
import Taskbook.Environment

set_option autoImplicit false

namespace Taskbook

/-- One request to the shell. -/
structure Call where
  command : String
  directory : Dir
  /-- The program that interprets the command, or the system's own. -/
  shell : Option String
  /-- The whole environment, or none to inherit it. -/
  environment : Option Environment
  deriving DecidableEq, Repr

/-- How a call ends. -/
inductive Outcome where
  /-- The command ran and returned this code. -/
  | exited (code : Int)
  /-- The command could not be started. -/
  | notStarted (reason : String)
  /-- Anything else went wrong. -/
  | broken (text : String)
  deriving DecidableEq, Repr

/-- A shell with a memory of type `σ`. -/
abbrev Shell (σ : Type) := Call → σ → Outcome × σ

/-! ## Where a run takes place -/

/-- Where and how the commands of a run are started (`Context`). -/
structure Site where
  directory : Dir
  shell : Option String := none
  /-- Values on top of the inherited environment. -/
  overrides : Environment := {}
  /-- The commands are only noted, not run. -/
  dryRun : Bool := false
  deriving DecidableEq, Repr

namespace Site

/-- The environment for a command, or none to inherit the given one as it is (`Context.environ`). -/
def environment (site : Site) (inherited : Environment) : Option Environment :=
  if site.overrides.isEmpty then none else some (inherited.extend site.overrides)

/-- The request to run `command` at this site. -/
def call (site : Site) (inherited : Environment) (command : String) : Call :=
  ⟨command, site.directory, site.shell, site.environment inherited⟩

end Site

end Taskbook
