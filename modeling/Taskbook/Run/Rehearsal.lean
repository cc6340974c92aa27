/-
Rehearsals: runs against a shell and hooks that follow a script.

A scripted shell has a list of outcomes for some commands. Every call of such a
command takes the next outcome, and the last one again when there is no other;
commands without a list succeed. Scripted hooks object to the commands whose names
are on a list, with a failure or with a crash.
-/
import Taskbook.Run.Basic

set_option autoImplicit false

namespace Taskbook

namespace Rehearsal

/-- The outcomes still to come, for each command that has some. -/
abbrev Script := List (String × List Outcome)

/-- The outcome that comes next, and those that come after it: all but the last
are used up. -/
def next : List Outcome → Outcome × List Outcome
  | [] => (.exited 0, [])
  | [outcome] => (outcome, [outcome])
  | outcome :: rest => (outcome, rest)

/-- The answer to a call of `command`, and what the script still holds. -/
def answer (command : String) : Script → Outcome × Script
  | [] => (.exited 0, [])
  | (text, outcomes) :: rest =>
    if text = command then
      let (outcome, others) := next outcomes
      (outcome, (text, others) :: rest)
    else
      let (outcome, others) := answer command rest
      (outcome, (text, outcomes) :: others)

/-- The shell that follows the script it remembers. -/
def shell : Shell Script := fun call script => answer call.command script

/-- The script with new outcomes for `command`. -/
def Script.set (command : String) (outcomes : List Outcome) : Script → Script
  | [] => [(command, outcomes)]
  | (text, old) :: rest =>
    if text = command then (text, outcomes) :: rest
    else (text, old) :: Script.set command outcomes rest

/-- The script with these outcomes in place of those it had for the same
commands. -/
def Script.replace (script : Script) (entries : List (String × List Outcome)) : Script :=
  entries.foldl (fun result entry => Script.set entry.1 entry.2 result) script

/-! ## Hooks -/

/-- How a scripted hook objects to a command. -/
inductive Objection where
  /-- With a failure of this code. -/
  | failure (code : Option Int)
  /-- With a crash. -/
  | crash
  deriving DecidableEq, Repr

/-- The words of the hook that speaks at an event. -/
def wording : Event → String
  | .before name _ _ => "before hook of " ++ name
  | .after name _ _ _ => "after hook of " ++ name

/-- The hook that objects to the commands on the list, to each as its first entry
says. -/
def hook (objections : List (String × Objection)) : Hook := fun event =>
  match objections.lookup event.name with
  | none => .ok ()
  | some (.failure code) => .error (.failure (.objection event.name (wording event) code))
  | some .crash => .error (.crash (wording event))

end Rehearsal

end Taskbook
