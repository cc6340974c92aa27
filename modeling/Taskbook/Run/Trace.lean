/-
What happens in a run, in the order in which it happens.

Four kinds of things can be seen from outside: a call to the shell with its
answer, a record of a command, a notice to a hook, and a line in the log. A trace
keeps them in one list, so the trace of two things done one after the other is
one list after the other, and each kind by itself is a filter of it.
-/
import Taskbook.Log
import Taskbook.Run.Failure
import Taskbook.Run.Shell

set_option autoImplicit false

namespace Taskbook

/-- The record of one command (`CommandRecord`). -/
structure Record where
  name : String
  text : String
  directory : Dir
  /-- The code the command returned; none for a dry run and for a command that
  could not be started. -/
  code : Option Int
  deriving DecidableEq, Repr

/-- A notice to a hook (`before_node`, `after_node`). -/
inductive Event where
  /-- The command is about to be run; `recorded` commands have been recorded so
  far. -/
  | before (name text : String) (recorded : Nat)
  /-- The command is over, with this failure of its own if it failed. -/
  | after (name text : String) (recorded : Nat) (failure : Option Failure)
  deriving DecidableEq, Repr

/-- The name of the command that a notice is about. -/
def Event.name : Event → String
  | before name _ _ => name
  | after name _ _ _ => name

/-- One thing that happens in a run. -/
inductive Happening where
  | called (call : Call) (outcome : Outcome)
  | recorded (record : Record)
  | notified (event : Event)
  | logged (line : LogLine)
  deriving DecidableEq, Repr

namespace Happening

/-- The call and its answer, if this is a call. -/
def call? : Happening → Option (Call × Outcome)
  | called call outcome => some (call, outcome)
  | _ => none

/-- The record, if this is one. -/
def record? : Happening → Option Record
  | recorded record => some record
  | _ => none

/-- The notice, if this is one. -/
def event? : Happening → Option Event
  | notified event => some event
  | _ => none

/-- The line, if this is one. -/
def line? : Happening → Option LogLine
  | logged line => some line
  | _ => none

end Happening

/-- What happens, in order. -/
abbrev Trace := List Happening

namespace Trace

/-- The calls with their answers. -/
def answered (trace : Trace) : List (Call × Outcome) :=
  trace.filterMap Happening.call?

/-- The calls. -/
def calls (trace : Trace) : List Call :=
  trace.answered.map Prod.fst

/-- The records. -/
def records (trace : Trace) : List Record :=
  trace.filterMap Happening.record?

/-- The notices to hooks. -/
def events (trace : Trace) : List Event :=
  trace.filterMap Happening.event?

/-- The lines in the log. -/
def log (trace : Trace) : List LogLine :=
  trace.filterMap Happening.line?

theorem records_append (a b : Trace) : records (a ++ b) = records a ++ records b := by
  simp [records]

theorem log_append (a b : Trace) : log (a ++ b) = log a ++ log b := by
  simp [log]

end Trace

end Taskbook
