/-
What goes wrong in a run, and what is told about it.

A failure starts at one command: it exited with a code that is not zero, it could
not be started, or a hook objected to it. Every series around that command passes
the failure on with its own name, the position and the name of the child that
failed. So a failure is a chain from the outermost series to the command. What it
says about the command, its name, its text and its code, is read off the far end
and is the same along the whole chain; only the wording grows.

A run can also be cut short by something that is no failure of a command. Such a
crash is passed on as it is.
-/
set_option autoImplicit false

namespace Taskbook

/-- The failure of a run (`ExecutionError`). -/
inductive Failure where
  /-- The command `text` returned `code`, which is not zero. -/
  | exited (name text : String) (code : Int)
  /-- The command `text` could not be started. -/
  | notStarted (name text reason : String)
  /-- A hook objected to the command called `name`. What it says besides, and the reason if it
  gives one, is up to the hook. -/
  | objection (name message : String) (code : Option Int) (text : Option String := none)
      (reason : Option String := none)
  /-- A hook objected because of another failure. -/
  | objectionBecause (name message : String) (code : Option Int) (text : Option String)
      (cause : Failure)
  /-- The child at `index` of the series `sequence` failed. -/
  | within (sequence : String) (index : Nat) (child : String) (cause : Failure)
  deriving DecidableEq, Repr

namespace Failure

/-- The wording of a failure. -/
def message : Failure → String
  | exited name text code =>
    "Task '" ++ name ++ "' failed with exit code " ++ toString code ++ ": " ++ text
  | notStarted name _ reason => "Task '" ++ name ++ "' could not start: " ++ reason
  | objection _ message .. => message
  | objectionBecause _ message .. => message
  | within sequence index child cause =>
    "Serial node '" ++ sequence ++ "' child " ++ toString index ++ " ('" ++ child ++
      "') failed: " ++ cause.message

/-- The failure at the far end of the chain, the one that arose at the command. -/
def origin : Failure → Failure
  | within _ _ _ cause => cause.origin
  | failure => failure

/-- The name of the command that failed. -/
def task : Failure → String
  | exited name _ _ => name
  | notStarted name _ _ => name
  | objection name .. => name
  | objectionBecause name .. => name
  | within _ _ _ cause => cause.task

/-- The command that failed. A hook need not say which. -/
def text? : Failure → Option String
  | exited _ text _ => some text
  | notStarted _ text _ => some text
  | objection _ _ _ text _ => text
  | objectionBecause _ _ _ text _ => text
  | within _ _ _ cause => cause.text?

/-- The exit code, where there is one. -/
def code? : Failure → Option Int
  | exited _ _ code => some code
  | notStarted .. => none
  | objection _ _ code .. => code
  | objectionBecause _ _ code .. => code
  | within _ _ _ cause => cause.code?

/-- The failures that this one was caused by, the nearest first (`ExecutionError.cause`). -/
def causes : Failure → List Failure
  | within _ _ _ cause => cause :: cause.causes
  | objectionBecause _ _ _ _ cause => cause :: cause.causes
  | _ => []

/-- What stands behind the last of these and is no failure: why the command could not be
started, or the reason that a hook gave. -/
def reason? : Failure → Option String
  | exited .. => none
  | notStarted _ _ reason => some reason
  | objection _ _ _ _ reason => reason
  | objectionBecause _ _ _ _ cause => cause.reason?
  | within _ _ _ cause => cause.reason?

/-- What is told about the command is told by the far end of the chain. -/
theorem told_by_origin (failure : Failure) :
    failure.origin.task = failure.task ∧ failure.origin.text? = failure.text? ∧
      failure.origin.code? = failure.code? ∧ failure.origin.reason? = failure.reason? := by
  induction failure with
  | within _ _ _ cause ih => exact ih
  | _ => exact ⟨rfl, rfl, rfl, rfl⟩

end Failure

/-- What cuts a run short. -/
inductive Fault where
  | failure (failure : Failure)
  | crash (text : String)
  deriving DecidableEq, Repr

/-- How a run ends: well, or cut short. -/
abbrev Ending := Except Fault Unit

/-- The failure that a run ended with, if it did. -/
def failureOf : Ending → Option Failure
  | .error (.failure failure) => some failure
  | _ => none

end Taskbook
