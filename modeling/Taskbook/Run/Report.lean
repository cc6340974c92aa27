/-
The report of a run: whether it succeeded, and with which exit code.

A failed run has the exit code of the command that failed. If that is not known,
or is zero because a hook said so, the code is one: a failure is never reported as
success.
-/
import Taskbook.Plan.OfBook
import Taskbook.Run.Basic

set_option autoImplicit false

namespace Taskbook

/-- What is said about a run when it is over (`ExecutionResult`). -/
structure Report where
  success : Bool
  failures : List Failure := []
  deriving DecidableEq, Repr

namespace Report

/-- Zero for a success; for a failure the first code that says so, else one
(`ExecutionResult.exit_code`). -/
def exitCode (report : Report) : Int :=
  if report.success then 0
  else ((report.failures.filterMap Failure.code?).find? (· != 0)).getD 1

/-- A run that did not succeed has a code that says so. -/
theorem exitCode_ne_zero {report : Report} (h : report.success = false) :
    report.exitCode ≠ 0 := by
  unfold exitCode
  rw [h]
  cases hfind : (report.failures.filterMap Failure.code?).find? (· != 0) with
  | none => simp
  | some code =>
    have hne := List.find?_some hfind
    simpa using hne

/-- One line that shows the report (`ExecutionResult.__repr__`). -/
def describe (report : Report) : String :=
  "ExecutionResult(success=" ++ (if report.success then "True" else "False") ++
    ", exit_code=" ++ toString report.exitCode ++ ")"

end Report

/-- What came of a run that is reported: the report, or the text of the crash
that cut it short. -/
structure Execution (σ : Type) where
  result : Except String Report
  trace : Trace
  memory : σ

/-- Runs a plan and reports (`Executor.run`). A failure is logged as a whole, after all that
happened. -/
def Plan.execute {σ : Type} (conditions : Conditions σ) (plan : Plan) (recorded : Nat)
    (memory : σ) : Execution σ :=
  let progress := plan.run conditions recorded memory
  match progress.ending with
  | .ok () => ⟨.ok { success := true }, progress.trace, progress.memory⟩
  | .error (.failure failure) =>
    ⟨.ok { success := false, failures := [failure] },
      progress.trace ++ [.logged (Reporter.runner.line .error failure.message)],
      progress.memory⟩
  | .error (.crash text) => ⟨.error text, progress.trace, progress.memory⟩

/-! ## Policies -/

/-- How the commands of a book are to be run (`ExecutionPolicy`). -/
structure Policy where
  dryRun : Bool := false
  shell : Option String := none
  overrides : Environment := {}
  hooks : Hooks := {}

/-- The site that a policy makes of a directory. -/
def Policy.site (policy : Policy) (directory : Dir) : Site :=
  ⟨directory, policy.shell, policy.overrides, policy.dryRun⟩

/-- What stays the same in a run under this policy in this directory. -/
def Policy.conditions {σ : Type} (policy : Policy) (shell : Shell σ) (inherited : Environment)
    (directory : Dir) : Conditions σ :=
  ⟨shell, policy.site directory, policy.hooks, inherited⟩

/-- Runs the tasks at `paths` in order (`Executor.run_tasks`). Nothing is run unless all of them can
be planned. -/
def Book.execute {σ : Type} (book : Book) (conditions : Conditions σ) (paths : List Path)
    (memory : σ) : Except LookupError (Execution σ) := do
  let plans ← book.plans paths
  return (Plan.together plans).execute conditions 0 memory

end Taskbook
