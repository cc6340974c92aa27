/-
From a path to a plan.

The plan for a command is that command. The plan for a group with a default is
the series of the plans for its sub-tasks, each under the group's path with the
sub-task's name added. Every longer path is looked up from the top of the book
again, so a sub-task is treated exactly as if it had been asked for by itself,
and the names in the plan are the dotted paths.

A path that resolves is no longer than the book is deep. So the paths cannot grow
for ever, and the construction ends.
-/
import Taskbook.Book.Entries
import Taskbook.Plan.Basic

set_option autoImplicit false

namespace Taskbook

/-- What resolves lies no deeper than the book. -/
theorem Book.length_le_depth_of_resolve {book : Book} {path : Path} {resolution : Resolution}
    (h : book.resolve path = .ok resolution) : path.length ≤ book.tasks.depth := by
  obtain ⟨task, hfind, -⟩ := Book.find_of_resolve h
  exact Nat.le_trans (Nat.le_add_left _ _) (Book.length_le_depth_of_find hfind)

/-- The plan for the task at `path`, or the first path that cannot be run (`build_node`). -/
def Book.plan (book : Book) (path : Path) : Except LookupError Plan :=
  match h : book.resolve path with
  | .error error => .error error
  | .ok (.command text) => .ok (.command path.dotted text)
  | .ok (.sequence sequence) => do
    -- from the top of the book again, so each child stands under its whole path
    let children ← sequence.names.mapM fun name => book.plan (path ++ [name])
    return .serial path.dotted children
termination_by book.tasks.depth + 1 - path.length
decreasing_by
  have bound := Book.length_le_depth_of_resolve h
  simp only [List.length_append, List.length_cons, List.length_nil]
  omega

/-- The plans for the tasks at `paths`, in order, or the first path that cannot
be run. -/
def Book.plans (book : Book) (paths : List Path) : Except LookupError (List Plan) :=
  paths.mapM book.plan

/-- One plan for several: a plan by itself, any other number as a series (`Executor.run_tasks`). -/
def Plan.together : List Plan → Plan
  | [plan] => plan
  | plans => .serial "tasks" plans

/-! ## Plans put together by hand -/

/-- A plan put together from commands and from tasks of a book. -/
inductive Blueprint where
  | command (text : String) (name : Option String)
  | series (children : List Blueprint) (name : Option String)
  | task (path : Path)

mutual

/-- The plan that a blueprint describes, or the first path that cannot be
run. -/
def Blueprint.plan (book : Book) : Blueprint → Except LookupError Plan
  | .command text name => .ok (.ofCommand text name)
  | .series children name => do
    let plans ← Blueprint.planAll book children
    return .ofSeries plans name
  | .task path => book.plan path

/-- The plans that the blueprints describe. -/
def Blueprint.planAll (book : Book) : List Blueprint → Except LookupError (List Plan)
  | [] => .ok []
  | blueprint :: rest => do
    let plan ← blueprint.plan book
    let plans ← Blueprint.planAll book rest
    return plan :: plans

end

end Taskbook
