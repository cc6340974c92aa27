/-
Going through a book: every task with its path, in declaration order.

A task comes before what is below it. A disabled task is passed over together
with everything below it, unless the disabled ones are asked for too. All lists
of a book, the paths that can be called, the tasks with a tag and the lines of
the listing, are drawn from this one walk.
-/
import Taskbook.Book.Basic

set_option autoImplicit false

namespace Taskbook

/-- A task and the keys that lead to it. -/
structure Entry where
  path : Path
  task : Task
  deriving DecidableEq, Repr

/-! ## The walk -/

mutual

/-- The entries below a task that `path` leads to. -/
def Task.entries (withDisabled : Bool) (path : Path) : Task → List Entry
  | .command .. => []
  | .group _ children _ => children.entries withDisabled path

/-- The entries of a table that `above` leads to. -/
def Table.entries (withDisabled : Bool) (above : Path) : Table → List Entry
  | .nil => []
  | .cons key task rest =>
    (if task.enabled || withDisabled then
      ⟨above ++ [key], task⟩ :: task.entries withDisabled (above ++ [key])
    else []) ++ rest.entries withDisabled above

end

namespace Entry

/-- The path with dots. -/
def dotted (entry : Entry) : String :=
  entry.path.dotted

/-- The command line that calling the entry amounts to, if calling it means
something. -/
def commandLine? (entry : Entry) : Option String :=
  match entry.task with
  | .command _ text => some text
  | .group _ _ default => default.map (Sequence.render entry.dotted)

/-- The entry's line in a listing: its path, a mark if it is disabled, and the
command line. -/
def line? (entry : Entry) : Option String :=
  entry.commandLine?.map fun text =>
    entry.dotted ++ (if entry.task.enabled then "" else " (disabled)") ++ "  " ++ text

end Entry

namespace Book

/-- Every task with its path, the disabled ones and what is below them only on request
(`TaskRegistry.walk`). -/
def entries (book : Book) (withDisabled : Bool) : List Entry :=
  book.tasks.entries withDisabled []

/-- The dotted paths that can be called (`TaskRegistry.list_tasks`). -/
def paths (book : Book) (withDisabled : Bool) : List String :=
  ((book.entries withDisabled).filter (fun entry => entry.task.isInvocable)).map Entry.dotted

/-- The enabled tasks that carry `tag` (`TaskRegistry.get_by_tag`). -/
def tagged (book : Book) (tag : String) : List Task :=
  ((book.entries false).map Entry.task).filter (fun task => task.label.tags.contains tag)

/-- One line for every path that can be called (`format_listing`). -/
def listing (book : Book) (withDisabled : Bool) : List String :=
  (book.entries withDisabled).filterMap Entry.line?

end Book

end Taskbook
