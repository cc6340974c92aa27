/-
The task book: a table of top-level tasks, and how a path is looked up in it.

Looking a path up follows its segments from table to table and ends at a task,
or reports where it got stuck: which segments it could follow, which one it could
not, and which keys were there instead. Resolving a path asks for more, namely
what calling the task runs. A command runs its text and a group its default; a
disabled task and a group without a default run nothing.

Whether a task is disabled is asked of the task that the path ends at, and of no
task on the way.
-/
import Taskbook.Path
import Taskbook.Text.Quoted
import Taskbook.Task.Declaration

set_option autoImplicit false

namespace Taskbook

/-- Why a path leads to nothing that can be run (`NotFoundError`, `TaskDisabledError`). -/
inductive LookupError where
  /-- There is no segment, or an empty one. -/
  | invalidPath (segments : Path)
  /-- The segments in `reached` can be followed; `segment` is not among the keys
  that are `available` there, and `rest` would come after it. -/
  | missing (reached : Path) (segment : String) (rest : Path) (available : List String)
  /-- The task at this path is disabled. -/
  | disabled (path : Path)
  /-- The group at this path has no default; `choices` are its children. -/
  | noDefault (path : Path) (choices : List String)
  deriving DecidableEq, Repr

namespace LookupError

/-- The path that was looked up. -/
def path : LookupError → Path
  | invalidPath segments => segments
  | missing reached segment rest _ => reached ++ segment :: rest
  | disabled path => path
  | noDefault path _ => path

/-- The task is there, but disabled. -/
def isDisabled : LookupError → Bool
  | disabled _ => true
  | _ => false

/-- The text, or another where it is empty. -/
def orElse (text other : String) : String :=
  if text = "" then other else text

/-- The wording of a look-up error. -/
def message : LookupError → String
  | invalidPath segments => "Invalid task path '" ++ segments.dotted ++ "'"
  | missing reached segment rest available =>
    "Task '" ++ Path.dotted (reached ++ segment :: rest) ++ "' not found: no '" ++ segment ++
      "' in " ++ orElse reached.dotted "<root>" ++ ". Available: " ++
      orElse (Text.join ", " available) "none"
  | disabled path => "Task '" ++ path.dotted ++ "' is disabled"
  | noDefault path choices =>
    "Task '" ++ path.dotted ++ "' has no default; pick one of: " ++ Text.join ", " choices

end LookupError

/-- What calling a task runs (`Resolution`). -/
inductive Resolution where
  /-- A command, to the letter. -/
  | command (text : String)
  /-- The sub-tasks of a group, in this order. -/
  | sequence (sequence : Sequence)
  deriving DecidableEq, Repr

/-- A book of tasks (`TaskRegistry`). -/
structure Book where
  tasks : Table
  deriving DecidableEq, Repr

/-! ## Following a path -/

/-- The task that `segment` and the segments after it lead to, from a table that
the segments in `reached` led to. -/
def Table.follow (reached : Path) (table : Table) (segment : String) :
    Path → Except LookupError Task
  | [] =>
    match table.find? segment with
    | some task => .ok task
    | none => .error (.missing reached segment [] table.keys)
  | next :: rest =>
    match table.find? segment with
    | some task => Table.follow (reached ++ [segment]) task.children next rest
    | none => .error (.missing reached segment (next :: rest) table.keys)

/-- A path that can be followed is no longer than the table is deep, and what
lies below its end is less deep by as much. -/
theorem Table.depth_of_follow {reached rest : Path} {table : Table} {segment : String}
    {task : Task} (h : table.follow reached segment rest = .ok task) :
    task.depth + rest.length + 1 ≤ table.depth := by
  induction rest generalizing reached table segment with
  | nil =>
    simp only [Table.follow] at h
    split at h
    · next found hfind =>
      cases h
      exact Table.depth_lt_of_find? hfind
    · cases h
  | cons next rest ih =>
    simp only [Table.follow] at h
    split at h
    · next found hfind =>
      have below := ih h
      have here := Table.depth_lt_of_find? hfind
      rw [Task.depth_children] at below
      simp only [List.length_cons]
      omega
    · cases h

namespace Book

/-- The book of the declared tasks, or the first mistake in the declarations
(`TaskRegistry.__init__`). -/
def ofDeclarations (declarations : List Declaration) : Except DeclarationError Book := do
  let tasks ← Declaration.checkAll declarations
  let table ← Table.index "" [] tasks
  return ⟨table⟩

/-- The task at `path`, disabled or not (`TaskRegistry.get`). -/
def find (book : Book) (path : Path) : Except LookupError Task :=
  if path.isValid then
    match path with
    | [] => .error (.invalidPath [])
    | segment :: rest => book.tasks.follow [] segment rest
  else .error (.invalidPath path)

/-- There is a task at `path` (`TaskRegistry.__contains__`). -/
def contains (book : Book) (path : Path) : Bool :=
  (book.find path).isOk

/-- What calling the task at `path` runs (`TaskRegistry.resolve`). -/
def resolve (book : Book) (path : Path) : Except LookupError Resolution := do
  let task ← book.find path
  if !task.enabled then .error (.disabled path)
  else
    match task with
    | .command _ text => .ok (.command text)
    | .group _ _ (some sequence) => .ok (.sequence sequence)
    | .group _ children none => .error (.noDefault path children.keys)

/-- A task lies no deeper than the book. -/
theorem length_le_depth_of_find {book : Book} {path : Path} {task : Task}
    (h : book.find path = .ok task) : task.depth + path.length ≤ book.tasks.depth := by
  unfold find at h
  split at h
  · split at h
    · cases h
    · simpa [Nat.add_assoc] using Table.depth_of_follow h
  · cases h

/-- What resolves has been found, and is not disabled. -/
theorem find_of_resolve {book : Book} {path : Path} {resolution : Resolution}
    (h : book.resolve path = .ok resolution) :
    ∃ task, book.find path = .ok task ∧ task.enabled = true := by
  unfold resolve at h
  cases hfind : book.find path with
  | error e =>
    rw [hfind] at h
    cases h
  | ok task =>
    refine ⟨task, rfl, ?_⟩
    rw [hfind] at h
    cases henabled : task.enabled with
    | true => rfl
    | false =>
      simp only [bind, Except.bind, henabled, Bool.not_false, if_true] at h
      cases h

/-- The book's own line: its top-level keys (`TaskRegistry.__repr__`). -/
def describe (book : Book) : String :=
  "TaskRegistry(tasks=" ++ Text.quoteAll book.tasks.keys ++ ")"

end Book

end Taskbook
