/-
Books that differ in their labels only.

A label says how a task is called, how it is described and how it is tagged. Of all that, a book
only ever asks whether the task is enabled: it looks tasks up by their keys, and what calling a
task runs is its text or its default. So other labels that leave the tasks enabled or disabled
as they were make no difference to what is found, resolved, planned and listed. `Book.relabel`
gives all tasks of a book other labels at once, and each function of a book is shown to commute
with it; where the result has no label in it, it is the same.
-/
import Taskbook.Proofs.Book.Walk
import Taskbook.Proofs.Plan.Expansion

set_option autoImplicit false

namespace Taskbook

/-! ## Other labels -/

/-- A new label for each label. For a command it may depend on the text. -/
abbrev Relabelling := Label → Option String → Label

/-- No task is enabled or disabled by it. -/
def Relabelling.KeepsEnabled (f : Relabelling) : Prop :=
  ∀ label text, (f label text).enabled = label.enabled

mutual

/-- The task with the new labels, at its own place and everywhere below. -/
def Task.relabel (f : Relabelling) : Task → Task
  | .command label text => .command (f label (some text)) text
  | .group label children default => .group (f label none) (children.relabel f) default

/-- The table with the new labels. -/
def Table.relabel (f : Relabelling) : Table → Table
  | .nil => .nil
  | .cons key task rest => .cons key (task.relabel f) (rest.relabel f)

end

/-- The book with the new labels. -/
def Book.relabel (f : Relabelling) (book : Book) : Book :=
  ⟨book.tasks.relabel f⟩

variable {f : Relabelling}

namespace Task

@[simp] theorem text?_relabel (task : Task) : (task.relabel f).text? = task.text? := by
  cases task <;> rfl

@[simp] theorem default?_relabel (task : Task) : (task.relabel f).default? = task.default? := by
  cases task <;> rfl

@[simp] theorem children_relabel (task : Task) :
    (task.relabel f).children = task.children.relabel f := by
  cases task <;> rfl

@[simp] theorem isInvocable_relabel (task : Task) :
    (task.relabel f).isInvocable = task.isInvocable := by
  cases task <;> rfl

theorem enabled_relabel (hf : f.KeepsEnabled) (task : Task) :
    (task.relabel f).enabled = task.enabled := by
  cases task with
  | command label text => exact hf label (some text)
  | group label children default => exact hf label none

end Task

/-! ## Looking up -/

namespace Table

@[simp] theorem keys_relabel (table : Table) : (table.relabel f).keys = table.keys := by
  induction table using Table.induction with
  | nil => rfl
  | cons key task rest _ ih =>
    rw [keys] at ih ⊢
    rw [relabel, toList, List.map_cons, ih]
    rfl

theorem find?_relabel (key : String) (table : Table) :
    (table.relabel f).find? key = (table.find? key).map (Task.relabel f) := by
  induction table using Table.induction with
  | nil => rfl
  | cons first task rest _ ih =>
    rw [relabel, find?, find?, ih]
    split <;> rfl

/-- A default that holds does not stop to. -/
theorem defaultHolds_relabel (hf : f.KeepsEnabled) (table : Table) (default : Option Sequence) :
    (table.relabel f).defaultHolds default = table.defaultHolds default := by
  cases default with
  | none => rfl
  | some sequence =>
    rw [defaultHolds, defaultHolds]
    congr 1
    funext name
    rw [find?_relabel]
    cases table.find? name with
    | none => rfl
    | some child => exact child.enabled_relabel hf

/-- The way through the tables is the same, and so is the account of it. -/
theorem follow_relabel (reached : Path) (table : Table) (key : String) (rest : Path) :
    (table.relabel f).follow reached key rest
      = (table.follow reached key rest).map (Task.relabel f) := by
  induction rest generalizing reached table key with
  | nil =>
    rw [follow, follow, find?_relabel, keys_relabel]
    cases table.find? key <;> rfl
  | cons next rest ih =>
    rw [follow, follow, find?_relabel, keys_relabel]
    cases table.find? key with
    | none => rfl
    | some task =>
      rw [Option.map_some]
      dsimp only
      rw [Task.children_relabel, ih]

end Table

namespace Book

theorem find_relabel (book : Book) (path : Path) :
    (book.relabel f).find path = (book.find path).map (Task.relabel f) := by
  unfold find
  split
  · cases path with
    | nil => rfl
    | cons key rest => exact Table.follow_relabel [] book.tasks key rest
  · rfl

/-- What calling a task runs is the same, and so is the error if it runs nothing. -/
theorem resolve_relabel (hf : f.KeepsEnabled) (book : Book) (path : Path) :
    (book.relabel f).resolve path = book.resolve path := by
  rw [resolve, resolve, find_relabel]
  cases book.find path with
  | error error => rfl
  | ok task =>
    change (if !(task.relabel f).enabled then _ else _) = (if !task.enabled then _ else _)
    rw [task.enabled_relabel hf]
    rcases task with ⟨label, text⟩ | ⟨label, children, _ | sequence⟩
    · rfl
    · rw [Task.relabel]
      dsimp only
      rw [Table.keys_relabel]
    · rfl

/-- Every path has the same plan or none for the same reason. -/
theorem plan_relabel (hf : f.KeepsEnabled) (book : Book) (path : Path) :
    (book.relabel f).plan path = book.plan path := by
  have hsame := book.resolve_relabel hf
  induction path using Book.plan.induct book with
  | case1 path error hresolve =>
    rw [plan_of_error hresolve, plan_of_error ((hsame path).trans hresolve)]
  | case2 path text hresolve =>
    rw [plan_of_command hresolve, plan_of_command ((hsame path).trans hresolve)]
  | case3 path sequence hresolve below =>
    rw [plan_of_sequence hresolve, plan_of_sequence ((hsame path).trans hresolve),
      mapM_congr_of_mem fun name _ => below name]

end Book

/-! ## Listing -/

/-- The entry with the new labels. -/
def Entry.relabel (f : Relabelling) (entry : Entry) : Entry :=
  ⟨entry.path, entry.task.relabel f⟩

/-- The walk takes the same way. -/
theorem Table.entries_relabel (hf : f.KeepsEnabled) (withDisabled : Bool) (above : Path)
    (table : Table) :
    (table.relabel f).entries withDisabled above
      = (table.entries withDisabled above).map (Entry.relabel f) := by
  induction table using Table.induction generalizing above with
  | nil => rfl
  | cons key task rest below others =>
    rw [relabel, entries_cons, entries_cons, task.enabled_relabel hf, task.children_relabel,
      below, others, List.map_append]
    split <;> rfl

/-- The same paths are listed, in the same order. -/
theorem Book.paths_relabel (hf : f.KeepsEnabled) (book : Book) (withDisabled : Bool) :
    (book.relabel f).paths withDisabled = book.paths withDisabled := by
  have hcalled : (fun entry : Entry => entry.task.isInvocable) ∘ Entry.relabel f
      = fun entry : Entry => entry.task.isInvocable :=
    funext fun entry => entry.task.isInvocable_relabel
  rw [paths, paths, entries, entries, relabel, Table.entries_relabel hf, List.filter_map,
    List.map_map, hcalled]
  rfl

end Taskbook
