/-
Tasks and the tables that hold them.

A task is a command or a group. A command carries the text that the shell gets,
to the letter. A group carries a table of children and perhaps a default, the
sequence to run when the group itself is called. What both have in common, the
name, whether the task is enabled, a description and tags, is the task's label.

A table lists its entries in the order of their declaration, each under a key.
The two types are defined together, with the table as a list of its own, so that
every function on them is plain structural recursion; `Table.toList` is the view
through which the operations are stated. Keys and names are two things: a table
built from named tasks uses the names as keys, but a table can be keyed at will.
-/
import Taskbook.Task.Sequence

set_option autoImplicit false

namespace Taskbook

/-- What a command and a group have in common (fields of `TaskDefinition`). -/
structure Label where
  name : String
  enabled : Bool := true
  description : Option String := none
  tags : List String := []
  deriving DecidableEq, Repr

mutual

/-- An entry of a task book (`TaskDefinition`). -/
inductive Task where
  /-- A task that hands `text` to the shell. -/
  | command (label : Label) (text : String)
  /-- A task that stands for others; `default` says what calling it runs. -/
  | group (label : Label) (children : Table) (default : Option Sequence)
  deriving DecidableEq, Repr

/-- Tasks under their keys, in declaration order (`TaskDefinition.children`). -/
inductive Table where
  | nil
  | cons (key : String) (task : Task) (rest : Table)
  deriving DecidableEq, Repr

end

/-! ## Tables -/

namespace Table

/-- The entries in order. -/
def toList : Table → List (String × Task)
  | nil => []
  | cons key task rest => (key, task) :: rest.toList

/-- The table with these entries. -/
def ofList : List (String × Task) → Table
  | [] => nil
  | (key, task) :: rest => cons key task (ofList rest)

@[simp] theorem toList_ofList (entries : List (String × Task)) :
    (ofList entries).toList = entries := by
  induction entries with
  | nil => rfl
  | cons entry rest ih => simp [ofList, toList, ih]

/-- The keys in order. -/
def keys (table : Table) : List String :=
  table.toList.map Prod.fst

/-- The table has no entry. -/
def isEmpty : Table → Bool
  | nil => true
  | cons .. => false

@[simp] theorem isEmpty_eq_true_iff {table : Table} : table.isEmpty = true ↔ table = nil := by
  cases table <;> simp [isEmpty]

/-- How many entries the table has. -/
def size (table : Table) : Nat :=
  table.toList.length

/-- The task under `key`. -/
def find? (key : String) : Table → Option Task
  | nil => none
  | cons k task rest => if k = key then some task else rest.find? key

theorem find?_eq_lookup (key : String) : ∀ table : Table,
    table.find? key = table.toList.lookup key
  | nil => rfl
  | cons k task rest => by
    by_cases h : k = key
    · subst h
      simp [find?, toList]
    · have hb : (key == k) = false := by simpa using fun e => h e.symm
      rw [find?, toList, if_neg h, find?_eq_lookup key rest, List.lookup_cons, hb]

/-- A key is found exactly if it is one of the keys. -/
theorem find?_isSome_iff {key : String} : ∀ {table : Table},
    (table.find? key).isSome ↔ key ∈ table.keys
  | nil => by simp [find?, keys, toList]
  | cons k task rest => by
    have ih : (rest.find? key).isSome ↔ key ∈ rest.toList.map Prod.fst := find?_isSome_iff
    by_cases h : k = key
    · simp [find?, keys, toList, h]
    · have hne : ¬key = k := fun e => h e.symm
      simp only [find?, if_neg h, keys, toList, List.map_cons, List.mem_cons, hne, false_or]
      exact ih

/-- The table with `task` under `key`: in the key's place if the key is there
already, else at the end. -/
def set (key : String) (task : Task) : Table → Table
  | nil => cons key task nil
  | cons k old rest => if k = key then cons k task rest else cons k old (rest.set key task)

/-- The table of the entries given one after the other: a key given again keeps
its place and takes the last task. -/
def ofEntries (entries : List (String × Task)) : Table :=
  entries.foldl (fun table entry => table.set entry.1 entry.2) nil

end Table

/-! ## Tasks -/

namespace Task

/-- The task's label. -/
def label : Task → Label
  | command label _ => label
  | group label _ _ => label

/-- The task's own name. -/
def name (task : Task) : String :=
  task.label.name

/-- The task may be run. -/
def enabled (task : Task) : Bool :=
  task.label.enabled

/-- The text for the shell, for a command. -/
def text? : Task → Option String
  | command _ text => some text
  | group .. => none

/-- The default, for a group that has one. -/
def default? : Task → Option Sequence
  | command .. => none
  | group _ _ default => default

/-- The children, none for a command. -/
def children : Task → Table
  | command .. => .nil
  | group _ children _ => children

/-- The task is a group (`TaskDefinition.is_group`). -/
def isGroup : Task → Bool
  | command .. => false
  | group .. => true

/-- Calling the task by itself means something: it is a command, or a group with
a default. -/
def isInvocable (task : Task) : Bool :=
  !task.isGroup || task.default?.isSome

end Task

/-! ## Sameness

Two tasks are the same if all their parts are and each child of one has a child
of the other under its key that is the same; the order of the children does not
count. -/

mutual

/-- The tasks agree in every part, the order of children apart. -/
def Task.same : Task → Task → Bool
  | .command label text, .command label' text' => label == label' && text == text'
  | .group label children default, .group label' children' default' =>
    label == label' && default == default' && children.size == children'.size &&
      children.sameWithin children'
  | _, _ => false

/-- Every entry of the first table is in the second. -/
def Table.sameWithin : Table → Table → Bool
  | .nil, _ => true
  | .cons key task rest, other =>
    (match other.find? key with
      | some found => task.same found
      | none => false) && rest.sameWithin other

end

/-! ## Depth -/

mutual

/-- How many keys the longest path below the task has. -/
def Task.depth : Task → Nat
  | .command .. => 0
  | .group _ children _ => children.depth

/-- How many keys the longest path through the table has. -/
def Table.depth : Table → Nat
  | .nil => 0
  | .cons _ task rest => max (task.depth + 1) rest.depth

end

theorem Task.depth_children (task : Task) : task.children.depth = task.depth := by
  cases task <;> rfl

/-- A child is less deep than the table that holds it. -/
theorem Table.depth_lt_of_find? {key : String} {task : Task} : ∀ {table : Table},
    table.find? key = some task → task.depth < table.depth
  | .nil, h => by simp [Table.find?] at h
  | .cons k first rest, h => by
    simp only [Table.find?] at h
    simp only [Table.depth]
    split at h
    · cases h
      exact Nat.lt_of_lt_of_le (Nat.lt_succ_self _) (Nat.le_max_left _ _)
    · exact Nat.lt_of_lt_of_le (Table.depth_lt_of_find? h) (Nat.le_max_right _ _)

end Taskbook
