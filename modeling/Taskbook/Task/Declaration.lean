/-
Declarations: what is written down for a task, before anyone has looked whether
it makes sense.

Checking a declaration either gives the task or names the first thing wrong with
it. Members are checked before the group that holds them and in the order they
are written, so of two mistakes the inner one is reported. For one definition
the order is: the name, then whether it has exactly one of a command and
children, then the names in its default one by one.

A group of named members is keyed by their names, and two members of one name
are a mistake. A keyed declaration gives the keys itself; there a key that
occurs again only replaces the member it had.
-/
import Taskbook.Task.Basic

set_option autoImplicit false

namespace Taskbook

/-- What is written down for one task (`task`, `group` and `TaskDefinition` as they are called). -/
inductive Declaration where
  /-- A command. -/
  | command (label : Label) (text : String)
  /-- An enabled group whose members are keyed by their names. -/
  | group (name : String) (members : List Declaration) (default : Option (List String))
      (description : Option String) (tags : List String)
  /-- Everything spelt out: the label, perhaps a command, members under chosen
  keys, perhaps a default. -/
  | keyed (label : Label) (text : Option String) (members : List (String × Declaration))
      (default : Option (List String))

/-- What can be wrong with a declaration (`DuplicateTaskError`, `InvalidDefaultError`). -/
inductive DeclarationError where
  /-- The name is empty or holds a dot. -/
  | invalidName (name : String)
  /-- A command also has children or a default. -/
  | commandWithChildren (name : String)
  /-- There is no command and there are no children. -/
  | nothingToRun (name : String)
  /-- The default of `name` lists `reference`, which is not a child. -/
  | unknownDefault (name reference : String)
  /-- The default of `name` lists `reference`, which is disabled. -/
  | disabledDefault (name reference : String)
  /-- A default lists nothing. -/
  | emptyDefault
  /-- Two entries of one name below `parent`, which is empty at the top. -/
  | duplicate (name parent : String)
  deriving DecidableEq, Repr

/-- The wording of a declaration error. -/
def DeclarationError.message : DeclarationError → String
  | invalidName name => "Invalid task name '" ++ name ++ "'"
  | commandWithChildren name => "Task '" ++ name ++ "' cannot have both a command and children"
  | nothingToRun name => "Task '" ++ name ++ "' needs either a command or children"
  | unknownDefault name reference =>
    "Default of '" ++ name ++ "' references unknown sub-task '" ++ reference ++ "'"
  | disabledDefault name reference =>
    "Default of '" ++ name ++ "' references disabled sub-task '" ++ reference ++ "'"
  | emptyDefault => "Composite default must list at least one sub-task"
  | duplicate name parent =>
    "Task '" ++ name ++ "' is declared twice" ++
      (if parent = "" then "" else " under '" ++ parent ++ "'")

/-! ## The rules -/

/-- A name that can stand in a dotted path: not empty, and without a dot. -/
def validName (name : String) : Bool :=
  name != "" && !name.toList.contains '.'

/-- A default lists at least one name. -/
def Sequence.ofDeclared (names : List String) : Except DeclarationError Sequence :=
  match ofNames? names with
  | some sequence => .ok sequence
  | none => .error .emptyDefault

/-- The first name in a default of `group` that is not the key of an enabled
child. -/
def Table.defaultFault? (group : String) (children : Table) (names : List String) :
    Option DeclarationError :=
  names.findSome? fun reference =>
    match children.find? reference with
    | none => some (.unknownDefault group reference)
    | some child => if child.enabled then none else some (.disabledDefault group reference)

/-- The table that keys the tasks by their names (`_index`). The names in `taken` are those of the
entries before them. -/
def Table.index (parent : String) : (taken : List String) → List Task →
    Except DeclarationError Table
  | _, [] => .ok .nil
  | taken, task :: rest =>
    if task.name ∈ taken then .error (.duplicate task.name parent)
    else do
      let table ← Table.index parent (task.name :: taken) rest
      return .cons task.name task table

/-- The task with these parts, if they make one (`TaskDefinition.__post_init__`). -/
def Task.define (label : Label) (text : Option String) (children : Table)
    (default : Option Sequence) : Except DeclarationError Task :=
  if !validName label.name then .error (.invalidName label.name)
  else
    match text with
    | some text =>
      if children.isEmpty && default.isNone then .ok (.command label text)
      else .error (.commandWithChildren label.name)
    | none =>
      if children.isEmpty then .error (.nothingToRun label.name)
      else
        match default.bind fun sequence => children.defaultFault? label.name sequence.names with
        | some fault => .error fault
        | none => .ok (.group label children default)

mutual

/-- The task that a declaration describes, or the first mistake in it (`task`, `group`). -/
def Declaration.check : Declaration → Except DeclarationError Task
  | .command label text => Task.define label (some text) .nil none
  | .group name members default description tags => do
    let tasks ← checkAll members
    let children ← Table.index name [] tasks
    let sequence ← default.mapM Sequence.ofDeclared
    Task.define ⟨name, true, description, tags⟩ none children sequence
  | .keyed label text members default => do
    let entries ← checkKeyed members
    let sequence ← default.mapM Sequence.ofDeclared
    Task.define label text (Table.ofEntries entries) sequence

/-- The tasks that the declarations describe, in order, or the first mistake in
the first that has one. -/
def Declaration.checkAll : List Declaration → Except DeclarationError (List Task)
  | [] => .ok []
  | declaration :: rest => do
    let task ← declaration.check
    let tasks ← checkAll rest
    return task :: tasks

/-- The same for declarations under keys. -/
def Declaration.checkKeyed : List (String × Declaration) →
    Except DeclarationError (List (String × Task))
  | [] => .ok []
  | (key, declaration) :: rest => do
    let task ← declaration.check
    let entries ← checkKeyed rest
    return (key, task) :: entries

end

end Taskbook
