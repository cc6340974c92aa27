/-
Loading a book from a scripts mapping.

A command by itself becomes a task, and so does a table that holds nothing but a
default. A table with further entries becomes a group of them; its default, if it
has one, must be a line that runs some of the group's own tasks in order, so it
is read back into a sequence. Every task is tagged with the tool that its command
calls.

An entry is loaded on its own, whatever the others are: the first entry that
cannot be loaded is the one reported.
-/
import Taskbook.Mapping.Document
import Taskbook.Generator.Target

set_option autoImplicit false

namespace Taskbook

/-- Why a document is not a scripts mapping (`SchemaValidationError`). -/
inductive LoadError where
  /-- The document has the wrong shape, in these places. -/
  | shape (faults : List ShapeFault)
  /-- The default of `parent` runs `token`, which is none of its own tasks. -/
  | foreignReference (parent token : String)
  /-- The table under `name` is empty. -/
  | emptyTable (name : String)
  /-- The table under `name` has a command for a default beside its sub-tasks. -/
  | commandBesideTasks (name : String)
  /-- What the mapping declares is not well formed. -/
  | declaration (error : DeclarationError)
  deriving DecidableEq, Repr

/-- The wording of a load error; of a wrong shape only the number of faults. -/
def LoadError.message : LoadError → String
  | shape faults =>
    "Invalid scripts mapping: " ++ toString faults.length ++ " validation " ++
      (if faults.length = 1 then "error" else "errors") ++ " for ScriptsFile"
  | foreignReference parent token =>
    "Default of '" ++ parent ++ "' must reference its own sub-tasks, got '" ++ token ++ "'"
  | emptyTable name => "Task '" ++ name ++ "' is empty"
  | commandBesideTasks name =>
    "Task '" ++ name ++ "' mixes a plain default command with sub-tasks"
  | declaration error => "Invalid scripts mapping: " ++ error.message

/-! ## Reading a line that runs several tasks -/

/-- The text before the first dot and the text after it, which is empty if there
is no dot. -/
def splitFirstDot (token : String) : String × String :=
  (String.ofList (token.toList.takeWhile (· != '.')),
    String.ofList ((token.toList.dropWhile (· != '.')).drop 1))

/-- The name of the sub-task of `parent` that a word of the line refers to. -/
def subTaskName (parent token : String) : Except LoadError String :=
  let (first, name) := splitFirstDot token
  if first ≠ parent ∨ name = "" then .error (.foreignReference parent token) else .ok name

/-- The sub-tasks of `parent` that a command line runs in order; none if the line does not start
with the runner's word (`_parse_composite`). -/
def Sequence.parse (parent command : String) : Except LoadError (Option (List String)) :=
  match Text.words command with
  | [] => .ok none
  | first :: tokens =>
    if first ≠ runner then .ok none else some <$> tokens.mapM (subTaskName parent)

/-! ## From a script to a task -/

/-- The declaration of a command tagged with its tool. -/
def Declaration.ofCommand (name text : String) : Declaration :=
  .command { name := name, tags := toolTags text } text

namespace Script

/-- The key of a table's default. -/
def defaultKey : String := "default"

/-- What a script declares under `name` (`_definition_from_value`). -/
def declaration (name : String) : Script → Except LoadError Declaration
  | command text => .ok (.ofCommand name text)
  | table entries =>
    let default := entries.lookup defaultKey
    let members := entries.filter fun entry => entry.1 != defaultKey
    match members, default with
    | [], none => .error (.emptyTable name)
    -- a default that stands alone is a command, whatever it says
    | [], some text => .ok (.ofCommand name text)
    | _, none => .ok (.group name (members.map fun entry => .ofCommand entry.1 entry.2) none none [])
    | _, some text => do
      match ← Sequence.parse name text with
      | none => .error (.commandBesideTasks name)
      | some names =>
        .ok (.group name (members.map fun entry => .ofCommand entry.1 entry.2) (some names) none [])

/-- The task of one entry of a scripts mapping. -/
def task (name : String) (script : Script) : Except LoadError Task := do
  let declaration ← script.declaration name
  declaration.check.mapError .declaration

end Script

/-- The book of a scripts mapping (`registry_from_mapping`). -/
def Book.ofDocument (document : Document) : Except LoadError Book := do
  let scripts ← document.scripts.mapError .shape
  let tasks ← scripts.mapM fun entry => entry.2.task entry.1
  let table ← (Table.index "" [] tasks).mapError .declaration
  return ⟨table⟩

end Taskbook
