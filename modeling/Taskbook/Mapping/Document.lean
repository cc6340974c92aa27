/-
The document that a scripts mapping comes in, and the shape it must have.

A document is a value of the usual data format: texts, numbers, flags, lists and
tables with text keys, where a table keeps the order of its entries. A scripts
mapping is a table with a table under `scripts`; each entry there is a command
or a table of commands. Every entry that is neither is reported, in the
document's order, with its place: an entry could have been one of two things, so
an entry that is neither gets a fault for each.
-/
import Taskbook.Text.Split

set_option autoImplicit false

namespace Taskbook

/-- A value of the data format. -/
inductive Document where
  | null
  | flag (value : Bool)
  /-- The number `mantissa / 10 ^ scale`. -/
  | number (mantissa : Int) (scale : Nat)
  | text (value : String)
  | list (items : List Document)
  | table (entries : List (String × Document))

/-- One entry of a scripts mapping. -/
inductive Script where
  /-- A command by itself. -/
  | command (text : String)
  /-- Commands under keys of their own. -/
  | table (entries : List (String × String))
  deriving DecidableEq, Repr

/-- A part of a document that does not have the shape of a scripts mapping. -/
inductive ShapeFault where
  /-- The document is not a table. -/
  | notTable
  /-- There is nothing under `scripts`. -/
  | noScripts
  /-- What is under `scripts` is not a table. -/
  | scriptsNotTable
  /-- The entry under this key is not a text. -/
  | entryNotText (key : String)
  /-- The entry under this key is not a table either. -/
  | entryNotTable (key : String)
  /-- The entry under this key is a table, but what it has under `member` is not
  a text. -/
  | memberNotText (key member : String)
  deriving DecidableEq, Repr

namespace ShapeFault

/-- The way to the faulty part, with the reading of the entry that failed. -/
def place : ShapeFault → List String
  | notTable => []
  | noScripts | scriptsNotTable => ["scripts"]
  | entryNotText key => ["scripts", key, "str"]
  | entryNotTable key => ["scripts", key, "dict[str,str]"]
  | memberNotText key member => ["scripts", key, "dict[str,str]", member]

/-- The short word for the fault. -/
def code : ShapeFault → String
  | notTable => "model_type"
  | noScripts => "missing"
  | scriptsNotTable | entryNotTable _ => "dict_type"
  | entryNotText _ | memberNotText .. => "string_type"

/-- The fault's wording. -/
def message : ShapeFault → String
  | notTable => "Input should be a valid dictionary or instance of ScriptsFile"
  | noScripts => "Field required"
  | scriptsNotTable | entryNotTable _ => "Input should be a valid dictionary"
  | entryNotText _ | memberNotText .. => "Input should be a valid string"

end ShapeFault

namespace Document

/-- The texts under the keys of a table, and the keys whose value is no text. -/
def texts : List (String × Document) → List (String × String) × List String
  | [] => ([], [])
  | (key, text value) :: rest =>
    let (values, others) := texts rest
    ((key, value) :: values, others)
  | (key, _) :: rest =>
    let (values, others) := texts rest
    (values, key :: others)

/-- The entry under `key` as a script, or what keeps it from being one. -/
def script (key : String) : Document → Except (List ShapeFault) Script
  | text value => .ok (.command value)
  | table entries =>
    match texts entries with
    | (values, []) => .ok (.table values)
    | (_, others) =>
      .error (.entryNotText key :: others.map (ShapeFault.memberNotText key))
  | _ => .error [.entryNotText key, .entryNotTable key]

/-- The entries as scripts, or everything that keeps some from being one. -/
def scriptsOf : List (String × Document) → Except (List ShapeFault) (List (String × Script))
  | [] => .ok []
  | (key, document) :: rest =>
    match script key document, scriptsOf rest with
    | .ok script, .ok scripts => .ok ((key, script) :: scripts)
    | .ok _, .error faults => .error faults
    | .error faults, .ok _ => .error faults
    | .error faults, .error more => .error (faults ++ more)

/-- The scripts of a scripts mapping, in order, or all faults of its shape (`ScriptsFile`). -/
def scripts : Document → Except (List ShapeFault) (List (String × Script))
  | table entries =>
    match entries.lookup "scripts" with
    | some (table scripts) => scriptsOf scripts
    | some _ => .error [.scriptsNotTable]
    | none => .error [.noScripts]
  | _ => .error [.notTable]

end Document

end Taskbook
