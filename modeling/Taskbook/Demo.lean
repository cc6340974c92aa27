/-
A demonstration: a small scripts mapping is loaded, its paths are listed, and the
commands of one group are shown by a dry run.
-/
import Taskbook.Mapping.Load
import Taskbook.Run.Report

set_option autoImplicit false

namespace Taskbook.Demo

/-- The mapping of the demonstration. -/
def mapping : Document :=
  .table [("scripts", .table [
    ("release", .table [("default", .text "bash build_release.sh")]),
    ("schema", .table [
      ("default", .text "nps schema.create schema.hub"),
      ("create", .text "bash build_schema.sh"),
      ("hub", .text ("cd .. && json2ts -i contracts/dao-lst/**/*.json" ++
        " -o ../liquid-staking-scripts/types/dao-lst/hub"))])])]

/-- A shell that must not be called: what it would be asked is not run. -/
def noShell : Shell Unit := fun _ _ => (.broken "not to be run", ())

/-- A line across the page. -/
def rule : String := String.ofList (List.replicate 60 '=')

/-- The lines that show how a dry run of the book went. -/
def runLines (book : Book) : List String :=
  let conditions : Conditions Unit :=
    Policy.conditions { dryRun := true } noShell {} {}
  match book.execute conditions [Path.ofDotted "schema"] () with
  | .error error => [error.message]
  | .ok execution =>
    let success :=
      match execution.result with
      | .ok report => report.success
      | .error _ => false
    ["", "[실행될 커맨드]"] ++ execution.trace.records.map (fun record => "  $ " ++ record.text) ++
      ["", "Success: " ++ (if success then "True" else "False")]

/-- The demonstration, line by line. -/
def lines : List String :=
  [rule, "contract-tasks 매핑 예제", rule] ++
    match Book.ofDocument mapping with
    | .error error => [error.message]
    | .ok book => (book.paths false).map (fun path => "  - " ++ path) ++ runLines book

/-- The demonstration as it is printed. -/
def text : String :=
  String.join (lines.map (· ++ "\n"))

end Taskbook.Demo
