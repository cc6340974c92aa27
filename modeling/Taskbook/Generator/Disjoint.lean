/-
Whether generator tasks keep out of each other's way.

Two tasks are in conflict if the directories they write to overlap, or the
directories they read from. The tasks are compared pair by pair: each with those
before it, nearest to the front first, and the outputs of a pair before its
inputs. The first conflict in that order is the one reported, so it names the
earliest task that conflicts with one before it.
-/
import Taskbook.Generator.Target

set_option autoImplicit false

namespace Taskbook

/-- Two targets in each other's way; `earlier` comes first in the list. -/
inductive Conflict where
  /-- The output directories overlap. -/
  | outputs (earlier later : Target)
  /-- The input directories overlap, and the outputs do not. -/
  | inputs (earlier later : Target)
  deriving DecidableEq, Repr

/-- The wording of a conflict. -/
def Conflict.message : Conflict → String
  | outputs earlier later =>
    "Tasks '" ++ earlier.task ++ "' and '" ++ later.task ++
      "' write overlapping output directories: " ++ earlier.outputDir ++ ", " ++ later.outputDir
  | inputs earlier later =>
    "Tasks '" ++ earlier.task ++ "' and '" ++ later.task ++ "' read overlapping inputs: " ++
      earlier.inputGlob ++ ", " ++ later.inputGlob

namespace Target

/-- The conflict of a target with a later one, if there is one. -/
def conflict? (earlier later : Target) : Option Conflict :=
  if later.outputPath.overlaps earlier.outputPath then some (.outputs earlier later)
  else if later.inputRoot.overlaps earlier.inputRoot then some (.inputs earlier later)
  else none

/-- The first conflict among `targets` or of one of them with one already
seen. -/
def conflictAfter? (seen : List Target) : List Target → Option Conflict
  | [] => none
  | target :: rest =>
    match seen.findSome? (fun earlier => earlier.conflict? target) with
    | some conflict => some conflict
    -- kept in the order of the list, so that the earliest one is found first
    | none => conflictAfter? (seen ++ [target]) rest

/-- Passes exactly if no two targets are in conflict; else the first conflict
(`check_disjoint_targets`). -/
def checkDisjoint (targets : List Target) : Except Conflict Unit :=
  match conflictAfter? [] targets with
  | some conflict => .error conflict
  | none => .ok ()

end Target

end Taskbook
