/-
Plans: what will be run, as a tree.

A plan is a command under a name, or a series of plans that run one after the
other. The names are there for the reports; they need not be different, and a
plan that was made without one is named after what it is.
-/
import Taskbook.Text.Quoted

set_option autoImplicit false

namespace Taskbook

/-- Commands to run, one after the other (`Node`, with `CommandNode` and `Serial`). -/
inductive Plan where
  | command (name text : String)
  | serial (name : String) (children : List Plan)
  deriving Repr

/-- A command of a plan, with the name it reports under. -/
structure Leaf where
  name : String
  text : String
  deriving DecidableEq, Repr

namespace Plan

/-- The plan's name. -/
def name : Plan → String
  | command name _ => name
  | serial name _ => name

/-- The first of the texts that is not empty, else the last resort. -/
def firstText (lastResort : String) (texts : List String) : String :=
  (texts.find? (· != "")).getD lastResort

/-- The plan to run one command. Without a name it is called by its text. -/
def ofCommand (text : String) (name : Option String) : Plan :=
  command (firstText "CommandNode" (name.toList ++ [text])) text

/-- The plan to run others in order. -/
def ofSeries (children : List Plan) (name : Option String) : Plan :=
  serial (firstText "Serial" name.toList) children

/-- One line that shows the plan: its name, and its command or the names of its
children. -/
def describe : Plan → String
  | command name text => "CommandNode(name='" ++ name ++ "', command='" ++ text ++ "')"
  | serial name children =>
    "Serial(name='" ++ name ++ "', children=" ++ Text.quoteAll (children.map Plan.name) ++ ")"

mutual

/-- The commands of the plan, from left to right. -/
def leaves : Plan → List Leaf
  | command name text => [⟨name, text⟩]
  | serial _ children => leavesOf children

/-- The commands of the plans, from left to right. -/
def leavesOf : List Plan → List Leaf
  | [] => []
  | plan :: rest => plan.leaves ++ leavesOf rest

end

end Plan

end Taskbook
