/-
The default of a group: the sub-tasks that run, in this order, when the group is
called without naming one.

A sequence lists at least one name. That is part of the type, because every
reader relies on it: a rendered sequence names a sub-task after the runner's own
word, and a resolved one is never taken for "no default". A name may occur more
than once, and then it runs more than once.
-/
import Taskbook.Text.Split

set_option autoImplicit false

namespace Taskbook

/-- Names of sub-tasks in the order they run, at least one (`CompositeDefault`). -/
structure Sequence where
  names : List String
  names_ne_nil : names ≠ []
  deriving DecidableEq, Repr

namespace Sequence

/-- The sequence of the given names, if there are any. -/
def ofNames? (names : List String) : Option Sequence :=
  if h : names ≠ [] then some ⟨names, h⟩ else none

@[simp] theorem ofNames?_names (s : Sequence) : ofNames? s.names = some s := by
  simp [ofNames?, s.names_ne_nil]

/-- How many calls the sequence makes (`CompositeDefault.__len__`). -/
def length (s : Sequence) : Nat :=
  s.names.length

/-- The word that a command line starts with when it calls several tasks. -/
def runner : String := "nps"

/-- The command line that runs the sequence's tasks below `parent` (`CompositeDefault.render`). -/
def render (parent : String) (s : Sequence) : String :=
  Text.join " " (runner :: s.names.map (fun name => parent ++ "." ++ name))

end Sequence

end Taskbook
