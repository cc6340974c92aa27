/-
Calls and records go together.

A command that is really called is recorded when the call is over, with the code that it
returned, or with none if it could not be started. Only a call that broke is not recorded,
and it is the last. So the records of a run can be read off its calls, one for one and in
the same order. `Trace.IsKept` says so of a trace, and it is kept when traces are put one after the
other, as long as all calls of the first return zero (`Trace.IsKept.append`).

All calls of a run are made alike. `Call.IsMadeAt` says how, from what there was when the
run began.
-/
import Taskbook.Proofs.Environment
import Taskbook.Proofs.Run.Prediction

set_option autoImplicit false

namespace Taskbook

/-! ## Calls and records -/

/-- The code in the record of a call that ended like this. A call that broke has no record. -/
def Outcome.noted : Outcome → Option (Option Int)
  | .exited code => some (some code)
  | .notStarted _ => some none
  | .broken _ => none

/-- What is to be recorded in this directory of a call with this answer. -/
def Call.noted (directory : Dir) (answered : Call × Outcome) :
    Option (String × Dir × Option Int) :=
  answered.2.noted.map fun code => (answered.1.command, directory, code)

/-- What a record says of the call: the command, the directory and the code. -/
def Record.noted (record : Record) : String × Dir × Option Int :=
  (record.text, record.directory, record.code)

/-- The call is made in the directory of the site and by its shell, and the command inherits its
environment if the site has nothing on top of it. If it has, the command gets the inherited
environment with the values of the site on top. -/
structure Call.IsMadeAt (call : Call) (site : Site) (inherited : Environment) : Prop where
  directory : call.directory = site.directory
  shell : call.shell = site.shell
  inherits : call.environment = none ↔ site.overrides.bindings = []
  merges : ∀ merged, call.environment = some merged → ∀ name,
    merged.get? name = (site.overrides.get? name).or (inherited.get? name)

/-- The records of the trace are those of its calls, in the order of the calls, and only the last
call can have ended in any other way than by returning zero. -/
structure Trace.IsKept (trace : Trace) (directory : Dir) : Prop where
  records : trace.records.map Record.noted = trace.answered.filterMap (Call.noted directory)
  last : ∀ answered ∈ trace.answered.dropLast, answered.2 = .exited 0

/-- Nothing is called or recorded in the trace. -/
structure Trace.IsSilent (trace : Trace) : Prop where
  answered : trace.answered = []
  records : trace.records = []

namespace Trace

variable {a b : Trace} {directory : Dir}

/-- What is silent changes nothing of this. -/
theorem IsSilent.answered_append (h : b.IsSilent) : (a ++ b).answered = a.answered := by
  rw [Trace.answered_append, h.answered, List.append_nil]

theorem IsSilent.records_append (h : b.IsSilent) : (a ++ b).records = a.records := by
  rw [Trace.records_append, h.records, List.append_nil]

/-- What comes after calls that all returned zero can be added. -/
theorem IsKept.append (ha : a.IsKept directory)
    (hzero : ∀ answered ∈ a.answered, answered.2 = .exited 0) (hb : b.IsKept directory) :
    (a ++ b).IsKept directory := by
  constructor
  · rw [Trace.records_append, Trace.answered_append, List.map_append, List.filterMap_append,
      ha.records, hb.records]
  · rw [Trace.answered_append, List.dropLast_append]
    intro answered hmem
    split at hmem
    · exact ha.last answered hmem
    · rcases List.mem_append.1 hmem with hearlier | hlater
      · exact hzero answered hearlier
      · exact hb.last answered hlater

end Trace

/-! ## One command -/

namespace Turn

variable {σ : Type} {conditions : Conditions σ} {turn : Turn σ}

end Turn

end Taskbook
