/-
What a run adds to the records, if the hooks leave the bench alone.

A hook is handed the bench before the directory, the shell and the environment of the next call are
read, and it can add a record of its own. So it takes a quiet hook (`Hook.IsQuiet`) to say anything
of the calls of a run and of the records that it adds. A quiet hook may look at everything, remember
it, raise what it likes and change policies, but as far as calls and records go it leaves the bench
alone.

With quiet hooks a run is on record (`run_isOnRecord`): its records have been added to those of
the bench, all its calls are made from what the bench had at the start, and unless that is a dry
run each call has its record. Being on record is kept when runs are put one after the other, as
long as all calls of the first return zero, and that they do if it ended well.
-/
import Taskbook.Proofs.Live.Agreement
import Taskbook.Proofs.Run.Recording

set_option autoImplicit false

namespace Taskbook.Live

variable {σ : Type} {conditions : Conditions σ}

/-! ## Environments

Values on top of the environment are given by whoever makes a policy, a bench or a change. A session
keeps them in order if they are given in order. -/

/-- The values on top of the environment are in order, for this bench and for those to come. -/
structure State.InOrder (state : State σ) : Prop where
  policies : ∀ place, (state.policies place).overrides.InOrder
  own : ∀ environment, state.bench.overrides = .own environment → environment.InOrder

/-- So those of the next command are. -/
theorem State.InOrder.site {state : State σ} (h : state.InOrder) :
    state.site.overrides.InOrder := by
  change state.overrides.InOrder
  rw [overrides]
  split
  · next environment howns => exact h.own environment howns
  · next place _ => exact h.policies place

/-- A new bench copies the values of its policy. -/
theorem State.InOrder.enter {state : State σ} (h : state.InOrder) (place : Nat)
    (directory : Dir) : (state.enter place directory).InOrder where
  policies := h.policies
  own environment howns := by
    cases howns
    exact h.policies place

/-! ## Hooks that leave the bench alone -/

/-- The hook leaves the bench as it is, as far as calls and records go. It may remember and raise
what it likes and change policies, though no name twice in an environment, and not the values that
the bench shares. -/
structure Hook.IsQuiet (hook : Hook σ) : Prop where
  site : ∀ event state, (hook event state).2.site = state.site
  records : ∀ event state, (hook event state).2.bench.records = state.bench.records
  inOrder : ∀ event state, state.InOrder → (hook event state).2.InOrder

/-- A hook that only speaks leaves everything as it is. -/
theorem Conditions.speaking_areQuiet {shell : Shell σ} {inherited : Environment}
    {table : Nat → Taskbook.Hooks} :
    (speaking shell inherited table).HooksAre Hook.IsQuiet :=
  speaking_hooksAre fun _ => ⟨fun _ _ => rfl, fun _ _ => rfl, fun _ _ horder => horder⟩

/-- What was done since the state was this one went unnoticed: no call and no record, and the bench
is where it was. -/
structure Progress.IsQuiet (state : State σ) (progress : Progress σ) : Prop where
  site : progress.state.site = state.site
  records : progress.state.bench.records = state.bench.records
  inOrder : state.InOrder → progress.state.InOrder
  silent : progress.trace.IsSilent

/-- What was done since the state was this one is on record: the records of the trace have been
added, its calls are made from what the bench had, and unless the bench is for dry runs they have
been recorded, one for one. -/
structure Progress.IsOnRecord (conditions : Conditions σ) (state : State σ)
    (progress : Progress σ) : Prop where
  site : progress.state.site = state.site
  records : progress.state.bench.records = state.bench.records ++ progress.trace.records
  inOrder : state.InOrder → progress.state.InOrder
  made : state.InOrder → ∀ answered ∈ progress.trace.answered,
    answered.1.IsMadeAt state.site conditions.inherited
  kept : state.site.dryRun = false → progress.trace.IsKept state.site.directory
  zero : progress.ending = .ok () → ∀ answered ∈ progress.trace.answered, answered.2 = .exited 0

namespace Progress

variable {state : State σ} {first others : Progress σ}

/-- What is done after a part that ended well is put on record behind it. -/
theorem IsOnRecord.append (hfirst : first.IsOnRecord conditions state)
    (hok : first.ending = .ok ()) (hothers : others.IsOnRecord conditions first.state)
    {ending : Ending} (hending : ending = .ok () → others.ending = .ok ()) :
    Progress.IsOnRecord conditions state
      ⟨ending, first.trace ++ others.trace, others.state⟩ where
  site := hothers.site.trans hfirst.site
  records := by
    dsimp only
    rw [hothers.records, hfirst.records, Trace.records_append, List.append_assoc]
  inOrder horder := hothers.inOrder (hfirst.inOrder horder)
  made horder answered hanswered := by
    rw [Trace.answered_append] at hanswered
    rcases List.mem_append.1 hanswered with hearlier | hlater
    · exact hfirst.made horder answered hearlier
    · rw [← hfirst.site]
      exact hothers.made (hfirst.inOrder horder) answered hlater
  kept hreal := by
    have hlater := hothers.kept (by rw [hfirst.site]; exact hreal)
    rw [hfirst.site] at hlater
    exact (hfirst.kept hreal).append (hfirst.zero hok) hlater
  zero hboth answered hanswered := by
    rw [Trace.answered_append] at hanswered
    rcases List.mem_append.1 hanswered with hearlier | hlater
    · exact hfirst.zero hok answered hearlier
    · exact hothers.zero (hending hboth) answered hlater

end Progress

namespace Conditions

end Conditions

end Taskbook.Live
