/-
Who waits for the error of a look-up, and what else may raise one.

A request is refused with the error of the first path that has no plan. Whoever asked for it cannot
tell that error from one that a hook or the shell raises while the plans are run, with commands
called and recorded by then. If neither of them raises any, a request that is not refused does not
end like one that is (`request_ne_lookup`).
-/
import Taskbook.Proofs.Live.Agreement
import Taskbook.Proofs.Run.Request

set_option autoImplicit false

namespace Taskbook.Live

variable {σ : Type} {conditions : Conditions σ}

/-- The hook raises no error of a look-up. -/
def Hook.RaisesNoLookup (hook : Hook σ) : Prop :=
  ∀ event state error, (hook event state).1 ≠ .error (.lookup error)

/-- Neither the shell nor a hook raises the error of a look-up. -/
structure Conditions.RaiseNoLookup (conditions : Conditions σ) : Prop where
  shell : ∀ call memory, conditions.lookup? call memory = none
  hooks : conditions.HooksAre Hook.RaisesNoLookup

/-- A hook that only speaks has a failure or a crash against a command, and no error of a look-up. -/
theorem Conditions.speaking_raiseNoLookup {shell : Shell σ} {inherited : Environment}
    {table : Nat → Taskbook.Hooks} : (speaking shell inherited table).RaiseNoLookup := by
  refine ⟨fun _ _ => rfl, speaking_hooksAre fun hook event state error => ?_⟩
  rw [Hook.speaking]
  rcases hook event with (failure | text) | _ <;> rintro ⟨⟩

/-- It did not end with the error of a look-up. -/
def Progress.NoLookup (progress : Progress σ) : Prop :=
  ∀ error, progress.ending ≠ .error (.lookup error)

theorem tell_noLookup {event : Event} {hook : Option (Hook σ)} {state : State σ}
    (h : ∀ own ∈ hook, own.RaisesNoLookup) : (tell event hook state).NoLookup := by
  cases hook with
  | none => exact nofun
  | some own => exact h own rfl event state

theorem Conditions.attempt_noLookup (h : ∀ call memory, conditions.lookup? call memory = none)
    (name text : String) (state : State σ) : (conditions.attempt name text state).NoLookup := by
  intro error
  rw [attempt]
  dsimp only
  rcases ((conditions.flat state.site).attempt name text state.memory).ending
    with (failure | message) | _
  · rintro ⟨⟩
  · rw [raise, h]
    rintro ⟨⟩
  · rintro ⟨⟩

theorem Conditions.runCommand_noLookup (h : conditions.RaiseNoLookup) (name text : String)
    (state : State σ) : (conditions.runCommand name text state).NoLookup := by
  cases hasked : (conditions.asks name text state).ending with
  | error raised =>
    rw [runCommand_of_refused hasked]
    exact tell_noLookup (h.hooks.hooksAt _ _).before
  | ok _ =>
    intro error
    rw [runCommand_of_allowed hasked]
    have hafter : (conditions.tells state.bench.policy name text
        (conditions.attempt name text (conditions.asks name text state).state)).ending
          ≠ .error (.lookup error) :=
      tell_noLookup (h.hooks.hooksAt _ _).after error
    -- the hook after the command has the last word, if it objects
    cases htold : (conditions.tells state.bench.policy name text
        (conditions.attempt name text (conditions.asks name text state).state)).ending with
    | error raised =>
      rw [htold] at hafter
      exact hafter
    | ok _ => exact Conditions.attempt_noLookup h.shell _ _ _ error

theorem isComposed_noLookup :
    IsComposed fun (_ : State σ) (progress : Progress σ) => progress.NoLookup where
  nothing _ := nofun
  next _ _ _ _ _ hothers := hothers
  passed _ _ _ _ _ _ _ _ _ := nofun

/-- If nobody raises the error of a look-up, no run ends with one. -/
theorem run_noLookup (h : conditions.RaiseNoLookup) (plan : Plan) (state : State σ) :
    (run conditions plan state).NoLookup :=
  run_induction isComposed_noLookup (Conditions.runCommand_noLookup h) plan state

theorem execute_ne_lookup (h : conditions.RaiseNoLookup) (plan : Plan) (state : State σ)
    (error : LookupError) : (execute conditions plan state).result ≠ .error (.lookup error) := by
  have hrun := run_noLookup h plan state error
  rw [execute]
  split
  · rintro ⟨⟩
  · rintro ⟨⟩
  · next raised hraised =>
    rw [hraised] at hrun
    exact fun hresult => hrun (congrArg Except.error (Except.error.inj hresult))

/-! ## Requests -/

variable {book : Book} {paths : List Path} {place : Nat} {directory : Dir} {state : State σ}

/-- A request with a path that has no plan is refused as a whole. -/
theorem request_of_refused {error : LookupError} (h : book.FirstWithoutPlan paths error) :
    request book conditions paths place directory state = ⟨.error (.lookup error), [], state⟩ := by
  rw [request, Book.plans_eq_error_iff.2 h]

/-- Any other is run. -/
theorem request_of_planned {plans : List Plan} (h : book.plans paths = .ok plans) :
    request book conditions paths place directory state
      = execute conditions (Plan.together plans) (state.enter place directory) := by
  rw [request, h]

/-- If nobody raises the error of a look-up, a request does not end with one unless it is
refused. -/
theorem request_ne_lookup (h : conditions.RaiseNoLookup)
    (hall : ∀ path ∈ paths, ∃ plan, book.plan path = .ok plan) (error : LookupError) :
    (request book conditions paths place directory state).result ≠ .error (.lookup error) := by
  obtain ⟨plans, hplans⟩ := exists_mapM_ok_iff.2 hall
  rw [request_of_planned hplans]
  exact execute_ne_lookup h _ _ error

end Taskbook.Live
