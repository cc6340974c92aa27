/-
Asking for some paths, and which commands the shell gets for it.

A request is planned before it is run. So it fails as a whole exactly if one of its paths has
no plan, with the error of the first of them (`Book.execute_eq_error_iff`), and if it does not
fail its plan is that of the paths in order. Whatever the conditions are, hooks and dry runs
included, a run hands the shell nothing but commands of its plan (`Plan.execute_callsOnly`).
-/
import Taskbook.Proofs.InOrder
import Taskbook.Proofs.Run.Hooks

set_option autoImplicit false

namespace Taskbook

/-! ## Requests -/

section

variable {σ : Type} {book : Book} {conditions : Conditions σ} {paths : List Path} {memory : σ}

theorem Book.execute_eq_ok_iff {execution : Execution σ} :
    book.execute conditions paths memory = .ok execution ↔
      ∃ plans, paths.mapM book.plan = .ok plans ∧
        execution = (Plan.together plans).execute conditions 0 memory := by
  rw [Book.execute, Book.plans, bind_eq_ok_iff]
  refine exists_congr fun plans => and_congr_right fun _ => ?_
  exact ⟨fun h => (Except.ok.inj h).symm, fun h => h ▸ rfl⟩

/-- A request for one path runs that path's plan. -/
theorem Book.execute_singleton {path : Path} {plan : Plan} (h : book.plan path = .ok plan) :
    book.execute conditions [path] memory = .ok (plan.execute conditions 0 memory) :=
  Book.execute_eq_ok_iff.2 ⟨[plan], mapM_cons_of_ok [] h, rfl⟩

/-- A request is run exactly if each of its paths has a plan. -/
theorem Book.exists_execute_iff :
    (∃ execution, book.execute conditions paths memory = .ok execution) ↔
      ∀ path ∈ paths, ∃ plan, book.plan path = .ok plan := by
  rw [← exists_mapM_ok_iff]
  constructor
  · rintro ⟨execution, h⟩
    obtain ⟨plans, hplans, -⟩ := Book.execute_eq_ok_iff.1 h
    exact ⟨plans, hplans⟩
  · rintro ⟨plans, hplans⟩
    exact ⟨_, Book.execute_eq_ok_iff.2 ⟨plans, hplans, rfl⟩⟩

/-- The first of the paths that has no plan has none for this reason. -/
def Book.FirstWithoutPlan (book : Book) (paths : List Path) (error : LookupError) : Prop :=
  ∃ before path after, paths = before ++ path :: after ∧
    (∀ earlier ∈ before, ∃ plan, book.plan earlier = .ok plan) ∧ book.plan path = .error error

theorem Book.plans_eq_error_iff {error : LookupError} :
    book.plans paths = .error error ↔ book.FirstWithoutPlan paths error :=
  mapM_eq_error_iff

/-- A request is refused with the error of the first path that has no plan, and for no other
reason. -/
theorem Book.execute_eq_error_iff {error : LookupError} :
    book.execute conditions paths memory = .error error ↔ book.FirstWithoutPlan paths error := by
  rw [← Book.plans_eq_error_iff, Book.execute]
  cases book.plans paths with
  | error own => exact ⟨fun h => congrArg _ (Except.error.inj h), fun h => h ▸ rfl⟩
  | ok plans => exact ⟨nofun, nofun⟩

/-- If a path has no plan, there is a first that has none. -/
theorem Book.exists_firstWithoutPlan {path : Path} {error : LookupError} (hmem : path ∈ paths)
    (h : book.plan path = .error error) : ∃ first, book.FirstWithoutPlan paths first := by
  obtain ⟨first, hfirst⟩ := exists_mapM_error_of_mem hmem h
  exact ⟨first, Book.plans_eq_error_iff.1 hfirst⟩

end

/-- Plans put together have their commands one after the other. -/
theorem Plan.leaves_together (plans : List Plan) :
    (Plan.together plans).leaves = Plan.leavesOf plans := by
  unfold Plan.together
  split
  · rw [Plan.leavesOf, Plan.leavesOf, List.append_nil]
  · rw [Plan.leaves]

/-! ## Calls -/

section

variable {σ : Type} {conditions : Conditions σ}

/-- All calls of the trace ask for one of these commands. -/
def Trace.CallsOnly (trace : Trace) (conditions : Conditions σ) (leaves : List Leaf) : Prop :=
  ∀ call ∈ trace.calls, ∃ leaf ∈ leaves, call = conditions.request leaf

/-- A turn calls its own command or nothing. -/
theorem Turn.call_of_mem_answered {turn : Turn σ} {answered : Call × Outcome}
    (h : answered ∈ (turn.progress conditions).trace.answered) :
    answered.1 = conditions.request turn.leaf := by
  cases hdry : conditions.site.dryRun with
  | true =>
    rw [answered_of_dryRun hdry] at h
    cases h
  | false =>
    cases hasked : (turn.asked.tell conditions.hooks.before).1 with
    | error fault =>
      rw [progress_of_refused hasked, Event.answered_tell] at h
      cases h
    | ok _ =>
      rw [answered_of_allowed hasked, answered_of_real hdry] at h
      rw [List.mem_singleton.1 h]

/-- A run calls nothing but commands of its plan. -/
theorem Plan.run_callsOnly (plan : Plan) (recorded : Nat) (memory : σ) :
    (plan.run conditions recorded memory).trace.CallsOnly conditions plan.leaves := by
  intro call hcall
  obtain ⟨answered, hmem, rfl⟩ := List.mem_map.1 hcall
  rw [← Trace.answered_effects, (Plan.run_takes conditions plan recorded memory).effects,
    Conditions.answered_effectsOf] at hmem
  obtain ⟨turn, hturn, hown⟩ := List.mem_flatMap.1 hmem
  have hleaf := (Conditions.turns_prefix plan.leaves recorded memory).subset
    (List.mem_map_of_mem hturn)
  exact ⟨turn.leaf, hleaf, Turn.call_of_mem_answered hown⟩

/-- Every call of a run, reported or not, asks for a command of the plan. -/
theorem Plan.execute_callsOnly (plan : Plan) (recorded : Nat) (memory : σ) :
    (plan.execute conditions recorded memory).trace.CallsOnly conditions plan.leaves := by
  intro call hcall
  rw [Trace.calls, (Plan.execute_unseen conditions plan recorded memory).1] at hcall
  exact Plan.run_callsOnly plan recorded memory call hcall

end

end Taskbook
