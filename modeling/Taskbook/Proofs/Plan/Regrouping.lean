/-
Asking for a group, or for the tasks of its default one by one.

The two requests have different plans. The plan for the group is a series of its own, one
series deeper, and a request for one path alone has no series around it at all. But the
plans are made of the same commands in the same order, and nothing else about a plan
reaches the shell, the hooks or the records (`Plan.execute_agrees`). What does depend on
the nesting is the wording of a failure. Its code does not, and a crash is passed on as it
is.

What can go wrong before the run is the same too: planning the group means planning the
tasks of its default in order, so the first path that has no plan is the same one.
-/
import Taskbook.Proofs.Plan.Expansion
import Taskbook.Proofs.Run.Origin
import Taskbook.Proofs.Run.Request

set_option autoImplicit false

namespace Taskbook

/-! ## Only the commands count -/

/-- Two runs that nobody can tell apart, unless by the log and by the wording of a failure. -/
structure Execution.Agrees {σ : Type} (first second : Execution σ) : Prop where
  effects : first.trace.effects = second.trace.effects
  memory : first.memory = second.memory
  result : (∃ report other, first.result = .ok report ∧ second.result = .ok other ∧
      report.success = other.success ∧ report.exitCode = other.exitCode) ∨
    ∃ text, first.result = .error text ∧ second.result = .error text

namespace Execution.Agrees

variable {σ : Type} {first second : Execution σ}

theorem answered (h : first.Agrees second) : first.trace.answered = second.trace.answered := by
  rw [← Trace.answered_effects, h.effects, Trace.answered_effects]

theorem events (h : first.Agrees second) : first.trace.events = second.trace.events := by
  rw [← Trace.events_effects, h.effects, Trace.events_effects]

theorem records (h : first.Agrees second) : first.trace.records = second.trace.records := by
  rw [← Trace.records_effects, h.effects, Trace.records_effects]

end Execution.Agrees

/-- The code of a report on a failure is up to the code of the failure. -/
theorem Report.exitCode_congr {failure other : Failure} (h : failure.code? = other.code?) :
    Report.exitCode { success := false, failures := [failure] }
      = Report.exitCode { success := false, failures := [other] } := by
  simp [exitCode, List.filterMap_cons, h]

/-- The same fault is reported with the same code whichever way it came up. -/
theorem Fault.reported_passedOn (own : Fault) (links others : List Link) :
    (∃ report other, Ending.reported (.error (own.passedOn links)) = .ok report ∧
        Ending.reported (.error (own.passedOn others)) = .ok other ∧
        report.success = other.success ∧ report.exitCode = other.exitCode) ∨
      ∃ text, Ending.reported (.error (own.passedOn links)) = .error text ∧
        Ending.reported (.error (own.passedOn others)) = .error text := by
  cases own with
  | crash text => exact .inr ⟨text, rfl, rfl⟩
  | failure failure =>
    refine .inl ⟨_, _, rfl, rfl, rfl, Report.exitCode_congr ?_⟩
    rw [(Failure.told_passedOn links failure).2.2.1, (Failure.told_passedOn others failure).2.2.1]

/-- **Only the commands of a plan count.** Two plans with the same commands in the same order
are run alike. -/
theorem Plan.execute_agrees {σ : Type} (conditions : Conditions σ) {plan other : Plan}
    (h : plan.leaves = other.leaves) (recorded : Nat) (memory : σ) :
    (plan.execute conditions recorded memory).Agrees (other.execute conditions recorded memory) := by
  have hplan := Plan.run_takes conditions plan recorded memory
  have hother := Plan.run_takes conditions other recorded memory
  -- the turns are those of the leaves, so both runs take the same ones
  rw [h] at hplan
  refine ⟨?_, ?_, ?_⟩
  · rw [Plan.execute_effects, Plan.execute_effects, hplan.effects, hother.effects]
  · rw [(Plan.execute_unseen conditions plan recorded memory).2.2,
      (Plan.execute_unseen conditions other recorded memory).2.2, hplan.memory, hother.memory]
  · rw [Plan.execute_result, Plan.execute_result]
    cases hending : (plan.run conditions recorded memory).ending with
    | ok _ =>
      rw [hother.ending_eq_ok_iff.2 (hplan.done hending)]
      exact .inl ⟨_, _, rfl, rfl, rfl, rfl⟩
    | error fault =>
      obtain ⟨own, links, others, rfl, hsame⟩ := hplan.same_fault hother hending
      rw [hsame]
      exact Fault.reported_passedOn own links others

/-! ## Only the commands are planned -/

variable {book : Book}

/-- The paths of the tasks that a group at this path calls. -/
def Sequence.paths (sequence : Sequence) (path : Path) : List Path :=
  sequence.names.map fun name => path ++ [name]

/-- A group is planned by planning the tasks of its default. -/
theorem Book.plan_of_sequence_paths {path : Path} {sequence : Sequence}
    (h : book.resolve path = .ok (.sequence sequence)) :
    book.plan path = ((sequence.paths path).mapM book.plan).map (Plan.serial path.dotted) := by
  rw [Book.plan_of_sequence h, Sequence.paths, List.mapM_map, Function.comp_def]
  cases sequence.names.mapM fun name => book.plan (path ++ [name]) <;> rfl

/-- Either the two requests cannot be planned for the same reason, or their plans differ by the
series around the tasks of the group. -/
theorem Book.plans_regroup {path : Path} {sequence : Sequence}
    (h : book.resolve path = .ok (.sequence sequence)) (before after : List Path) :
    (∃ error, book.plans (before ++ [path] ++ after) = .error error ∧
        book.plans (before ++ sequence.paths path ++ after) = .error error) ∨
      ∃ earlier tasks later,
        book.plans (before ++ [path] ++ after)
          = .ok (earlier ++ [.serial path.dotted tasks] ++ later) ∧
        book.plans (before ++ sequence.paths path ++ after) = .ok (earlier ++ tasks ++ later) := by
  have hgroup := Book.plan_of_sequence_paths h
  simp only [Book.plans]
  cases hbefore : before.mapM book.plan with
  | error error =>
    exact .inl ⟨error, mapM_append_of_error _ (mapM_append_of_error _ hbefore),
      mapM_append_of_error _ (mapM_append_of_error _ hbefore)⟩
  | ok earlier =>
    cases htasks : (sequence.paths path).mapM book.plan with
    | error error =>
      -- the group fails as its tasks do, and what comes before does not
      rw [htasks] at hgroup
      refine .inl ⟨error, mapM_append_of_error _ ?_, mapM_append_of_error _ ?_⟩
      · rw [mapM_append_of_ok _ hbefore, mapM_cons_of_error [] hgroup]
        rfl
      · rw [mapM_append_of_ok _ hbefore, htasks]
        rfl
    | ok tasks =>
      rw [htasks] at hgroup
      have hwhole : (before ++ [path]).mapM book.plan
          = .ok (earlier ++ [.serial path.dotted tasks]) := by
        rw [mapM_append_of_ok _ hbefore, mapM_cons_of_ok [] hgroup]
        rfl
      have hsingle : (before ++ sequence.paths path).mapM book.plan = .ok (earlier ++ tasks) := by
        rw [mapM_append_of_ok _ hbefore, htasks]
        rfl
      rw [mapM_append_of_ok after hwhole, mapM_append_of_ok after hsingle]
      cases after.mapM book.plan with
      | error error => exact .inl ⟨error, rfl, rfl⟩
      | ok later => exact .inr ⟨earlier, tasks, later, rfl, rfl⟩

/-- A series around some plans does not change what the commands are. -/
theorem Plan.leaves_regroup (name : String) (earlier tasks later : List Plan) :
    (Plan.together (earlier ++ [.serial name tasks] ++ later)).leaves
      = (Plan.together (earlier ++ tasks ++ later)).leaves := by
  rw [Plan.leaves_together, Plan.leaves_together, Plan.leavesOf_append, Plan.leavesOf_append,
    Plan.leavesOf_append, Plan.leavesOf_append, Plan.leavesOf, Plan.leavesOf, Plan.leaves,
    List.append_nil]

/-! ## The statement -/

/-- **Asking for a group is asking for its tasks.** In any request, a path that resolves to a
default can be replaced by the paths of the default's tasks. Either nothing can be run, and
the same look-up error says why, or both requests are run: with the same calls, records and
notices in the same order, and with the same success and the same code, or the same crash. -/
theorem Book.group_runs_as_its_tasks {σ : Type} (book : Book) (path : Path) (sequence : Sequence)
    (h : book.resolve path = .ok (.sequence sequence)) (before after : List Path)
    (policy : Policy) (shell : Shell σ) (inherited : Environment) (directory : Dir) (memory : σ) :
    let conditions := policy.conditions shell inherited directory
    let tasks := sequence.names.map fun name => path ++ [name]
    let whole := book.execute conditions (before ++ [path] ++ after) memory
    let single := book.execute conditions (before ++ tasks ++ after) memory
    (∃ error, whole = .error error ∧ single = .error error) ∨
      ∃ first second, whole = .ok first ∧ single = .ok second ∧
        first.trace.effects = second.trace.effects ∧
        first.trace.answered = second.trace.answered ∧
        first.trace.events = second.trace.events ∧
        first.trace.records = second.trace.records ∧
        first.memory = second.memory ∧
        ((∃ report other, first.result = .ok report ∧ second.result = .ok other ∧
            report.success = other.success ∧ report.exitCode = other.exitCode) ∨
          ∃ text, first.result = .error text ∧ second.result = .error text) := by
  intro conditions tasks whole single
  rcases Book.plans_regroup h before after with
    ⟨error, hwhole, hsingle⟩ | ⟨earlier, children, later, hwhole, hsingle⟩
  · refine .inl ⟨error, ?_, ?_⟩
    · exact congrArg (· >>= _) hwhole
    · exact congrArg (· >>= _) hsingle
  · have hagrees := Plan.execute_agrees conditions
      (Plan.leaves_regroup path.dotted earlier children later) 0 memory
    refine .inr ⟨_, _, Book.execute_eq_ok_iff.2 ⟨_, hwhole, rfl⟩,
      Book.execute_eq_ok_iff.2 ⟨_, hsingle, rfl⟩, hagrees.effects, hagrees.answered,
      hagrees.events, hagrees.records, hagrees.memory, hagrees.result⟩

/-- A release of two tasks, the second of which is a group again, is asked for as a whole and
task by task. Its last command returns three, two series deep in one plan and one deep in
the other; the calls and the code are the same. -/
theorem Book.release_runs_as_its_tasks :
    let book : Book := ⟨.ofList [("release", .group { name := "release" }
      (.ofList [("test", .command { name := "test" } "pytest"),
        ("docs", .group { name := "docs" }
          (.ofList [("html", .command { name := "html" } "sphinx")])
          (Sequence.ofNames? ["html"]))])
      (Sequence.ofNames? ["test", "docs"]))]⟩
    let shell : Shell Nat := fun _ count => (.exited (if count = 1 then 3 else 0), count + 1)
    let conditions := ({} : Policy).conditions shell {} (Dir.ofText "/srv")
    book.resolve ["release"] = .ok (.sequence ⟨["test", "docs"], by decide⟩) ∧
    ∃ first second, book.execute conditions [["release"]] 0 = .ok first ∧
      book.execute conditions [["release", "test"], ["release", "docs"]] 0 = .ok second ∧
      first.trace.calls.map Call.command = ["pytest", "sphinx"] ∧
      first.trace.answered = second.trace.answered ∧
      ∃ report other, first.result = .ok report ∧ second.result = .ok other ∧
        report.exitCode = 3 ∧ other.exitCode = 3 := by
  intro book shell conditions
  have hresolve : book.resolve ["release"] = .ok (.sequence ⟨["test", "docs"], by decide⟩) := rfl
  have hplan : book.plan ["release"] = .ok (.serial "release"
      [.command "release.test" "pytest",
        .serial "release.docs" [.command "release.docs.html" "sphinx"]]) :=
    (Book.plan_eq_expand (by decide) (by decide) rfl rfl).trans rfl
  have hwhole : book.execute conditions [["release"]] 0 = _ := Book.execute_singleton hplan
  refine ⟨hresolve, ?_⟩
  rcases book.group_runs_as_its_tasks ["release"] _ hresolve [] [] {} shell {} (Dir.ofText "/srv") 0
    with ⟨error, herror, -⟩ | ⟨first, second, hfirst, hsecond, -, hanswered, -, -, -, hresult⟩
  · cases hwhole.symm.trans herror
  · obtain rfl := Except.ok.inj (hwhole.symm.trans hfirst)
    refine ⟨_, second, hfirst, hsecond, rfl, hanswered, ?_⟩
    rcases hresult with ⟨report, other, hreport, hother, -, hcode⟩ | ⟨text, hcrash, -⟩
    · obtain rfl := Except.ok.inj hreport
      exact ⟨_, other, rfl, hother, rfl, hcode.symm⟩
    · cases hcrash

end Taskbook
