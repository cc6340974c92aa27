/-
The program when nothing is in its way.

Three things can end the program before it starts its work: arguments that cannot be read or
ask for help, preferences that cannot be found, and a level that the console refuses. If none
of them does (`Ready`), the program either lists the tasks or runs those that are named, and
`program_of_ready` says which. The statements about exit codes begin from there.

The first of them is about requests that are refused. A request is planned as a whole before
any of it is run, so the first path without a plan decides how the request ends, whatever
stands before it or after it (`request_is_all_or_nothing`). The same error comes out for every
shell, for hooks that may do anything, and from every state, and it is all that comes out: there
is no trace of a run that was never begun. The program turns it into a line and an exit code.

The error by itself does not tell that nothing was run. A hook may raise one like it when some
commands have been called. Nor is a path the same as its text: a segment with a dot in it leads
to no task, and its text to a task below another (`refused_after_call_and_run_by_text`).
-/
import Taskbook.CommandLine.Program
import Taskbook.Proofs.Live.Request
import Taskbook.Proofs.Plan.Expansion

set_option autoImplicit false

namespace Taskbook.CommandLine

variable {σ : Type} {world : Surroundings σ} {argv : List String} {arguments : Arguments}
  {preferences : Preferences} {level : Level}

/-! ## The work of the program -/

/-- The arguments are read, the preferences are found and the console takes the level: the
program comes to its work. -/
structure Ready (world : Surroundings σ) (argv : List String) (arguments : Arguments)
    (preferences : Preferences) (level : Level) : Prop where
  read_eq : read argv = .ok (.work arguments)
  preferences_eq : Preferences.ofEnvironment world.environment world.homes = .ok preferences
  level_eq : (arguments.level preferences).level = .ok level

/-- Readiness can be computed. -/
theorem Ready.of_toOption (hread : (read argv).toOption = some (.work arguments))
    (hpreferences :
      (Preferences.ofEnvironment world.environment world.homes).toOption = some preferences)
    (hlevel : (arguments.level preferences).level.toOption = some level) :
    Ready world argv arguments preferences level :=
  ⟨toOption_eq_some_iff.1 hread, toOption_eq_some_iff.1 hpreferences,
    toOption_eq_some_iff.1 hlevel⟩

theorem program_of_read (h : read argv = .ok (.work arguments)) (memory : σ) :
    program world argv memory = work world arguments memory := by
  rw [program, h]

/-- The program lists the tasks if that is asked for or no task is named, and else runs the
named ones. -/
theorem program_of_ready (h : Ready world argv arguments preferences level) (memory : σ) :
    program world argv memory =
      if arguments.list || arguments.tasks.isEmpty then
        { exit := .returned 0
          output := String.join ((world.book.listing arguments.all).map (· ++ "\n"))
          memory := memory }
      else runTasks world (.atLevel level) arguments preferences memory := by
  have hconsole : Console.setUp (arguments.level preferences) {} = (.ok (), .atLevel level) := by
    rw [Console.setUp, h.level_eq]
  rw [program_of_read h.read_eq, work, h.preferences_eq]
  dsimp only
  rw [hconsole]

theorem program_of_listing (h : Ready world argv arguments preferences level)
    (hlist : arguments.list = true ∨ arguments.tasks = []) (memory : σ) :
    program world argv memory =
      { exit := .returned 0
        output := String.join ((world.book.listing arguments.all).map (· ++ "\n"))
        memory := memory } := by
  rw [program_of_ready h, if_pos]
  rcases hlist with hlist | hnone
  · rw [hlist, Bool.true_or]
  · rw [hnone, List.isEmpty_nil, Bool.or_true]

theorem program_of_tasks (h : Ready world argv arguments preferences level)
    (hlist : arguments.list = false) (htasks : arguments.tasks ≠ []) (memory : σ) :
    program world argv memory
      = runTasks world (.atLevel level) arguments preferences memory := by
  rw [program_of_ready h, if_neg]
  simpa [hlist] using htasks

/-- The paths that the named tasks are asked for by. -/
def Arguments.paths (arguments : Arguments) : List Path :=
  arguments.tasks.map Path.ofDotted

/-- A request that is refused ends the program with a line about it. -/
theorem runTasks_of_refused {console : Console} {error : LookupError}
    (h : world.book.FirstWithoutPlan arguments.paths error) (memory : σ) :
    runTasks world console arguments preferences memory =
      { exit := .returned notFoundCode
        lines := console.shown [Reporter.commandLine.line .error error.message]
        memory := memory } := by
  have hplans : world.book.plans (arguments.tasks.map Path.ofDotted) = .error error :=
    Book.plans_eq_error_iff.2 h
  rw [runTasks, hplans]

/-- Only a request for something is refused. -/
theorem tasks_ne_nil_of_refused {book : Book} {error : LookupError}
    (h : book.FirstWithoutPlan arguments.paths error) : arguments.tasks ≠ [] := by
  obtain ⟨before, path, after, hpaths, -, -⟩ := h
  intro hnone
  rw [Arguments.paths, hnone] at hpaths
  simp at hpaths

/-! ## All or nothing -/

/-- **A request is all or nothing.** If some path of a request has no plan, there is a first
such path, and the request is refused with its error, whatever the policy, the shell and the
hooks are, and whatever the hooks would do: nothing has been called, told or logged, and the
state is what it was. The program then returns two, without a call, and what it shows is a line
with the error. If every path has a plan, the request does not end with the error of a look-up,
unless a hook or the shell raises one. -/
theorem request_is_all_or_nothing (book : Book) (paths : List Path) :
    (∀ path ∈ paths, ∀ error, book.plan path = .error error →
      ∃ first, book.FirstWithoutPlan paths first) ∧
    (∀ error, book.FirstWithoutPlan paths error →
      (∀ (σ : Type) (conditions : Live.Conditions σ) (place : Nat) (directory : Dir)
        (state : Live.State σ),
        Live.request book conditions paths place directory state
          = ⟨.error (.lookup error), [], state⟩) ∧
      (∀ (σ : Type) (policy : Policy) (shell : Shell σ) (inherited : Environment)
        (directory : Dir) (memory : σ),
        book.execute (policy.conditions shell inherited directory) paths memory
          = .error error) ∧
      ∀ (σ : Type) (world : Surroundings σ) (argv : List String) (arguments : Arguments)
        (preferences : Preferences) (level : Level) (memory : σ),
        Ready world argv arguments preferences level → world.book = book →
        arguments.list = false → arguments.tasks.map Path.ofDotted = paths →
          let result := program world argv memory
          result.exit = .returned 2 ∧ result.trace = [] ∧ result.memory = memory ∧
          result.output = "" ∧ result.lines = (Console.atLevel level).shown
            [⟨40, "contract_tasks.cli", error.message⟩]) ∧
    ((∀ path ∈ paths, ∃ plan, book.plan path = .ok plan) →
      ∀ (σ : Type) (conditions : Live.Conditions σ) (place : Nat) (directory : Dir)
        (state : Live.State σ), conditions.RaiseNoLookup → ∀ error,
        (Live.request book conditions paths place directory state).result
          ≠ .error (.lookup error)) := by
  refine ⟨fun path hpath error => Book.exists_firstWithoutPlan hpath,
    fun error hfirst => ⟨?_, ?_, ?_⟩,
    fun hall σ conditions place directory state h => Live.request_ne_lookup h hall⟩
  · intro σ conditions place directory state
    exact Live.request_of_refused hfirst
  · intro σ policy shell inherited directory memory
    exact Book.execute_eq_error_iff.2 hfirst
  · rintro σ world argv arguments preferences level memory hready rfl hlist rfl result
    have hresult : result = _ := (program_of_tasks hready hlist (tasks_ne_nil_of_refused hfirst)
      memory).trans (runTasks_of_refused hfirst memory)
    rw [hresult]
    exact ⟨rfl, rfl, rfl, rfl, rfl⟩

/-- The tests of a release have a plan, and the release itself has none, because its
documentation runs a manual that is a group without a default. Asked for both, the program
returns two, and not even the tests are run. Asked for the tests alone, with a hook that keeps
to sending every command elsewhere, the request does not end with the error of a look-up. -/
theorem tests_before_broken_release_are_not_run :
    let world : Surroundings Nat :=
      { book := releaseBook, environment := {}, homes := ⟨none, fun _ => none⟩
        shell := fun _ count => (.exited 0, count + 1), elapsed := 0 }
    let hook : Live.Hook Nat := fun _ state =>
      (.ok (), { state with bench := { state.bench with directory := Dir.ofText "/tmp" } })
    let conditions : Live.Conditions Nat :=
      ⟨world.shell, fun _ _ => none, fun _ => ⟨some hook, none⟩, {}⟩
    let state : Live.State Nat := ⟨fun _ => {}, { directory := Dir.ofText "/srv" }, 0⟩
    (∃ plan, releaseBook.plan ["release", "test"] = .ok plan) ∧
    releaseBook.FirstWithoutPlan [["release", "test"], ["release"]]
      (.noDefault ["release", "docs", "manual"] ["a4"]) ∧
    (program world ["release.test", "release"] 0).exit = .returned 2 ∧
    (program world ["release.test", "release"] 0).memory = 0 ∧
    conditions.RaiseNoLookup ∧
    ∀ error, (Live.request releaseBook conditions [["release", "test"]] 0 (Dir.ofText "/srv")
      state).result ≠ .error (.lookup error) := by
  intro world hook conditions state
  have htest : releaseBook.plan ["release", "test"]
      = .ok (.command "release.test" "pytest") := Book.plan_of_command rfl
  have hrelease : releaseBook.plan ["release"]
      = .error (.noDefault ["release", "docs", "manual"] ["a4"]) :=
    (Book.plan_eq_expand (by decide) (by decide) rfl rfl).trans rfl
  have hfirst : releaseBook.FirstWithoutPlan [["release", "test"], ["release"]]
      (.noDefault ["release", "docs", "manual"] ["a4"]) :=
    ⟨[["release", "test"]], ["release"], [], rfl, by simpa using ⟨_, htest⟩, hrelease⟩
  have hready : Ready world ["release.test", "release"] { tasks := ["release.test", "release"] }
      ⟨"INFO", {}, some "/bin/bash", false⟩ .info :=
    .of_toOption (by decide +kernel) (by decide +kernel) (by decide +kernel)
  have hraises : conditions.RaiseNoLookup := by
    refine ⟨fun _ _ => rfl, fun _ => ⟨fun own hown => ?_, nofun⟩⟩
    obtain rfl : hook = own := Option.some.inj hown
    exact fun _ _ _ => nofun
  obtain ⟨-, hrefused, -⟩ :=
    request_is_all_or_nothing releaseBook [["release", "test"], ["release"]]
  obtain ⟨-, -, hplanned⟩ := request_is_all_or_nothing releaseBook [["release", "test"]]
  obtain ⟨hexit, -, hmemory, -⟩ := (hrefused _ hfirst).2.2 Nat world _ _ _ _ 0 hready rfl rfl
    (by decide)
  exact ⟨⟨_, htest⟩, hfirst, hexit, hmemory, hraises,
    hplanned (by simpa using ⟨_, htest⟩) Nat conditions 0 (Dir.ofText "/srv") state hraises⟩

/-- Two paths that have plans, and a hook that has the error of a look-up against the second. The
request ends with that error, and the first command has been called. And a path of one segment
with a dot in it: it has no plan, but the program, given its text, runs the task below the other
and returns zero. -/
theorem refused_after_call_and_run_by_text :
    let book : Book := ⟨.ofList [
      ("a", .group { name := "a" } (.ofList [("b", .command { name := "b" } "make b")]) none),
      ("c", .command { name := "c" } "make c")]⟩
    let gone : LookupError := .missing [] "x" [] ["a", "c"]
    let hook : Live.Hook Nat := fun event state =>
      (if event.name = "c" then .error (.lookup gone) else .ok (), state)
    let shell : Shell Nat := fun _ count => (.exited 0, count + 1)
    let conditions : Live.Conditions Nat :=
      ⟨shell, fun _ _ => none, fun _ => ⟨some hook, none⟩, {}⟩
    let state : Live.State Nat := ⟨fun _ => {}, { directory := Dir.ofText "/srv" }, 0⟩
    let execution :=
      Live.request book conditions [["a", "b"], ["c"]] 0 (Dir.ofText "/srv") state
    let world : Surroundings Nat :=
      { book := book, environment := {}, homes := ⟨none, fun _ => none⟩
        shell := shell, elapsed := 0 }
    ((∀ path ∈ [["a", "b"], ["c"]], ∃ plan, book.plan path = .ok plan) ∧
      execution.result = .error (.lookup gone) ∧
      execution.trace.calls.map Call.command = ["make b"]) ∧
    book.plan ["a.b"] = .error (.missing [] "a.b" [] ["a", "c"]) ∧
    Path.dotted ["a.b"] = "a.b" ∧
    (program world ["a.b"] 0).exit = .returned 0 ∧
    (program world ["a.b"] 0).trace.calls.map Call.command = ["make b"] := by
  intro book gone hook shell conditions state execution world
  have hb : book.plan ["a", "b"] = .ok (.command "a.b" "make b") := Book.plan_of_command rfl
  have hc : book.plan ["c"] = .ok (.command "c" "make c") := Book.plan_of_command rfl
  have hplans : book.plans [["a", "b"], ["c"]]
      = .ok [.command "a.b" "make b", .command "c" "make c"] :=
    (mapM_cons_of_ok _ hb).trans (congrArg _ (mapM_cons_of_ok [] hc))
  have hexecution : execution = _ := Live.request_of_planned hplans
  have hready : Ready world ["a.b"] { tasks := ["a.b"] } ⟨"INFO", {}, some "/bin/bash", false⟩
      .info :=
    .of_toOption (by decide +kernel) (by decide +kernel) (by decide +kernel)
  have hprogram := program_of_tasks hready rfl (by decide) 0
  have hone : world.book.plans [Path.ofDotted "a.b"] = .ok [.command "a.b" "make b"] :=
    mapM_cons_of_ok [] hb
  rw [hexecution, hprogram, runTasks]
  refine ⟨⟨?_, rfl, rfl⟩, Book.plan_of_error rfl, rfl, ?_, ?_⟩
  · intro path hpath
    rcases List.mem_cons.1 hpath with rfl | hlast
    · exact ⟨_, hb⟩
    · rw [List.mem_singleton.1 hlast]
      exact ⟨_, hc⟩
  · dsimp only [List.map]
    rw [hone]
    rfl
  · dsimp only [List.map]
    rw [hone]
    rfl

end Taskbook.CommandLine
