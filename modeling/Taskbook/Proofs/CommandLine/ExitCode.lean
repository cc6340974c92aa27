/-
The exit code of a request says what became of its commands.

From the outside a run is the list of its calls with their answers, and an exit code. The
statement here (`exit_code_says_what_became_of_the_run`) relates the two without a word about
plans: which commands have been called, where and by which interpreter, that the answers are
the shell's own, and that the code is zero only if nothing is missing and nothing failed. The
flat run of `Taskbook.Proofs.Run.FailFast` is what both sides are compared with. It has two
shapes (`Conditions.inTurn_shape`): everything returned zero, or one command did not and is the
last that was called. Each shape fixes the calls and the code.

An option that is given without its value leaves the program without a directory. Such a run
does not begin, and no code is returned (`no_directory_no_exit_code`).
-/
import Taskbook.Proofs.CommandLine.Program
import Taskbook.Proofs.Run.Prediction
import Taskbook.Workspace

set_option autoImplicit false

namespace Taskbook

/-! ## Answers -/

namespace Shell

variable {σ : Type}

/-- What the shell answers to these calls, one after the other. -/
def answers (shell : Shell σ) : List Call → σ → List Outcome
  | [], _ => []
  | call :: rest, memory =>
    let answer := shell call memory
    answer.1 :: shell.answers rest answer.2

/-- Every call returns a code or cannot be started. -/
def NeverBreaks (shell : Shell σ) : Prop :=
  ∀ call memory text, (shell call memory).1 ≠ .broken text

end Shell

/-- The exit code that a command stands for with this outcome: its own, or one if it has
none. -/
def Outcome.code : Outcome → Int
  | exited code => code
  | notStarted _ => 1
  | broken _ => 1

theorem Outcome.code_eq_zero_iff {outcome : Outcome} :
    outcome.code = 0 ↔ outcome = .exited 0 := by
  cases outcome <;> simp [code]

/-! ## The two shapes of a flat run -/

namespace Conditions

variable {σ : Type} {conditions : Conditions σ}

/-- Either all commands returned zero, or the last that was attempted did not. -/
theorem inTurn_shape (leaves : List Leaf) (memory : σ) :
    (conditions.inTurn leaves memory).1 = leaves.map (⟨·, .exited 0⟩) ∨
    ∃ earlier failing later outcome, leaves = earlier ++ failing :: later ∧
      outcome ≠ .exited 0 ∧
      (conditions.inTurn leaves memory).1
        = earlier.map (⟨·, .exited 0⟩) ++ [⟨failing, outcome⟩] := by
  fun_induction inTurn conditions leaves memory with
  | case1 memory => exact .inl rfl
  | case2 leaf rest memory answer hzero others ih =>
    rcases ih with hall | ⟨earlier, failing, later, outcome, rfl, hne, hcut⟩
    · left
      rw [hzero, hall, List.map_cons]
    · right
      refine ⟨leaf :: earlier, failing, later, outcome, rfl, hne, ?_⟩
      rw [hzero, hcut, List.map_cons, List.cons_append]
  | case3 leaf rest memory answer hne => exact .inr ⟨[], leaf, rest, answer.1, rfl, hne, rfl⟩

/-- The outcomes of the attempts are the shell's answers to their calls. -/
theorem outcomes_inTurn (leaves : List Leaf) (memory : σ) :
    (conditions.inTurn leaves memory).1.map Attempt.outcome
      = conditions.shell.answers
          ((conditions.inTurn leaves memory).1.map fun attempt => (conditions.answered attempt).1)
          memory := by
  fun_induction inTurn conditions leaves memory with
  | case1 memory => rfl
  | case2 leaf rest memory answer hzero others ih =>
    rw [List.map_cons, List.map_cons, ih]
    rfl
  | case3 leaf rest memory answer hne => rfl

/-- No attempt breaks if no call does. -/
theorem outcome_ne_broken (hshell : conditions.shell.NeverBreaks) {leaves : List Leaf}
    {memory : σ} {attempt : Attempt} (h : attempt ∈ (conditions.inTurn leaves memory).1)
    (text : String) : attempt.outcome ≠ .broken text := by
  fun_induction inTurn conditions leaves memory with
  | case1 memory => cases h
  | case2 leaf rest memory answer hzero others ih =>
    rcases List.mem_cons.1 h with rfl | hothers
    · exact hshell _ memory text
    · exact ih hothers
  | case3 leaf rest memory answer hne =>
    rw [List.mem_singleton.1 h]
    exact hshell _ memory text

/-- Without hooks, a dry run leaves the shell's memory alone. -/
theorem memoryAfter_of_dryRun (hdry : conditions.site.dryRun = true)
    (hhooks : conditions.hooks = {}) (leaves : List Leaf) (recorded : Nat) (memory : σ) :
    conditions.memoryAfter memory (conditions.turns leaves recorded memory) = memory := by
  induction leaves generalizing recorded with
  | nil => rfl
  | cons leaf rest ih =>
    have hdone := Turn.isDone_of_dryRun hdry hhooks ⟨leaf, recorded, memory⟩
    have hmemory : (Turn.progress conditions ⟨leaf, recorded, memory⟩).memory = memory := by
      rw [Turn.progress, runCommand_eq_attempt hhooks, attempt]
      simp only [hdry, if_true]
    rw [turns_cons_of_done rest hdone, memoryAfter_cons, hmemory]
    exact ih _

end Conditions

/-! ## The report of a dry run and of a run for real -/

section

variable {σ : Type} {conditions : Conditions σ} {plan : Plan} {recorded : Nat} {memory : σ}

/-- On a dry run without hooks nothing is called, every command is recorded, and zero is
reported. -/
theorem Plan.execute_of_dryRun (plan : Plan) (recorded : Nat) (memory : σ)
    (hdry : conditions.site.dryRun = true) (hhooks : conditions.hooks = {}) :
    let execution := plan.execute conditions recorded memory
    execution.result = .ok { success := true } ∧ execution.trace.calls = [] ∧
      execution.trace.records = plan.leaves.map (conditions.record · none) ∧
      execution.memory = memory := by
  intro execution
  have htakes := Plan.run_takes conditions plan recorded memory
  obtain ⟨hanswered, hrecords, hmemory⟩ :=
    Plan.execute_unseen conditions plan recorded memory
  have hok : (plan.run conditions recorded memory).ending = .ok () :=
    htakes.ending_eq_ok_iff.2 fun turn _ => Turn.isDone_of_dryRun hdry hhooks turn
  refine ⟨?_, ?_, ?_, ?_⟩
  · rw [Plan.execute_result, hok]
    rfl
  · rw [Trace.calls, hanswered, ← Trace.answered_effects, htakes.effects,
      (Conditions.turns_of_dryRun hdry _ _ _).1, List.map_nil]
  · rw [hrecords, ← Trace.records_effects, htakes.effects,
      Conditions.records_of_dryRun hdry hhooks]
  · rw [hmemory, htakes.memory, Conditions.memoryAfter_of_dryRun hdry hhooks]

/-- A run in which a command failed is reported with the code of that command. -/
theorem Plan.exitCode_of_failed (hplain : conditions.Plain)
    {attempt : Attempt} (hmem : attempt ∈ (conditions.inTurn plan.leaves memory).1)
    (hbroken : ∀ text, attempt.outcome ≠ .broken text) (hne : attempt.outcome ≠ .exited 0) :
    ∃ report, (plan.execute conditions recorded memory).result = .ok report ∧
      report.exitCode = attempt.outcome.code := by
  have hfollows := Plan.run_follows hplain plan recorded memory
  -- the attempt has a failure of its own that tells its code
  obtain ⟨own, hown, hcode⟩ : ∃ own : Failure, attempt.fault? = some (.failure own) ∧
      (own.code?.filter (· != 0)).getD 1 = attempt.outcome.code := by
    obtain ⟨leaf, outcome⟩ := attempt
    cases outcome with
    | exited code =>
      have hcode : code ≠ 0 := fun h => hne (congrArg _ h)
      exact ⟨_, if_neg hcode, by simp [Failure.code?, Outcome.code, Option.filter_some, hcode]⟩
    | notStarted reason => exact ⟨_, rfl, rfl⟩
    | broken text => exact absurd rfl (hbroken text)
  obtain ⟨chain, hchain, rfl⟩ := hfollows.ending_of_failure hmem hown
  have hresult : (plan.execute conditions recorded memory).result
      = .ok { success := false, failures := [chain] } := by
    rw [Plan.execute_result, hchain]
    rfl
  refine ⟨_, hresult, ?_⟩
  rw [Plan.execute_result] at hresult
  rw [Ending.exitCode_of_failure hresult hchain, hcode]

/-- The commands are called one after the other until one of them fails: the calls with their
answers, and the code that stands for the whole. -/
inductive CalledInTurn (request : Leaf → Call) : List Leaf → List (Call × Outcome) → Int → Prop
  | all (leaves : List Leaf) :
      CalledInTurn request leaves (leaves.map fun leaf => (request leaf, .exited 0)) 0
  | upTo (earlier : List Leaf) (failing : Leaf) (later : List Leaf) (outcome : Outcome)
      (h : outcome ≠ .exited 0) :
      CalledInTurn request (earlier ++ failing :: later)
        (earlier.map (fun leaf => (request leaf, .exited 0)) ++ [(request failing, outcome)])
        outcome.code

/-- Zero stands for nothing but a call of every command that returned zero. -/
theorem CalledInTurn.code_eq_zero_iff {request : Leaf → Call} {leaves : List Leaf}
    {answered : List (Call × Outcome)} {code : Int}
    (h : CalledInTurn request leaves answered code) :
    code = 0 ↔ answered = leaves.map fun leaf => (request leaf, .exited 0) := by
  cases h with
  | all => exact ⟨fun _ => rfl, fun _ => rfl⟩
  | upTo earlier failing later outcome hne =>
    refine ⟨fun hzero => absurd (Outcome.code_eq_zero_iff.1 hzero) hne, fun hall => ?_⟩
    have hmem : (request failing, outcome) ∈
        (earlier ++ failing :: later).map fun leaf => (request leaf, Outcome.exited 0) :=
      hall ▸ List.mem_append_right _ (List.mem_singleton_self _)
    obtain ⟨leaf, -, heq⟩ := List.mem_map.1 hmem
    exact absurd (Prod.mk.inj heq).2.symm hne

/-- Any other code is that of the last command that was called, which failed. -/
theorem CalledInTurn.exists_failing {request : Leaf → Call} {leaves : List Leaf}
    {answered : List (Call × Outcome)} {code : Int} (h : CalledInTurn request leaves answered code)
    (hne : code ≠ 0) :
    ∃ earlier failing later outcome, leaves = earlier ++ failing :: later ∧
      outcome ≠ .exited 0 ∧ answered = earlier.map (fun leaf => (request leaf, .exited 0))
        ++ [(request failing, outcome)] ∧ code = outcome.code := by
  cases h with
  | all => exact absurd rfl hne
  | upTo earlier failing later outcome hfailed =>
    exact ⟨earlier, failing, later, outcome, rfl, hfailed, rfl, rfl⟩

/-- A run for real without hooks calls its commands in turn and is reported with the code that
stands for them, if no call breaks. -/
theorem Plan.execute_of_real (plan : Plan) (recorded : Nat) (memory : σ)
    (hplain : conditions.Plain) (hshell : conditions.shell.NeverBreaks) :
    let execution := plan.execute conditions recorded memory
    let answered := execution.trace.answered
    answered.map Prod.snd = conditions.shell.answers (answered.map Prod.fst) memory ∧
    ∃ report, execution.result = .ok report ∧ CalledInTurn conditions.request plan.leaves answered
      report.exitCode := by
  intro execution answered
  have hfollows := Plan.run_follows hplain plan recorded memory
  have hanswered : answered
      = (conditions.inTurn plan.leaves memory).1.map conditions.answered :=
    (Plan.execute_unseen conditions plan recorded memory).1.trans hfollows.answered
  rw [hanswered]
  constructor
  · rw [List.map_map, List.map_map]
    exact Conditions.outcomes_inTurn plan.leaves memory
  · rcases Conditions.inTurn_shape plan.leaves memory with
      hall | ⟨earlier, failing, later, outcome, hleaves, hne, hcut⟩
    · have hok : (plan.run conditions recorded memory).ending = .ok () := by
        rw [hfollows.ending_eq_ok_iff, hall]
        exact List.forall_mem_map.2 fun leaf _ => rfl
      refine ⟨{ success := true }, ?_, ?_⟩
      · rw [Plan.execute_result, hok]
        rfl
      · rw [hall, List.map_map]
        exact .all plan.leaves
    · have hmem : (⟨failing, outcome⟩ : Attempt) ∈ (conditions.inTurn plan.leaves memory).1 :=
        hcut ▸ List.mem_append_right _ (List.mem_singleton_self _)
      obtain ⟨report, hreport, hcode⟩ := Plan.exitCode_of_failed hplain hmem
        (Conditions.outcome_ne_broken hshell hmem) hne
      refine ⟨report, hreport, ?_⟩
      rw [hcut, hleaves, hcode, List.map_append, List.map_map]
      exact .upTo earlier failing later outcome hne

end

namespace CommandLine

variable {σ : Type} {world : Surroundings σ} {arguments : Arguments}
  {preferences : Preferences} {plans : List Plan}

/-! ## Where the run starts -/

/-- The program starts its commands in this directory. -/
inductive Arguments.StartsIn (arguments : Arguments) (preferences : Preferences) : Dir → Prop
  | given (text : String) (h : arguments.directory = some (.text text)) :
      StartsIn arguments preferences (Dir.ofText text)
  | preferred (h : arguments.directory = none) :
      StartsIn arguments preferences preferences.directory

theorem Arguments.dir?_eq_some_iff {directory : Dir} :
    arguments.dir? preferences = some directory ↔ arguments.StartsIn preferences directory := by
  rw [dir?]
  constructor
  · intro h
    split at h
    · next text htext =>
      cases h
      exact .given text htext
    · cases h
    · next hnone =>
      cases h
      exact .preferred hnone
  · rintro (⟨text, h⟩ | h) <;> rw [h]

/-- The run that the named tasks are planned for. -/
def Arguments.conditions (arguments : Arguments) (preferences : Preferences)
    (world : Surroundings σ) (directory : Dir) : Conditions σ :=
  (arguments.policy preferences).conditions world.shell world.environment directory

/-- A run that is reported ends the program with the report's code. -/
theorem runTasks_of_report (console : Console) {directory : Dir} {report : Report} {memory : σ}
    (hplans : world.book.plans arguments.paths = .ok plans)
    (hstarts : arguments.StartsIn preferences directory)
    (hreport : ((Plan.together plans).execute (arguments.conditions preferences world directory) 0
      memory).result = .ok report) :
    let result := runTasks world console arguments preferences memory
    let execution := (Plan.together plans).execute
      (arguments.conditions preferences world directory) 0 memory
    result.exit = .returned report.exitCode ∧ result.trace = execution.trace ∧
      result.memory = execution.memory := by
  intro result execution
  have hplans' : world.book.plans (arguments.tasks.map Path.ofDotted) = .ok plans := hplans
  have hresult : result =
      { exit := .returned report.exitCode
        lines := console.shown (execution.trace.log ++ [closingLine report world.elapsed])
        trace := execution.trace
        memory := execution.memory } := by
    rw [Arguments.conditions] at hreport
    simp only [result, runTasks, hplans', Arguments.dir?_eq_some_iff.2 hstarts, hreport]
    rfl
  rw [hresult]
  exact ⟨rfl, rfl, rfl⟩

/-- Without a directory nothing is run. -/
theorem runTasks_of_noDirectory {console : Console} {memory : σ}
    (hplans : world.book.plans arguments.paths = .ok plans)
    (h : arguments.directory = some .nothing) :
    runTasks world console arguments preferences memory
      = { exit := .failed .noDirectory, memory := memory } := by
  have hplans' : world.book.plans (arguments.tasks.map Path.ofDotted) = .ok plans := hplans
  simp only [runTasks, hplans', Arguments.dir?, h]

/-! ## The run of the named tasks -/

section

variable {argv : List String} {level : Level} {directory : Dir} {memory : σ}
  (hready : Ready world argv arguments preferences level) (hlist : arguments.list = false)
  (htasks : arguments.tasks ≠ []) (hplans : world.book.plans arguments.paths = .ok plans)
  (hstarts : arguments.StartsIn preferences directory)

include hready hlist htasks hplans hstarts

/-- On a dry run the program calls nothing, notes every command, and returns zero. -/
theorem program_of_dryRun (hdry : arguments.dryRun = true ∨ preferences.dryRun = true) :
    let result := program world argv memory
    result.exit = .returned 0 ∧ result.trace.calls = [] ∧ result.memory = memory ∧
      result.trace.records
        = (Plan.leavesOf plans).map fun leaf => ⟨leaf.name, leaf.text, directory, none⟩ := by
  intro result
  have hresult : result = runTasks world (.atLevel level) arguments preferences memory :=
    program_of_tasks hready hlist htasks memory
  have hnoted : (arguments.conditions preferences world directory).site.dryRun = true :=
    Bool.or_eq_true_iff.2 hdry
  obtain ⟨hreport, hcalls, hrecords, hmemory⟩ :=
    Plan.execute_of_dryRun (Plan.together plans) 0 memory hnoted rfl
  obtain ⟨hexit, htrace, hunchanged⟩ :=
    runTasks_of_report (.atLevel level) hplans hstarts hreport
  rw [hresult, hexit, htrace, hunchanged, hcalls, hrecords, hmemory, Plan.leaves_together]
  exact ⟨rfl, rfl, rfl, rfl⟩

/-- In a run for real the program calls the commands in turn, and returns the code that stands
for the calls. -/
theorem program_of_real (hgiven : arguments.dryRun = false)
    (hpreferred : preferences.dryRun = false) (hshell : world.shell.NeverBreaks) :
    let result := program world argv memory
    let answered := result.trace.answered
    answered.map Prod.snd = world.shell.answers (answered.map Prod.fst) memory ∧
      ∃ code, result.exit = .returned code ∧
        CalledInTurn (fun leaf => ⟨leaf.text, directory, preferences.shell, none⟩)
          (Plan.leavesOf plans) answered code := by
  intro result answered
  have hresult : result = runTasks world (.atLevel level) arguments preferences memory :=
    program_of_tasks hready hlist htasks memory
  have hplain : (arguments.conditions preferences world directory).Plain :=
    ⟨Bool.or_eq_false_iff.2 ⟨hgiven, hpreferred⟩, rfl⟩
  obtain ⟨hanswers, report, hreport, hcalled⟩ :=
    Plan.execute_of_real (Plan.together plans) 0 memory hplain hshell
  obtain ⟨hexit, htrace, -⟩ := runTasks_of_report (.atLevel level) hplans hstarts hreport
  rw [Plan.leaves_together] at hcalled
  rw [← htrace, ← hresult] at hanswers hcalled
  exact ⟨hanswers, _, hresult ▸ hexit, hcalled⟩

end

/-! ## The statement -/

/-- **The exit code says what became of the run.** When the program comes to its work and is
asked for a list or for nothing, it returns zero without a call. Else, if every named task has
a plan and there is a directory to start in, it runs their commands in order. That is a dry run
if the arguments or the preferences ask for one: it calls nothing, notes every command, and
returns zero. If neither does and the shell never breaks, the program calls the commands in
turn, in the directory of the arguments, or else of the preferences, and with the shell of the
preferences, and the answers are those of the shell. It returns zero exactly if it has called
every command and all of them returned zero; else it has called the first commands up to one
that failed, and returns the code of that one, or one if it could not start. -/
theorem exit_code_says_what_became_of_the_run (world : Surroundings σ) (argv : List String)
    (arguments : Arguments) (preferences : Preferences) (level : Level) (memory : σ)
    (hready : Ready world argv arguments preferences level) :
    let result := program world argv memory
    (arguments.list = true ∨ arguments.tasks = [] →
      result.exit = .returned 0 ∧ result.trace = [] ∧ result.memory = memory) ∧
    (arguments.list = false → arguments.tasks ≠ [] →
      ∀ plans, world.book.plans (arguments.tasks.map Path.ofDotted) = .ok plans →
      ∀ directory, arguments.StartsIn preferences directory →
        let leaves := Plan.leavesOf plans
        let request (leaf : Leaf) : Call := ⟨leaf.text, directory, preferences.shell, none⟩
        let answered := result.trace.answered
        (arguments.dryRun = true ∨ preferences.dryRun = true →
          result.exit = .returned 0 ∧ result.trace.calls = [] ∧ result.memory = memory ∧
          result.trace.records
            = leaves.map fun leaf => ⟨leaf.name, leaf.text, directory, none⟩) ∧
        (arguments.dryRun = false → preferences.dryRun = false → world.shell.NeverBreaks →
          answered.map Prod.snd = world.shell.answers (answered.map Prod.fst) memory ∧
          (result.exit = .returned 0 ↔
            answered = leaves.map fun leaf => (request leaf, .exited 0)) ∧
          (result.exit ≠ .returned 0 → ∃ earlier failing later outcome,
            leaves = earlier ++ failing :: later ∧ outcome ≠ .exited 0 ∧
            answered = earlier.map (fun leaf => (request leaf, .exited 0))
              ++ [(request failing, outcome)] ∧
            result.exit = .returned outcome.code))) := by
  intro result
  refine ⟨fun hlist => ?_, fun hlist htasks plans hplans directory hstarts =>
    ⟨fun hdry => program_of_dryRun hready hlist htasks hplans hstarts hdry,
      fun hgiven hpreferred hshell => ?_⟩⟩
  · have hresult : result = _ := program_of_listing hready hlist memory
    rw [hresult]
    exact ⟨rfl, rfl, rfl⟩
  · obtain ⟨hanswers, code, hexit, hcalled⟩ :=
      program_of_real hready hlist htasks hplans hstarts hgiven hpreferred hshell
    refine ⟨hanswers, ?_, fun hne => ?_⟩
    · rw [hexit, Exit.returned.injEq]
      exact hcalled.code_eq_zero_iff
    · rw [hexit, ne_eq, Exit.returned.injEq] at hne
      obtain ⟨earlier, failing, later, outcome, hleaves, hfailed, hcalls, rfl⟩ :=
        hcalled.exists_failing hne
      exact ⟨earlier, failing, later, outcome, hleaves, hfailed, hcalls, hexit⟩

/-- The second command of the schema build fails with three, and the third is not called. The
directory comes from the arguments and the shell from the environment. -/
theorem failed_schema_build_returns_three :
    let world : Surroundings Nat :=
      { book := Workspace.book
        environment := ⟨[("CONTRACT_TASKS_SHELL", "/bin/zsh")]⟩
        homes := ⟨none, fun _ => none⟩
        shell := fun _ count => (.exited (if count = 1 then 3 else 0), count + 1)
        elapsed := 0 }
    let result := program world ["schema", "--cwd", "/srv/ws"] 0
    let request (text : String) : Call := ⟨text, Dir.ofText "/srv/ws", some "/bin/zsh", none⟩
    result.exit = .returned 3 ∧ result.trace.answered = [
      (request "bash build_schema.sh", .exited 0), (request "ts-node transform.ts", .exited 3)] := by
  intro world result request
  have hready : Ready world ["schema", "--cwd", "/srv/ws"]
      { tasks := ["schema"], directory := some (.text "/srv/ws") }
      ⟨"INFO", {}, some "/bin/zsh", false⟩ .info :=
    .of_toOption (by decide +kernel) (by decide +kernel) (by decide +kernel)
  have hplan : Workspace.book.plan ["schema"] = .ok (.serial "schema"
      [.command "schema.create" "bash build_schema.sh",
        .command "schema.transform" "ts-node transform.ts",
        .command "schema.hub" (Workspace.generate "dao-lst/**/*.json" "dao-lst/hub")]) :=
    (Book.plan_eq_expand (by decide +kernel) (by decide +kernel) rfl rfl).trans rfl
  obtain ⟨-, hwork⟩ := exit_code_says_what_became_of_the_run world _ _ _ _ 0 hready
  obtain ⟨-, hreal⟩ :=
    hwork rfl (by decide) _ (mapM_cons_of_ok [] hplan) _ (.given "/srv/ws" rfl)
  obtain ⟨hanswers, hzero, hfailed⟩ := hreal rfl rfl fun call memory text => Outcome.noConfusion
  -- the shell does not answer zero three times
  have hne : result.exit ≠ .returned 0 := by
    intro hexit
    rw [hzero.1 hexit] at hanswers
    cases hanswers
  obtain ⟨earlier, failing, later, outcome, hleaves, houtcome, hcalls, hexit⟩ := hfailed hne
  rw [hcalls] at hanswers
  rcases earlier with _ | ⟨first, _ | ⟨second, more⟩⟩
  · cases hanswers
    exact absurd rfl houtcome
  · cases hanswers
    cases hleaves
    exact ⟨hexit, hcalls⟩
  · cases hanswers

/-- A directory option without its value leaves the program without an exit code, though the
named task has a plan and the shell never breaks. -/
theorem no_directory_no_exit_code :
    let world : Surroundings Nat :=
      { book := Workspace.book, environment := {}, homes := ⟨none, fun _ => none⟩
        shell := fun _ count => (.exited 0, count + 1), elapsed := 0 }
    let argv := ["--cwd=--", "release"]
    let arguments : Arguments := { tasks := ["release"], directory := some .nothing }
    Ready world argv arguments ⟨"INFO", {}, some "/bin/bash", false⟩ .info ∧
    arguments.list = false ∧ arguments.tasks ≠ [] ∧ world.shell.NeverBreaks ∧
    (∃ plans, world.book.plans arguments.paths = .ok plans) ∧
    ∀ code, (program world argv 0).exit ≠ .returned code := by
  intro world argv arguments
  have hready : Ready world argv arguments ⟨"INFO", {}, some "/bin/bash", false⟩ .info :=
    .of_toOption (by decide +kernel) (by decide +kernel) (by decide +kernel)
  have hplan : Workspace.book.plan ["release"]
      = .ok (.command "release" "bash build_release.sh") := Book.plan_of_command rfl
  have hplans : world.book.plans arguments.paths
      = .ok [.command "release" "bash build_release.sh"] :=
    mapM_cons_of_ok [] hplan
  have htasks : arguments.tasks ≠ [] := by decide
  refine ⟨hready, rfl, htasks, fun call memory text => Outcome.noConfusion, ⟨_, hplans⟩,
    fun code => ?_⟩
  rw [program_of_tasks hready rfl htasks, runTasks_of_noDirectory hplans rfl]
  exact Exit.noConfusion

end CommandLine

end Taskbook
