/-
A plan runs its commands as one flat list.

Nesting is only a matter of reports. Without hooks, and outside a dry run, a tree
of series calls the same commands in the same order as the list of its leaves, it
leaves the same records, and it stops at the same place: at the first command whose
call does not return zero. This file makes that exact. `Conditions.inTurn` is the
flat run, a recursion over a list of commands that knows nothing of trees, hooks or
counts. A turn at such a bench is one call (`Turn.progress_of_plain`), so the flat run is
the list of turns (`Conditions.inTurn_eq_turns`), and `Plan.run_follows` says that every
tree follows it.

The shell may remember every call, so the flat run carries its memory along, and
"the same calls" includes the answers. What the two do not share is the ending: a
tree wraps a failure once for each series on the way up. The wrapping never reaches
the far end of the chain (`Failure.origin`), so the endings are compared there. A
crash is not wrapped at all.
-/
import Taskbook.Proofs.Run.Turns
import Mathlib.Data.List.Basic

set_option autoImplicit false

namespace Taskbook

/-! ## Attempts -/

/-- A command that was called, and how the call ended. -/
structure Attempt where
  leaf : Leaf
  outcome : Outcome
  deriving DecidableEq, Repr

namespace Attempt

/-- The record that the attempt leaves. A call that broke leaves none. -/
def record? (directory : Dir) (attempt : Attempt) : Option Record :=
  match attempt.outcome with
  | .exited code => some ⟨attempt.leaf.name, attempt.leaf.text, directory, some code⟩
  | .notStarted _ => some ⟨attempt.leaf.name, attempt.leaf.text, directory, none⟩
  | .broken _ => none

/-- What the attempt ends a run with, unless the command returned zero. -/
def fault? (attempt : Attempt) : Option Fault :=
  match attempt.outcome with
  | .exited code =>
    if code = 0 then none
    else some (.failure (.exited attempt.leaf.name attempt.leaf.text code))
  | .notStarted reason =>
    some (.failure (.notStarted attempt.leaf.name attempt.leaf.text reason))
  | .broken text => some (.crash text)

theorem fault?_eq_none_iff {attempt : Attempt} :
    attempt.fault? = none ↔ attempt.outcome = .exited 0 := by
  obtain ⟨leaf, outcome⟩ := attempt
  cases outcome with
  | exited code => by_cases h : code = 0 <;> simp [fault?, h]
  | notStarted reason => simp [fault?]
  | broken text => simp [fault?]

end Attempt

/-- The fault without the series that passed it on. -/
def Fault.origin : Fault → Fault
  | .failure chain => .failure chain.origin
  | .crash text => .crash text

/-- Passing a fault on does not change its origin. -/
theorem Fault.origin_passedOn (own : Fault) (links : List Link) :
    (own.passedOn links).origin = own.origin := by
  cases own with
  | crash text => rfl
  | failure failure =>
    induction links with
    | nil => rfl
    | cons link rest ih => exact ih

/-- What cut the run short, without the series that passed it on. -/
def Ending.origin? : Ending → Option Fault
  | .ok () => none
  | .error fault => some fault.origin

/-- How a run ends that is only this attempt. -/
def Attempt.ending (attempt : Attempt) : Ending :=
  match attempt.fault? with
  | none => .ok ()
  | some fault => .error fault

theorem Attempt.ending_of_exited {leaf : Leaf} {code : Int} (h : code ≠ 0) :
    Attempt.ending ⟨leaf, .exited code⟩
      = .error (.failure (.exited leaf.name leaf.text code)) := by
  have hfault : Attempt.fault? ⟨leaf, .exited code⟩
      = some (.failure (.exited leaf.name leaf.text code)) := if_neg h
  rw [Attempt.ending, hfault]

theorem Attempt.ending_eq_ok_iff {attempt : Attempt} :
    attempt.ending = .ok () ↔ attempt.outcome = .exited 0 := by
  rw [← Attempt.fault?_eq_none_iff, ending]
  cases attempt.fault? <;> simp

/-- The far end of an attempt's own fault is that fault. -/
theorem Attempt.origin?_ending (attempt : Attempt) :
    attempt.ending.origin? = attempt.fault? := by
  obtain ⟨leaf, outcome⟩ := attempt
  cases outcome with
  | exited code =>
    by_cases h : code = 0
    · rw [h]
      rfl
    · simp only [ending, fault?, if_neg h]
      rfl
  | notStarted reason => rfl
  | broken text => rfl

/-! ## The flat run -/

namespace Conditions

variable {σ : Type} (conditions : Conditions σ)

/-- The request for a command: its text to the letter, from the directory and by the shell of the
site, with the environment inherited as it is unless the site has values to put on top. -/
def request (leaf : Leaf) : Call where
  command := leaf.text
  directory := conditions.site.directory
  shell := conditions.site.shell
  environment :=
    if conditions.site.overrides.isEmpty then none
    else some (conditions.inherited.extend conditions.site.overrides)

/-- The shell's answer to the call of a command, and its memory after the call. -/
def answer (leaf : Leaf) (memory : σ) : Outcome × σ :=
  conditions.shell (conditions.request leaf) memory

/-- Calls the commands one after the other, up to and including the first that
does not return zero. Gives the attempts and the shell's memory after them. -/
def inTurn : List Leaf → σ → List Attempt × σ
  | [], memory => ([], memory)
  | leaf :: rest, memory =>
    let answer := conditions.answer leaf memory
    if answer.1 = .exited 0 then
      let others := inTurn rest answer.2
      (⟨leaf, answer.1⟩ :: others.1, others.2)
    else ([⟨leaf, answer.1⟩], answer.2)

variable {conditions}

/-- The attempted commands are the first of the given ones. -/
theorem inTurn_prefix (leaves : List Leaf) (memory : σ) :
    (conditions.inTurn leaves memory).1.map Attempt.leaf <+: leaves := by
  fun_induction inTurn conditions leaves memory with
  | case1 memory => exact List.prefix_refl []
  | case2 leaf rest memory answer hzero others ih => exact (List.prefix_cons_inj leaf).2 ih
  | case3 leaf rest memory answer hne => exact ⟨rest, rfl⟩

/-- Every attempt but the last returned zero. -/
theorem inTurn_dropLast (leaves : List Leaf) (memory : σ) :
    ∀ attempt ∈ (conditions.inTurn leaves memory).1.dropLast, attempt.outcome = .exited 0 := by
  fun_induction inTurn conditions leaves memory with
  | case1 memory => simp
  | case2 leaf rest memory answer hzero others ih =>
    intro attempt hattempt
    rw [List.dropLast_cons_of_ne_nil (by rintro h; simp [h] at hattempt)] at hattempt
    rcases List.mem_cons.1 hattempt with rfl | hothers
    · exact hzero
    · exact ih attempt hothers
  | case3 leaf rest memory answer hne => simp

/-- Only a command that did not return zero keeps the later ones from being
called. -/
theorem inTurn_complete {leaves : List Leaf} {memory : σ}
    (h : ∀ attempt ∈ (conditions.inTurn leaves memory).1, attempt.outcome = .exited 0) :
    (conditions.inTurn leaves memory).1.map Attempt.leaf = leaves := by
  fun_induction inTurn conditions leaves memory with
  | case1 memory => rfl
  | case2 leaf rest memory answer hzero others ih =>
    rw [List.map_cons, ih fun attempt hattempt => h attempt (List.mem_cons_of_mem _ hattempt)]
  | case3 leaf rest memory answer hne => exact absurd (h _ List.mem_cons_self) hne

/-- A run has at most one fault, so whichever attempt has one ends the run
with it. -/
theorem findSome?_fault?_of_mem {leaves : List Leaf} {memory : σ} {attempt : Attempt}
    {fault : Fault} (hmem : attempt ∈ (conditions.inTurn leaves memory).1)
    (hfault : attempt.fault? = some fault) :
    (conditions.inTurn leaves memory).1.findSome? Attempt.fault? = some fault := by
  fun_induction inTurn conditions leaves memory with
  | case1 memory => simp at hmem
  | case2 leaf rest memory answer hzero others ih =>
    have hfirst : (⟨leaf, answer.1⟩ : Attempt).fault? = none := Attempt.fault?_eq_none_iff.2 hzero
    rcases List.mem_cons.1 hmem with rfl | hothers
    · rw [hfirst] at hfault
      cases hfault
    · rw [List.findSome?_cons, hfirst]
      exact ih hothers
  | case3 leaf rest memory answer hne =>
    rw [List.mem_singleton.1 hmem] at hfault
    rw [List.findSome?_cons, hfault]

/-- The flat run has no fault exactly if all commands returned zero. -/
theorem findSome?_fault?_eq_none_iff {attempts : List Attempt} :
    attempts.findSome? Attempt.fault? = none ↔
      ∀ attempt ∈ attempts, attempt.outcome = .exited 0 := by
  rw [List.findSome?_eq_none_iff]
  exact forall₂_congr fun _ _ => Attempt.fault?_eq_none_iff

/-- The flat run ends with a crash exactly if a call broke. -/
theorem exists_broken_iff {leaves : List Leaf} {memory : σ} {text : String} :
    (∃ leaf, ⟨leaf, .broken text⟩ ∈ (conditions.inTurn leaves memory).1) ↔
      (conditions.inTurn leaves memory).1.findSome? Attempt.fault? = some (.crash text) := by
  constructor
  · rintro ⟨leaf, hmem⟩
    exact findSome?_fault?_of_mem hmem rfl
  · intro h
    obtain ⟨⟨leaf, outcome⟩, hmem, hfault⟩ := List.exists_of_findSome?_eq_some h
    refine ⟨leaf, ?_⟩
    cases outcome with
    | exited code =>
      by_cases hzero : code = 0 <;> simp [Attempt.fault?, hzero] at hfault
    | notStarted reason => simp [Attempt.fault?] at hfault
    | broken why =>
      obtain rfl : why = text := by simpa [Attempt.fault?] using hfault
      exact hmem

/-- The call that an attempt made, with its answer. -/
def answered (conditions : Conditions σ) (attempt : Attempt) : Call × Outcome :=
  (conditions.request attempt.leaf, attempt.outcome)

/-- What happens in an attempt: a line, the call, the record, and a line for a
command that returned zero. -/
def happenings (conditions : Conditions σ) (attempt : Attempt) : Trace :=
  [.logged ⟨20, "contract_tasks.core.node",
      "Running " ++ attempt.leaf.name ++ ": " ++ attempt.leaf.text⟩,
    .called (conditions.request attempt.leaf) attempt.outcome]
    ++ ((attempt.record? conditions.site.directory).toList.map .recorded
    ++ (if attempt.outcome = .exited 0 then
          [.logged ⟨10, "contract_tasks.core.node", "Task " ++ attempt.leaf.name ++ " finished"⟩]
        else []))

/-- Outside a dry run, a command by itself is one attempt. -/
theorem attempt_eq (hreal : conditions.site.dryRun = false) {leaf : Leaf} {outcome : Outcome}
    {memory memory' : σ} (hanswer : conditions.answer leaf memory = (outcome, memory')) :
    conditions.attempt leaf.name leaf.text memory
      = ⟨Attempt.ending ⟨leaf, outcome⟩, conditions.happenings ⟨leaf, outcome⟩, memory'⟩ := by
  have hcalled : conditions.shell (conditions.site.call conditions.inherited leaf.text) memory
      = (outcome, memory') := hanswer
  simp only [attempt, hreal, Bool.false_eq_true, if_false, hcalled]
  cases outcome with
  | exited code =>
    by_cases hzero : code = 0
    · subst hzero
      rfl
    · have hne : Outcome.exited code ≠ .exited 0 := fun h => hzero (Outcome.exited.inj h)
      simp only [Attempt.ending, Attempt.fault?, happenings, if_neg hzero, if_neg hne]
      rfl
  | notStarted reason => rfl
  | broken text => rfl

theorem answered_happenings (attempt : Attempt) :
    (conditions.happenings attempt).answered = [conditions.answered attempt] := by
  obtain ⟨leaf, outcome⟩ := attempt
  unfold happenings
  split <;> cases outcome <;> rfl

theorem records_happenings (attempt : Attempt) :
    (conditions.happenings attempt).records
      = (attempt.record? conditions.site.directory).toList := by
  obtain ⟨leaf, outcome⟩ := attempt
  unfold happenings
  split <;> cases outcome <;> rfl

/-- Without hooks nothing stands around a command. -/
theorem runCommand_eq_attempt (hhooks : conditions.hooks = {}) (name text : String)
    (recorded : Nat) (memory : σ) :
    conditions.runCommand name text recorded memory = conditions.attempt name text memory := by
  simp [runCommand, hhooks, Event.tell]

/-- Commands are really called, and no hook stands around them. -/
structure Plain (conditions : Conditions σ) : Prop where
  real : conditions.site.dryRun = false
  noHooks : conditions.hooks = {}

end Conditions

/-! ## A tree follows the flat run

`Follows` compares what a run led to with the flat run of a list of commands. The lines in
the log are the only happenings that the comparison does not see. A tree takes the turns
of its leaves, and without hooks and outside a dry run these turns are the attempts of the
flat run. -/

/-- What a run led to is what the flat run of these commands leads to. -/
structure Progress.Follows {σ : Type} (progress : Progress σ) (conditions : Conditions σ)
    (leaves : List Leaf) (start : σ) : Prop where
  answered : progress.trace.answered
    = (conditions.inTurn leaves start).1.map conditions.answered
  records : progress.trace.records
    = (conditions.inTurn leaves start).1.filterMap (Attempt.record? conditions.site.directory)
  memory : progress.memory = (conditions.inTurn leaves start).2
  ending : progress.ending.origin?
    = (conditions.inTurn leaves start).1.findSome? Attempt.fault?

theorem Trace.answered_append (a b : Trace) : answered (a ++ b) = answered a ++ answered b := by
  simp [answered]

section Trees

variable {σ : Type} {conditions : Conditions σ}

/-- The attempt that is made in a turn. -/
def Turn.attempt (conditions : Conditions σ) (turn : Turn σ) : Attempt :=
  ⟨turn.leaf, (conditions.answer turn.leaf turn.memory).1⟩

/-- A turn is one attempt, and nothing else. -/
theorem Turn.progress_of_plain (hplain : conditions.Plain) (turn : Turn σ) :
    turn.progress conditions
      = ⟨(turn.attempt conditions).ending, conditions.happenings (turn.attempt conditions),
          (conditions.answer turn.leaf turn.memory).2⟩ := by
  rw [progress, Conditions.runCommand_eq_attempt hplain.noHooks,
    Conditions.attempt_eq hplain.real rfl]
  rfl

theorem Turn.isDone_of_plain (hplain : conditions.Plain) (turn : Turn σ) :
    turn.IsDone conditions ↔ (turn.attempt conditions).outcome = .exited 0 := by
  rw [IsDone, progress_of_plain hplain, Attempt.ending_eq_ok_iff]

/-- The flat run makes the attempts of the turns. -/
theorem Conditions.inTurn_eq_turns (hplain : conditions.Plain) (leaves : List Leaf)
    (recorded : Nat) (memory : σ) :
    conditions.inTurn leaves memory
      = ((conditions.turns leaves recorded memory).map (Turn.attempt conditions),
          conditions.memoryAfter memory (conditions.turns leaves recorded memory)) := by
  induction leaves generalizing recorded memory with
  | nil => rfl
  | cons leaf rest ih =>
    have hmemory : (Turn.progress conditions ⟨leaf, recorded, memory⟩).memory
        = (conditions.answer leaf memory).2 := by
      rw [Turn.progress_of_plain hplain]
    have hzero : Turn.IsDone conditions ⟨leaf, recorded, memory⟩ ↔
        (conditions.answer leaf memory).1 = .exited 0 := Turn.isDone_of_plain hplain _
    rw [inTurn]
    rcases Turn.isDone_or_error conditions ⟨leaf, recorded, memory⟩ with hdone | ⟨fault, hfault⟩
    · rw [turns_cons_of_done rest hdone, memoryAfter_cons, hmemory, if_pos (hzero.1 hdone),
        ih (recorded + (Turn.progress conditions ⟨leaf, recorded, memory⟩).trace.records.length)]
      rfl
    · have hne := fun heq => Turn.not_isDone_of_error hfault (hzero.2 heq)
      rw [turns_cons_of_error rest hfault, memoryAfter_cons, hmemory, if_neg hne]
      rfl

/-- A tree follows the list of its leaves. -/
theorem Plan.run_follows (hplain : conditions.Plain) (plan : Plan) (recorded : Nat) (memory : σ) :
    (plan.run conditions recorded memory).Follows conditions plan.leaves memory := by
  have htakes := Plan.run_takes conditions plan recorded memory
  have hflat := Conditions.inTurn_eq_turns hplain plan.leaves recorded memory
  refine ⟨?_, ?_, ?_, ?_⟩
  · rw [← Trace.answered_effects, htakes.effects, Conditions.answered_effectsOf, hflat]
    simp only [Turn.progress_of_plain hplain, Conditions.answered_happenings]
    rw [List.map_map, List.map_eq_flatMap]
    rfl
  · rw [← Trace.records_effects, htakes.effects, Conditions.records_effectsOf, hflat]
    simp only [Turn.progress_of_plain hplain, Conditions.records_happenings]
    rw [List.filterMap_map, List.filterMap_eq_flatMap_toList]
    rfl
  · rw [hflat]
    exact htakes.memory
  · rcases htakes.ending with ⟨hok, hdone⟩ | ⟨earlier, turn, own, links, hturns, hown, hend, -⟩
    · rw [hok, eq_comm]
      refine Conditions.findSome?_fault?_eq_none_iff.2 fun attempt hattempt => ?_
      rw [hflat] at hattempt
      obtain ⟨turn, hturn, rfl⟩ := List.mem_map.1 hattempt
      exact (Turn.isDone_of_plain hplain turn).1 (hdone turn hturn)
    · -- the far end of the chain is the fault of the last attempt
      rw [Turn.progress_of_plain hplain] at hown
      dsimp only at hown
      have hfault := (turn.attempt conditions).origin?_ending
      rw [hown] at hfault
      have hmem : turn.attempt conditions ∈ (conditions.inTurn plan.leaves memory).1 := by
        rw [hflat, hturns, List.map_append]
        exact List.mem_append_right _ (List.mem_singleton_self _)
      rw [hend, Conditions.findSome?_fault?_of_mem hmem hfault.symm]
      exact congrArg some (Fault.origin_passedOn own links)

/-- A run ends well exactly if every command returned zero. -/
theorem Progress.Follows.ending_eq_ok_iff {progress : Progress σ} {leaves : List Leaf} {start : σ}
    (h : progress.Follows conditions leaves start) :
    progress.ending = .ok () ↔
      ∀ attempt ∈ (conditions.inTurn leaves start).1, attempt.outcome = .exited 0 := by
  rw [← Conditions.findSome?_fault?_eq_none_iff, ← h.ending]
  cases progress.ending <;> simp [Ending.origin?]

/-- A run crashes exactly if a call broke, and with that call's text. -/
theorem Progress.Follows.ending_eq_crash_iff {progress : Progress σ} {leaves : List Leaf}
    {start : σ} (h : progress.Follows conditions leaves start) {text : String} :
    progress.ending = .error (.crash text) ↔
      ∃ leaf, ⟨leaf, .broken text⟩ ∈ (conditions.inTurn leaves start).1 := by
  rw [Conditions.exists_broken_iff, ← h.ending]
  rcases progress.ending with (failure | why) | _ <;> simp [Ending.origin?, Fault.origin]

/-- The failure of an attempt is the far end of the chain that the run ends with. -/
theorem Progress.Follows.ending_of_failure {progress : Progress σ} {leaves : List Leaf}
    {start : σ} (h : progress.Follows conditions leaves start) {attempt : Attempt}
    {own : Failure} (hmem : attempt ∈ (conditions.inTurn leaves start).1)
    (hown : attempt.fault? = some (.failure own)) :
    ∃ chain : Failure, progress.ending = .error (.failure chain) ∧ chain.origin = own := by
  have hsome := h.ending.trans (Conditions.findSome?_fault?_of_mem hmem hown)
  rcases hending : progress.ending with (chain | why) | _
  · rw [hending] at hsome
    exact ⟨chain, rfl, by simpa [Ending.origin?, Fault.origin] using hsome⟩
  · simp [hending, Ending.origin?, Fault.origin] at hsome
  · simp [hending, Ending.origin?] at hsome

end Trees

/-! ## Reports -/

section Reports

variable {σ : Type}

/-- A report adds a line to the log at most; calls, records and memory are the
run's. -/
theorem Plan.execute_unseen (conditions : Conditions σ) (plan : Plan) (recorded : Nat)
    (memory : σ) :
    (plan.execute conditions recorded memory).trace.answered
        = (plan.run conditions recorded memory).trace.answered
      ∧ (plan.execute conditions recorded memory).trace.records
        = (plan.run conditions recorded memory).trace.records
      ∧ (plan.execute conditions recorded memory).memory
        = (plan.run conditions recorded memory).memory := by
  have heffects := Plan.execute_effects conditions plan recorded memory
  refine ⟨?_, ?_, ?_⟩
  · rw [← Trace.answered_effects, heffects, Trace.answered_effects]
  · rw [← Trace.records_effects, heffects, Trace.records_effects]
  · unfold Plan.execute
    dsimp only
    split <;> rfl

/-- The report of an ending, or the text of a crash. -/
def Ending.reported : Ending → Except String Report
  | .ok () => .ok { success := true }
  | .error (.failure failure) => .ok { success := false, failures := [failure] }
  | .error (.crash text) => .error text

theorem Plan.execute_result (conditions : Conditions σ) (plan : Plan) (recorded : Nat)
    (memory : σ) :
    (plan.execute conditions recorded memory).result
      = (plan.run conditions recorded memory).ending.reported := by
  rw [Plan.execute]
  rcases (plan.run conditions recorded memory).ending with (failure | text) | _ <;> rfl

end Reports

/-- A crash is reported as it is, and nothing else is. -/
theorem Ending.reported_eq_error_iff {ending : Ending} {text : String} :
    ending.reported = .error text ↔ ending = .error (.crash text) := by
  rcases ending with (failure | why) | _ <;> simp [reported]

theorem Ending.success_iff {ending : Ending} {report : Report} (h : ending.reported = .ok report) :
    report.success = true ↔ ending = .ok () := by
  rcases ending with (failure | why) | _
  · cases h
    simp
  · cases h
  · cases h
    simp

/-- The code of a report is the code at the far end of the failure, unless that
says nothing or claims success. -/
theorem Ending.exitCode_of_failure {ending : Ending} {report : Report} {chain : Failure}
    (h : ending.reported = .ok report) (hchain : ending = .error (.failure chain)) :
    report.exitCode = (chain.origin.code?.filter (· != 0)).getD 1 := by
  rw [hchain] at h
  cases h
  rw [chain.told_by_origin.2.2.1, Report.exitCode]
  cases hcode : chain.code? with
  | none => simp [hcode]
  | some code => by_cases hzero : code = 0 <;> simp [hcode, hzero, Option.filter_some]

/-! ## The statement -/

/-- The attempts are those of the shortest first part of the leaves that ends with a
command whose call did not return zero, and of all leaves if there is no such
command. -/
structure Attempt.EndAtFirstFault (leaves : List Leaf) (attempts : List Attempt) : Prop where
  first : attempts.map Attempt.leaf <+: leaves
  earlier : ∀ attempt ∈ attempts.dropLast, attempt.outcome = .exited 0
  complete : (∀ attempt ∈ attempts, attempt.outcome = .exited 0) →
    attempts.map Attempt.leaf = leaves

/-- **A tree runs like the list of its leaves.** At a bench without hooks that is
not on a dry run, the calls are those of the leaves in turn up to the first that
does not return zero. Each call is recorded, unless it broke; a broken call leaves
the run and the report as it is. The report is a success exactly if every leaf
returned zero, and else has the code of the leaf that failed, or one if that could
not be started. -/
theorem Bench.run_follows_leaves {σ : Type} (bench : Bench) (shell : Shell σ)
    (inherited : Environment) (plan : Plan) (memory : σ)
    (hreal : bench.site.dryRun = false) (hhooks : bench.hooks = {}) :
    let conditions := bench.conditions shell inherited
    let attempts := (conditions.inTurn plan.leaves memory).1
    let progress := plan.run conditions bench.records.length memory
    let execution := plan.execute conditions bench.records.length memory
    Attempt.EndAtFirstFault plan.leaves attempts ∧
    progress.trace.answered = attempts.map (fun attempt =>
      ({  command := attempt.leaf.text
          directory := bench.site.directory
          shell := bench.site.shell
          environment :=
            if bench.site.overrides.isEmpty then none
            else some (inherited.extend bench.site.overrides) }, attempt.outcome)) ∧
    (bench.note progress.trace).records
      = bench.records ++ attempts.filterMap (Attempt.record? bench.site.directory) ∧
    progress.memory = (conditions.inTurn plan.leaves memory).2 ∧
    (∀ text, progress.ending = .error (.crash text) ↔ ∃ leaf, ⟨leaf, .broken text⟩ ∈ attempts) ∧
    execution.trace.answered = progress.trace.answered ∧
    execution.trace.records = progress.trace.records ∧
    execution.memory = progress.memory ∧
    (∀ text, execution.result = .error text ↔ ∃ leaf, ⟨leaf, .broken text⟩ ∈ attempts) ∧
    ∀ report, execution.result = .ok report →
      (report.success = true ↔
        attempts.map Attempt.leaf = plan.leaves ∧
          ∀ attempt ∈ attempts, attempt.outcome = .exited 0) ∧
      (report.success = true → report.exitCode = 0) ∧
      (∀ leaf code, ⟨leaf, .exited code⟩ ∈ attempts → code ≠ 0 → report.exitCode = code) ∧
      (∀ leaf reason, ⟨leaf, .notStarted reason⟩ ∈ attempts → report.exitCode = 1) := by
  intro conditions attempts progress execution
  have hfollows : progress.Follows conditions plan.leaves memory :=
    Plan.run_follows ⟨hreal, hhooks⟩ plan bench.records.length memory
  have hresult : execution.result = progress.ending.reported :=
    Plan.execute_result conditions plan bench.records.length memory
  obtain ⟨hanswered, hrecords, hmemory⟩ :=
    Plan.execute_unseen conditions plan bench.records.length memory
  refine ⟨⟨Conditions.inTurn_prefix _ _, Conditions.inTurn_dropLast _ _,
      Conditions.inTurn_complete⟩, hfollows.answered, ?_, hfollows.memory,
    fun text => hfollows.ending_eq_crash_iff, hanswered, hrecords, hmemory, fun text => ?_,
    fun report hreport => ?_⟩
  · exact congrArg (bench.records ++ ·) hfollows.records
  · rw [hresult, Ending.reported_eq_error_iff, hfollows.ending_eq_crash_iff]
  · rw [hresult] at hreport
    refine ⟨?_, fun hsuccess => ?_, fun leaf code hmem hne => ?_, fun leaf reason hmem => ?_⟩
    · rw [Ending.success_iff hreport, hfollows.ending_eq_ok_iff]
      exact ⟨fun hall => ⟨Conditions.inTurn_complete hall, hall⟩, And.right⟩
    · rw [Report.exitCode, if_pos hsuccess]
    · have hown : Attempt.fault? ⟨leaf, .exited code⟩
          = some (.failure (.exited leaf.name leaf.text code)) := if_neg hne
      obtain ⟨chain, hchain, horigin⟩ := hfollows.ending_of_failure hmem hown
      rw [Ending.exitCode_of_failure hreport hchain, horigin]
      simp [Failure.code?, Option.filter_some, hne]
    · have hown : Attempt.fault? ⟨leaf, .notStarted reason⟩
          = some (.failure (.notStarted leaf.name leaf.text reason)) := rfl
      obtain ⟨chain, hchain, horigin⟩ := hfollows.ending_of_failure hmem hown
      rw [Ending.exitCode_of_failure hreport hchain, horigin]
      rfl

/-- A shell that counts its calls kills the second of three commands, which stands
two series deep behind an empty one. Both calls are made alike, with the value of the bench
added to the inherited ones. The third command is not called, and the report has the code of
the signal. -/
theorem Bench.killed_second_is_last :
    let shell : Shell Nat := fun _ count => (.exited (if count = 1 then -9 else 0), count + 1)
    let bench : Bench := { site := {
      directory := Dir.ofText "/srv", shell := some "/bin/bash"
      overrides := ⟨[("MODE", "fast")]⟩ } }
    let inherited : Environment := ⟨[("HOME", "/root")]⟩
    let merged : Environment := ⟨[("HOME", "/root"), ("MODE", "fast")]⟩
    let plan : Plan := .serial "all" [.serial "none" [],
      .serial "left" [.command "a" "make a", .command "b" "make b"], .command "c" "make c"]
    let conditions := bench.conditions shell inherited
    bench.site.dryRun = false ∧ bench.hooks = {} ∧
    (plan.run conditions 0 0).trace.answered
      = [(⟨"make a", Dir.ofText "/srv", some "/bin/bash", some merged⟩, .exited 0),
          (⟨"make b", Dir.ofText "/srv", some "/bin/bash", some merged⟩, .exited (-9))] ∧
    (bench.note (plan.run conditions 0 0).trace).records
      = [⟨"a", "make a", Dir.ofText "/srv", some 0⟩,
          ⟨"b", "make b", Dir.ofText "/srv", some (-9)⟩] ∧
    ∃ report, (plan.execute conditions 0 0).result = .ok report ∧
      report.success = false ∧ report.exitCode = -9 := by
  intro shell bench inherited merged plan conditions
  obtain ⟨-, hanswered, hrecords, -, -, -, -, -, -, hreport⟩ :=
    bench.run_follows_leaves shell inherited plan 0 rfl rfl
  have hmerged : inherited.extend bench.site.overrides = merged := by decide +kernel
  refine ⟨rfl, rfl, ?_, hrecords, _, rfl, rfl, ?_⟩
  · rw [← hmerged]
    exact hanswered
  · exact (hreport _ rfl).2.2.1 ⟨"b", "make b"⟩ (-9) (by decide) (by decide)

end Taskbook
