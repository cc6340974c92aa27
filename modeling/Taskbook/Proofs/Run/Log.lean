/-
What a run says in the log.

Lines come from three places. A command says that it begins and, if it returned zero, that
it is over. A series whose child failed says how many of its children are left, unless
there are none. And the report closes with the message of the failure. The first kind is
written on the way down and the others while the failure comes up, from any number of
levels, so no function of the run has the whole log in hand.

A run is its turns (`Plan.run_takes`), and here that is made exact to the line:
`Plan.run_tells` says that what happens in a run is what happens in its turns, one after
the other, followed by the lines of the levels that the failure comes up through, the
innermost first. A level is a `Frame`, a series with the children on both sides of the one
that the way goes through. That is more than a `Link` has, which says where a child stands
but not what comes after it.
-/
import Taskbook.Proofs.Run.Prediction

set_option autoImplicit false

namespace Taskbook

/-! ## The way up -/

/-- A series on the way to a command, with the children on both sides of the way. -/
structure Frame where
  sequence : String
  left : List Plan
  right : List Plan

namespace Frame

/-- The series, with this child where the way goes through. -/
def around (frame : Frame) (child : Plan) : Plan :=
  .serial frame.sequence (frame.left ++ child :: frame.right)

/-- What the series says when that child failed: how many children come after it, and nothing
if none does. -/
def lines (frame : Frame) : List LogLine :=
  if frame.right.length = 0 then []
  else
    [⟨10, "contract_tasks.core.node", "Serial '" ++ frame.sequence ++ "' skipping "
      ++ toString frame.right.length ++ " remaining task(s)"⟩]

end Frame

/-- The plan inside these series, the first of them the outermost. -/
def Plan.inside (plan : Plan) (frames : List Frame) : Plan :=
  frames.foldr Frame.around plan

/-- The plan has this command inside these series, and these commands stand to the left of
it. -/
structure Plan.Holds (plan : Plan) (frames : List Frame) (before : List Leaf) (leaf : Leaf) :
    Prop where
  plan_eq : plan = (Plan.command leaf.name leaf.text).inside frames
  before_eq : before = frames.flatMap fun frame => Plan.leavesOf frame.left

/-- A command inside a child is one series deeper inside the whole. -/
theorem Plan.Holds.around {child : Plan} {frames : List Frame} {before : List Leaf} {leaf : Leaf}
    (h : child.Holds frames before leaf) (frame : Frame) :
    (frame.around child).Holds (frame :: frames) (Plan.leavesOf frame.left ++ before) leaf where
  plan_eq := congrArg frame.around h.plan_eq
  before_eq := by rw [List.flatMap_cons, h.before_eq]

/-- A trace of lines only. -/
def Trace.ofLines (lines : List LogLine) : Trace :=
  lines.map .logged

theorem Trace.log_ofLines (lines : List LogLine) : (ofLines lines).log = lines := by
  rw [log, ofLines, List.filterMap_map]
  exact List.filterMap_some

theorem Trace.ofLines_append (a b : List LogLine) : ofLines (a ++ b) = ofLines a ++ ofLines b :=
  List.map_append

/-- What a failing series adds to a trace are the lines of its level. -/
theorem Conditions.skipped_eq_ofLines (frame : Frame) :
    skipped frame.sequence frame.right.length = Trace.ofLines frame.lines := by
  rw [skipped, Frame.lines]
  split <;> rfl

/-! ## A run tells what its turns tell -/

section

variable {σ : Type} (conditions : Conditions σ)

/-- What happens in the turns, one after the other, lines included. -/
def Conditions.traceOf (turns : List (Turn σ)) : Trace :=
  turns.flatMap fun turn => (turn.progress conditions).trace

variable {conditions}

theorem Conditions.traceOf_append (first second : List (Turn σ)) :
    conditions.traceOf (first ++ second) = conditions.traceOf first ++ conditions.traceOf second :=
  List.flatMap_append

/-- What happened in a run is what happens in these turns, and if a failure came up from the
last of them, each level on its way added its lines. -/
structure Progress.Tells (progress : Progress σ) (conditions : Conditions σ)
    (turns : List (Turn σ)) (reaches : List Frame → List Leaf → Leaf → Prop) : Prop where
  done : progress.ending = .ok () → progress.trace = conditions.traceOf turns
  crashed : ∀ text, progress.ending = .error (.crash text) →
    progress.trace = conditions.traceOf turns
  failed : ∀ failure, progress.ending = .error (.failure failure) →
    ∃ earlier turn frames, turns = earlier ++ [turn] ∧
      reaches frames (earlier.map Turn.leaf) turn.leaf ∧
      progress.trace
        = conditions.traceOf turns ++ Trace.ofLines (frames.reverse.flatMap Frame.lines)

namespace Progress.Tells

variable {first second : Progress σ} {a b : List (Turn σ)}
  {reaches further : List Frame → List Leaf → Leaf → Prop}

/-- A part that ended well is followed by the next. -/
theorem append {whole : List Frame → List Leaf → Leaf → Prop}
    (hfirst : first.trace = conditions.traceOf a) (hsecond : second.Tells conditions b further)
    (hreach : ∀ frames before leaf, further frames before leaf →
      whole frames (a.map Turn.leaf ++ before) leaf) :
    (⟨second.ending, first.trace ++ second.trace, second.memory⟩ : Progress σ).Tells conditions
      (a ++ b) whole where
  done hok := by rw [hfirst, hsecond.done hok, Conditions.traceOf_append]
  crashed text hcrash := by rw [hfirst, hsecond.crashed text hcrash, Conditions.traceOf_append]
  failed failure hfailure := by
    obtain ⟨earlier, turn, frames, rfl, hlast, htrace⟩ := hsecond.failed failure hfailure
    refine ⟨a ++ earlier, turn, frames, (List.append_assoc ..).symm, ?_, ?_⟩
    · rw [List.map_append]
      exact hreach _ _ _ hlast
    · rw [hfirst, htrace, Conditions.traceOf_append a]
      exact (List.append_assoc ..).symm

/-- A failure that comes up through one level more adds the lines of that level. -/
theorem stop {failure passed : Failure} (frame : Frame) (h : first.Tells conditions a reaches)
    (hfailure : first.ending = .error (.failure failure))
    (hreach : ∀ frames before leaf, reaches frames before leaf →
      further (frame :: frames) before leaf) :
    (⟨.error (.failure passed), first.trace ++ Trace.ofLines frame.lines, first.memory⟩ :
      Progress σ).Tells conditions a further where
  done := nofun
  crashed := nofun
  failed _ _ := by
    obtain ⟨earlier, turn, frames, hturns, hlast, htrace⟩ := h.failed failure hfailure
    refine ⟨earlier, turn, frame :: frames, hturns, hreach _ _ _ hlast, ?_⟩
    rw [htrace, List.append_assoc, ← Trace.ofLines_append, List.reverse_cons,
      List.flatMap_append, List.flatMap_singleton]

/-- A crash comes up without a word. -/
theorem pass {text : String} (h : first.Tells conditions a reaches)
    (hcrash : first.ending = .error (.crash text)) :
    (⟨.error (.crash text), first.trace, first.memory⟩ : Progress σ).Tells conditions a further
    where
  done := nofun
  crashed _ _ := h.crashed text hcrash
  failed := nofun

end Progress.Tells

variable (conditions)

/-- One command tells what its turn tells. -/
theorem Turn.tells (turn : Turn σ) :
    (turn.progress conditions).Tells conditions
      (conditions.turns [turn.leaf] turn.recorded turn.memory)
      (Plan.command turn.leaf.name turn.leaf.text).Holds := by
  rw [Conditions.turns_singleton turn]
  have htrace : (turn.progress conditions).trace = conditions.traceOf [turn] := by
    rw [Conditions.traceOf, List.flatMap_singleton]
  refine ⟨fun _ => htrace, fun _ _ => htrace, fun _ _ => ⟨[], turn, [], rfl, ⟨rfl, rfl⟩, ?_⟩⟩
  rw [htrace]
  exact (List.append_nil _).symm

mutual

/-- **A run tells what its turns tell**, and after a failure what every level on its way up has
to add. -/
theorem Plan.run_tells : ∀ (plan : Plan) (recorded : Nat) (memory : σ),
    (plan.run conditions recorded memory).Tells conditions
      (conditions.turns plan.leaves recorded memory) plan.Holds
  | .command name text, recorded, memory => by
    rw [Plan.run, Plan.leaves]
    exact Turn.tells conditions ⟨⟨name, text⟩, recorded, memory⟩
  | .serial name children, recorded, memory => by
    rw [Plan.run, Plan.leaves]
    exact Plan.runFrom_tells children name [] recorded memory

/-- The same for the children of a series from some position on. -/
theorem Plan.runFrom_tells : ∀ (children : List Plan) (sequence : String) (earlier : List Plan)
    (recorded : Nat) (memory : σ),
    (Plan.runFrom conditions sequence earlier.length children recorded memory).Tells conditions
      (conditions.turns (Plan.leavesOf children) recorded memory)
      (fun frames before leaf => (Plan.serial sequence (earlier ++ children)).Holds frames
        (Plan.leavesOf earlier ++ before) leaf)
  | [], sequence, earlier, recorded, memory => by
    rw [Plan.runFrom, Plan.leavesOf]
    exact ⟨fun _ => rfl, nofun, nofun⟩
  | child :: rest, sequence, earlier, recorded, memory => by
    have htakes := Plan.run_takes conditions child recorded memory
    have hchild := Plan.run_tells child recorded memory
    rw [Plan.runFrom, Plan.leavesOf]
    dsimp only
    split
    · next hok =>
      have hrest := Plan.runFrom_tells rest sequence (earlier ++ [child])
        (recorded + (child.run conditions recorded memory).trace.records.length)
        (child.run conditions recorded memory).memory
      rw [htakes.turns_append _ hok]
      rw [List.length_append] at hrest
      refine Progress.Tells.append (hchild.done hok) hrest fun frames before leaf h => ?_
      rw [Conditions.turns_complete (htakes.done hok)]
      rw [List.append_assoc, Plan.leavesOf_append, List.append_assoc] at h
      simpa [Plan.leavesOf] using h
    · next failure hfailure =>
      rw [htakes.turns_append_of_fault _ hfailure,
        Conditions.skipped_eq_ofLines ⟨sequence, earlier, rest⟩]
      exact hchild.stop ⟨sequence, earlier, rest⟩ hfailure fun _ _ _ h =>
        h.around ⟨sequence, earlier, rest⟩
    · next text hcrash =>
      rw [htakes.turns_append_of_fault _ hcrash]
      exact hchild.pass hcrash

end

end

/-! ## Reports -/

/-- The line that a report closes with, if the run failed. -/
def Ending.lines : Ending → List LogLine
  | .error (.failure failure) => [⟨40, "contract_tasks.core.executor", failure.message⟩]
  | _ => []

/-- A report adds its closing line to the trace of the run, and nothing else. -/
theorem Plan.execute_trace {σ : Type} (conditions : Conditions σ) (plan : Plan) (recorded : Nat)
    (memory : σ) :
    (plan.execute conditions recorded memory).trace
      = (plan.run conditions recorded memory).trace
        ++ Trace.ofLines (plan.run conditions recorded memory).ending.lines := by
  rw [Plan.execute]
  rcases (plan.run conditions recorded memory).ending with (failure | text) | _
  · rfl
  · exact (List.append_nil _).symm
  · exact (List.append_nil _).symm

/-! ## One command -/

/-- What is said about a command on a dry run. -/
def Leaf.rehearsedLine (leaf : Leaf) : LogLine :=
  ⟨20, "contract_tasks.core.node", "[dry-run] " ++ leaf.name ++ ": " ++ leaf.text⟩

/-- What is said about a command that is called: that it begins, and that it is over if it
returned zero. -/
def Attempt.lines (attempt : Attempt) : List LogLine :=
  ⟨20, "contract_tasks.core.node", "Running " ++ attempt.leaf.name ++ ": " ++ attempt.leaf.text⟩ ::
    if attempt.outcome = .exited 0 then
      [⟨10, "contract_tasks.core.node", "Task " ++ attempt.leaf.name ++ " finished"⟩]
    else []

section

variable {σ : Type} {conditions : Conditions σ}

theorem Conditions.log_happenings (attempt : Attempt) :
    (conditions.happenings attempt).log = attempt.lines := by
  obtain ⟨leaf, outcome⟩ := attempt
  unfold happenings Attempt.lines
  split <;> cases outcome <;> rfl

theorem Trace.log_flatMap {α : Type} (f : α → Trace) (items : List α) :
    log (items.flatMap f) = items.flatMap fun item => (f item).log := by
  rw [log, List.filterMap_flatMap]
  rfl

/-- Outside a dry run and without hooks, the turns are the attempts of the flat run. -/
theorem Conditions.traceOf_of_plain (hplain : conditions.Plain) (turns : List (Turn σ)) :
    conditions.traceOf turns
      = (turns.map (Turn.attempt conditions)).flatMap conditions.happenings := by
  rw [traceOf, List.flatMap_map]
  refine List.flatMap_congr fun turn _ => ?_
  rw [Turn.progress_of_plain hplain]

/-- On a dry run without hooks, a turn is a line and a record. -/
theorem Turn.trace_of_dryRun (hdry : conditions.site.dryRun = true)
    (hhooks : conditions.hooks = {}) (turn : Turn σ) :
    (turn.progress conditions).trace
      = [.logged turn.leaf.rehearsedLine, .recorded (conditions.record turn.leaf none)] := by
  rw [progress, Conditions.runCommand_eq_attempt hhooks, Conditions.attempt]
  dsimp only
  rw [if_pos hdry]
  rfl

/-- A dry run without hooks is a line and a record for every command. -/
theorem Plan.execute_trace_of_dryRun (hdry : conditions.site.dryRun = true)
    (hhooks : conditions.hooks = {}) (plan : Plan) (recorded : Nat) (memory : σ) :
    (plan.execute conditions recorded memory).trace
      = plan.leaves.flatMap fun leaf =>
          [.logged leaf.rehearsedLine, .recorded (conditions.record leaf none)] := by
  have hdone : ∀ turn ∈ conditions.turns plan.leaves recorded memory, turn.IsDone conditions :=
    fun turn _ => turn.isDone_of_dryRun hdry hhooks
  have hok : (plan.run conditions recorded memory).ending = .ok () :=
    (Plan.run_takes conditions plan recorded memory).ending_eq_ok_iff.2 hdone
  have hleaves := Conditions.turns_complete hdone
  rw [Plan.execute_trace, hok, (Plan.run_tells conditions plan recorded memory).done hok,
    Conditions.traceOf]
  conv_rhs => rw [← hleaves, List.flatMap_map]
  refine (List.append_nil _).trans (List.flatMap_congr fun turn _ => ?_)
  exact turn.trace_of_dryRun hdry hhooks

end

/-! ## The statement -/

/-- The lines that close the log of a run that made these attempts and came to this result. -/
structure Plan.ClosesWith (plan : Plan) (attempts : List Attempt) (result : Except String Report)
    (closing : List LogLine) : Prop where
  /-- There is nothing to add if every command returned zero. -/
  done : (∀ attempt ∈ attempts, attempt.outcome = .exited 0) → closing = []
  /-- A call that broke is nobody's business here. -/
  broken : ∀ leaf text, ⟨leaf, .broken text⟩ ∈ attempts → closing = []
  /-- If a command failed, every series around it says how many of its children are left, the
  innermost first, and the message of the failure is the last line. -/
  failed : ∀ earlier failing own, attempts = earlier ++ [failing] →
    failing.fault? = some (.failure own) →
    ∃ frames failure, plan.Holds frames (earlier.map Attempt.leaf) failing.leaf ∧
      failure.origin = own ∧ result = .ok { success := false, failures := [failure] } ∧
      closing = frames.reverse.flatMap Frame.lines
        ++ [⟨40, "contract_tasks.core.executor", failure.message⟩]

section

variable {σ : Type} {conditions : Conditions σ}

/-- The failure of the last attempt is the far end of the one that the run ends with. -/
theorem Progress.Follows.ending_of_last {progress : Progress σ} {leaves : List Leaf} {start : σ}
    (h : progress.Follows conditions leaves start) {earlier : List Attempt} {failing : Attempt}
    {own : Failure} (hlast : (conditions.inTurn leaves start).1 = earlier ++ [failing])
    (hown : failing.fault? = some (.failure own)) :
    ∃ chain : Failure, progress.ending = .error (.failure chain) ∧ chain.origin = own := by
  refine h.ending_of_failure ?_ hown
  rw [hlast]
  exact List.mem_append_right earlier (List.mem_singleton_self failing)

/-- A run that is not cut short by a failure closes with no line. -/
theorem Plan.closesWith_nil (hplain : conditions.Plain) {plan : Plan} {recorded : Nat}
    {memory : σ} {ending : Ending} (result : Except String Report)
    (hending : (plan.run conditions recorded memory).ending = ending)
    (hended : ∀ failure, ending ≠ .error (.failure failure)) :
    plan.ClosesWith (conditions.inTurn plan.leaves memory).1 result [] where
  done _ := rfl
  broken _ _ _ := rfl
  failed _ _ _ hlast hown := by
    obtain ⟨chain, hchain, -⟩ :=
      (Plan.run_follows hplain plan recorded memory).ending_of_last hlast hown
    exact absurd (hending.symm.trans hchain) (hended chain)

/-- One that is cut short closes with the lines of the way up and the message. -/
theorem Plan.closesWith_of_failure (hplain : conditions.Plain) {plan : Plan} {recorded : Nat}
    {memory : σ} {failure : Failure}
    (hending : (plan.run conditions recorded memory).ending = .error (.failure failure)) :
    let attempts := (conditions.inTurn plan.leaves memory).1
    ∃ frames : List Frame,
      plan.ClosesWith attempts (.ok { success := false, failures := [failure] })
        (frames.reverse.flatMap Frame.lines
          ++ [⟨40, "contract_tasks.core.executor", failure.message⟩]) ∧
      (plan.run conditions recorded memory).trace
        = attempts.flatMap conditions.happenings
          ++ Trace.ofLines (frames.reverse.flatMap Frame.lines) := by
  intro attempts
  have hfollows := Plan.run_follows hplain plan recorded memory
  have hattempts : attempts = (conditions.turns plan.leaves recorded memory).map
      (Turn.attempt conditions) :=
    congrArg Prod.fst (Conditions.inTurn_eq_turns hplain plan.leaves recorded memory)
  obtain ⟨before, turn, frames, hturns, hholds, htrace⟩ :=
    (Plan.run_tells conditions plan recorded memory).failed failure hending
  rw [Conditions.traceOf_of_plain hplain, ← hattempts] at htrace
  refine ⟨frames, ⟨fun hzero => ?_, fun leaf text hbroken => ?_, ?_⟩, htrace⟩
  · rw [← hfollows.ending_eq_ok_iff, hending] at hzero
    cases hzero
  · have hcrash := hfollows.ending_eq_crash_iff.2 ⟨leaf, hbroken⟩
    rw [hending] at hcrash
    cases hcrash
  · intro earlier failing own hlast hown
    obtain ⟨chain, hchain, horigin⟩ := hfollows.ending_of_last hlast hown
    rw [hending] at hchain
    cases hchain
    -- the last attempt is that of the last turn
    rw [hattempts, hturns, List.map_append] at hlast
    obtain ⟨rfl, hsame⟩ := List.append_inj' hlast rfl
    obtain rfl := List.head_eq_of_cons_eq hsame
    rw [List.map_map]
    exact ⟨frames, failure, hholds, horigin, rfl, rfl⟩

/-- What happens in a run with a report: the attempts, and the closing lines. -/
theorem Plan.execute_closesWith (hplain : conditions.Plain) (plan : Plan) (recorded : Nat)
    (memory : σ) :
    let attempts := (conditions.inTurn plan.leaves memory).1
    let execution := plan.execute conditions recorded memory
    ∃ closing, plan.ClosesWith attempts execution.result closing ∧
      execution.trace = attempts.flatMap conditions.happenings ++ Trace.ofLines closing := by
  intro attempts execution
  have htells := Plan.run_tells conditions plan recorded memory
  have hattempts : conditions.traceOf (conditions.turns plan.leaves recorded memory)
      = attempts.flatMap conditions.happenings := by
    rw [Conditions.traceOf_of_plain hplain]
    exact congrArg (List.flatMap conditions.happenings ·.1)
      (Conditions.inTurn_eq_turns hplain plan.leaves recorded memory).symm
  have htrace : execution.trace = _ := Plan.execute_trace conditions plan recorded memory
  have hresult : execution.result = _ := Plan.execute_result conditions plan recorded memory
  rw [htrace, hresult]
  match hending : (plan.run conditions recorded memory).ending with
  | .ok () =>
    refine ⟨[], Plan.closesWith_nil hplain _ hending nofun, ?_⟩
    rw [htells.done hending, hattempts]
    rfl
  | .error (.crash text) =>
    refine ⟨[], Plan.closesWith_nil hplain _ hending nofun, ?_⟩
    rw [htells.crashed text hending, hattempts]
    rfl
  | .error (.failure failure) =>
    obtain ⟨frames, hcloses, hrun⟩ := Plan.closesWith_of_failure hplain hending
    refine ⟨_, hcloses, ?_⟩
    rw [hrun, Trace.ofLines_append, ← List.append_assoc]
    rfl

end

/-- **The log accounts for the run.** At a bench without hooks, a dry run says one line for
every command and calls nothing. Any other run says that a command begins before it is
called, and that it is over if it returned zero. After the last command there is nothing
more unless that command failed. Then every series on the way up to the top that has
children left says how many, the innermost first, and the message of the failure is the
last line. Nothing else is said, and nothing else happens. -/
theorem Bench.log_accounts_for_run {σ : Type} (bench : Bench) (shell : Shell σ)
    (inherited : Environment) (plan : Plan) (memory : σ) (hhooks : bench.hooks = {}) :
    let conditions := bench.conditions shell inherited
    let execution := plan.execute conditions bench.records.length memory
    let attempts := (conditions.inTurn plan.leaves memory).1
    (bench.site.dryRun = true →
      execution.trace.log = plan.leaves.map Leaf.rehearsedLine ∧
      execution.trace = plan.leaves.flatMap fun leaf =>
        [.logged leaf.rehearsedLine,
          .recorded ⟨leaf.name, leaf.text, bench.site.directory, none⟩]) ∧
    (bench.site.dryRun = false →
      Attempt.EndAtFirstFault plan.leaves attempts ∧
      ∃ closing, plan.ClosesWith attempts execution.result closing ∧
        execution.trace.log = attempts.flatMap Attempt.lines ++ closing ∧
        execution.trace
          = attempts.flatMap conditions.happenings ++ Trace.ofLines closing) := by
  intro conditions execution attempts
  refine ⟨fun hdry => ?_, fun hreal => ?_⟩
  · have htrace : execution.trace = plan.leaves.flatMap fun leaf =>
        [.logged leaf.rehearsedLine, .recorded (conditions.record leaf none)] :=
      Plan.execute_trace_of_dryRun hdry hhooks plan _ memory
    refine ⟨?_, htrace⟩
    rw [htrace, Trace.log_flatMap, List.map_eq_flatMap]
    rfl
  · have hplain : conditions.Plain := ⟨hreal, hhooks⟩
    obtain ⟨closing, hcloses, htrace⟩ :=
      Plan.execute_closesWith hplain plan bench.records.length memory
    refine ⟨⟨Conditions.inTurn_prefix _ _, Conditions.inTurn_dropLast _ _,
      Conditions.inTurn_complete⟩, closing, hcloses, ?_, htrace⟩
    have hlog := congrArg Trace.log htrace
    rw [Trace.log_append, Trace.log_flatMap, Trace.log_ofLines] at hlog
    simpa only [Conditions.log_happenings] using hlog

/-- The second of four commands returns three. It is the last of the innermost series, which
says nothing. The one around it leaves one child, and the outermost two. On a dry run all four
are said to be rehearsed. -/
theorem Bench.log_of_failing_second :
    let shell : Shell Nat := fun _ count => (.exited (if count = 1 then 3 else 0), count + 1)
    let bench : Bench := { site := { directory := Dir.ofText "/srv" } }
    let rehearsing : Bench := { site := { directory := Dir.ofText "/srv", dryRun := true } }
    let plan : Plan := .serial "all" [.serial "outer" [
        .serial "inner" [.command "a" "make a", .command "b" "make b"],
        .command "c" "make c"], .command "d" "make d", .serial "none" []]
    let conditions := bench.conditions shell {}
    let execution := plan.execute conditions 0 0
    bench.hooks = {} ∧ rehearsing.hooks = {} ∧
    (plan.execute (rehearsing.conditions shell {}) 0 0).trace.log
      = [⟨20, "contract_tasks.core.node", "[dry-run] a: make a"⟩,
          ⟨20, "contract_tasks.core.node", "[dry-run] b: make b"⟩,
          ⟨20, "contract_tasks.core.node", "[dry-run] c: make c"⟩,
          ⟨20, "contract_tasks.core.node", "[dry-run] d: make d"⟩] ∧
    ∃ closing, plan.ClosesWith (conditions.inTurn plan.leaves 0).1 execution.result closing ∧
      execution.trace.log
        = [⟨20, "contract_tasks.core.node", "Running a: make a"⟩,
            ⟨10, "contract_tasks.core.node", "Task a finished"⟩,
            ⟨20, "contract_tasks.core.node", "Running b: make b"⟩] ++ closing ∧
      closing = [
        ⟨10, "contract_tasks.core.node", "Serial 'outer' skipping 1 remaining task(s)"⟩,
        ⟨10, "contract_tasks.core.node", "Serial 'all' skipping 2 remaining task(s)"⟩,
        ⟨40, "contract_tasks.core.executor", "Serial node 'all' child 0 ('outer') failed: " ++
          "Serial node 'outer' child 0 ('inner') failed: " ++
          "Serial node 'inner' child 1 ('b') failed: " ++
          "Task 'b' failed with exit code 3: make b"⟩] := by
  intro shell bench rehearsing plan conditions execution
  obtain ⟨hrehearsed, -⟩ := (rehearsing.log_accounts_for_run shell {} plan 0 rfl).1 rfl
  obtain ⟨-, closing, hcloses, hlog, -⟩ := (bench.log_accounts_for_run shell {} plan 0 rfl).2 rfl
  refine ⟨rfl, rfl, hrehearsed, closing, hcloses, hlog, ?_⟩
  exact List.append_cancel_left (hlog.symm.trans rfl)

end Taskbook
