/-
Running a plan.

The commands of a plan run one after the other, from left to right, and the first
that fails ends the run. Around each command stand two hooks, either of which may
be missing. The hook before it can forbid the command: then it is not attempted,
and the hook after it is not asked. Otherwise the hook after it is asked whatever
became of the command, and if it objects its objection is how the command ended.

A dry run does all of this except for the call: the command is recorded without a
code, and counts as done.

All a hook can do here is to object. What becomes of a run whose hooks change the bench
is said in `Taskbook.Proofs.Live.Run`, of which this is the special case.

What a run does is a function of the plan, the number of records so far, which the
hooks are told, and the shell's memory. It returns how the run ended, what
happened, and the shell's memory afterwards.
-/
import Taskbook.Plan.Basic
import Taskbook.Run.Trace

set_option autoImplicit false

namespace Taskbook

/-- Someone who is told of an event and can end the run. -/
abbrev Hook := Event → Ending

/-- The hooks around every command (`ExecutionPolicy.before_node`, `ExecutionPolicy.after_node`). -/
structure Hooks where
  before : Option Hook := none
  after : Option Hook := none

/-- What stays the same during a run. -/
structure Conditions (σ : Type) where
  shell : Shell σ
  site : Site
  hooks : Hooks
  /-- The environment that commands inherit. -/
  inherited : Environment

/-- What a run led to. -/
structure Progress (σ : Type) where
  ending : Ending
  trace : Trace
  memory : σ

/-- Tells a hook of an event, if there is a hook. -/
def Event.tell (event : Event) : Option Hook → Ending × Trace
  | none => (.ok (), [])
  | some hook => (hook event, [.notified event])

namespace Conditions

variable {σ : Type}

/-- The command itself, without its hooks (`CommandNode._run_command`). -/
def attempt (conditions : Conditions σ) (name text : String) (memory : σ) : Progress σ :=
  let site := conditions.site
  if site.dryRun then
    ⟨.ok (),
      [.logged (Reporter.plan.line .info ("[dry-run] " ++ name ++ ": " ++ text)),
        .recorded ⟨name, text, site.directory, none⟩],
      memory⟩
  else
    let call := site.call conditions.inherited text
    let (outcome, memory') := conditions.shell call memory
    let begun : Trace :=
      [.logged (Reporter.plan.line .info ("Running " ++ name ++ ": " ++ text)),
        .called call outcome]
    match outcome with
    | .exited code =>
      let noted := begun ++ [.recorded ⟨name, text, site.directory, some code⟩]
      if code = 0 then
        ⟨.ok (),
          noted ++ [.logged (Reporter.plan.line .debug ("Task " ++ name ++ " finished"))],
          memory'⟩
      else ⟨.error (.failure (.exited name text code)), noted, memory'⟩
    | .notStarted reason =>
      ⟨.error (.failure (.notStarted name text reason)),
        begun ++ [.recorded ⟨name, text, site.directory, none⟩], memory'⟩
    -- a crash leaves no record: nobody knows whether the command ran
    | .broken message => ⟨.error (.crash message), begun, memory'⟩

/-- One command between its hooks (`CommandNode.run`). -/
def runCommand (conditions : Conditions σ) (name text : String) (recorded : Nat) (memory : σ) :
    Progress σ :=
  let (permission, asked) := (Event.before name text recorded).tell conditions.hooks.before
  match permission with
  | .error fault => ⟨.error fault, asked, memory⟩
  | .ok () =>
    -- the records of this very command count too when the hook after it is told
    let attempted := conditions.attempt name text memory
    let notice := Event.after name text (recorded + attempted.trace.records.length)
      (failureOf attempted.ending)
    let (verdict, told) := notice.tell conditions.hooks.after
    let ending : Ending :=
      match verdict with
      | .error fault => .error fault
      | .ok () => attempted.ending
    ⟨ending, asked ++ attempted.trace ++ told, attempted.memory⟩

/-- The line about the children of a series that are not run any more, if there
are any. -/
def skipped (sequence : String) (count : Nat) : Trace :=
  if count = 0 then []
  else
    [.logged (Reporter.plan.line .debug
      ("Serial '" ++ sequence ++ "' skipping " ++ toString count ++ " remaining task(s)"))]

end Conditions

mutual

/-- Runs a plan when `recorded` commands have been recorded before (`Node.run`). -/
def Plan.run {σ : Type} (conditions : Conditions σ) : Plan → (recorded : Nat) → σ → Progress σ
  | .command name text, recorded, memory => conditions.runCommand name text recorded memory
  | .serial name children, recorded, memory =>
    Plan.runFrom conditions name 0 children recorded memory

/-- Runs the children of the series `sequence` from the one at `index` on (`Serial.run`). -/
def Plan.runFrom {σ : Type} (conditions : Conditions σ) (sequence : String) (index : Nat) :
    List Plan → (recorded : Nat) → σ → Progress σ
  | [], _, memory => ⟨.ok (), [], memory⟩
  | child :: rest, recorded, memory =>
    let first := child.run conditions recorded memory
    match first.ending with
    | .ok () =>
      let others := Plan.runFrom conditions sequence (index + 1) rest
        (recorded + first.trace.records.length) first.memory
      ⟨others.ending, first.trace ++ others.trace, others.memory⟩
    | .error (.failure failure) =>
      -- only a failure is reported with its place; a crash passes through as it is
      ⟨.error (.failure (.within sequence index child.name failure)),
        first.trace ++ Conditions.skipped sequence rest.length, first.memory⟩
    | .error (.crash text) => ⟨.error (.crash text), first.trace, first.memory⟩

end

end Taskbook
