/-
Sessions: one run after another at the same bench.

A bench is where runs take place: a site, the hooks, and the records of every
command run there so far. A session has a current bench and a current policy. A
new bench is made from the policy as it is at that moment, and from then on the
two have nothing to do with each other: changing the policy changes the benches to
come, not the one in use. Changes to the bench itself are made to its site.

A session is taken forward by steps. Each step gives an answer and a trace of what
it did, and may put another bench in place of the current one; a run at a new
directory does so only if it is not cut short by a crash.
-/
import Taskbook.Run.Report

set_option autoImplicit false

namespace Taskbook

/-- Where runs take place, and what has been run there (`Context`). -/
structure Bench where
  site : Site
  hooks : Hooks := {}
  records : List Record := []

/-- A new bench under this policy in this directory (`Executor.new_context`). -/
def Policy.bench (policy : Policy) (directory : Dir) : Bench :=
  { site := policy.site directory, hooks := policy.hooks }

namespace Bench

/-- The bench with the records of a trace added (`Context.record`). -/
def note (bench : Bench) (trace : Trace) : Bench :=
  { bench with records := bench.records ++ trace.records }

/-- What stays the same in a run at this bench. -/
def conditions {σ : Type} (bench : Bench) (shell : Shell σ) (inherited : Environment) :
    Conditions σ :=
  ⟨shell, bench.site, bench.hooks, inherited⟩

end Bench

/-- A session with a shell whose memory is of type `σ` (`Executor` and the `Context` in use). -/
structure Session (σ : Type) where
  shell : Shell σ
  inherited : Environment
  policy : Policy
  bench : Bench
  memory : σ

namespace Session

variable {σ : Type}

/-- A change of the bench's site; what is not given stays. -/
structure Adjustment where
  directory : Option Dir := none
  shell : Option (Option String) := none
  overrides : Option Environment := none
  dryRun : Option Bool := none

/-- The site after a change. -/
def Adjustment.apply (change : Adjustment) (site : Site) : Site where
  directory := change.directory.getD site.directory
  shell := change.shell.getD site.shell
  overrides := change.overrides.getD site.overrides
  dryRun := change.dryRun.getD site.dryRun

/-- One step of a session. -/
inductive Step (σ : Type) where
  /-- Run a plan at the bench and report. -/
  | execute (plan : Plan)
  /-- Run a plan at a new bench in this directory and report. -/
  | executeAt (plan : Plan) (directory : Dir)
  /-- Run a plan at the bench, without a report. -/
  | run (plan : Plan)
  /-- Go to a new bench in this directory. -/
  | newBench (directory : Dir)
  /-- Go to a new bench at this site, without hooks. -/
  | bareBench (site : Site)
  /-- Put another policy in place of the current one. -/
  | setPolicy (policy : Policy)
  /-- Add to the environment of the current policy. -/
  | extendPolicy (overrides : Environment)
  /-- Set the current policy's dry run. -/
  | setPolicyDryRun (dryRun : Bool)
  /-- Change the site of the bench. -/
  | adjust (change : Adjustment)
  /-- Record a command that was run elsewhere. -/
  | record (name text : String) (code : Option Int)
  /-- Ask for the environment of the bench. -/
  | environment
  /-- The shell changes by itself. -/
  | changeShell (change : σ → σ)

/-- The answer to a step. -/
inductive Answer where
  | nothing
  /-- A report, or the text of a crash. -/
  | report (result : Except String Report)
  | ended (ending : Ending)
  | recorded (record : Record)
  | environment (environment : Option Environment)

/-- The session after a step, the step's answer, and what it did. -/
def step (session : Session σ) : Step σ → Session σ × Answer × Trace
  | .execute plan =>
    let bench := session.bench
    let execution := plan.execute (bench.conditions session.shell session.inherited)
      bench.records.length session.memory
    ({ session with bench := bench.note execution.trace, memory := execution.memory },
      .report execution.result, execution.trace)
  | .executeAt plan directory =>
    let bench := session.policy.bench directory
    let execution := plan.execute (bench.conditions session.shell session.inherited) 0
      session.memory
    -- whoever asked for the run never sees the bench of one that is cut short
    let current :=
      match execution.result with
      | .ok _ => bench.note execution.trace
      | .error _ => session.bench
    ({ session with bench := current, memory := execution.memory },
      .report execution.result, execution.trace)
  | .run plan =>
    let bench := session.bench
    let progress := plan.run (bench.conditions session.shell session.inherited)
      bench.records.length session.memory
    ({ session with bench := bench.note progress.trace, memory := progress.memory },
      .ended progress.ending, progress.trace)
  | .newBench directory =>
    ({ session with bench := session.policy.bench directory }, .nothing, [])
  | .bareBench site => ({ session with bench := { site := site } }, .nothing, [])
  | .setPolicy policy => ({ session with policy := policy }, .nothing, [])
  | .extendPolicy overrides =>
    let policy := { session.policy with overrides := session.policy.overrides.extend overrides }
    ({ session with policy := policy }, .nothing, [])
  | .setPolicyDryRun dryRun =>
    ({ session with policy := { session.policy with dryRun := dryRun } }, .nothing, [])
  | .adjust change =>
    let bench := { session.bench with site := change.apply session.bench.site }
    ({ session with bench := bench }, .nothing, [])
  | .record name text code =>
    let record : Record := ⟨name, text, session.bench.site.directory, code⟩
    let trace : Trace := [.recorded record]
    ({ session with bench := session.bench.note trace }, .recorded record, trace)
  | .environment =>
    (session, .environment (session.bench.site.environment session.inherited), [])
  | .changeShell change => ({ session with memory := change session.memory }, .nothing, [])

/-- The session that starts with this policy, at a bench in this directory. -/
def start (shell : Shell σ) (inherited : Environment) (policy : Policy) (directory : Dir)
    (memory : σ) : Session σ :=
  ⟨shell, inherited, policy, policy.bench directory, memory⟩

end Session

end Taskbook
