/-
Sessions whose hooks do as they please.

A session goes from step to step as in `Taskbook.Session`, but the bench that its runs take place at
is live: hooks find it and leave it as they like, and it holds on to the policy that it was made
from. Policies stand at places. Another policy in place of the current one is one at another
place, which the bench need not know, so editing the policy is editing what stands at a place, and a
bench that holds on to that policy or shares its values sees the edit.

Two steps are new. The bench can be given the values of a policy to share, and another policy to
hold on to. With hooks that only speak, and a bench that has its values to itself, every other step
is that of `Taskbook.Session` (`Session.step_speaking`), and every step of such a session is that of
a live one (`Session.step_ofFlat`).
-/
import Taskbook.Proofs.Live.Agreement
import Mathlib.Logic.Function.Basic

set_option autoImplicit false

namespace Taskbook.Live

variable {σ : Type}

/-- The state with the policy at this place edited. -/
def State.edit (state : State σ) (place : Nat) (change : Policy → Policy) : State σ :=
  { state with
    policies := Function.update state.policies place (change (state.policies place)) }

/-- The bench at this site, without a policy (`Context`). -/
def Bench.bare (site : Site) : Bench where
  directory := site.directory
  shell := site.shell
  overrides := .own site.overrides
  dryRun := site.dryRun

/-- The policy whose hooks go by this number. -/
def Policy.ofFlat (policy : Taskbook.Policy) (number : Nat) : Policy :=
  ⟨policy.dryRun, policy.shell, policy.overrides, number⟩

/-- The bench after a change; what is not given stays. -/
def Bench.adjust (bench : Bench) (change : Taskbook.Session.Adjustment) : Bench :=
  { bench with
    directory := change.directory.getD bench.directory
    shell := change.shell.getD bench.shell
    overrides := change.overrides.elim bench.overrides .own
    dryRun := change.dryRun.getD bench.dryRun }

/-- A session. -/
structure Session (σ : Type) where
  state : State σ
  /-- The place of the current policy. -/
  current : Nat

namespace Session

/-- One step of a session. -/
inductive Step (σ : Type) where
  /-- Run a plan at the bench and report. -/
  | execute (plan : Plan)
  /-- Run a plan at a new bench in this directory and report. -/
  | executeAt (plan : Plan) (directory : Dir)
  /-- Run a plan at the bench, without a report. -/
  | run (plan : Plan)
  /-- Go to a new bench in this directory. -/
  | newBench (directory : Dir)
  /-- Go to a new bench at this site, without a policy. -/
  | bareBench (site : Site)
  /-- Make the policy at this place the current one. -/
  | setPolicy (place : Nat)
  /-- Add to the environment of the current policy. -/
  | extendPolicy (overrides : Environment)
  /-- Set the current policy's dry run. -/
  | setPolicyDryRun (dryRun : Bool)
  /-- Change the bench. -/
  | adjust (change : Taskbook.Session.Adjustment)
  /-- Let the bench share the values of the policy at this place. -/
  | share (place : Nat)
  /-- Let the bench hold on to the policy at this place, or to none. -/
  | hold (place : Option Nat)
  /-- Record a command that was run elsewhere. -/
  | record (name text : String) (code : Option Int)
  /-- Ask for the environment of the bench. -/
  | environment
  /-- The shell changes by itself. -/
  | changeShell (change : σ → σ)

/-- The answer to a step. -/
inductive Answer where
  | nothing
  /-- A report, or what cut the run short. -/
  | report (result : Except Raised Report)
  | ended (ending : Ending)
  | recorded (record : Record)
  | environment (environment : Option Environment)

/-- The session at another bench. -/
def moveTo (session : Session σ) (bench : Bench) : Session σ :=
  { session with state := { session.state with bench := bench } }

/-- The session after a step, the step's answer, and what it did. -/
def step (conditions : Conditions σ) (session : Session σ) :
    Step σ → Session σ × Answer × Trace
  | .execute plan =>
    let execution := execute conditions plan session.state
    ({ session with state := execution.state }, .report execution.result, execution.trace)
  | .executeAt plan directory =>
    let execution := execute conditions plan (session.state.enter session.current directory)
    -- whoever asked for the run never sees the bench of one that is cut short
    let bench :=
      match execution.result with
      | .ok _ => execution.state.bench
      | .error _ => session.state.bench
    (moveTo { session with state := execution.state } bench, .report execution.result,
      execution.trace)
  | .run plan =>
    let progress := Live.run conditions plan session.state
    ({ session with state := progress.state }, .ended progress.ending, progress.trace)
  | .newBench directory =>
    ({ session with state := session.state.enter session.current directory }, .nothing, [])
  | .bareBench site => (session.moveTo (.bare site), .nothing, [])
  | .setPolicy place => ({ session with current := place }, .nothing, [])
  | .extendPolicy overrides =>
    let state := session.state.edit session.current fun policy =>
      { policy with overrides := policy.overrides.extend overrides }
    ({ session with state := state }, .nothing, [])
  | .setPolicyDryRun dryRun =>
    let state := session.state.edit session.current fun policy => { policy with dryRun := dryRun }
    ({ session with state := state }, .nothing, [])
  | .adjust change => (session.moveTo (session.state.bench.adjust change), .nothing, [])
  | .share place =>
    (session.moveTo { session.state.bench with overrides := .shared place }, .nothing, [])
  | .hold place => (session.moveTo { session.state.bench with policy := place }, .nothing, [])
  | .record name text code =>
    let record : Record := ⟨name, text, session.state.bench.directory, code⟩
    let trace : Trace := [.recorded record]
    ({ session with state := session.state.note trace }, .recorded record, trace)
  | .environment =>
    (session, .environment (session.state.site.environment conditions.inherited), [])
  | .changeShell change =>
    ({ session with state := { session.state with memory := change session.state.memory } },
      .nothing, [])

/-- The session after these steps. -/
def after (conditions : Conditions σ) (session : Session σ) : List (Step σ) → Session σ
  | [] => session
  | step :: rest => after conditions (session.step conditions step).1 rest

/-! ## Hooks that only speak -/

section

variable {shell : Shell σ} {inherited : Environment} {table : Nat → Taskbook.Hooks}

/-- The bench has its values to itself. -/
def Owns (session : Session σ) : Prop :=
  session.state.Owns

/-- The session that is not live, as this one is now. -/
def flat (session : Session σ) (shell : Shell σ) (inherited : Environment)
    (table : Nat → Taskbook.Hooks) : Taskbook.Session σ where
  shell := shell
  inherited := inherited
  policy := (session.state.policies session.current).flat table
  bench := ⟨session.state.site, session.state.hooks table, session.state.bench.records⟩
  memory := session.state.memory

/-- The step of a session that is not live. The bench of such a session neither shares the values of
a policy nor holds on to one. -/
def Step.flat? (session : Session σ) (table : Nat → Taskbook.Hooks) :
    Step σ → Option (Taskbook.Session.Step σ)
  | .execute plan => some (.execute plan)
  | .executeAt plan directory => some (.executeAt plan directory)
  | .run plan => some (.run plan)
  | .newBench directory => some (.newBench directory)
  | .bareBench site => some (.bareBench site)
  | .setPolicy place => some (.setPolicy ((session.state.policies place).flat table))
  | .extendPolicy overrides => some (.extendPolicy overrides)
  | .setPolicyDryRun dryRun => some (.setPolicyDryRun dryRun)
  | .adjust change => some (.adjust change)
  | .share _ => none
  | .hold _ => none
  | .record name text code => some (.record name text code)
  | .environment => some .environment
  | .changeShell change => some (.changeShell change)

/-- The answer of a session that is not live. -/
def Answer.ofFlat : Taskbook.Session.Answer → Answer
  | .nothing => .nothing
  | .report result => .report (result.mapError fun text => .fault (.crash text))
  | .ended ending => .ended (lift ending)
  | .recorded record => .recorded record
  | .environment found => .environment found

/-- An edit that leaves the hooks changes nothing but the policy, if the bench has its values to
itself. -/
theorem flat_edit {session : Session σ} (howns : session.Owns) {change : Policy → Policy}
    (hhooks : ∀ policy, (change policy).hooks = policy.hooks) :
    Session.flat { session with state := session.state.edit session.current change }
        shell inherited table
      = { session.flat shell inherited table with
          policy := (change (session.state.policies session.current)).flat table } := by
  obtain ⟨environment, howns⟩ := howns
  have hfound : (session.state.edit session.current change).hooks table
      = session.state.hooks table := by
    rw [State.hooks, State.hooks]
    change session.state.bench.policy.elim ({} : Taskbook.Hooks) _ = _
    cases session.state.bench.policy with
    | none => rfl
    | some place =>
      by_cases hplace : place = session.current
      · subst hplace
        exact congrArg table ((congrArg Policy.hooks (Function.update_self ..)).trans (hhooks _))
      · exact congrArg (fun policy : Policy => table policy.hooks) (Function.update_of_ne hplace ..)
  have hstays : (session.state.edit session.current change).bench.overrides = .own environment :=
    howns
  have hsite : (session.state.edit session.current change).site = session.state.site := by
    rw [State.site, State.site, State.overrides_of_own hstays, State.overrides_of_own howns]
    rfl
  rw [flat, flat, hfound, hsite]
  dsimp only [State.edit]
  rw [Function.update_self]

/-- The two steps lead to the same, and the bench still has its values to itself. -/
structure Matches (shell : Shell σ) (inherited : Environment) (table : Nat → Taskbook.Hooks)
    (next : Session σ × Answer × Trace)
    (flat : Taskbook.Session σ × Taskbook.Session.Answer × Trace) : Prop where
  session : next.1.flat shell inherited table = flat.1
  answer : next.2.1 = .ofFlat flat.2.1
  trace : next.2.2 = flat.2.2
  owns : next.1.Owns

/-- **A live session whose hooks only speak is a session.** From a bench that has its values to
itself, every step that both know leads to the same. -/
theorem step_speaking {session : Session σ} (howns : session.Owns) {step : Step σ}
    {flat : Taskbook.Session.Step σ} (hstep : step.flat? session table = some flat) :
    Matches shell inherited table (session.step (.speaking shell inherited table) step)
      ((session.flat shell inherited table).step flat) := by
  obtain ⟨environment, howns⟩ := howns
  cases step with
  | execute plan =>
    cases hstep
    rw [Session.step, execute_speaking]
    exact ⟨rfl, rfl, rfl, _, howns⟩
  | executeAt plan directory =>
    cases hstep
    rw [Session.step, execute_speaking]
    -- both runs begin at the bench that the policy makes of the directory
    let entered := session.state.enter session.current directory
    let flat := session.flat shell inherited table
    have hentered : plan.execute
          ((flat.policy.bench directory).conditions flat.shell flat.inherited) 0 flat.memory
        = plan.execute (entered.conditions shell inherited table) entered.bench.records.length
            entered.memory := rfl
    rw [Taskbook.Session.step, hentered]
    rcases plan.execute (entered.conditions shell inherited table) _ _
      with ⟨text | report, trace, memory⟩
    · exact ⟨rfl, rfl, rfl, _, howns⟩
    · exact ⟨rfl, rfl, rfl, _, rfl⟩
  | run plan =>
    cases hstep
    rw [Session.step, run_speaking]
    exact ⟨rfl, rfl, rfl, _, howns⟩
  | newBench directory =>
    cases hstep
    exact ⟨rfl, rfl, rfl, _, rfl⟩
  | bareBench site =>
    cases hstep
    exact ⟨rfl, rfl, rfl, _, rfl⟩
  | setPolicy place =>
    cases hstep
    exact ⟨rfl, rfl, rfl, _, howns⟩
  | extendPolicy overrides =>
    cases hstep
    exact ⟨flat_edit ⟨_, howns⟩ fun _ => rfl, rfl, rfl, _, howns⟩
  | setPolicyDryRun dryRun =>
    cases hstep
    exact ⟨flat_edit ⟨_, howns⟩ fun _ => rfl, rfl, rfl, _, howns⟩
  | adjust change =>
    cases hstep
    obtain ⟨directory, shell, _ | overrides, dryRun⟩ := change
    · exact ⟨rfl, rfl, rfl, _, howns⟩
    · exact ⟨rfl, rfl, rfl, _, rfl⟩
  | share place => cases hstep
  | hold place => cases hstep
  | record name text code =>
    cases hstep
    exact ⟨rfl, rfl, rfl, _, howns⟩
  | environment =>
    cases hstep
    exact ⟨rfl, rfl, rfl, _, howns⟩
  | changeShell change =>
    cases hstep
    exact ⟨rfl, rfl, rfl, _, howns⟩

end

/-! ## Every session is a live one -/

/-- The hooks that a session finds: those of its policy, those of its bench, which may be others,
and those of a policy that is still to come. -/
def tableOf (session : Taskbook.Session σ) (coming : Taskbook.Policy) : Nat → Taskbook.Hooks
  | 0 => session.policy.hooks
  | 1 => session.bench.hooks
  | _ => coming.hooks

/-- The live session that is this one now. The policy that is still to come has a place already. -/
def ofFlat (session : Taskbook.Session σ) (coming : Taskbook.Policy) : Session σ where
  state := {
    policies := fun
      | 0 => .ofFlat session.policy 0
      | 1 => { hooks := 1 }
      | _ => .ofFlat coming 2
    bench := { Bench.bare session.bench.site with
      policy := some 1
      records := session.bench.records }
    memory := session.memory }
  current := 0

/-- The policy that a step brings. -/
def Step.coming : Taskbook.Session.Step σ → Taskbook.Policy
  | .setPolicy policy => policy
  | _ => {}

/-- The step, as a live session takes it. -/
def Step.ofFlat : Taskbook.Session.Step σ → Step σ
  | .execute plan => .execute plan
  | .executeAt plan directory => .executeAt plan directory
  | .run plan => .run plan
  | .newBench directory => .newBench directory
  | .bareBench site => .bareBench site
  | .setPolicy _ => .setPolicy 2
  | .extendPolicy overrides => .extendPolicy overrides
  | .setPolicyDryRun dryRun => .setPolicyDryRun dryRun
  | .adjust change => .adjust change
  | .record name text code => .record name text code
  | .environment => .environment
  | .changeShell change => .changeShell change

/-- **Every session is a live one.** Whatever step it takes next, a live session, with hooks that
only speak and a bench that has its values to itself, takes the same step and gets to the same. -/
theorem step_ofFlat (session : Taskbook.Session σ) (next : Taskbook.Session.Step σ) :
    let table := tableOf session (Step.coming next)
    let live := ofFlat session (Step.coming next)
    live.flat session.shell session.inherited table = session ∧
      Matches session.shell session.inherited table
        (live.step (.speaking session.shell session.inherited table) (.ofFlat next))
        (session.step next) := by
  intro table live
  have hflat : live.flat session.shell session.inherited table = session := rfl
  have hstep : (Step.ofFlat next).flat? live table = some next := by
    cases next <;> rfl
  have hmatches : Matches session.shell session.inherited table _ _ :=
    step_speaking ⟨_, rfl⟩ hstep
  rw [hflat] at hmatches
  exact ⟨hflat, hmatches⟩

end Session

end Taskbook.Live
