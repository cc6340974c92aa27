/-
Runs in which hooks do as they please.

All that a hook can do in `Plan.run` is to have something against a command. It is really handed the
bench itself, with the records, and by way of the bench the policy that it was made from. It can
send the next command to another directory, add a record of its own, look up whether the policy is
on a dry run, and remember what it has seen. This file runs plans once more, with such hooks. What
they act on is kept in one `State`, which the run hands on from command to command.

Two more things can be told apart here that are the same in `Plan.run`. A bench has its values on
top of the environment to itself, or it shares those of a policy and sees them change. And what
cuts a run short has a kind: whoever asks for some paths waits for the error of a look-up
(`NotFoundError`), and a hook or the shell can raise one as well.

A command by itself is the same as ever: while it is attempted no hook is asked, so
`Conditions.attempt` of the flat state will do. `run_induction` is how most things are proved of
such runs: what holds of one command between its hooks, and is kept when commands are put one
after the other and when a series passes a failure on, holds of every run.
-/
import Taskbook.Run.Report
import Taskbook.Session

set_option autoImplicit false

namespace Taskbook.Live

/-! ## The state -/

/-- What cuts a run short. -/
inductive Raised where
  /-- A failure, or a crash that is nobody's business. -/
  | fault (fault : Fault)
  /-- The error of a look-up. -/
  | lookup (error : LookupError)
  deriving DecidableEq, Repr

/-- How a run ends: well, or cut short. -/
abbrev Ending := Except Raised Unit

/-- The failure that a run ended with, if it did. -/
def failureOf : Ending → Option Failure
  | .error (.fault (.failure failure)) => some failure
  | _ => none

/-- The values that a bench puts on top of the inherited environment: its own, or those of the
policy at this place, whatever they are by now. -/
inductive Overrides where
  | own (environment : Environment)
  | shared (place : Nat)
  deriving DecidableEq, Repr

/-- A policy (`ExecutionPolicy`). Its hooks go by a number. -/
structure Policy where
  dryRun : Bool := false
  shell : Option String := none
  overrides : Environment := {}
  hooks : Nat := 0
  deriving DecidableEq, Repr

/-- Where a run takes place (`Context`), as hooks find it and leave it. -/
structure Bench where
  directory : Dir
  shell : Option String := none
  overrides : Overrides := .own {}
  dryRun : Bool := false
  /-- The place of the policy that the bench holds on to, if it holds on to one. -/
  policy : Option Nat := none
  records : List Record := []
  deriving DecidableEq, Repr

/-- All that a hook can see and change: the policies, each at its place, the bench, and a memory
that hooks share with the shell. -/
structure State (σ : Type) where
  policies : Nat → Policy
  bench : Bench
  memory : σ

namespace State

variable {σ : Type}

/-- The values on top of the inherited environment, as they are now. -/
def overrides (state : State σ) : Environment :=
  match state.bench.overrides with
  | .own environment => environment
  | .shared place => (state.policies place).overrides

/-- The bench has its values to itself. -/
def Owns (state : State σ) : Prop :=
  ∃ environment, state.bench.overrides = .own environment

/-- A bench that has its values to itself has those that it has. -/
theorem overrides_of_own {state : State σ} {environment : Environment}
    (h : state.bench.overrides = .own environment) : state.overrides = environment := by
  rw [overrides, h]

/-- Where and how the next command would be started. -/
def site (state : State σ) : Site :=
  ⟨state.bench.directory, state.bench.shell, state.overrides, state.bench.dryRun⟩

/-- The state with the records of a trace added. -/
def note (state : State σ) (trace : Trace) : State σ :=
  { state with bench := { state.bench with records := state.bench.records ++ trace.records } }

/-- The state with a new bench in this directory (`Executor.new_context`). The bench copies what it
finds in the policy at this place, and holds on to it for the hooks. -/
def enter (state : State σ) (place : Nat) (directory : Dir) : State σ :=
  let policy := state.policies place
  { state with
    bench := {
      directory := directory
      shell := policy.shell
      overrides := .own policy.overrides
      dryRun := policy.dryRun
      policy := some place } }

end State

/-! ## One command -/

/-- Someone who is told of an event and can end the run, and can do anything to the state. -/
abbrev Hook (σ : Type) := Event → State σ → Ending × State σ

/-- The hooks around every command. -/
structure Hooks (σ : Type) where
  before : Option (Hook σ) := none
  after : Option (Hook σ) := none

/-- What stays the same during a run. -/
structure Conditions (σ : Type) where
  shell : Shell σ
  /-- The error of a look-up that a call breaks with, if it is one that it breaks with. -/
  lookup? : Call → σ → Option LookupError
  /-- The hooks that go by a number. -/
  hooks : Nat → Hooks σ
  /-- The environment that commands inherit. -/
  inherited : Environment

/-- What a run led to. -/
structure Progress (σ : Type) where
  ending : Ending
  trace : Trace
  state : State σ

/-- Tells a hook of an event, if there is a hook. -/
def tell {σ : Type} (event : Event) (hook : Option (Hook σ)) (state : State σ) : Progress σ :=
  match hook with
  | none => ⟨.ok (), [], state⟩
  | some hook => ⟨(hook event state).1, [.notified event], (hook event state).2⟩

namespace Conditions

variable {σ : Type} (conditions : Conditions σ)

/-- What stays the same while one command is attempted: no hook is asked meanwhile. -/
def flat (site : Site) : Taskbook.Conditions σ :=
  ⟨conditions.shell, site, {}, conditions.inherited⟩

/-- What the attempt of a command raises that made this call and ended like this. -/
def raise (call : Call) (memory : σ) : Taskbook.Ending → Ending
  | .ok () => .ok ()
  | .error (.failure failure) => .error (.fault (.failure failure))
  | .error (.crash text) =>
    match conditions.lookup? call memory with
    | some error => .error (.lookup error)
    | none => .error (.fault (.crash text))

/-- The command itself, without its hooks (`CommandNode._run_command`). -/
def attempt (name text : String) (state : State σ) : Progress σ :=
  let alone := (conditions.flat state.site).attempt name text state.memory
  ⟨conditions.raise (state.site.call conditions.inherited text) state.memory alone.ending,
    alone.trace, { state.note alone.trace with memory := alone.memory }⟩

/-- The hooks of the policy at this place, as they are now. -/
def hooksAt (place : Option Nat) (state : State σ) : Hooks σ :=
  place.elim {} fun place => conditions.hooks (state.policies place).hooks

/-- Asks the hook before a command. -/
def asks (name text : String) (state : State σ) : Progress σ :=
  tell (.before name text state.bench.records.length)
    (conditions.hooksAt state.bench.policy state).before state

/-- Tells the hook after a command what became of it. -/
def tells (place : Option Nat) (name text : String) (attempted : Progress σ) : Progress σ :=
  tell (.after name text attempted.state.bench.records.length (failureOf attempted.ending))
    (conditions.hooksAt place attempted.state).after attempted.state

/-- One command between its hooks (`CommandNode.run`). -/
def runCommand (name text : String) (state : State σ) : Progress σ :=
  let asked := conditions.asks name text state
  match asked.ending with
  | .error raised => ⟨.error raised, asked.trace, asked.state⟩
  | .ok () =>
    let attempted := conditions.attempt name text asked.state
    -- which policy the bench holds on to was read at the beginning, its hooks are read now
    let told := conditions.tells state.bench.policy name text attempted
    ⟨told.ending.bind fun _ => attempted.ending, asked.trace ++ attempted.trace ++ told.trace,
      told.state⟩

variable {conditions} {name text : String} {state : State σ}

/-- The hook before the command objects: nothing else happens. -/
theorem runCommand_of_refused {raised : Raised}
    (h : (conditions.asks name text state).ending = .error raised) :
    conditions.runCommand name text state = conditions.asks name text state := by
  rw [runCommand]
  simp only [h]
  rw [← h]

/-- The hook before the command lets it pass: it is attempted, and the hook after it is told. -/
theorem runCommand_of_allowed (h : (conditions.asks name text state).ending = .ok ()) :
    let asked := conditions.asks name text state
    let attempted := conditions.attempt name text asked.state
    let told := conditions.tells state.bench.policy name text attempted
    conditions.runCommand name text state
      = ⟨told.ending.bind fun _ => attempted.ending,
          asked.trace ++ attempted.trace ++ told.trace, told.state⟩ := by
  dsimp only
  rw [runCommand]
  simp only [h]

end Conditions

/-! ## Plans -/

mutual

/-- Runs a plan (`Node.run`). -/
def run {σ : Type} (conditions : Conditions σ) : Plan → State σ → Progress σ
  | .command name text, state => conditions.runCommand name text state
  | .serial name children, state => runFrom conditions name 0 children state

/-- Runs the children of the series `sequence` from the one at `index` on (`Serial.run`). -/
def runFrom {σ : Type} (conditions : Conditions σ) (sequence : String) (index : Nat) :
    List Plan → State σ → Progress σ
  | [], state => ⟨.ok (), [], state⟩
  | child :: rest, state =>
    let first := run conditions child state
    match first.ending with
    | .ok () =>
      let others := runFrom conditions sequence (index + 1) rest first.state
      ⟨others.ending, first.trace ++ others.trace, others.state⟩
    | .error (.fault (.failure failure)) =>
      ⟨.error (.fault (.failure (.within sequence index child.name failure))),
        first.trace ++ Taskbook.Conditions.skipped sequence rest.length, first.state⟩
    | .error raised => ⟨.error raised, first.trace, first.state⟩

end

/-- What came of a run that is reported: the report, or what cut it short. -/
structure Execution (σ : Type) where
  result : Except Raised Report
  trace : Trace
  state : State σ

/-- Runs a plan and reports (`Executor.run`). Only a failure is reported. -/
def execute {σ : Type} (conditions : Conditions σ) (plan : Plan) (state : State σ) :
    Execution σ :=
  let progress := run conditions plan state
  match progress.ending with
  | .ok () => ⟨.ok { success := true }, progress.trace, progress.state⟩
  | .error (.fault (.failure failure)) =>
    ⟨.ok { success := false, failures := [failure] },
      progress.trace ++ [.logged (Reporter.runner.line .error failure.message)], progress.state⟩
  | .error raised => ⟨.error raised, progress.trace, progress.state⟩

/-- Runs the tasks at `paths` in order, at a new bench under the policy at this place
(`Executor.run_tasks`). Nothing is run unless all of them can be planned. -/
def request {σ : Type} (book : Book) (conditions : Conditions σ) (paths : List Path) (place : Nat)
    (directory : Dir) (state : State σ) : Execution σ :=
  match book.plans paths with
  | .error error => ⟨.error (.lookup error), [], state⟩
  | .ok plans => execute conditions (Plan.together plans) (state.enter place directory)

/-! ## Induction over a run -/

/-- What is kept when commands are run one after the other, and when a series passes a failure
on. -/
structure IsComposed {σ : Type} (P : State σ → Progress σ → Prop) : Prop where
  nothing : ∀ state, P state ⟨.ok (), [], state⟩
  next : ∀ state (first others : Progress σ), P state first → first.ending = .ok () →
    P first.state others → P state ⟨others.ending, first.trace ++ others.trace, others.state⟩
  passed : ∀ state (first : Progress σ) failure sequence index child count, P state first →
    first.ending = .error (.fault (.failure failure)) →
    P state ⟨.error (.fault (.failure (.within sequence index child failure))),
      first.trace ++ Taskbook.Conditions.skipped sequence count, first.state⟩

section

variable {σ : Type} {conditions : Conditions σ} {P : State σ → Progress σ → Prop}

mutual

/-- **Induction over a run.** What holds of every command between its hooks, and is kept by all that
is put around it, holds of every run. -/
theorem run_induction (hP : IsComposed P)
    (turn : ∀ name text state, P state (conditions.runCommand name text state)) :
    ∀ (plan : Plan) (state : State σ), P state (run conditions plan state)
  | .command name text, state => by
    rw [run]
    exact turn name text state
  | .serial name children, state => by
    rw [run]
    exact runFrom_induction hP turn name 0 children state

/-- The same for the children of a series from some position on. -/
theorem runFrom_induction (hP : IsComposed P)
    (turn : ∀ name text state, P state (conditions.runCommand name text state))
    (sequence : String) :
    ∀ (index : Nat) (children : List Plan) (state : State σ),
      P state (runFrom conditions sequence index children state)
  | index, [], state => by
    rw [runFrom]
    exact hP.nothing state
  | index, child :: rest, state => by
    have hchild := run_induction hP turn child state
    rw [runFrom]
    dsimp only
    split
    · next hok =>
      exact hP.next state _ _ hchild hok
        (runFrom_induction hP turn sequence (index + 1) rest _)
    · next failure hfailure => exact hP.passed state _ _ _ _ _ _ hchild hfailure
    · next raised hraised =>
      rw [← hraised]
      exact hchild

end

end

/-! ## Hooks that keep to something -/

/-- Both hooks are of this kind, where there are any. -/
structure Hooks.Are {σ : Type} (hooks : Hooks σ) (kind : Hook σ → Prop) : Prop where
  before : ∀ hook ∈ hooks.before, kind hook
  after : ∀ hook ∈ hooks.after, kind hook

/-- All hooks are of this kind. -/
def Conditions.HooksAre {σ : Type} (conditions : Conditions σ) (kind : Hook σ → Prop) : Prop :=
  ∀ number, (conditions.hooks number).Are kind

/-- Whichever hooks a bench finds, they are of the kind that all are. -/
theorem Conditions.HooksAre.hooksAt {σ : Type} {conditions : Conditions σ} {kind : Hook σ → Prop}
    (h : conditions.HooksAre kind) (place : Option Nat) (state : State σ) :
    (conditions.hooksAt place state).Are kind := by
  cases place with
  | none => exact ⟨nofun, nofun⟩
  | some place => exact h _

end Taskbook.Live
