/-
Hooks that only speak.

A hook that says what it has against a command and leaves the state as it is does all that a hook of
`Plan.run` can do. With such hooks, and a shell that raises no error of a look-up, the two ways of
running a plan are one: they end alike and the same happens, and all that becomes of the state is
that the records are added and the shell remembers (`run_speaking`). So whatever is said of
`Plan.run` holds of live runs with such hooks, and what is said of live runs under a condition that
such hooks meet holds of `Plan.run`.
-/
import Taskbook.Proofs.Live.Run
import Taskbook.Proofs.Run.Hooks

set_option autoImplicit false

namespace Taskbook.Live

variable {σ : Type}

/-- An ending without the error of a look-up. -/
def lift : Taskbook.Ending → Ending :=
  Except.mapError .fault

/-- The hook that says what this one says, and leaves everything as it is. -/
def Hook.speaking (hook : Taskbook.Hook) : Hook σ := fun event state =>
  (lift (hook event), state)

/-- Two hooks that only speak. -/
def Hooks.speaking (hooks : Taskbook.Hooks) : Hooks σ where
  before := hooks.before.map Hook.speaking
  after := hooks.after.map Hook.speaking

/-- The conditions under which the hooks of this table speak, and do nothing else. -/
def Conditions.speaking (shell : Shell σ) (inherited : Environment)
    (table : Nat → Taskbook.Hooks) : Conditions σ where
  shell := shell
  lookup? _ _ := none
  hooks number := Hooks.speaking (table number)
  inherited := inherited

/-- What is true of every hook that only speaks is true of all of these. -/
theorem Conditions.speaking_hooksAre {shell : Shell σ} {inherited : Environment}
    {table : Nat → Taskbook.Hooks} {kind : Hook σ → Prop}
    (h : ∀ hook : Taskbook.Hook, kind (Hook.speaking hook)) :
    (speaking shell inherited table).HooksAre kind := by
  refine fun number => ⟨fun own hown => ?_, fun own hown => ?_⟩
  · obtain ⟨hook, -, rfl⟩ := Option.map_eq_some_iff.1 hown
    exact h hook
  · obtain ⟨hook, -, rfl⟩ := Option.map_eq_some_iff.1 hown
    exact h hook

/-- The hooks of a bench. -/
def State.hooks (state : State σ) (table : Nat → Taskbook.Hooks) : Taskbook.Hooks :=
  state.bench.policy.elim {} fun place => table (state.policies place).hooks

/-- What stays the same in a run that begins here. -/
def State.conditions (state : State σ) (shell : Shell σ) (inherited : Environment)
    (table : Nat → Taskbook.Hooks) : Taskbook.Conditions σ :=
  ⟨shell, state.site, state.hooks table, inherited⟩

/-- The state after a run that began here and led to this. -/
def State.past (state : State σ) (progress : Taskbook.Progress σ) : State σ :=
  { state.note progress.trace with memory := progress.memory }

/-- What a run that began here led to, as a live run leads to it. -/
def Progress.ofFlat (state : State σ) (progress : Taskbook.Progress σ) : Progress σ :=
  ⟨lift progress.ending, progress.trace, state.past progress⟩

section

variable {shell : Shell σ} {inherited : Environment} {table : Nat → Taskbook.Hooks}

/-- The conditions of a run outlast it. -/
theorem State.conditions_past (state : State σ) (progress : Taskbook.Progress σ) :
    (state.past progress).conditions shell inherited table
      = state.conditions shell inherited table :=
  rfl

theorem State.length_past (state : State σ) (progress : Taskbook.Progress σ) :
    (state.past progress).bench.records.length
      = state.bench.records.length + progress.trace.records.length :=
  List.length_append

/-- Two runs one after the other add the records of both. -/
theorem State.past_append (state : State σ) (first others : Taskbook.Progress σ) :
    (state.past first).past others
      = state.past ⟨others.ending, first.trace ++ others.trace, others.memory⟩ := by
  rw [past, past, past, note, note, note, Trace.records_append, ← List.append_assoc]

/-- The line about skipped children is no record. -/
theorem State.past_skipped (state : State σ) (first : Taskbook.Progress σ)
    (ending : Taskbook.Ending) (sequence : String) (count : Nat) :
    state.past ⟨ending, first.trace ++ Taskbook.Conditions.skipped sequence count, first.memory⟩
      = state.past first := by
  rw [past, past, note, note, Trace.records_append, Taskbook.Conditions.records_skipped,
    List.append_nil]

/-- The hooks that are found speak for those in the table. -/
theorem Conditions.hooksAt_speaking (state : State σ) :
    (speaking shell inherited table).hooksAt state.bench.policy state
      = Hooks.speaking (state.hooks table) := by
  rw [hooksAt, State.hooks]
  cases state.bench.policy <;> rfl

theorem tell_speaking (event : Event) (hook : Option Taskbook.Hook) (state : State σ) :
    tell event (hook.map Hook.speaking) state
      = ⟨lift (event.tell hook).1, (event.tell hook).2, state⟩ := by
  cases hook <;> rfl

theorem failureOf_lift (ending : Taskbook.Ending) :
    failureOf (lift ending) = Taskbook.failureOf ending := by
  rcases ending with (failure | text) | _ <;> rfl

theorem lift_bind (first second : Taskbook.Ending) :
    lift (first.bind fun _ => second) = (lift first).bind fun _ => lift second := by
  cases first <;> rfl

/-- Being told something leaves no record. -/
theorem State.note_tell (state : State σ) (event : Event) (hook : Option Taskbook.Hook) :
    state.note (event.tell hook).2 = state := by
  rw [note, Event.records_tell, List.append_nil]

namespace Conditions

/-- The turn of a command that begins here. -/
def turn (name text : String) (state : State σ) : Turn σ :=
  ⟨⟨name, text⟩, state.bench.records.length, state.memory⟩

variable (name text : String) (state : State σ)

theorem asks_speaking :
    (speaking shell inherited table).asks name text state
      = ⟨lift ((turn name text state).asked.tell (state.hooks table).before).1,
          ((turn name text state).asked.tell (state.hooks table).before).2, state⟩ := by
  rw [asks, hooksAt_speaking]
  exact tell_speaking _ _ _

/-- A command by itself is attempted in the same way. -/
theorem attempt_speaking :
    (speaking shell inherited table).attempt name text state
      = .ofFlat state
          ((turn name text state).alone (state.conditions shell inherited table)) := by
  rw [attempt, Progress.ofFlat]
  congr 1
  change raise _ _ _ ((turn name text state).alone (state.conditions shell inherited table)).ending
    = _
  rcases ((turn name text state).alone (state.conditions shell inherited table)).ending
    with (failure | message) | _ <;> rfl

/-- The hook after it is told the same. -/
theorem tells_speaking (alone : Taskbook.Progress σ) :
    (speaking shell inherited table).tells state.bench.policy name text (.ofFlat state alone)
      = ⟨lift (((turn name text state).told alone.trace.records.length alone.ending).tell
            (state.hooks table).after).1,
          (((turn name text state).told alone.trace.records.length alone.ending).tell
            (state.hooks table).after).2,
          state.past alone⟩ := by
  have hhooks : (speaking shell inherited table).hooksAt state.bench.policy (state.past alone)
      = Hooks.speaking (state.hooks table) := hooksAt_speaking (state.past alone)
  rw [tells, Progress.ofFlat]
  dsimp only
  rw [hhooks, failureOf_lift, State.length_past]
  exact tell_speaking _ _ _

/-- And so a command between its hooks is run in the same way. -/
theorem runCommand_speaking :
    (speaking shell inherited table).runCommand name text state
      = .ofFlat state ((state.conditions shell inherited table).runCommand name text
          state.bench.records.length state.memory) := by
  have hasked : (speaking shell inherited table).asks name text state = _ :=
    asks_speaking name text state
  change _ = Progress.ofFlat state
    ((turn name text state).progress (state.conditions shell inherited table))
  cases hverdict : ((turn name text state).asked.tell (state.hooks table).before).1 with
  | error fault =>
    rw [hverdict] at hasked
    rw [runCommand_of_refused (congrArg Progress.ending hasked), hasked,
      Turn.progress_of_refused hverdict, Progress.ofFlat, State.past, State.note_tell]
    rfl
  | ok _ =>
    rw [hverdict] at hasked
    rw [runCommand_of_allowed (congrArg Progress.ending hasked), hasked, attempt_speaking,
      tells_speaking, Turn.progress_of_allowed hverdict, Progress.ofFlat, Progress.ofFlat,
      lift_bind, State.past, State.past, State.note, State.note, Trace.records_append,
      Trace.records_append, Event.records_tell, Event.records_tell, List.nil_append,
      List.append_nil]
    rfl

end Conditions

/-! ## Plans -/

mutual

/-- **Hooks that only speak are those of `Plan.run`.** A live run with such hooks ends like the run
without them being live, the same happens, and nothing else becomes of the state. -/
theorem run_speaking : ∀ (plan : Plan) (state : State σ),
    run (.speaking shell inherited table) plan state
      = .ofFlat state (plan.run (state.conditions shell inherited table)
          state.bench.records.length state.memory)
  | .command name text, state => by
    rw [run, Plan.run]
    exact Conditions.runCommand_speaking name text state
  | .serial name children, state => by
    rw [run, Plan.run]
    exact runFrom_speaking name 0 children state

/-- The same for the children of a series from some position on. -/
theorem runFrom_speaking (sequence : String) : ∀ (index : Nat) (children : List Plan)
    (state : State σ),
    runFrom (.speaking shell inherited table) sequence index children state
      = .ofFlat state (Plan.runFrom (state.conditions shell inherited table) sequence index children
          state.bench.records.length state.memory)
  | index, [], state => by
    rw [runFrom, Plan.runFrom, Progress.ofFlat, State.past, State.note]
    dsimp only
    rw [show Trace.records [] = [] from rfl, List.append_nil]
    rfl
  | index, child :: rest, state => by
    have hchild := run_speaking child state
    rw [runFrom, Plan.runFrom, hchild]
    generalize child.run (state.conditions shell inherited table)
      state.bench.records.length state.memory = first
    dsimp only [Progress.ofFlat]
    rcases hending : first.ending with (failure | text) | _
    · dsimp only [lift, Except.mapError]
      rw [State.past_skipped]
    · rfl
    · have hrest := runFrom_speaking sequence (index + 1) rest (state.past first)
      rw [State.conditions_past, State.length_past] at hrest
      dsimp only [lift, Except.mapError]
      rw [hrest, Progress.ofFlat, State.past_append]
      rfl

end

/-! ## Reports and requests -/

/-- What came of a reported run that began here, as it comes of a live one. -/
def Execution.ofFlat (state : State σ) (execution : Taskbook.Execution σ) : Execution σ :=
  ⟨execution.result.mapError fun text => .fault (.crash text), execution.trace,
    { state.note execution.trace with memory := execution.memory }⟩

/-- The policy, with the hooks of the table that it has the number of. -/
def Policy.flat (policy : Policy) (table : Nat → Taskbook.Hooks) : Taskbook.Policy :=
  ⟨policy.dryRun, policy.shell, policy.overrides, table policy.hooks⟩

/-- A run with hooks that only speak is reported in the same way. -/
theorem execute_speaking (plan : Plan) (state : State σ) :
    execute (.speaking shell inherited table) plan state
      = .ofFlat state (plan.execute (state.conditions shell inherited table)
          state.bench.records.length state.memory) := by
  rw [execute, Plan.execute, run_speaking]
  generalize plan.run (state.conditions shell inherited table) state.bench.records.length
    state.memory = progress
  rcases progress with ⟨(failure | text) | _, trace, memory⟩
  · rw [Execution.ofFlat, State.note, Trace.records_append]
    dsimp only [Progress.ofFlat, lift, Except.mapError]
    rw [State.past, State.note, show Trace.records [.logged _] = [] from rfl, List.append_nil]
  · rfl
  · rfl

/-- And a request, which in both ways is made at a new bench, is refused or run alike. -/
theorem request_speaking (book : Book) (paths : List Path) (place : Nat) (directory : Dir)
    (state : State σ) :
    request book (.speaking shell inherited table) paths place directory state
      = match book.execute
          (((state.policies place).flat table).conditions shell inherited directory)
          paths state.memory with
        | .error error => ⟨.error (.lookup error), [], state⟩
        | .ok execution => .ofFlat (state.enter place directory) execution := by
  rw [request, Book.execute]
  cases book.plans paths with
  | error error => rfl
  | ok plans =>
    dsimp only
    rw [execute_speaking]
    rfl

end

end Taskbook.Live
