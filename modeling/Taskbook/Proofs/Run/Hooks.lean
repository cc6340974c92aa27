/-
Two hooks around every command.

A command's turn is one of two things. Either the hook before it objects, and then that
notice is all there is of the turn: no call, no record, and the hook after it is never
asked. Or the command is attempted, and then the hook after it is told whatever became of
it, exactly once, and if it objects its objection is how the turn ends. `Turn.Bracketed`
says what each of these turns amounts to, for every way in which a call can end.

A run is its turns (`Plan.run_takes`), so the notices of a run are those of its turns, one
after the other. The notices carry a number of records. That it is the true one, the number
of records that there are when the hook is told, is `Plan.run_countsFrom`.
-/
import Taskbook.Proofs.Run.FailFast
import Taskbook.Proofs.Run.Turns

set_option autoImplicit false

namespace Taskbook

namespace Turn

variable {σ : Type} {conditions : Conditions σ} {turn : Turn σ}

/-! ## The two kinds of turns -/

/-- The notice to the hook before the command. -/
def asked (turn : Turn σ) : Event :=
  .before turn.leaf.name turn.leaf.text turn.recorded

/-- What the command by itself leads to, without its hooks. -/
def alone (conditions : Conditions σ) (turn : Turn σ) : Progress σ :=
  conditions.attempt turn.leaf.name turn.leaf.text turn.memory

/-- The notice to the hook after the command, when so many records are new and the command
by itself ended like this. -/
def told (turn : Turn σ) (count : Nat) (own : Ending) : Event :=
  .after turn.leaf.name turn.leaf.text (turn.recorded + count) (failureOf own)

/-- The hook before the command objects: nothing else happens. -/
theorem progress_of_refused {fault : Fault}
    (h : (turn.asked.tell conditions.hooks.before).1 = .error fault) :
    turn.progress conditions
      = ⟨.error fault, (turn.asked.tell conditions.hooks.before).2, turn.memory⟩ := by
  rw [asked] at h ⊢
  rw [progress, Conditions.runCommand]
  simp only [h]

/-- The hook before the command lets it pass: it is attempted, and the hook after it is told
and has the last word. -/
theorem progress_of_allowed (h : (turn.asked.tell conditions.hooks.before).1 = .ok ()) :
    let own := turn.alone conditions
    let notice := turn.told own.trace.records.length own.ending
    turn.progress conditions
      = ⟨(notice.tell conditions.hooks.after).1.bind fun _ => own.ending,
          (turn.asked.tell conditions.hooks.before).2 ++ own.trace
            ++ (notice.tell conditions.hooks.after).2,
          own.memory⟩ := by
  rw [asked] at h ⊢
  dsimp only
  rw [progress, Conditions.runCommand]
  simp only [h]
  rw [told, alone]
  cases (Event.tell _ conditions.hooks.after).1 <;> rfl

end Turn

/-! ## The command by itself -/

namespace Conditions

variable {σ : Type} (conditions : Conditions σ) (leaf : Leaf)

/-- The record of a command. -/
def record (code : Option Int) : Record :=
  ⟨leaf.name, leaf.text, conditions.site.directory, code⟩

variable {conditions leaf} {memory : σ}

/-- On a dry run, a command is only noted. -/
theorem attempt_of_dryRun (hdry : conditions.site.dryRun = true) :
    (conditions.attempt leaf.name leaf.text memory).ending = .ok () ∧
      (conditions.attempt leaf.name leaf.text memory).trace.effects
        = [.recorded (conditions.record leaf none)] := by
  rw [attempt]
  dsimp only
  rw [if_pos hdry]
  exact ⟨rfl, rfl⟩

/-- What happens in an attempt, apart from the lines in the log. -/
theorem effects_happenings (attempt : Attempt) :
    (conditions.happenings attempt).effects
      = .called (conditions.request attempt.leaf) attempt.outcome
        :: (attempt.record? conditions.site.directory).toList.map .recorded := by
  obtain ⟨leaf, outcome⟩ := attempt
  unfold happenings
  split <;> cases outcome <;> rfl

/-- Outside a dry run, a command is called, and how it ends is up to the answer. -/
theorem attempt_of_real (hreal : conditions.site.dryRun = false) {outcome : Outcome}
    (hanswer : (conditions.answer leaf memory).1 = outcome) :
    (conditions.attempt leaf.name leaf.text memory).ending = Attempt.ending ⟨leaf, outcome⟩ ∧
      (conditions.attempt leaf.name leaf.text memory).trace.effects
        = .called (conditions.request leaf) outcome
          :: (Attempt.record? conditions.site.directory ⟨leaf, outcome⟩).toList.map .recorded := by
  have hboth : conditions.answer leaf memory = (outcome, (conditions.answer leaf memory).2) :=
    Prod.ext hanswer rfl
  rw [attempt_eq hreal hboth]
  exact ⟨rfl, effects_happenings _⟩

end Conditions

/-! ## What a turn records and calls -/

/-- A hook is told nothing else than the notice. -/
theorem Event.records_tell (event : Event) (hook : Option Hook) :
    (event.tell hook).2.records = [] := by
  cases hook <;> rfl

theorem Event.answered_tell (event : Event) (hook : Option Hook) :
    (event.tell hook).2.answered = [] := by
  cases hook <;> rfl

namespace Turn

variable {σ : Type} {conditions : Conditions σ} {turn : Turn σ}

/-- In a turn that is let pass, it is the command by itself that is recorded and called. -/
theorem records_of_allowed (h : (turn.asked.tell conditions.hooks.before).1 = .ok ()) :
    (turn.progress conditions).trace.records = (turn.alone conditions).trace.records := by
  rw [progress_of_allowed h, Trace.records_append, Trace.records_append, Event.records_tell,
    Event.records_tell, List.nil_append, List.append_nil]

theorem answered_of_allowed (h : (turn.asked.tell conditions.hooks.before).1 = .ok ()) :
    (turn.progress conditions).trace.answered = (turn.alone conditions).trace.answered := by
  rw [progress_of_allowed h, Trace.answered_append, Trace.answered_append, Event.answered_tell,
    Event.answered_tell, List.nil_append, List.append_nil]

theorem answered_of_dryRun (hdry : conditions.site.dryRun = true) :
    (turn.progress conditions).trace.answered = [] := by
  cases hasked : (turn.asked.tell conditions.hooks.before).1 with
  | error fault => rw [progress_of_refused hasked, Event.answered_tell]
  | ok _ =>
    rw [answered_of_allowed hasked, ← Trace.answered_effects, alone,
      (Conditions.attempt_of_dryRun hdry).2]
    rfl

theorem answered_of_real (hreal : conditions.site.dryRun = false) :
    (turn.alone conditions).trace.answered
      = [(conditions.request turn.leaf, (conditions.answer turn.leaf turn.memory).1)] := by
  rw [← Trace.answered_effects, alone, (Conditions.attempt_of_real hreal rfl).2]
  cases Attempt.record? conditions.site.directory _ <;> rfl

end Turn

/-! ## The numbers in the notices -/

/-- The number of records that a notice tells. -/
def Event.recorded : Event → Nat
  | before _ _ recorded => recorded
  | after _ _ recorded _ => recorded

/-- Every notice tells how many records there are by then, if the count starts here. -/
def Trace.CountsFrom : Nat → Trace → Prop
  | _, [] => True
  | count, .notified event :: rest => event.recorded = count ∧ Trace.CountsFrom count rest
  | count, .recorded _ :: rest => Trace.CountsFrom (count + 1) rest
  | count, .called _ _ :: rest => Trace.CountsFrom count rest
  | count, .logged _ :: rest => Trace.CountsFrom count rest

namespace Trace

theorem countsFrom_append {count : Nat} {a b : Trace} :
    CountsFrom count (a ++ b) ↔ CountsFrom count a ∧ CountsFrom (count + a.records.length) b := by
  induction a generalizing count with
  | nil => simp [CountsFrom, records]
  | cons happening rest ih =>
    cases happening with
    | recorded record =>
      have hlength : records (.recorded record :: rest) = record :: records rest := rfl
      rw [List.cons_append, CountsFrom, CountsFrom, ih, hlength, List.length_cons,
        Nat.add_right_comm, Nat.add_assoc]
    | notified event =>
      rw [List.cons_append, CountsFrom, CountsFrom, ih, and_assoc]
      rfl
    | _ =>
      rw [List.cons_append, CountsFrom, CountsFrom, ih]
      rfl

/-- The lines in the log do not count. -/
theorem countsFrom_effects {count : Nat} {trace : Trace} :
    CountsFrom count trace.effects ↔ CountsFrom count trace := by
  induction trace generalizing count with
  | nil => exact Iff.rfl
  | cons happening rest ih =>
    cases happening with
    | notified event => exact and_congr_right fun _ => ih
    | _ => exact ih

/-- Without notices there is nothing to tell. -/
theorem countsFrom_of_events_eq_nil {count : Nat} {trace : Trace} (h : trace.events = []) :
    CountsFrom count trace := by
  induction trace generalizing count with
  | nil => trivial
  | cons happening rest ih =>
    cases happening with
    | notified event => cases h
    | _ => exact ih h

end Trace

section

variable {σ : Type} (conditions : Conditions σ)

theorem Event.countsFrom_tell (event : Event) (hook : Option Hook) :
    (event.tell hook).2.CountsFrom event.recorded := by
  cases hook with
  | none => trivial
  | some hook => exact ⟨rfl, trivial⟩

/-- Only hooks are told anything. -/
theorem Conditions.events_attempt (leaf : Leaf) (memory : σ) :
    (conditions.attempt leaf.name leaf.text memory).trace.events = [] := by
  rw [← Trace.events_effects]
  cases hdry : conditions.site.dryRun with
  | true =>
    rw [(Conditions.attempt_of_dryRun hdry).2]
    rfl
  | false =>
    rw [(Conditions.attempt_of_real hdry rfl).2]
    cases Attempt.record? conditions.site.directory _ <;> rfl

/-- The notices of a turn tell the true numbers of records. -/
theorem Turn.countsFrom (turn : Turn σ) :
    (turn.progress conditions).trace.CountsFrom turn.recorded := by
  have hasked := turn.asked.countsFrom_tell conditions.hooks.before
  cases hverdict : (turn.asked.tell conditions.hooks.before).1 with
  | error fault =>
    rw [progress_of_refused hverdict]
    exact hasked
  | ok _ =>
    rw [progress_of_allowed hverdict]
    refine Trace.countsFrom_append.2 ⟨Trace.countsFrom_append.2 ⟨hasked, ?_⟩, ?_⟩
    · exact Trace.countsFrom_of_events_eq_nil (conditions.events_attempt turn.leaf turn.memory)
    · rw [Trace.records_append, Event.records_tell, List.nil_append]
      exact Event.countsFrom_tell (turn.told _ _) conditions.hooks.after

/-- One turn's notices count on from where those before it stopped. -/
theorem Conditions.turns_countsFrom (leaves : List Leaf) (recorded : Nat) (memory : σ) :
    (conditions.effectsOf (conditions.turns leaves recorded memory)).CountsFrom recorded := by
  induction leaves generalizing recorded memory with
  | nil => trivial
  | cons leaf rest ih =>
    have hfirst : (Turn.progress conditions ⟨leaf, recorded, memory⟩).trace.effects.CountsFrom
        recorded :=
      Trace.countsFrom_effects.2 (Turn.countsFrom conditions ⟨leaf, recorded, memory⟩)
    rcases Turn.isDone_or_error conditions ⟨leaf, recorded, memory⟩ with hdone | ⟨fault, hfault⟩
    · rw [turns_cons_of_done rest hdone, effectsOf_cons, Trace.countsFrom_append,
        Trace.records_effects]
      exact ⟨hfirst, ih _ _⟩
    · rw [turns_cons_of_error rest hfault, effectsOf_singleton]
      exact hfirst

/-- **The notices tell the truth** about the number of records, throughout a run. -/
theorem Plan.run_countsFrom (plan : Plan) (recorded : Nat) (memory : σ) :
    (plan.run conditions recorded memory).trace.CountsFrom recorded := by
  rw [← Trace.countsFrom_effects, (Plan.run_takes conditions plan recorded memory).effects]
  exact conditions.turns_countsFrom plan.leaves recorded memory

end

/-! ## Turns between two hooks -/

namespace Turn

variable {σ : Type}

/-- Both hooks are told of the turn. Between the notices this happens, and the hook after the
command is told of so many records more and of the failure in this ending, which is the
turn's unless the hook objects. -/
structure Passes (turn : Turn σ) (conditions : Conditions σ) (after : Hook) (between : Trace)
    (count : Nat) (own : Ending) : Prop where
  effects : (turn.progress conditions).trace.effects
    = .notified turn.asked :: between ++ [.notified (turn.told count own)]
  ending : (turn.progress conditions).ending = (after (turn.told count own)).bind fun _ => own

/-- What a turn between two hooks amounts to: one notice if the first objects, and otherwise
two, with what the command did between them. -/
structure Bracketed (turn : Turn σ) (conditions : Conditions σ) (before after : Hook) : Prop where
  /-- The hook before the command objects: no call, no record, no other notice. -/
  refused : ∀ fault, before turn.asked = .error fault →
    (turn.progress conditions).trace.effects = [.notified turn.asked] ∧
      (turn.progress conditions).ending = .error fault
  /-- On a dry run, the hook after the command is told of a record and of no failure. -/
  rehearsed : before turn.asked = .ok () → conditions.site.dryRun = true →
    turn.Passes conditions after [.recorded (conditions.record turn.leaf none)] 1 (.ok ())
  /-- The same after a command that returned zero. -/
  succeeded : before turn.asked = .ok () → conditions.site.dryRun = false →
    (conditions.answer turn.leaf turn.memory).1 = .exited 0 →
    turn.Passes conditions after
      [.called (conditions.request turn.leaf) (.exited 0),
        .recorded (conditions.record turn.leaf (some 0))] 1 (.ok ())
  /-- Of a command that returned something else it is told that failure. -/
  exited : before turn.asked = .ok () → conditions.site.dryRun = false → ∀ code ≠ 0,
    (conditions.answer turn.leaf turn.memory).1 = .exited code →
    turn.Passes conditions after
      [.called (conditions.request turn.leaf) (.exited code),
        .recorded (conditions.record turn.leaf (some code))] 1
      (.error (.failure (.exited turn.leaf.name turn.leaf.text code)))
  /-- The same for a command that could not be started. -/
  notStarted : before turn.asked = .ok () → conditions.site.dryRun = false → ∀ reason,
    (conditions.answer turn.leaf turn.memory).1 = .notStarted reason →
    turn.Passes conditions after
      [.called (conditions.request turn.leaf) (.notStarted reason),
        .recorded (conditions.record turn.leaf none)] 1
      (.error (.failure (.notStarted turn.leaf.name turn.leaf.text reason)))
  /-- A call that broke leaves no record, and the hook is told all the same. -/
  broken : before turn.asked = .ok () → conditions.site.dryRun = false → ∀ text,
    (conditions.answer turn.leaf turn.memory).1 = .broken text →
    turn.Passes conditions after [.called (conditions.request turn.leaf) (.broken text)] 0
      (.error (.crash text))

variable {conditions : Conditions σ} {turn : Turn σ} {before after : Hook}

/-- A command that is let pass comes to stand between the two notices. -/
theorem passes_of_allowed (hhooks : conditions.hooks = ⟨some before, some after⟩)
    (hallowed : before turn.asked = .ok ()) {between : Trace} {own : Ending}
    (hown : (turn.alone conditions).ending = own ∧
      (turn.alone conditions).trace.effects = between) :
    turn.Passes conditions after between between.records.length own := by
  obtain ⟨rfl, rfl⟩ := hown
  have hasked : (turn.asked.tell conditions.hooks.before).1 = .ok () := by
    rw [hhooks]
    exact hallowed
  have hprogress := progress_of_allowed hasked
  rw [hhooks] at hprogress
  rw [Trace.records_effects]
  constructor
  · rw [hprogress, Trace.effects_append, Trace.effects_append]
    rfl
  · rw [hprogress]
    rfl

/-- Every turn between two hooks is bracketed by them. -/
theorem bracketed (hhooks : conditions.hooks = ⟨some before, some after⟩) (turn : Turn σ) :
    turn.Bracketed conditions before after where
  refused fault hrefused := by
    have hasked : (turn.asked.tell conditions.hooks.before).1 = .error fault := by
      rw [hhooks]
      exact hrefused
    rw [progress_of_refused hasked, hhooks]
    exact ⟨rfl, rfl⟩
  rehearsed hallowed hdry :=
    passes_of_allowed hhooks hallowed (Conditions.attempt_of_dryRun hdry)
  succeeded hallowed hreal hanswer :=
    passes_of_allowed hhooks hallowed (Conditions.attempt_of_real hreal hanswer)
  exited hallowed hreal code hne hanswer := by
    have hown := Conditions.attempt_of_real hreal hanswer
    rw [Attempt.ending_of_exited hne] at hown
    exact passes_of_allowed hhooks hallowed hown
  notStarted hallowed hreal reason hanswer :=
    passes_of_allowed hhooks hallowed (Conditions.attempt_of_real hreal hanswer)
  broken hallowed hreal text hanswer :=
    passes_of_allowed hhooks hallowed (Conditions.attempt_of_real hreal hanswer)

end Turn

/-! ## The statement -/

/-- **Hooks bracket every command that is attempted.** At a bench with both hooks, on a dry run
or not, a run is the turns of the first commands of the plan, from left to right: of all of
them, or of those up to the first turn that does not end well, and nothing comes after that
turn. Every turn is bracketed by the hooks, and the numbers they are told are those of the
records there are. A report adds nothing to this. -/
theorem Bench.hooks_bracket_commands {σ : Type} (bench : Bench) (before after : Hook)
    (shell : Shell σ) (inherited : Environment) (plan : Plan) (memory : σ) :
    let hooked : Bench := { bench with hooks := ⟨some before, some after⟩ }
    let conditions := hooked.conditions shell inherited
    let turns := conditions.turns plan.leaves bench.records.length memory
    let progress := plan.run conditions bench.records.length memory
    turns.map Turn.leaf <+: plan.leaves ∧
    (∀ turn ∈ turns.dropLast, turn.IsDone conditions) ∧
    ((∀ turn ∈ turns, turn.IsDone conditions) → turns.map Turn.leaf = plan.leaves) ∧
    (progress.ending = .ok () ↔ ∀ turn ∈ turns, turn.IsDone conditions) ∧
    progress.trace.effects
      = turns.flatMap (fun turn => (turn.progress conditions).trace.effects) ∧
    progress.trace.events
      = turns.flatMap (fun turn => (turn.progress conditions).trace.events) ∧
    (∀ turn ∈ turns, turn.Bracketed conditions before after) ∧
    progress.trace.CountsFrom bench.records.length ∧
    (plan.execute conditions bench.records.length memory).trace.effects
      = progress.trace.effects := by
  intro hooked conditions turns progress
  have htakes : progress.Takes conditions turns memory plan.LeadsTo :=
    Plan.run_takes conditions plan bench.records.length memory
  have hevents : progress.trace.events = (conditions.effectsOf turns).events := by
    rw [← htakes.effects, Trace.events_effects]
  exact ⟨Conditions.turns_prefix _ _ _, Conditions.turns_dropLast _ _ _,
    Conditions.turns_complete, htakes.ending_eq_ok_iff, htakes.effects,
    hevents.trans (conditions.events_effectsOf turns),
    fun turn _ => Turn.bracketed rfl turn,
    Plan.run_countsFrom conditions plan bench.records.length memory,
    Plan.execute_effects conditions plan bench.records.length memory⟩

/-- The second of three commands returns seven. The hook after it hears of the failure and
objects, and the third command is not even asked for. -/
theorem Bench.hook_hears_of_failed_command :
    let before : Hook := fun _ => .ok ()
    let after : Hook := fun event =>
      if event.recorded = 2 then .error (.crash "enough") else .ok ()
    let shell : Shell Nat := fun _ count => (.exited (if count = 1 then 7 else 0), count + 1)
    let bench : Bench := { site := { directory := Dir.ofText "/srv" } }
    let conditions := ({ bench with hooks := ⟨some before, some after⟩ } : Bench).conditions shell {}
    let plan : Plan := .serial "all" [.command "a" "make a",
      .serial "inner" [.command "b" "make b"], .command "c" "make c"]
    let second : Turn Nat := ⟨⟨"b", "make b"⟩, 1, 1⟩
    second ∈ conditions.turns plan.leaves 0 0 ∧
    (second.progress conditions).ending = .error (.crash "enough") ∧
    (plan.run conditions 0 0).trace.events
      = [.before "a" "make a" 0, .after "a" "make a" 1 none, .before "b" "make b" 1,
          .after "b" "make b" 2 (some (.exited "b" "make b" 7))] := by
  intro before after shell bench conditions plan second
  obtain ⟨-, -, -, -, -, hevents, hbracketed, -⟩ :=
    bench.hooks_bracket_commands before after shell {} plan 0
  have hsecond : second ∈ conditions.turns plan.leaves 0 0 :=
    List.mem_cons_of_mem _ List.mem_cons_self
  refine ⟨hsecond, ?_, hevents⟩
  exact ((hbracketed second hsecond).exited rfl rfl 7 (by decide) rfl).ending

end Taskbook
