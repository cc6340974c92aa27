/-
A dry run says beforehand what a run will do.

The same plan is run twice at the same place, once on a dry run and once for real. The real
run can stop where the dry run goes on, at a command that fails, and nowhere else: a hook
that goes by the name of the command objects in both runs or in neither. So the commands
that the real run records, without their codes, are the first of those that the dry run
records, and all of them if every call returns zero.

Turn by turn: `Turn.commands_prefix` compares the records of one command in the two runs,
`Turn.isDone_of_real` carries the comparison on to the next, and `Turn.same_of_answers`
says when the two stop at the same place. What the shell remembers and what the hooks
count differs between the two runs from some point on, and no statement here needs it.
-/
import Taskbook.Proofs.Run.Hooks

set_option autoImplicit false

namespace Taskbook

/-! ## Commands without codes -/

/-- What a record says besides the code: the command and the directory. -/
def Record.command (record : Record) : Leaf × Dir :=
  (⟨record.name, record.text⟩, record.directory)

/-- The commands that are recorded, without their codes. -/
def Trace.commands (trace : Trace) : List (Leaf × Dir) :=
  trace.records.map Record.command

theorem Trace.commands_append (a b : Trace) : commands (a ++ b) = commands a ++ commands b := by
  rw [commands, records_append, List.map_append]
  rfl

theorem Trace.commands_effects (trace : Trace) : trace.effects.commands = trace.commands := by
  rw [commands, records_effects]
  rfl

/-! ## Hooks that go by the name -/

/-- Whether a hook objects is decided by the name of the command alone. What it objects with
is not. A missing hook objects to nothing. -/
structure Hooks.ByName (hooks : Hooks) : Prop where
  before : ∀ (name text other : String) (recorded counted : Nat),
    ((Event.before name text recorded).tell hooks.before).1 = .ok () →
      ((Event.before name other counted).tell hooks.before).1 = .ok ()
  after : ∀ (name text other : String) (recorded counted : Nat) (failure own : Option Failure),
    ((Event.after name text recorded failure).tell hooks.after).1 = .ok () →
      ((Event.after name other counted own).tell hooks.after).1 = .ok ()

/-! ## One turn -/

namespace Turn

variable {σ : Type} {conditions : Conditions σ} {turn : Turn σ}

/-- Nothing is recorded if the hook before the command objects. -/
theorem commands_of_refused {fault : Fault}
    (h : (turn.asked.tell conditions.hooks.before).1 = .error fault) :
    (turn.progress conditions).trace.commands = [] := by
  rw [progress_of_refused h, Trace.commands, Event.records_tell]
  rfl

/-- A turn ends well if neither hook objects and the command by itself does. -/
theorem isDone_iff :
    turn.IsDone conditions ↔ (turn.asked.tell conditions.hooks.before).1 = .ok () ∧
      (turn.alone conditions).ending = .ok () ∧
      ((turn.told (turn.alone conditions).trace.records.length
        (turn.alone conditions).ending).tell conditions.hooks.after).1 = .ok () := by
  cases hasked : (turn.asked.tell conditions.hooks.before).1 with
  | error fault =>
    rw [IsDone, progress_of_refused hasked]
    constructor
    · intro h
      cases h
    · intro h
      cases h.1
  | ok _ =>
    rw [IsDone, progress_of_allowed hasked]
    dsimp only
    cases ((turn.told _ _).tell conditions.hooks.after).1 with
    | error fault =>
      constructor
      · intro h
        cases h
      · intro h
        cases h.2.2
    | ok _ =>
      constructor
      · intro h
        exact ⟨rfl, h, rfl⟩
      · intro h
        exact h.2.1

/-! ### On a dry run -/

theorem ending_of_dryRun (hdry : conditions.site.dryRun = true) :
    (turn.alone conditions).ending = .ok () :=
  (Conditions.attempt_of_dryRun hdry).1

theorem records_of_dryRun (hdry : conditions.site.dryRun = true) :
    (turn.alone conditions).trace.records = [conditions.record turn.leaf none] := by
  rw [← Trace.records_effects, alone, (Conditions.attempt_of_dryRun hdry).2]
  rfl

theorem code_of_dryRun (hdry : conditions.site.dryRun = true) :
    ∀ record ∈ (turn.progress conditions).trace.records, record.code = none := by
  cases hasked : (turn.asked.tell conditions.hooks.before).1 with
  | error fault =>
    rw [progress_of_refused hasked, Event.records_tell]
    exact nofun
  | ok _ =>
    rw [records_of_allowed hasked, records_of_dryRun hdry]
    exact fun record hrecord => List.mem_singleton.1 hrecord ▸ rfl

/-! ### For real -/

theorem ending_of_real (hreal : conditions.site.dryRun = false) :
    (turn.alone conditions).ending = .ok () ↔
      (conditions.answer turn.leaf turn.memory).1 = .exited 0 := by
  rw [alone, (Conditions.attempt_of_real hreal rfl).1, Attempt.ending_eq_ok_iff]

/-- The command itself is recorded, whatever its code, unless the call broke. -/
theorem commands_of_real (hreal : conditions.site.dryRun = false) :
    (turn.alone conditions).trace.commands
      = match (conditions.answer turn.leaf turn.memory).1 with
        | .broken _ => []
        | _ => [(turn.leaf, conditions.site.directory)] := by
  rw [← Trace.commands_effects, alone]
  cases hanswer : (conditions.answer turn.leaf turn.memory).1 <;>
    rw [(Conditions.attempt_of_real hreal hanswer).2] <;> rfl

end Turn

/-! ## The same turn twice -/

/-- The same place and the same hooks, once on a dry run and once for real, and the hooks go by
the name. -/
structure Conditions.Rehearses {σ : Type} (dry real : Conditions σ) : Prop where
  isDry : dry.site.dryRun = true
  isReal : real.site.dryRun = false
  directory : dry.site.directory = real.site.directory
  hooks : dry.hooks = real.hooks
  byName : real.hooks.ByName

namespace Turn

variable {σ : Type} {dry real : Conditions σ} {first second : Turn σ}

/-- The hook before the command lets it pass in both runs or in neither. -/
theorem asked_iff (h : dry.Rehearses real) (hleaf : first.leaf = second.leaf) :
    (first.asked.tell dry.hooks.before).1 = .ok () ↔
      (second.asked.tell real.hooks.before).1 = .ok () := by
  rw [h.hooks, asked, asked, hleaf]
  exact ⟨h.byName.before _ _ _ _ _, h.byName.before _ _ _ _ _⟩

/-- The hook after the command objects in both runs or in neither. -/
theorem told_iff (h : dry.Rehearses real) (hleaf : first.leaf = second.leaf) {count new : Nat}
    {own other : Ending} :
    ((first.told count own).tell dry.hooks.after).1 = .ok () ↔
      ((second.told new other).tell real.hooks.after).1 = .ok () := by
  rw [h.hooks, told, told, hleaf]
  exact ⟨h.byName.after _ _ _ _ _ _ _, h.byName.after _ _ _ _ _ _ _⟩

/-- What a turn records on the dry run. -/
theorem commands_of_rehearsal (h : dry.Rehearses real) (hleaf : first.leaf = second.leaf)
    (hasked : (second.asked.tell real.hooks.before).1 = .ok ()) :
    (first.progress dry).trace.commands = [(second.leaf, real.site.directory)] := by
  rw [Trace.commands, records_of_allowed ((asked_iff h hleaf).2 hasked),
    records_of_dryRun h.isDry, Conditions.record, h.directory, hleaf]
  rfl

/-- A turn that is refused for real is refused on the dry run. -/
theorem commands_eq_nil (h : dry.Rehearses real) (hleaf : first.leaf = second.leaf)
    {fault : Fault} (hasked : (second.asked.tell real.hooks.before).1 = .error fault) :
    (first.progress dry).trace.commands = [] ∧ ¬first.IsDone dry := by
  cases hdry : (first.asked.tell dry.hooks.before).1 with
  | error why =>
    refine ⟨commands_of_refused hdry, fun hdone => ?_⟩
    rw [(isDone_iff.1 hdone).1] at hdry
    cases hdry
  | ok _ =>
    rw [(asked_iff h hleaf).1 hdry] at hasked
    cases hasked

/-- A command that is recorded for real is recorded on the dry run. -/
theorem commands_prefix (h : dry.Rehearses real) (hleaf : first.leaf = second.leaf) :
    (second.progress real).trace.commands <+: (first.progress dry).trace.commands := by
  cases hasked : (second.asked.tell real.hooks.before).1 with
  | error fault =>
    rw [commands_of_refused hasked]
    exact List.nil_prefix
  | ok _ =>
    rw [commands_of_rehearsal h hleaf hasked, Trace.commands, records_of_allowed hasked,
      ← Trace.commands, commands_of_real h.isReal]
    cases (real.answer second.leaf second.memory).1 with
    | broken text => exact List.nil_prefix
    | _ => exact List.prefix_refl _

/-- If no call of the real turn fails, the dry run records the same command, and ends well only
if the real turn does. -/
theorem same_of_answers (h : dry.Rehearses real) (hleaf : first.leaf = second.leaf)
    (hzero : ∀ answer ∈ (second.progress real).trace.answered, answer.2 = .exited 0) :
    (second.progress real).trace.commands = (first.progress dry).trace.commands ∧
      (first.IsDone dry ↔ second.IsDone real) := by
  cases hasked : (second.asked.tell real.hooks.before).1 with
  | error fault =>
    have hnone := commands_eq_nil h hleaf hasked
    rw [commands_of_refused hasked, hnone.1]
    refine ⟨rfl, fun hdone => absurd hdone hnone.2, fun hdone => ?_⟩
    rw [(isDone_iff.1 hdone).1] at hasked
    cases hasked
  | ok _ =>
    rw [answered_of_allowed hasked, answered_of_real h.isReal] at hzero
    have hanswer := hzero _ (List.mem_singleton_self _)
    dsimp only at hanswer
    constructor
    · rw [commands_of_rehearsal h hleaf hasked, Trace.commands, records_of_allowed hasked,
        ← Trace.commands, commands_of_real h.isReal, hanswer]
    · rw [isDone_iff, isDone_iff, ending_of_real h.isReal]
      exact and_congr (asked_iff h hleaf)
        (and_congr (iff_of_true (ending_of_dryRun h.isDry) hanswer) (told_iff h hleaf))

/-- A turn that ends well for real ends well on the dry run, and records the same. -/
theorem isDone_of_real (h : dry.Rehearses real) (hleaf : first.leaf = second.leaf)
    (hdone : second.IsDone real) :
    first.IsDone dry ∧
      (second.progress real).trace.commands = (first.progress dry).trace.commands := by
  have hasked := (isDone_iff.1 hdone).1
  have hanswer := (ending_of_real h.isReal).1 (isDone_iff.1 hdone).2.1
  have hsame := same_of_answers h hleaf fun answer hmem => by
    rw [answered_of_allowed hasked, answered_of_real h.isReal] at hmem
    rw [List.mem_singleton.1 hmem, hanswer]
  exact ⟨hsame.2.2 hdone, hsame.1⟩

end Turn

/-! ## All turns -/

section

variable {σ : Type} {dry real : Conditions σ}

/-- What the real turns record are the first of the commands that the dry ones record, and all
of them if every call returned zero. -/
theorem Conditions.turns_predict (h : dry.Rehearses real) (leaves : List Leaf)
    (counted recorded : Nat) (start memory : σ) :
    let rehearsal := dry.effectsOf (dry.turns leaves counted start)
    let actual := real.effectsOf (real.turns leaves recorded memory)
    actual.commands <+: rehearsal.commands ∧
      ((∀ answer ∈ actual.answered, answer.2 = .exited 0) →
        actual.commands = rehearsal.commands) := by
  induction leaves generalizing counted recorded start memory with
  | nil => exact ⟨List.prefix_refl _, fun _ => rfl⟩
  | cons leaf rest ih =>
    have hleaf : (⟨leaf, counted, start⟩ : Turn σ).leaf
        = (⟨leaf, recorded, memory⟩ : Turn σ).leaf := rfl
    rcases Turn.isDone_or_error real ⟨leaf, recorded, memory⟩ with hdone | ⟨fault, hfault⟩
    · obtain ⟨hdry, hequal⟩ := Turn.isDone_of_real h hleaf hdone
      have hrest := ih (counted + (Turn.progress dry ⟨leaf, counted, start⟩).trace.records.length)
        (recorded + (Turn.progress real ⟨leaf, recorded, memory⟩).trace.records.length)
        (Turn.progress dry ⟨leaf, counted, start⟩).memory
        (Turn.progress real ⟨leaf, recorded, memory⟩).memory
      rw [turns_cons_of_done rest hdry, turns_cons_of_done rest hdone, effectsOf_cons,
        effectsOf_cons]
      dsimp only at hrest ⊢
      rw [Trace.commands_append, Trace.commands_append, Trace.commands_effects,
        Trace.commands_effects, hequal, List.prefix_append_right_inj, Trace.answered_append]
      refine ⟨hrest.1, fun hzero => ?_⟩
      rw [hrest.2 fun answer hanswer => hzero answer (List.mem_append_right _ hanswer)]
    · -- the real run stops here, and the dry run may go on
      rw [turns_cons_of_error rest hfault]
      dsimp only
      rw [effectsOf_singleton, Trace.commands_effects, Trace.answered_effects]
      have hfirst := Turn.commands_prefix h hleaf
      have hsame := Turn.same_of_answers h hleaf
      rcases Turn.isDone_or_error dry ⟨leaf, counted, start⟩ with hdry | ⟨why, hwhy⟩
      · rw [turns_cons_of_done rest hdry, effectsOf_cons, Trace.commands_append,
          Trace.commands_effects]
        refine ⟨hfirst.trans (List.prefix_append _ _), fun hzero => ?_⟩
        exact absurd ((hsame hzero).2.1 hdry) (Turn.not_isDone_of_error hfault)
      · rw [turns_cons_of_error rest hwhy, effectsOf_singleton, Trace.commands_effects]
        exact ⟨hfirst, fun hzero => (hsame hzero).1⟩

/-- A dry run calls nothing, and its records have no codes. -/
theorem Conditions.turns_of_dryRun {conditions : Conditions σ}
    (hdry : conditions.site.dryRun = true) (leaves : List Leaf) (recorded : Nat) (memory : σ) :
    let effects := conditions.effectsOf (conditions.turns leaves recorded memory)
    effects.answered = [] ∧ ∀ record ∈ effects.records, record.code = none := by
  dsimp only
  rw [answered_effectsOf, records_effectsOf]
  refine ⟨?_, fun record hrecord => ?_⟩
  · rw [List.flatMap_eq_nil_iff]
    exact fun turn _ => Turn.answered_of_dryRun hdry
  · obtain ⟨turn, -, hmem⟩ := List.mem_flatMap.1 hrecord
    exact Turn.code_of_dryRun hdry record hmem

/-- Without hooks, every turn on a dry run ends well. -/
theorem Turn.isDone_of_dryRun {conditions : Conditions σ} (hdry : conditions.site.dryRun = true)
    (hhooks : conditions.hooks = {}) (turn : Turn σ) : turn.IsDone conditions := by
  rw [isDone_iff, hhooks]
  exact ⟨rfl, ending_of_dryRun hdry, rfl⟩

/-- Without hooks, a dry run records every command once. -/
theorem Conditions.records_of_dryRun {conditions : Conditions σ}
    (hdry : conditions.site.dryRun = true) (hhooks : conditions.hooks = {}) (leaves : List Leaf)
    (recorded : Nat) (memory : σ) :
    (conditions.effectsOf (conditions.turns leaves recorded memory)).records
      = leaves.map fun leaf => conditions.record leaf none := by
  induction leaves generalizing recorded memory with
  | nil => rfl
  | cons leaf rest ih =>
    have hdone := Turn.isDone_of_dryRun hdry hhooks ⟨leaf, recorded, memory⟩
    rw [turns_cons_of_done rest hdone, effectsOf_cons, Trace.records_append,
      Trace.records_effects, Turn.records_of_allowed (Turn.isDone_iff.1 hdone).1,
      Turn.records_of_dryRun hdry, ih]
    rfl

end

/-! ## The statement -/

/-- The same bench, on a dry run or not. -/
def Bench.rehearsing (bench : Bench) (dryRun : Bool) : Bench :=
  { bench with site := { bench.site with dryRun := dryRun } }

/-- **A dry run predicts the run.** At any bench whose hooks, if there are any, go by the name
of the command, the same plan is run on a dry run and for real. The dry run calls nothing,
and its records have no codes. The commands that the real run records are the first of
those that the dry run records, and all of them if every call returns zero. Without hooks,
the dry run succeeds and records every command of the plan once, from left to right. -/
theorem Bench.dry_run_predicts_run {σ : Type} (bench : Bench) (shell : Shell σ)
    (inherited : Environment) (plan : Plan) (memory : σ) (hnames : bench.hooks.ByName) :
    let dry := (bench.rehearsing true).conditions shell inherited
    let real := (bench.rehearsing false).conditions shell inherited
    let rehearsal := plan.run dry bench.records.length memory
    let actual := plan.run real bench.records.length memory
    let report := plan.execute dry bench.records.length memory
    rehearsal.trace.calls = [] ∧
    (∀ record ∈ rehearsal.trace.records, record.code = none) ∧
    actual.trace.commands <+: rehearsal.trace.commands ∧
    ((∀ answer ∈ actual.trace.answered, answer.2 = .exited 0) →
      actual.trace.commands = rehearsal.trace.commands) ∧
    report.trace.effects = rehearsal.trace.effects ∧
    (plan.execute real bench.records.length memory).trace.effects = actual.trace.effects ∧
    (bench.hooks = {} →
      rehearsal.trace.records
        = plan.leaves.map (fun leaf => ⟨leaf.name, leaf.text, bench.site.directory, none⟩) ∧
      rehearsal.ending = .ok () ∧
      ∃ result, report.result = .ok result ∧ result.success = true ∧ result.exitCode = 0) := by
  intro dry real rehearsal actual report
  have hboth : dry.Rehearses real := ⟨rfl, rfl, rfl, rfl, hnames⟩
  have hdry : rehearsal.Takes dry (dry.turns plan.leaves bench.records.length memory) memory
    plan.LeadsTo := Plan.run_takes dry plan _ _
  have hreal : actual.Takes real (real.turns plan.leaves bench.records.length memory) memory
    plan.LeadsTo := Plan.run_takes real plan _ _
  obtain ⟨hfirst, hequal⟩ := Conditions.turns_predict hboth plan.leaves bench.records.length
    bench.records.length memory memory
  obtain ⟨hanswered, hcodes⟩ := Conditions.turns_of_dryRun hboth.isDry plan.leaves
    bench.records.length memory
  rw [← hdry.effects] at hfirst hequal hanswered hcodes
  rw [← hreal.effects] at hfirst hequal
  rw [Trace.commands_effects, Trace.commands_effects] at hfirst hequal
  rw [Trace.answered_effects] at hequal hanswered
  rw [Trace.records_effects] at hcodes
  refine ⟨?_, hcodes, hfirst, hequal, Plan.execute_effects dry plan _ _,
    Plan.execute_effects real plan _ _, fun hhooks => ⟨?_, ?_, ?_⟩⟩
  · rw [Trace.calls, hanswered]
    rfl
  · rw [← Trace.records_effects, hdry.effects]
    exact Conditions.records_of_dryRun hboth.isDry hhooks _ _ _
  · exact hdry.ending_eq_ok_iff.2 fun turn _ => Turn.isDone_of_dryRun hboth.isDry hhooks turn
  · have hok : rehearsal.ending = .ok () :=
      hdry.ending_eq_ok_iff.2 fun turn _ => Turn.isDone_of_dryRun hboth.isDry hhooks turn
    refine ⟨{ success := true }, ?_, rfl, rfl⟩
    rw [Plan.execute_result dry plan, hok]
    rfl

/-- The second of four commands returns two, which a dry run cannot know. It goes on to the
third, where the hook objects in any run. -/
theorem Bench.dry_run_goes_past_failure :
    let shell : Shell Nat := fun _ count => (.exited (if count = 1 then 2 else 0), count + 1)
    let after : Hook := fun event =>
      if event.name = "c" then .error (.crash "never c") else .ok ()
    let bench : Bench :=
      { site := { directory := Dir.ofText "/srv" }, hooks := { after := some after } }
    let plan : Plan := .serial "all" [.command "a" "make a",
      .serial "inner" [.command "b" "make b", .command "c" "make c"], .command "d" "make d"]
    let rehearsal := plan.run ((bench.rehearsing true).conditions shell {}) 0 0
    let actual := plan.run ((bench.rehearsing false).conditions shell {}) 0 0
    bench.hooks.ByName ∧ rehearsal.trace.calls = [] ∧
    actual.trace.commands <+: rehearsal.trace.commands ∧
    actual.trace.commands.map Prod.fst = [⟨"a", "make a"⟩, ⟨"b", "make b"⟩] ∧
    rehearsal.trace.commands.map Prod.fst
      = [⟨"a", "make a"⟩, ⟨"b", "make b"⟩, ⟨"c", "make c"⟩] := by
  intro shell after bench plan rehearsal actual
  have hnames : bench.hooks.ByName := ⟨fun _ _ _ _ _ _ => rfl, fun _ _ _ _ _ _ _ h => h⟩
  obtain ⟨hcalls, -, hfirst, -⟩ := bench.dry_run_predicts_run shell {} plan 0 hnames
  exact ⟨hnames, hcalls, hfirst, rfl, rfl⟩

end Taskbook
