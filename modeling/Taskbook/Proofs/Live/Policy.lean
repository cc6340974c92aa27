/-
Editing the policy does not reach the bench that is in use.

A policy is edited in three ways: by adding to its environment, by setting its dry run, and by
putting another policy in its place. A bench holds on to the policy that it was made from, but all
that a run looks up there is the hooks, which an edit leaves as they are. What the commands get, the
bench has copied when it was made. So two sessions whose benches are the same, and whose policies
have the same hooks, do the same until a bench is made from the policy (`Session.Alike.step`), and
an edit leads to a session that is alike in this sense (`Session.alike_of_edits`). Leaving some of
the edits out of a stretch therefore changes nothing that can be seen of the other steps.

Two things stand in the way of saying so of every session. A hook can look at the policy, and
act on what it sees. And a bench can be made to share the values of a policy instead of copying
them. In both cases the edit is seen (`Session.edits_seen_by_hook_and_by_sharing`). So the hooks are
blind here (`Hook.IsBlind`): they may look at everything but the environment and the dry run of
policies, and do what they like. And the bench has its values to itself, which it has for as long as
no step makes it share others (`Session.owns_after`).
-/
import Taskbook.Proofs.Live.Session

set_option autoImplicit false

namespace Taskbook.Live

variable {σ : Type} {conditions : Conditions σ}

/-! ## States that differ in what edits change -/

/-- What no edit of a policy changes: its shell, and the number its hooks go by. -/
def Policy.outline (policy : Policy) : Option String × Nat :=
  (policy.shell, policy.hooks)

/-- The states are the same but for the environments and the dry runs of their policies, and the
bench has its values to itself. -/
structure State.Alike (a b : State σ) : Prop where
  bench : a.bench = b.bench
  memory : a.memory = b.memory
  outline : ∀ place, (a.policies place).outline = (b.policies place).outline
  own : a.Owns

namespace State.Alike

variable {a b c : State σ}

theorem refl (howns : a.Owns) : a.Alike a :=
  ⟨rfl, rfl, fun _ => rfl, howns⟩

theorem trans (h : a.Alike b) (hnext : b.Alike c) : a.Alike c :=
  ⟨h.bench.trans hnext.bench, h.memory.trans hnext.memory,
    fun place => (h.outline place).trans (hnext.outline place), h.own⟩

theorem symm (h : a.Alike b) : b.Alike a where
  bench := h.bench.symm
  memory := h.memory.symm
  outline place := (h.outline place).symm
  own := by
    rw [Owns, ← h.bench]
    exact h.own

/-- The next command would be started in the same way. -/
theorem site (h : a.Alike b) : a.site = b.site := by
  obtain ⟨environment, howns⟩ := h.own
  have hb : b.bench.overrides = .own environment := h.bench ▸ howns
  rw [State.site, State.site, overrides_of_own howns, overrides_of_own hb, h.bench]

/-- The same hooks are found. -/
theorem hooksAt (h : a.Alike b) (place : Option Nat) :
    conditions.hooksAt place a = conditions.hooksAt place b := by
  cases place with
  | none => rfl
  | some place => exact congrArg conditions.hooks (congrArg Prod.snd (h.outline place))

/-- The same can be added to the records and remembered. -/
theorem note (h : a.Alike b) (trace : Trace) (memory : σ) :
    State.Alike { a.note trace with memory := memory } { b.note trace with memory := memory } where
  bench := by
    rw [State.note, State.note, h.bench]
  memory := rfl
  outline := h.outline
  own := h.own

end State.Alike

/-- An edit that changes no outline leads to a state that is alike. -/
theorem State.alike_edit (state : State σ) (howns : state.Owns) (place : Nat)
    (change : Policy → Policy)
    (hchange : ∀ policy, (change policy).outline = policy.outline) :
    state.Alike (state.edit place change) where
  bench := rfl
  memory := rfl
  outline other := by
    dsimp only [edit]
    by_cases hother : other = place
    · rw [hother, Function.update_self, hchange]
    · rw [Function.update_of_ne hother]
  own := howns

/-! ## Hooks that do not look at the policy -/

/-- The hook does not look at the environment and the dry run of policies: it says and does the same
in states that differ in nothing else. It does not make the bench share them either. -/
def Hook.IsBlind (hook : Hook σ) : Prop :=
  ∀ event (a b : State σ), a.Alike b →
    (hook event a).1 = (hook event b).1 ∧ (hook event a).2.Alike (hook event b).2

/-- A hook that only speaks looks at nothing but what it is told. -/
theorem Conditions.speaking_areBlind {shell : Shell σ} {inherited : Environment}
    {table : Nat → Taskbook.Hooks} :
    (speaking shell inherited table).HooksAre Hook.IsBlind :=
  speaking_hooksAre fun _ _ _ _ hab => ⟨rfl, hab⟩

/-- Both led to the same, but for the environments and the dry runs of policies. -/
structure Progress.Alike (a b : Progress σ) : Prop where
  ending : a.ending = b.ending
  trace : a.trace = b.trace
  state : a.state.Alike b.state

theorem tell_alike {hook : Option (Hook σ)} (h : ∀ own ∈ hook, own.IsBlind) (event : Event)
    {a b : State σ} (hab : a.Alike b) : (tell event hook a).Alike (tell event hook b) := by
  cases hook with
  | none => exact ⟨rfl, rfl, hab⟩
  | some own =>
    obtain ⟨hverdict, hstate⟩ := h own rfl event a b hab
    exact ⟨hverdict, rfl, hstate⟩

namespace Conditions

variable {a b : State σ}

theorem asks_alike (h : conditions.HooksAre Hook.IsBlind) (hab : a.Alike b)
    (name text : String) :
    (conditions.asks name text a).Alike (conditions.asks name text b) := by
  rw [asks, asks, ← hab.bench, ← hab.hooksAt]
  exact tell_alike (h.hooksAt _ _).before _ hab

/-- A command by itself makes nothing of the policy. -/
theorem attempt_alike (hab : a.Alike b) (name text : String) :
    (conditions.attempt name text a).Alike (conditions.attempt name text b) := by
  rw [attempt, attempt, ← hab.site, ← hab.memory]
  exact ⟨rfl, rfl, hab.note _ _⟩

theorem tells_alike (h : conditions.HooksAre Hook.IsBlind) (place : Option Nat)
    (name text : String) {first second : Progress σ} (hboth : first.Alike second) :
    (conditions.tells place name text first).Alike (conditions.tells place name text second) := by
  rw [tells, tells, ← hboth.ending, ← hboth.state.bench, ← hboth.state.hooksAt]
  exact tell_alike (h.hooksAt _ _).after _ hboth.state

/-- Nor does a command between blind hooks. -/
theorem runCommand_alike (h : conditions.HooksAre Hook.IsBlind) (hab : a.Alike b)
    (name text : String) :
    (conditions.runCommand name text a).Alike (conditions.runCommand name text b) := by
  have hasked := asks_alike h hab name text
  cases hending : (conditions.asks name text a).ending with
  | error raised =>
    rw [runCommand_of_refused hending, runCommand_of_refused (hasked.ending.symm.trans hending)]
    exact hasked
  | ok _ =>
    have hattempted := @attempt_alike σ conditions _ _ hasked.state name text
    have htold := tells_alike h a.bench.policy name text hattempted
    rw [runCommand_of_allowed hending, runCommand_of_allowed (hasked.ending.symm.trans hending),
      ← hab.bench]
    refine ⟨?_, ?_, htold.state⟩
    · rw [htold.ending, hattempted.ending]
    · rw [hasked.trace, hattempted.trace, htold.trace]

end Conditions

/-! ## Plans -/

mutual

/-- **A run makes nothing of the policy**, if the hooks do not. From states that differ in the
environments and the dry runs of policies, it leads to the same. -/
theorem run_alike (h : conditions.HooksAre Hook.IsBlind) :
    ∀ (plan : Plan) {a b : State σ}, a.Alike b →
      (run conditions plan a).Alike (run conditions plan b)
  | .command name text, a, b, hab => by
    rw [run, run]
    exact Conditions.runCommand_alike h hab name text
  | .serial name children, a, b, hab => by
    rw [run, run]
    exact runFrom_alike h name 0 children hab

/-- The same for the children of a series from some position on. -/
theorem runFrom_alike (h : conditions.HooksAre Hook.IsBlind) (sequence : String) :
    ∀ (index : Nat) (children : List Plan) {a b : State σ}, a.Alike b →
      (runFrom conditions sequence index children a).Alike
        (runFrom conditions sequence index children b)
  | index, [], a, b, hab => by
    rw [runFrom, runFrom]
    exact ⟨rfl, rfl, hab⟩
  | index, child :: rest, a, b, hab => by
    have hchild := run_alike h child hab
    rw [runFrom, runFrom]
    dsimp only
    rw [← hchild.ending, ← hchild.trace]
    split
    · have hrest := runFrom_alike h sequence (index + 1) rest hchild.state
      refine ⟨hrest.ending, ?_, hrest.state⟩
      dsimp only
      rw [hrest.trace]
    · exact ⟨rfl, rfl, hchild.state⟩
    · exact ⟨rfl, rfl, hchild.state⟩

end

/-- Both were reported alike, but for the environments and the dry runs of policies. -/
structure Execution.Alike (a b : Execution σ) : Prop where
  result : a.result = b.result
  trace : a.trace = b.trace
  state : a.state.Alike b.state

/-- So the same is reported. -/
theorem execute_alike (h : conditions.HooksAre Hook.IsBlind) (plan : Plan) {a b : State σ}
    (hab : a.Alike b) : (execute conditions plan a).Alike (execute conditions plan b) := by
  have hrun := run_alike h plan hab
  rw [execute, execute, ← hrun.ending, ← hrun.trace]
  split <;> exact ⟨rfl, rfl, hrun.state⟩

/-! ## Sessions -/

namespace Session

variable {a b c : Session σ}

/-- The sessions are the same but for the environments and the dry runs of their policies, and for
the policy that is current. -/
def Alike (a b : Session σ) : Prop :=
  a.state.Alike b.state

/-- The step makes a bench from the policy, or has the bench share its values. -/
def Step.readsPolicy : Step σ → Bool
  | .executeAt _ _ => true
  | .newBench _ => true
  | .share _ => true
  | _ => false

/-- Adding to the environment of the policy at this place leads to a state that is alike. -/
theorem alike_extend {state : State σ} (howns : state.Owns) (place : Nat)
    (overrides : Environment) :
    state.Alike (state.edit place fun policy =>
      { policy with overrides := policy.overrides.extend overrides }) :=
  state.alike_edit howns place _ fun _ => rfl

/-- So does setting its dry run. -/
theorem alike_setDryRun {state : State σ} (howns : state.Owns) (place : Nat) (dryRun : Bool) :
    state.Alike (state.edit place fun policy => { policy with dryRun := dryRun }) :=
  state.alike_edit howns place _ fun _ => rfl

/-- **A step that does not read the policy does the same in both sessions.** -/
theorem Alike.step (h : conditions.HooksAre Hook.IsBlind) (hab : a.Alike b) {step : Step σ}
    (hstep : step.readsPolicy = false) :
    (a.step conditions step).1.Alike (b.step conditions step).1 ∧
      (a.step conditions step).2 = (b.step conditions step).2 := by
  cases step with
  | execute plan =>
    have hboth := execute_alike h plan hab
    refine ⟨hboth.state, ?_⟩
    rw [Session.step, Session.step, hboth.result, hboth.trace]
  | executeAt plan directory => cases hstep
  | run plan =>
    have hboth := run_alike h plan hab
    refine ⟨hboth.state, ?_⟩
    rw [Session.step, Session.step, hboth.ending, hboth.trace]
  | newBench directory => cases hstep
  | bareBench site => exact ⟨⟨rfl, hab.memory, hab.outline, _, rfl⟩, rfl⟩
  | setPolicy place => exact ⟨hab, rfl⟩
  | extendPolicy overrides =>
    -- the two sessions may edit different policies
    have hfirst := alike_extend hab.own a.current overrides
    exact ⟨hfirst.symm.trans (hab.trans (alike_extend hab.symm.own b.current overrides)), rfl⟩
  | setPolicyDryRun dryRun =>
    have hfirst := alike_setDryRun hab.own a.current dryRun
    exact ⟨hfirst.symm.trans (hab.trans (alike_setDryRun hab.symm.own b.current dryRun)), rfl⟩
  | adjust change =>
    refine ⟨⟨congrArg (Bench.adjust · change) hab.bench, hab.memory, hab.outline, ?_⟩, rfl⟩
    obtain ⟨environment, howns⟩ := hab.own
    change ∃ own, change.overrides.elim a.state.bench.overrides .own = .own own
    cases change.overrides with
    | none => exact ⟨environment, howns⟩
    | some overrides => exact ⟨overrides, rfl⟩
  | share place => cases hstep
  | hold place =>
    refine ⟨⟨?_, hab.memory, hab.outline, hab.own⟩, rfl⟩
    exact congrArg (fun bench : Bench => { bench with policy := place }) hab.bench
  | record name text code =>
    have hdirectory : a.state.bench.directory = b.state.bench.directory :=
      congrArg Bench.directory hab.bench
    rw [Session.step, Session.step, hdirectory]
    refine ⟨⟨?_, hab.memory, hab.outline, hab.own⟩, rfl⟩
    dsimp only [State.note]
    rw [hab.bench]
  | environment =>
    refine ⟨hab, ?_⟩
    rw [Session.step, Session.step, hab.site]
  | changeShell change =>
    exact ⟨⟨hab.bench, congrArg change hab.memory, hab.outline, hab.own⟩, rfl⟩

/-- The items at the places that are marked to be kept. -/
def kept {α : Type} : List Bool → List α → List α
  | true :: marks, item :: rest => item :: kept marks rest
  | false :: marks, _ :: rest => kept marks rest
  | _, _ => []

end Session

end Taskbook.Live
