/-
What it means that the hook after a command is told of no failure.

The hook is told of the command's own failure, or of none. Of none it is told after a command
that was only noted, and after one that returned zero (`Conditions.Finishes`). But a call that
breaks is no failure of the command, and the hook is asked all the same: it hears of no failure
then either, with no record behind the call. `Turn.alone_of_no_failure` says that there is no
further case.

Which command a notice is about cannot be told by the name, since names need not be different.
So the statement goes by the place of the notice: what stands right before it is what the
command came to. A turn has one such notice, as the last thing that happens in it
(`Turn.effects_of_told`), and a run is its turns, so the place is found in some turn
(`Conditions.exists_turn_of_effectsOf`).
-/
import Taskbook.Proofs.Run.Hooks

set_option autoImplicit false

namespace Taskbook

/-! ## Places in a list -/

section

variable {α β : Type}

/-- If an element that stands nowhere else is the last, nothing follows it. -/
theorem append_singleton_eq_append_cons {items before after : List α} {last item : α}
    (h : items ++ [last] = before ++ item :: after) (hitem : item ∉ items) :
    items = before ∧ last = item ∧ after = [] := by
  rcases List.eq_nil_or_concat after with rfl | ⟨rest, final, rfl⟩
  · obtain ⟨hitems, hlast⟩ := List.append_inj' h rfl
    exact ⟨hitems, List.head_eq_of_cons_eq hlast, rfl⟩
  · rw [List.concat_eq_append, ← List.cons_append, ← List.append_assoc] at h
    obtain ⟨rfl, -⟩ := List.append_inj' h rfl
    exact absurd (List.mem_append_right before List.mem_cons_self) hitem

/-- A place in what some elements amount to is a place in what one of them amounts to. -/
theorem exists_of_flatMap_eq_append_cons {f : α → List β} {items : List α}
    {before after : List β} {place : β} (h : items.flatMap f = before ++ place :: after) :
    ∃ earlier item later own rest, items = earlier ++ item :: later ∧
      f item = own ++ place :: rest ∧ before = earlier.flatMap f ++ own ∧
      after = rest ++ later.flatMap f := by
  induction items generalizing before with
  | nil =>
    rw [List.flatMap_nil] at h
    exact absurd h.symm (List.append_ne_nil_of_right_ne_nil before (List.cons_ne_nil place after))
  | cons item items ih =>
    rw [List.flatMap_cons] at h
    -- what the first element amounts to ends before the place, or holds it
    rcases List.append_eq_append_iff.1 h with ⟨between, rfl, hrest⟩ | ⟨between, hitem, hrest⟩
    · obtain ⟨earlier, own, later, start, rest, rfl, hown, rfl, rfl⟩ := ih hrest
      exact ⟨item :: earlier, own, later, start, rest, rfl, hown,
        by rw [List.flatMap_cons, List.append_assoc], rfl⟩
    · cases between with
      | nil =>
        -- it ends right before the place, which is then the first of the others
        have hlater : items.flatMap f = [] ++ place :: after := hrest.symm
        obtain ⟨earlier, own, later, start, rest, rfl, hown, hstart, rfl⟩ := ih hlater
        refine ⟨item :: earlier, own, later, start, rest, rfl, hown, ?_, rfl⟩
        rw [List.flatMap_cons, List.append_assoc, ← hstart, hitem, List.append_nil,
          List.append_nil]
      | cons first between =>
        obtain ⟨rfl, rfl⟩ := List.cons_eq_cons.1 hrest
        exact ⟨[], item, items, before, between, rfl, hitem, rfl, rfl⟩

end

/-! ## What a command comes to -/

/-- What happens when a command is done: on a dry run it is noted, and otherwise it is called,
returns zero and is recorded. -/
inductive Conditions.Finishes {σ : Type} (conditions : Conditions σ) (leaf : Leaf) : Trace → Prop
  | noted (hdry : conditions.site.dryRun = true) :
      Finishes conditions leaf [.recorded (conditions.record leaf none)]
  | returned (hreal : conditions.site.dryRun = false) :
      Finishes conditions leaf [.called (conditions.request leaf) (.exited 0),
        .recorded (conditions.record leaf (some 0))]

/-- What happens when a call breaks: there is the call, and no record of it. -/
structure Conditions.Breaks {σ : Type} (conditions : Conditions σ) (leaf : Leaf) (why : String)
    (own : Trace) : Prop where
  real : conditions.site.dryRun = false
  own : own = [.called (conditions.request leaf) (.broken why)]

theorem Event.effects_tell_none (event : Event) : (event.tell none).2.effects = [] :=
  rfl

theorem Event.effects_tell_some (event : Event) (hook : Hook) :
    (event.tell (some hook)).2.effects = [.notified event] :=
  rfl

/-- A command that is done has been recorded, and nothing comes between its record and the
notice. -/
theorem Conditions.Finishes.getLast?_eq {σ : Type} {conditions : Conditions σ} {leaf : Leaf}
    {own : Trace} (h : conditions.Finishes leaf own) (start : Trace) :
    ∃ code, (start ++ own).getLast? = some (.recorded (conditions.record leaf code)) := by
  cases h with
  | noted hdry => exact ⟨none, by simp⟩
  | returned hreal => exact ⟨some 0, by simp⟩

namespace Turn

variable {σ : Type} {conditions : Conditions σ} {turn : Turn σ}

/-- A command that ends without a failure of its own is done, or its call broke. -/
theorem alone_of_no_failure (h : failureOf (turn.alone conditions).ending = none) :
    conditions.Finishes turn.leaf (turn.alone conditions).trace.effects ∨
      ∃ why, conditions.Breaks turn.leaf why (turn.alone conditions).trace.effects ∧
        (turn.alone conditions).ending = .error (.crash why) := by
  cases hdry : conditions.site.dryRun with
  | true =>
    have heffects : (turn.alone conditions).trace.effects
        = [.recorded (conditions.record turn.leaf none)] := (Conditions.attempt_of_dryRun hdry).2
    rw [heffects]
    exact .inl (.noted hdry)
  | false =>
    cases hanswer : (conditions.answer turn.leaf turn.memory).1 with
    | exited code =>
      obtain ⟨hending, heffects⟩ := Conditions.attempt_of_real hdry hanswer
      by_cases hzero : code = 0
      · subst hzero
        rw [alone, heffects]
        exact .inl (.returned hdry)
      · rw [alone, hending, Attempt.ending_of_exited hzero] at h
        cases h
    | notStarted reason =>
      rw [alone, (Conditions.attempt_of_real hdry hanswer).1] at h
      cases h
    | broken why =>
      obtain ⟨hending, heffects⟩ := Conditions.attempt_of_real hdry hanswer
      exact .inr ⟨why, ⟨hdry, heffects⟩, hending⟩

/-- The hook before the command is not told what came of it. -/
theorem after_not_mem_asked (turn : Turn σ) (hook : Option Hook) (name text : String)
    (count : Nat) (failure : Option Failure) :
    Happening.notified (.after name text count failure) ∉ (turn.asked.tell hook).2.effects := by
  cases hook with
  | none => exact List.not_mem_nil
  | some hook =>
    intro hmem
    cases List.mem_singleton.1 hmem

/-- A command by itself tells nobody anything. -/
theorem notified_not_mem_alone (conditions : Conditions σ) (turn : Turn σ) (event : Event) :
    Happening.notified event ∉ (turn.alone conditions).trace.effects := by
  intro hmem
  have hevents : (turn.alone conditions).trace.effects.events = [] := by
    rw [Trace.events_effects]
    exact conditions.events_attempt turn.leaf turn.memory
  have hevent : event ∈ (turn.alone conditions).trace.effects.events :=
    List.mem_filterMap.2 ⟨_, hmem, rfl⟩
  rw [hevents] at hevent
  cases hevent

/-- **What the hook after a command is told is the last of a turn**, right behind what the command
came to, and the hook is told of that command and its own failure. -/
theorem effects_of_told {own rest : Trace} {name text : String} {count : Nat}
    {failure : Option Failure}
    (h : (turn.progress conditions).trace.effects
      = own ++ .notified (.after name text count failure) :: rest) :
    ∃ asked hook, own = asked ++ (turn.alone conditions).trace.effects ∧ rest = [] ∧
      turn.leaf = ⟨name, text⟩ ∧ failure = failureOf (turn.alone conditions).ending ∧
      conditions.hooks.after = some hook ∧
      (turn.progress conditions).ending
        = (hook (.after name text count failure)).bind fun _ => (turn.alone conditions).ending := by
  -- neither the notice before the command nor the command itself is this notice
  have hasked := turn.after_not_mem_asked conditions.hooks.before name text count failure
  have halone := turn.notified_not_mem_alone conditions (.after name text count failure)
  cases hverdict : (turn.asked.tell conditions.hooks.before).1 with
  | error fault =>
    rw [progress_of_refused hverdict] at h
    exact absurd (h ▸ List.mem_append_right own List.mem_cons_self) hasked
  | ok _ =>
    have hbefore : Happening.notified (.after name text count failure)
        ∉ (turn.asked.tell conditions.hooks.before).2.effects
          ++ (turn.alone conditions).trace.effects :=
      fun hmem => (List.mem_append.1 hmem).elim hasked halone
    rw [progress_of_allowed hverdict] at h ⊢
    dsimp only at h ⊢
    rw [Trace.effects_append, Trace.effects_append] at h
    cases hafter : conditions.hooks.after with
    | none =>
      rw [hafter, Event.effects_tell_none, List.append_nil] at h
      exact absurd (h ▸ List.mem_append_right own List.mem_cons_self) hbefore
    | some hook =>
      rw [hafter, Event.effects_tell_some] at h
      obtain ⟨hown, hnotice, hrest⟩ := append_singleton_eq_append_cons h hbefore
      have htold := Happening.notified.inj hnotice
      refine ⟨_, hook, hown.symm, hrest, ?_, ?_, rfl, by rw [htold]; rfl⟩
      · rw [told, Event.after.injEq] at htold
        obtain ⟨hname, htext, -, -⟩ := htold
        rw [← hname, ← htext]
      · rw [told, Event.after.injEq] at htold
        exact htold.2.2.2.symm

end Turn

/-! ## A run -/

section

variable {σ : Type} {conditions : Conditions σ}

/-- A turn that does not end well is the last, and the run ends as it does. -/
theorem Progress.Takes.ends_with {progress : Progress σ} {leaves : List Leaf} {recorded : Nat}
    {memory : σ} {reaches : List Link → List Leaf → Leaf → Prop} {earlier later : List (Turn σ)}
    {turn : Turn σ} {fault : Fault}
    (htakes : progress.Takes conditions (conditions.turns leaves recorded memory) memory reaches)
    (hturns : conditions.turns leaves recorded memory = earlier ++ turn :: later)
    (hfault : (turn.progress conditions).ending = .error fault) :
    later = [] ∧ ∃ links, progress.ending = .error (fault.passedOn links) := by
  have hmem : turn ∈ conditions.turns leaves recorded memory :=
    hturns ▸ List.mem_append_right earlier List.mem_cons_self
  have hstops := Turn.not_isDone_of_error hfault
  have hlast : later = [] := by
    -- all turns but the last are done
    by_contra hne
    refine hstops (Conditions.turns_dropLast leaves recorded memory turn ?_)
    rw [hturns, List.dropLast_append_of_ne_nil (List.cons_ne_nil turn later),
      List.dropLast_cons_of_ne_nil hne]
    exact List.mem_append_right earlier List.mem_cons_self
  rcases htakes.ending with ⟨-, hdone⟩ | ⟨before, last, own, links, hshape, hown, hending, -⟩
  · exact absurd (hdone turn hmem) hstops
  · rw [hturns, hlast] at hshape
    obtain ⟨-, hsame⟩ := List.append_inj' hshape rfl
    obtain rfl : turn = last := List.head_eq_of_cons_eq hsame
    rw [hfault] at hown
    cases hown
    exact ⟨hlast, links, hending⟩

/-- **Where the hook after a command is told of no failure**, the command is done, or its call broke
and nothing follows. -/
theorem Plan.run_told_of_no_failure (plan : Plan) (recorded : Nat) (memory : σ)
    {earlier later : Trace} {name text : String} {count : Nat}
    (hplace : (plan.run conditions recorded memory).trace.effects
      = earlier ++ .notified (.after name text count none) :: later) :
    ∃ start own, earlier = start ++ own ∧
      (conditions.Finishes ⟨name, text⟩ own ∨
        ∃ why hook, conditions.Breaks ⟨name, text⟩ why own ∧ later = [] ∧
          conditions.hooks.after = some hook ∧
          (hook (.after name text count none) = .ok () →
            (plan.run conditions recorded memory).ending = .error (.crash why))) := by
  have htakes := Plan.run_takes conditions plan recorded memory
  rw [htakes.effects] at hplace
  obtain ⟨before, turn, after, own, rest, hturns, hturn, rfl, rfl⟩ :=
    exists_of_flatMap_eq_append_cons hplace
  obtain ⟨asked, hook, rfl, rfl, hleaf, hfailure, hafter, hending⟩ := Turn.effects_of_told hturn
  refine ⟨before.flatMap _ ++ asked, _, (List.append_assoc ..).symm, ?_⟩
  rw [← hleaf]
  rcases Turn.alone_of_no_failure hfailure.symm with hdone | ⟨why, hbreaks, hcrash⟩
  · exact .inl hdone
  · rw [hcrash] at hending
    -- the hook can put its own objection in place of the crash, but it cannot make the turn end well
    cases hverdict : hook (.after name text count none) with
    | ok _ =>
      rw [hverdict] at hending
      obtain ⟨hlast, links, hrun⟩ := htakes.ends_with hturns hending
      exact .inr ⟨why, hook, hbreaks, by rw [hlast]; rfl, hafter, fun _ => hrun⟩
    | error fault =>
      rw [hverdict] at hending
      obtain ⟨hlast, -, -⟩ := htakes.ends_with hturns hending
      refine .inr ⟨why, hook, hbreaks, by rw [hlast]; rfl, hafter, fun hallowed => ?_⟩
      rw [hverdict] at hallowed
      cases hallowed

end

/-! ## The statement -/

/-- **The hook after a command is told of no failure in three cases.** At every bench, with any
hooks, the command has been noted on a dry run, or its call has returned zero, or its call broke.
In the third case this is the last that happens, and the run ends with the crash unless the hook
objects. So where no call breaks, a command that the hook is told of no failure of is done. What is
reported adds nothing to this. -/
theorem Bench.told_of_no_failure_when_done_or_broken {σ : Type} (bench : Bench) (shell : Shell σ)
    (inherited : Environment) (plan : Plan) (memory : σ) :
    let conditions := bench.conditions shell inherited
    let progress := plan.run conditions bench.records.length memory
    (∀ earlier later name text count,
      progress.trace.effects = earlier ++ .notified (.after name text count none) :: later →
      ∃ start own, earlier = start ++ own ∧
        (conditions.Finishes ⟨name, text⟩ own ∨
          ∃ why hook, conditions.Breaks ⟨name, text⟩ why own ∧ later = [] ∧
            bench.hooks.after = some hook ∧
            (hook (.after name text count none) = .ok () →
              progress.ending = .error (.crash why))) ∧
        ((∀ answered ∈ progress.trace.answered, ∀ why, answered.2 ≠ .broken why) →
          conditions.Finishes ⟨name, text⟩ own)) ∧
    (plan.execute conditions bench.records.length memory).trace.effects
      = progress.trace.effects := by
  intro conditions progress
  refine ⟨fun earlier later name text count hplace => ?_,
    Plan.execute_effects conditions plan bench.records.length memory⟩
  obtain ⟨start, own, rfl, hcases⟩ := Plan.run_told_of_no_failure plan _ memory hplace
  refine ⟨start, own, rfl, hcases, fun hunbroken => ?_⟩
  rcases hcases with hdone | ⟨why, _, ⟨hreal, rfl⟩, -⟩
  · exact hdone
  · -- the broken call stands right before the notice
    have hcall : Happening.called (conditions.request ⟨name, text⟩) (.broken why)
        ∈ progress.trace.effects := by
      rw [hplace]
      simp
    have hanswered : (conditions.request ⟨name, text⟩, Outcome.broken why)
        ∈ progress.trace.answered := by
      rw [← Trace.answered_effects]
      exact List.mem_filterMap.2 ⟨_, hcall, rfl⟩
    exact absurd rfl (hunbroken _ hanswered why)

/-- The second of three commands breaks, and the hook after it, which is told of no failure, has
nothing against that: the run ends with the crash. Another time nothing breaks, and then the
command behind the same notice is done. -/
theorem Bench.silence_before_crash_and_after_success :
    let hook : Hook := fun _ => .ok ()
    let bench : Bench := { site := { directory := Dir.ofText "/srv" }, hooks := ⟨none, some hook⟩ }
    let plan : Plan := .serial "all" [.command "a" "make a", .command "b" "make b",
      .command "c" "make c"]
    let shell (second : Outcome) : Shell Nat := fun _ count =>
      (if count = 1 then second else .exited 0, count + 1)
    let breaking := bench.conditions (shell (.broken "gone")) {}
    let steady := bench.conditions (shell (.exited 0)) {}
    (plan.run breaking 0 0).trace.events
      = [.after "a" "make a" 1 none, .after "b" "make b" 1 none] ∧
    (plan.run breaking 0 0).ending = .error (.crash "gone") ∧
    ∃ start own later, (plan.run steady 0 0).trace.effects
        = start ++ own ++ .notified (.after "b" "make b" 2 none) :: later ∧
      steady.Finishes ⟨"b", "make b"⟩ own := by
  intro hook bench plan shell breaking steady
  let request (text : String) : Call := ⟨text, Dir.ofText "/srv", none, none⟩
  let record (name text : String) : Happening :=
    .recorded ⟨name, text, Dir.ofText "/srv", some 0⟩
  let first : Trace := [.called (request "make a") (.exited 0), record "a" "make a",
    .notified (.after "a" "make a" 1 none)]
  refine ⟨rfl, ?_, ?_⟩
  · obtain ⟨hcases, -⟩ :=
      bench.told_of_no_failure_when_done_or_broken (shell (.broken "gone")) {} plan 0
    obtain ⟨start, own, hplace, hdone | ⟨why, _, ⟨-, rfl⟩, -, hhook, hcrash⟩, -⟩ :=
      hcases (first ++ [.called (request "make b") (.broken "gone")]) [] "b" "make b" 1 rfl
    · obtain ⟨code, hlast⟩ := hdone.getLast?_eq start
      rw [← hplace] at hlast
      cases hlast
    · cases hhook
      obtain ⟨-, hcall⟩ := List.append_inj' hplace rfl
      cases hcall
      exact hcrash rfl
  · let last : Trace := [.called (request "make c") (.exited 0), record "c" "make c",
      .notified (.after "c" "make c" 3 none)]
    obtain ⟨hcases, -⟩ := bench.told_of_no_failure_when_done_or_broken (shell (.exited 0)) {} plan 0
    obtain ⟨start, own, hplace, -, hdone⟩ :=
      hcases (first ++ [.called (request "make b") (.exited 0), record "b" "make b"]) last
        "b" "make b" 2 rfl
    have hzero : ∀ answered ∈ (plan.run steady 0 0).trace.answered, answered.2 = .exited 0 := by
      decide
    refine ⟨start, own, last, by rw [← hplace]; rfl, hdone fun answered hmem why => ?_⟩
    rw [hzero answered hmem]
    exact nofun

/-- A call breaks, and the hook after the command is told of no failure although the command has
neither been noted on a dry run nor returned zero. -/
theorem Bench.broken_call_told_as_no_failure :
    let hook : Hook := fun _ => .ok ()
    let bench : Bench := { site := { directory := Dir.ofText "/srv" }, hooks := ⟨some hook, some hook⟩ }
    let shell : Shell Unit := fun _ _ => (.broken "gone", ())
    let conditions := bench.conditions shell {}
    let progress := (Plan.command "a" "make a").run conditions 0 ()
    progress.trace.events = [.before "a" "make a" 0, .after "a" "make a" 0 none] ∧
    ¬∀ earlier later name text count,
      progress.trace.effects = earlier ++ .notified (.after name text count none) :: later →
      ∃ start own, earlier = start ++ own ∧ conditions.Finishes ⟨name, text⟩ own := by
  intro hook bench shell conditions progress
  refine ⟨rfl, fun hall => ?_⟩
  obtain ⟨start, own, hplace, hdone⟩ := hall
    [.notified (.before "a" "make a" 0),
      .called ⟨"make a", Dir.ofText "/srv", none, none⟩ (.broken "gone")] []
    "a" "make a" 0 rfl
  obtain ⟨code, hlast⟩ := hdone.getLast?_eq start
  rw [← hplace] at hlast
  cases hlast

end Taskbook
