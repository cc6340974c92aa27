/-
A run is its commands taking their turns.

Whatever stands around a command, hooks or a dry run, a plan gives each of its commands
one turn after the other, from left to right, and the first turn that does not end well is
the last. `Conditions.turns` says which turns there are. It goes down a list of commands and
knows nothing of trees: all it hands on from one turn to the next is how many commands
have been recorded and what the shell remembers. A turn by itself is
`Conditions.runCommand`, and nothing is said about it in this file.

`Plan.run_takes` says that a run is no more than that. Apart from the lines in the log, what
happens is what happens in the turns, one after the other, and the run ends as the last
turn ends. Only the wording of a failure depends on the tree: every series on the way from
the root down to the command adds one link, and `Plan.LeadsTo` says which way that is.
-/
import Taskbook.Session

set_option autoImplicit false

namespace Taskbook

/-! ## Effects -/

/-- What happens besides the lines in the log. -/
def Trace.effects (trace : Trace) : Trace :=
  trace.filter fun happening => happening.line?.isNone

theorem Trace.effects_append (a b : Trace) : effects (a ++ b) = effects a ++ effects b :=
  List.filter_append a b

/-- Whatever is not read off the lines in the log can be read off the effects. -/
theorem Trace.filterMap_effects {α : Type} {f : Happening → Option α}
    (h : ∀ line, f (.logged line) = none) (trace : Trace) :
    trace.effects.filterMap f = trace.filterMap f := by
  rw [effects, List.filterMap_filter]
  congr 1
  funext happening
  cases happening with
  | logged line => simp [Happening.line?, h]
  | _ => rfl

theorem Trace.answered_effects (trace : Trace) : trace.effects.answered = trace.answered :=
  filterMap_effects (fun _ => rfl) trace

theorem Trace.records_effects (trace : Trace) : trace.effects.records = trace.records :=
  filterMap_effects (fun _ => rfl) trace

theorem Trace.events_effects (trace : Trace) : trace.effects.events = trace.events :=
  filterMap_effects (fun _ => rfl) trace

/-- The line about skipped children is no effect. -/
theorem Conditions.effects_skipped (sequence : String) (count : Nat) :
    (skipped sequence count).effects = [] := by
  unfold skipped
  split <;> rfl

/-- So it is neither a record nor a call. -/
theorem Conditions.records_skipped (sequence : String) (count : Nat) :
    (skipped sequence count).records = [] := by
  rw [← Trace.records_effects, effects_skipped]
  rfl

/-- One step down from a series: its name, and the position and the name of the child
taken. -/
structure Link where
  sequence : String
  index : Nat
  child : String
  deriving DecidableEq, Repr

/-- The failure as it arrives at the top when every series on the way passes it on, the
outermost first. -/
def Failure.passedOn (links : List Link) (own : Failure) : Failure :=
  links.foldr (fun link cause => .within link.sequence link.index link.child cause) own

/-- A crash arrives as it is. -/
def Fault.passedOn (links : List Link) : Fault → Fault
  | .failure own => .failure (own.passedOn links)
  | .crash text => .crash text

/-- A failure that has come up some way comes up one series more. -/
theorem Fault.passedOn_cons_of_failure {own : Fault} {links : List Link} {failure : Failure}
    (h : Fault.failure failure = own.passedOn links) (link : Link) :
    Fault.failure (.within link.sequence link.index link.child failure)
      = own.passedOn (link :: links) := by
  cases own with
  | failure first =>
    cases h
    rfl
  | crash text => cases h

theorem Fault.passedOn_cons_of_crash {own : Fault} {links : List Link} {text : String}
    (h : Fault.crash text = own.passedOn links) (link : Link) :
    Fault.crash text = own.passedOn (link :: links) := by
  cases own with
  | failure first => cases h
  | crash why =>
    cases h
    rfl

theorem Plan.leavesOf_append (first second : List Plan) :
    leavesOf (first ++ second) = leavesOf first ++ leavesOf second := by
  induction first with
  | nil => rfl
  | cons plan rest ih => rw [List.cons_append, leavesOf, leavesOf, ih, List.append_assoc]

/-- The links lead from the plan down to this command, and these commands stand to the left
of it. -/
inductive Plan.LeadsTo : Plan → List Link → List Leaf → Leaf → Prop
  | command (name text : String) : LeadsTo (.command name text) [] [] ⟨name, text⟩
  | serial (name : String) (left right : List Plan) {child : Plan} {links : List Link}
      {before : List Leaf} {leaf : Leaf} (h : child.LeadsTo links before leaf) :
      LeadsTo (.serial name (left ++ child :: right))
        (⟨name, left.length, child.name⟩ :: links) (leavesOf left ++ before) leaf

/-! ## Turns -/

/-- The turn of a command in a run: so many commands had been recorded, and this is what
the shell remembered. -/
structure Turn (σ : Type) where
  leaf : Leaf
  recorded : Nat
  memory : σ

namespace Turn

variable {σ : Type}

/-- What the turn leads to. -/
def progress (conditions : Conditions σ) (turn : Turn σ) : Progress σ :=
  conditions.runCommand turn.leaf.name turn.leaf.text turn.recorded turn.memory

/-- The turn ends well. -/
def IsDone (conditions : Conditions σ) (turn : Turn σ) : Prop :=
  (turn.progress conditions).ending = .ok ()

theorem isDone_or_error (conditions : Conditions σ) (turn : Turn σ) :
    turn.IsDone conditions ∨ ∃ fault, (turn.progress conditions).ending = .error fault := by
  rw [IsDone]
  cases (turn.progress conditions).ending with
  | ok _ => exact .inl rfl
  | error fault => exact .inr ⟨fault, rfl⟩

theorem not_isDone_of_error {conditions : Conditions σ} {turn : Turn σ} {fault : Fault}
    (h : (turn.progress conditions).ending = .error fault) : ¬turn.IsDone conditions := by
  rw [IsDone, h]
  exact nofun

end Turn

namespace Conditions

variable {σ : Type} (conditions : Conditions σ)

/-- The turns of the commands, one after the other, up to and including the first that does
not end well. -/
def turns : List Leaf → Nat → σ → List (Turn σ)
  | [], _, _ => []
  | leaf :: rest, recorded, memory =>
    let turn : Turn σ := ⟨leaf, recorded, memory⟩
    let own := turn.progress conditions
    turn ::
      match own.ending with
      | .ok () => turns rest (recorded + own.trace.records.length) own.memory
      | .error _ => []

/-- The effects of the turns, one after the other. -/
def effectsOf (turns : List (Turn σ)) : Trace :=
  turns.flatMap fun turn => (turn.progress conditions).trace.effects

/-- What the shell remembers after the turns. -/
def memoryAfter (start : σ) (turns : List (Turn σ)) : σ :=
  turns.foldl (fun _ turn => (turn.progress conditions).memory) start

theorem effectsOf_cons (turn : Turn σ) (rest : List (Turn σ)) :
    conditions.effectsOf (turn :: rest)
      = (turn.progress conditions).trace.effects ++ conditions.effectsOf rest :=
  List.flatMap_cons

theorem effectsOf_singleton (turn : Turn σ) :
    conditions.effectsOf [turn] = (turn.progress conditions).trace.effects := by
  rw [effectsOf_cons, effectsOf, List.flatMap_nil, List.append_nil]

theorem effectsOf_append (first second : List (Turn σ)) :
    conditions.effectsOf (first ++ second)
      = conditions.effectsOf first ++ conditions.effectsOf second :=
  List.flatMap_append

/-- Whatever is not read off the lines in the log can be read off the turns. -/
theorem filterMap_effectsOf {α : Type} {f : Happening → Option α}
    (h : ∀ line, f (.logged line) = none) (turns : List (Turn σ)) :
    (conditions.effectsOf turns).filterMap f
      = turns.flatMap fun turn => (turn.progress conditions).trace.filterMap f := by
  induction turns with
  | nil => rfl
  | cons turn rest ih =>
    rw [effectsOf_cons, List.filterMap_append, Trace.filterMap_effects h, ih, List.flatMap_cons]

theorem answered_effectsOf (turns : List (Turn σ)) :
    (conditions.effectsOf turns).answered
      = turns.flatMap fun turn => (turn.progress conditions).trace.answered :=
  conditions.filterMap_effectsOf (fun _ => rfl) turns

theorem records_effectsOf (turns : List (Turn σ)) :
    (conditions.effectsOf turns).records
      = turns.flatMap fun turn => (turn.progress conditions).trace.records :=
  conditions.filterMap_effectsOf (fun _ => rfl) turns

theorem events_effectsOf (turns : List (Turn σ)) :
    (conditions.effectsOf turns).events
      = turns.flatMap fun turn => (turn.progress conditions).trace.events :=
  conditions.filterMap_effectsOf (fun _ => rfl) turns

theorem memoryAfter_cons (start : σ) (turn : Turn σ) (rest : List (Turn σ)) :
    conditions.memoryAfter start (turn :: rest)
      = conditions.memoryAfter (turn.progress conditions).memory rest :=
  rfl

theorem memoryAfter_append (start : σ) (first second : List (Turn σ)) :
    conditions.memoryAfter start (first ++ second)
      = conditions.memoryAfter (conditions.memoryAfter start first) second :=
  List.foldl_append

variable {conditions}

theorem turns_cons_of_done {turn : Turn σ} (rest : List Leaf) (h : turn.IsDone conditions) :
    conditions.turns (turn.leaf :: rest) turn.recorded turn.memory
      = turn :: conditions.turns rest
          (turn.recorded + (turn.progress conditions).trace.records.length)
          (turn.progress conditions).memory := by
  rw [Turn.IsDone] at h
  rw [turns, h]

theorem turns_cons_of_error {turn : Turn σ} (rest : List Leaf) {fault : Fault}
    (h : (turn.progress conditions).ending = .error fault) :
    conditions.turns (turn.leaf :: rest) turn.recorded turn.memory = [turn] := by
  rw [turns, h]

/-- One command by itself has one turn. -/
theorem turns_singleton (turn : Turn σ) :
    conditions.turns [turn.leaf] turn.recorded turn.memory = [turn] := by
  rcases turn.isDone_or_error conditions with hdone | ⟨fault, hfault⟩
  · rw [turns_cons_of_done [] hdone]
    rfl
  · rw [turns_cons_of_error [] hfault]

/-- The commands that have a turn are the first of the given ones. -/
theorem turns_prefix (leaves : List Leaf) (recorded : Nat) (memory : σ) :
    (conditions.turns leaves recorded memory).map Turn.leaf <+: leaves := by
  induction leaves generalizing recorded memory with
  | nil => exact List.prefix_refl []
  | cons leaf rest ih =>
    rcases Turn.isDone_or_error conditions ⟨leaf, recorded, memory⟩ with hdone | ⟨fault, hfault⟩
    · rw [turns_cons_of_done rest hdone]
      exact (List.prefix_cons_inj leaf).2 (ih _ _)
    · rw [turns_cons_of_error rest hfault]
      exact ⟨rest, rfl⟩

/-- Every turn but the last ends well. -/
theorem turns_dropLast (leaves : List Leaf) (recorded : Nat) (memory : σ) :
    ∀ turn ∈ (conditions.turns leaves recorded memory).dropLast, turn.IsDone conditions := by
  induction leaves generalizing recorded memory with
  | nil => exact nofun
  | cons leaf rest ih =>
    rcases Turn.isDone_or_error conditions ⟨leaf, recorded, memory⟩ with hdone | ⟨fault, hfault⟩
    · rw [turns_cons_of_done rest hdone]
      intro turn hturn
      rw [List.dropLast_cons_of_ne_nil (by rintro h; simp [h] at hturn)] at hturn
      rcases List.mem_cons.1 hturn with rfl | hlater
      · exact hdone
      · exact ih _ _ turn hlater
    · rw [turns_cons_of_error rest hfault]
      exact nofun

/-- Only a turn that does not end well keeps the later commands from having theirs. -/
theorem turns_complete {leaves : List Leaf} {recorded : Nat} {memory : σ}
    (h : ∀ turn ∈ conditions.turns leaves recorded memory, turn.IsDone conditions) :
    (conditions.turns leaves recorded memory).map Turn.leaf = leaves := by
  induction leaves generalizing recorded memory with
  | nil => rfl
  | cons leaf rest ih =>
    have hdone : Turn.IsDone conditions ⟨leaf, recorded, memory⟩ := h _ List.mem_cons_self
    rw [turns_cons_of_done rest hdone] at h ⊢
    rw [List.map_cons, ih fun turn hturn => h turn (List.mem_cons_of_mem _ hturn)]

/-- Two lists of commands take their turns as one list, unless the first is cut short. -/
theorem turns_append_of_done {first : List Leaf} (second : List Leaf) {recorded : Nat}
    {memory : σ}
    (h : ∀ turn ∈ conditions.turns first recorded memory, turn.IsDone conditions) :
    let earlier := conditions.turns first recorded memory
    conditions.turns (first ++ second) recorded memory
      = earlier ++ conditions.turns second
          (recorded + (conditions.effectsOf earlier).records.length)
          (conditions.memoryAfter memory earlier) := by
  induction first generalizing recorded memory with
  | nil => rfl
  | cons leaf rest ih =>
    have hdone : Turn.IsDone conditions ⟨leaf, recorded, memory⟩ := h _ List.mem_cons_self
    have hturns := turns_cons_of_done rest hdone
    dsimp only at hturns ⊢
    rw [hturns] at h
    -- the records of the first turn are counted before those of the others
    rw [List.cons_append, turns_cons_of_done (rest ++ second) hdone, hturns,
      ih fun turn hturn => h turn (List.mem_cons_of_mem _ hturn), effectsOf_cons,
      Trace.records_append, List.length_append, Trace.records_effects, ← Nat.add_assoc]
    rfl

/-- If the first list is cut short, no command of the second has a turn. -/
theorem turns_append_of_error {first : List Leaf} (second : List Leaf) {recorded : Nat}
    {memory : σ} {turn : Turn σ} {fault : Fault}
    (hmem : turn ∈ conditions.turns first recorded memory)
    (hfault : (turn.progress conditions).ending = .error fault) :
    conditions.turns (first ++ second) recorded memory
      = conditions.turns first recorded memory := by
  induction first generalizing recorded memory with
  | nil => cases hmem
  | cons leaf rest ih =>
    rcases Turn.isDone_or_error conditions ⟨leaf, recorded, memory⟩ with hdone | ⟨why, hwhy⟩
    · have hturns := turns_cons_of_done rest hdone
      dsimp only at hturns
      rw [hturns] at hmem ⊢
      have hlater := (List.mem_cons.1 hmem).resolve_left fun heq =>
        Turn.not_isDone_of_error hfault (heq ▸ hdone)
      rw [List.cons_append, turns_cons_of_done (rest ++ second) hdone, ih hlater]
    · rw [List.cons_append, turns_cons_of_error (rest ++ second) hwhy,
        turns_cons_of_error rest hwhy]

end Conditions

/-! ## A run takes turns

`Progress.Takes` compares what a run led to with a list of turns. A command by itself takes
one turn. A series that goes on takes its children's turns joined; one that stops takes the
turns up to there, and those are all, because the turns stop at the same place. What the
ending says about the way to the last turn is kept general (`reaches`), since the children
of a series from some position on are no plan. -/

/-- What a run led to is what these turns lead to. -/
structure Progress.Takes {σ : Type} (progress : Progress σ) (conditions : Conditions σ)
    (turns : List (Turn σ)) (start : σ) (reaches : List Link → List Leaf → Leaf → Prop) :
    Prop where
  effects : progress.trace.effects = conditions.effectsOf turns
  memory : progress.memory = conditions.memoryAfter start turns
  ending : (progress.ending = .ok () ∧ ∀ turn ∈ turns, turn.IsDone conditions) ∨
    ∃ earlier turn fault links, turns = earlier ++ [turn] ∧
      (turn.progress conditions).ending = .error fault ∧
      progress.ending = .error (fault.passedOn links) ∧
      reaches links (earlier.map Turn.leaf) turn.leaf

namespace Progress.Takes

variable {σ : Type} {conditions : Conditions σ} {first second : Progress σ} {start : σ}
  {reaches further : List Link → List Leaf → Leaf → Prop}

/-- A run that ended well has had a turn for every command, and they all ended well. -/
theorem done {turns : List (Turn σ)} (h : first.Takes conditions turns start reaches)
    (hok : first.ending = .ok ()) : ∀ turn ∈ turns, turn.IsDone conditions := by
  rcases h.ending with ⟨-, hdone⟩ | ⟨_, _, _, _, -, -, hending, -⟩
  · exact hdone
  · rw [hok] at hending
    cases hending

/-- A run ends well exactly if all its turns do. -/
theorem ending_eq_ok_iff {turns : List (Turn σ)} (h : first.Takes conditions turns start reaches) :
    first.ending = .ok () ↔ ∀ turn ∈ turns, turn.IsDone conditions := by
  refine ⟨h.done, fun hall => ?_⟩
  rcases h.ending with ⟨hok, -⟩ | ⟨earlier, turn, _, _, hturns, hown, -, -⟩
  · exact hok
  · have hmem : turn ∈ turns := hturns ▸ List.mem_append_right earlier (List.mem_singleton_self turn)
    exact absurd (hall turn hmem) (Turn.not_isDone_of_error hown)

/-- A run that is cut short is so by its last turn. -/
theorem last {turns : List (Turn σ)} {fault : Fault}
    (h : first.Takes conditions turns start reaches) (hfault : first.ending = .error fault) :
    ∃ earlier turn own links, turns = earlier ++ [turn] ∧
      (turn.progress conditions).ending = .error own ∧ fault = own.passedOn links ∧
      reaches links (earlier.map Turn.leaf) turn.leaf := by
  rcases h.ending with ⟨hok, -⟩ | ⟨earlier, turn, own, links, hturns, hown, hending, hreach⟩
  · rw [hfault] at hok
    cases hok
  · rw [hfault] at hending
    exact ⟨earlier, turn, own, links, hturns, hown, Except.error.inj hending, hreach⟩

/-- Two runs that take the same turns are cut short by the same fault, each with its own way
up. -/
theorem same_fault {turns : List (Turn σ)} {fault : Fault}
    (h : first.Takes conditions turns start reaches)
    (hsecond : second.Takes conditions turns start further) (hfault : first.ending = .error fault) :
    ∃ (own : Fault) (links others : List Link), fault = own.passedOn links ∧
      second.ending = .error (own.passedOn others) := by
  obtain ⟨earlier, turn, own, links, hturns, hown, heq, -⟩ := h.last hfault
  rcases hsecond.ending with ⟨-, hdone⟩ | ⟨before, last, other, others, hsame, hother, hend, -⟩
  · have hmem : turn ∈ turns := hturns ▸ List.mem_append_right earlier (List.mem_singleton_self turn)
    exact absurd (hdone turn hmem) (Turn.not_isDone_of_error hown)
  · obtain ⟨-, hlast⟩ := List.append_inj' (hturns.symm.trans hsame) rfl
    obtain rfl : turn = last := List.head_eq_of_cons_eq hlast
    rw [hown] at hother
    obtain rfl : own = other := Except.error.inj hother
    exact ⟨own, links, others, heq, hend⟩

/-- After commands whose run ended well, those of a second list have their turns. -/
theorem turns_append {a : List Leaf} (b : List Leaf) {recorded : Nat}
    (h : first.Takes conditions (conditions.turns a recorded start) start reaches)
    (hok : first.ending = .ok ()) :
    conditions.turns (a ++ b) recorded start
      = conditions.turns a recorded start
        ++ conditions.turns b (recorded + first.trace.records.length) first.memory := by
  rw [Conditions.turns_append_of_done b (h.done hok), ← h.effects, Trace.records_effects,
    ← h.memory]

/-- After commands whose run was cut short, those of a second list have none. -/
theorem turns_append_of_fault {a : List Leaf} (b : List Leaf) {recorded : Nat} {fault : Fault}
    (h : first.Takes conditions (conditions.turns a recorded start) start reaches)
    (hfault : first.ending = .error fault) :
    conditions.turns (a ++ b) recorded start = conditions.turns a recorded start := by
  obtain ⟨earlier, turn, own, links, hturns, hown, -, -⟩ := h.last hfault
  have hmem : turn ∈ conditions.turns a recorded start := by
    rw [hturns]
    exact List.mem_append_right earlier (List.mem_singleton_self turn)
  exact Conditions.turns_append_of_error b hmem hown

/-- A part that ended well is followed by the next. -/
theorem append {a b : List (Turn σ)} {whole : List Link → List Leaf → Leaf → Prop}
    (hfirst : first.Takes conditions a start reaches) (hok : first.ending = .ok ())
    (hsecond : second.Takes conditions b first.memory further)
    (hreach : ∀ links before leaf, further links before leaf →
      whole links (a.map Turn.leaf ++ before) leaf) :
    (⟨second.ending, first.trace ++ second.trace, second.memory⟩ : Progress σ).Takes conditions
      (a ++ b) start whole where
  effects := by
    rw [Trace.effects_append, hfirst.effects, hsecond.effects, Conditions.effectsOf_append]
  memory := by
    rw [Conditions.memoryAfter_append, ← hfirst.memory, ← hsecond.memory]
  ending := by
    rcases hsecond.ending with ⟨hdone, hall⟩ | ⟨earlier, turn, own, links, rfl, hown, hend, hlast⟩
    · refine .inl ⟨hdone, fun turn hturn => ?_⟩
      exact (List.mem_append.1 hturn).elim (hfirst.done hok turn) (hall turn)
    · refine .inr ⟨a ++ earlier, turn, own, links, (List.append_assoc ..).symm, hown, hend, ?_⟩
      rw [List.map_append]
      exact hreach _ _ _ hlast

/-- A part that was cut short is passed on, with one link more on the way. -/
theorem stop {turns : List (Turn σ)} {fault passed : Fault} {lines : Trace} (link : Link)
    (h : first.Takes conditions turns start reaches) (hfault : first.ending = .error fault)
    (hlines : lines.effects = [])
    (hpassed : ∀ (own : Fault) (links : List Link), fault = own.passedOn links →
      passed = own.passedOn (link :: links))
    (hreach : ∀ links before leaf, reaches links before leaf →
      further (link :: links) before leaf) :
    (⟨.error passed, first.trace ++ lines, first.memory⟩ : Progress σ).Takes conditions
      turns start further where
  effects := by
    rw [Trace.effects_append, hlines, List.append_nil, h.effects]
  memory := h.memory
  ending := by
    obtain ⟨earlier, turn, own, links, hturns, hown, heq, hlast⟩ := h.last hfault
    refine .inr ⟨earlier, turn, own, link :: links, hturns, hown, ?_, hreach _ _ _ hlast⟩
    rw [hpassed own links heq]

end Progress.Takes

section Trees

variable {σ : Type} (conditions : Conditions σ)

/-- One command takes one turn. -/
theorem Turn.takes (turn : Turn σ) :
    (turn.progress conditions).Takes conditions
      (conditions.turns [turn.leaf] turn.recorded turn.memory) turn.memory
      (Plan.command turn.leaf.name turn.leaf.text).LeadsTo := by
  rw [Conditions.turns_singleton turn]
  refine ⟨?_, rfl, ?_⟩
  · rw [Conditions.effectsOf_singleton]
  · rcases turn.isDone_or_error conditions with hdone | ⟨fault, hfault⟩
    · refine .inl ⟨hdone, fun other hother => ?_⟩
      rw [List.mem_singleton.1 hother]
      exact hdone
    · refine .inr ⟨[], turn, fault, [], rfl, hfault, ?_, .command _ _⟩
      cases fault <;> exact hfault

mutual

/-- **A run takes turns.** What a plan's run leads to is what the turns of its commands lead
to, and if the last of them fails, the failure comes up the way that leads to it. -/
theorem Plan.run_takes : ∀ (plan : Plan) (recorded : Nat) (memory : σ),
    (plan.run conditions recorded memory).Takes conditions
      (conditions.turns plan.leaves recorded memory) memory plan.LeadsTo
  | .command name text, recorded, memory => by
    rw [Plan.run, Plan.leaves]
    exact Turn.takes conditions ⟨⟨name, text⟩, recorded, memory⟩
  | .serial name children, recorded, memory => by
    rw [Plan.run, Plan.leaves]
    exact Plan.runFrom_takes children name [] recorded memory

/-- The children of a series from some position on take their commands' turns. -/
theorem Plan.runFrom_takes : ∀ (children : List Plan) (sequence : String) (earlier : List Plan)
    (recorded : Nat) (memory : σ),
    (Plan.runFrom conditions sequence earlier.length children recorded memory).Takes conditions
      (conditions.turns (Plan.leavesOf children) recorded memory) memory
      (fun links before leaf => (Plan.serial sequence (earlier ++ children)).LeadsTo links
        (Plan.leavesOf earlier ++ before) leaf)
  | [], sequence, earlier, recorded, memory => by
    rw [Plan.runFrom, Plan.leavesOf]
    exact ⟨rfl, rfl, .inl ⟨rfl, nofun⟩⟩
  | child :: rest, sequence, earlier, recorded, memory => by
    have hchild := Plan.run_takes child recorded memory
    -- what leads to a command of the child leads to it from the series, by one link more
    have hdown : ∀ links before leaf, child.LeadsTo links before leaf →
        (Plan.serial sequence (earlier ++ child :: rest)).LeadsTo
          (⟨sequence, earlier.length, child.name⟩ :: links)
          (Plan.leavesOf earlier ++ before) leaf :=
      fun _ _ _ h => .serial sequence earlier rest h
    rw [Plan.runFrom, Plan.leavesOf]
    dsimp only
    split
    · next hok =>
      have hrest := Plan.runFrom_takes rest sequence (earlier ++ [child])
        (recorded + (child.run conditions recorded memory).trace.records.length)
        (child.run conditions recorded memory).memory
      rw [hchild.turns_append _ hok]
      rw [List.length_append] at hrest
      refine hchild.append hok hrest fun links before leaf h => ?_
      rw [Conditions.turns_complete (hchild.done hok)]
      rw [List.append_assoc, Plan.leavesOf_append, List.append_assoc] at h
      simpa [Plan.leavesOf] using h
    · next failure hfailure =>
      rw [hchild.turns_append_of_fault _ hfailure]
      exact hchild.stop _ hfailure (Conditions.effects_skipped sequence rest.length)
        (fun own links h => Fault.passedOn_cons_of_failure h ⟨sequence, earlier.length, child.name⟩)
        hdown
    · next text hcrash =>
      rw [hchild.turns_append_of_fault _ hcrash,
        ← List.append_nil (child.run conditions recorded memory).trace]
      exact hchild.stop _ hcrash rfl
        (fun own links h => Fault.passedOn_cons_of_crash h ⟨sequence, earlier.length, child.name⟩)
        hdown

end

/-- A report adds a line to the log at most. -/
theorem Plan.execute_effects (plan : Plan) (recorded : Nat) (memory : σ) :
    (plan.execute conditions recorded memory).trace.effects
      = (plan.run conditions recorded memory).trace.effects := by
  unfold Plan.execute
  dsimp only
  split
  · rfl
  · rw [Trace.effects_append]
    exact List.append_nil _
  · rfl

end Trees

end Taskbook
