/-
The console follows the last set-up that succeeded.

A line goes a long way before it is written. The logger that it is reported to takes it or not, by
its own level or, if it has none, by that of the next logger above. What is taken is offered to the
handlers there and at all loggers above, up to the root, and each of them has a level and a filter
of its own. `Console` is the end of this way alone, the root as the program leaves it. Here the way
is spelled out (`Logger.written`), with any loggers below the root and any handlers that others have
put there. A console is a root with no handlers but the program's (`Console.root`): it is set up in
the same way (`Console.root_setUp`), and what a plain logger reports to it is written as the console
shows it (`Console.written_root`).

Setting up replaces all that decides over a line at the root, and a refusal replaces nothing. So
after any calls the root is as the last one left it that was not refused (`Logger.after_of_setLast`),
with one handler, and what it had before does not matter.
-/
import Mathlib.Data.List.Induction
import Taskbook.Console

set_option autoImplicit false

namespace Taskbook

/-! ## The way of a line -/

/-- What writes lines at a logger. -/
structure Handler where
  /-- What tells it from other handlers. -/
  number : Nat
  /-- The level from which on it writes. -/
  level : Level
  /-- The filter that a line has to pass. -/
  passes : LogLine → Bool
  /-- What it writes is seen on the console. -/
  onConsole : Bool

namespace Handler

/-- The line is written by the handler, and seen on the console. -/
def writes (handler : Handler) (line : LogLine) : Bool :=
  decide (handler.level ≤ line.level) && handler.passes line && handler.onConsole

/-- What writes a line that comes to no handler. -/
def lastResort : Handler := ⟨0, .warning, fun _ => true, true⟩

/-- The handler that the program puts at the root. -/
def ofProgram (level : Level) : Handler := ⟨1, level, LogLine.isWanted, true⟩

end Handler

/-- A place that lines are reported to. -/
structure Logger where
  /-- The level from which on it takes lines, or `notSet` if it has none of its own. -/
  level : Level := .notSet
  handlers : List Handler := []
  /-- The filter for lines that are reported here, and not for those from below. -/
  passes : LogLine → Bool := fun _ => true
  /-- Lines go on to the logger above. -/
  propagates : Bool := true

/-- The logger has no level, handler or filter of its own, and lines go on from it. -/
structure Logger.IsPlain (logger : Logger) : Prop where
  level : logger.level = .notSet
  handlers : logger.handlers = []
  passes : ∀ line, logger.passes line = true
  propagates : logger.propagates = true

/-- The line passes by the logger on its way up: it is not held back there, not written to the
console, and goes on. -/
structure Logger.LetsBy (line : LogLine) (logger : Logger) : Prop where
  level : logger.level ≤ line.level
  silent : ∀ handler ∈ logger.handlers, handler.writes line = false
  propagates : logger.propagates = true

theorem Logger.isPlain_default : ({} : Logger).IsPlain :=
  ⟨rfl, rfl, fun _ => rfl, rfl⟩

/-- Every line passes by a plain logger. -/
theorem Logger.IsPlain.letsBy {logger : Logger} (h : logger.IsPlain) {line : LogLine}
    (hline : 1 ≤ line.level) : logger.LetsBy line where
  level := h.level ▸ Int.le_of_lt hline
  silent := h.handlers ▸ nofun
  propagates := h.propagates

namespace Logger

/-- The level that counts at the first of these loggers, each of which stands below the next. -/
def effectiveLevel : List Logger → Level
  | [] => .notSet
  | logger :: above => if logger.level = .notSet then effectiveLevel above else logger.level

/-- The handlers that a line from the first of these loggers comes to. -/
def reached : List Logger → List Handler
  | [] => []
  | logger :: above => logger.handlers ++ if logger.propagates then reached above else []

/-- The first of these loggers takes the line. Lines below the lowest level never are. -/
def takes : List Logger → LogLine → Bool
  | [], _ => false
  | logger :: above, line =>
    decide (Level.notSet < line.level) &&
      decide (effectiveLevel (logger :: above) ≤ line.level) && logger.passes line

/-- The handlers that a line is offered to. -/
def offered (loggers : List Logger) : List Handler :=
  if (reached loggers).isEmpty then [.lastResort] else reached loggers

/-- What is seen on the console of a line that is reported to the first of these loggers: the line,
once for every handler that writes it there. -/
def written (loggers : List Logger) (line : LogLine) : List LogLine :=
  if takes loggers line then
    ((offered loggers).filter fun handler => handler.writes line).map fun _ => line
  else []

/-! ## Setting the root up -/

/-- The logger without the first of its handlers that is this one. -/
def remove (logger : Logger) (handler : Handler) : Logger :=
  { logger with handlers := logger.handlers.eraseP fun other => other.number == handler.number }

/-- Sets the root up at the level asked for: every handler that is there is taken away, one by one,
and the program's is put there. A level that is refused is so before anything is changed. -/
def setUp (choice : LevelChoice) (root : Logger) : Except LevelError Unit × Logger :=
  match choice.level with
  | .ok level =>
    let cleared := root.handlers.foldl remove { root with level := level }
    (.ok (), { cleared with handlers := cleared.handlers ++ [.ofProgram level] })
  | .error error => (.error error, root)

/-- The root at this level, with no handler but the program's. -/
def atLevel (level : Level) (root : Logger) : Logger :=
  { root with level := level, handlers := [.ofProgram level] }

/-- Taking its own handlers away one by one leaves none, even if one of them is there twice. -/
theorem foldl_remove (logger : Logger) :
    logger.handlers.foldl remove logger = { logger with handlers := [] } := by
  obtain ⟨level, handlers, passes, propagates⟩ := logger
  induction handlers with
  | nil => rfl
  | cons handler rest ih =>
    have hfirst : remove ⟨level, handler :: rest, passes, propagates⟩ handler
        = ⟨level, rest, passes, propagates⟩ := by
      simp [remove]
    rw [List.foldl_cons, hfirst]
    exact ih

theorem setUp_of_ok {choice : LevelChoice} {level : Level} (h : choice.level = .ok level)
    (root : Logger) : root.setUp choice = (.ok (), root.atLevel level) := by
  rw [setUp, h]
  dsimp only
  rw [foldl_remove { root with level := level }]
  rfl

/-- A level that is refused changes nothing. -/
theorem setUp_of_error {choice : LevelChoice} {error : LevelError} (h : choice.level = .error error)
    (root : Logger) : root.setUp choice = (.error error, root) := by
  rw [setUp, h]

/-- The root after it has been set up, or not, with each of these levels. -/
def after (root : Logger) (choices : List LevelChoice) : Logger :=
  choices.foldl (fun root choice => (root.setUp choice).2) root

end Logger

namespace Console

/-- The console after it has been set up, or not, with each of these levels. -/
def after (console : Console) (choices : List LevelChoice) : Console :=
  choices.foldl (fun console choice => (console.setUp choice).2) console

/-- The root that a console is: all its handlers are the program's. -/
def root (console : Console) : Logger where
  level := console.level
  handlers := console.handlers.map .ofProgram

/-- Setting a console up is setting its root up. -/
theorem root_setUp (choice : LevelChoice) (console : Console) :
    console.root.setUp choice = ((console.setUp choice).1, (console.setUp choice).2.root) := by
  cases h : choice.level with
  | ok level =>
    rw [Logger.setUp_of_ok h, setUp, h]
    rfl
  | error error => rw [Logger.setUp_of_error h, setUp, h]

theorem root_after (console : Console) (choices : List LevelChoice) :
    (console.after choices).root = console.root.after choices := by
  induction choices generalizing console with
  | nil => rfl
  | cons choice rest ih =>
    rw [Logger.after, List.foldl_cons, root_setUp]
    exact ih (console.setUp choice).2

end Console

/-! ## The last set-up that succeeded -/

/-- The level was set last: later ones that were asked for have been refused. -/
def SetLast (choices : List LevelChoice) (level : Level) : Prop :=
  ∃ before choice after, choices = before ++ choice :: after ∧ choice.level = .ok level ∧
    ∀ later ∈ after, ∃ error, later.level = .error error

/-- One of the levels was set last as soon as one was not refused. -/
theorem exists_setLast_iff {choices : List LevelChoice} :
    (∃ level, SetLast choices level) ↔ ∃ choice ∈ choices, ∃ level, choice.level = .ok level := by
  constructor
  · rintro ⟨level, before, choice, after, rfl, hlevel, -⟩
    exact ⟨choice, List.mem_append_right _ List.mem_cons_self, level, hlevel⟩
  · rintro ⟨choice, hchoice, level, hlevel⟩
    -- from the end: the last choice is taken, or it is one of those that are refused since
    induction choices using List.reverseRecOn with
    | nil => cases hchoice
    | append_singleton earlier last ih =>
      cases hlast : last.level with
      | ok own => exact ⟨own, earlier, last, [], rfl, hlast, nofun⟩
      | error error =>
        have hearlier : choice ∈ earlier := by
          rcases List.mem_append.1 hchoice with h | h
          · exact h
          · rw [List.mem_singleton.1 h, hlast] at hlevel
            cases hlevel
        obtain ⟨own, before, set, after, rfl, hset, hrefused⟩ := ih hearlier
        refine ⟨own, before, set, after ++ [last], by simp, hset, fun later hlater => ?_⟩
        rcases List.mem_append.1 hlater with h | h
        · exact hrefused later h
        · exact ⟨error, List.mem_singleton.1 h ▸ hlast⟩

namespace Logger

variable {choices : List LevelChoice} {level : Level}

theorem after_of_refused (h : ∀ choice ∈ choices, ∃ error, choice.level = .error error)
    (root : Logger) : root.after choices = root := by
  induction choices with
  | nil => rfl
  | cons choice rest ih =>
    obtain ⟨⟨error, herror⟩, hrest⟩ := List.forall_mem_cons.1 h
    rw [after, List.foldl_cons, setUp_of_error herror]
    exact ih hrest

/-- After any calls, the root is at the level that was set last, whatever it was before. -/
theorem after_of_setLast (h : SetLast choices level) (root : Logger) :
    ∃ before : Logger, root.after choices = before.atLevel level := by
  obtain ⟨before, choice, later, rfl, hlevel, hrefused⟩ := h
  refine ⟨root.after before, ?_⟩
  have hlater := after_of_refused hrefused ((root.after before).atLevel level)
  rw [after, List.foldl_append, List.foldl_cons]
  change (((root.after before).setUp choice).2).after later = _
  rw [setUp_of_ok hlevel]
  exact hlater

end Logger

/-! ## What is written -/

theorem LogLine.isWanted_iff {line : LogLine} :
    line.isWanted = true ↔
      "contract_tasks".toList <+: line.logger.toList ∨ Level.error ≤ line.level := by
  rw [isWanted, Bool.or_eq_true, List.isPrefixOf_iff_prefix, decide_eq_true_iff]

/-- A console at this level shows the line: it is of this level or above, and the program's own or
an error. -/
def LogLine.IsShownAt (level : Level) (line : LogLine) : Prop :=
  level ≤ line.level ∧
    ("contract_tasks".toList <+: line.logger.toList ∨ Level.error ≤ line.level)

instance (level : Level) (line : LogLine) : Decidable (line.IsShownAt level) :=
  inferInstanceAs (Decidable (_ ∧ _))

theorem Handler.writes_ofProgram {level : Level} {line : LogLine} :
    (ofProgram level).writes line = true ↔ line.IsShownAt level := by
  rw [writes, ofProgram, Bool.and_true, Bool.and_eq_true, decide_eq_true_iff,
    LogLine.isWanted_iff, LogLine.IsShownAt]

namespace Logger

variable {way above : List Logger} {logger root : Logger} {line : LogLine} {level : Level}

theorem effectiveLevel_singleton (root : Logger) : effectiveLevel [root] = root.level := by
  rw [effectiveLevel, effectiveLevel]
  split
  · next h => exact h.symm
  · rfl

theorem reached_singleton (root : Logger) : reached [root] = root.handlers := by
  rw [reached, reached, ite_self, List.append_nil]

/-- Where the line passes by, it is not held back if the root does not hold it back. -/
theorem effectiveLevel_le (hway : ∀ logger ∈ way, logger.LetsBy line)
    (hroot : root.level ≤ line.level) : effectiveLevel (way ++ [root]) ≤ line.level := by
  induction way with
  | nil => exact (effectiveLevel_singleton root).symm ▸ hroot
  | cons logger rest ih =>
    obtain ⟨hlogger, hrest⟩ := List.forall_mem_cons.1 hway
    rw [List.cons_append, effectiveLevel]
    split
    · exact ih hrest
    · exact hlogger.level

/-- Where the line passes by, it comes to the handlers of the root, and to others only that do not
write it. -/
theorem exists_reached (hway : ∀ logger ∈ way, logger.LetsBy line) (root : Logger) :
    ∃ others, reached (way ++ [root]) = others ++ root.handlers ∧
      ∀ handler ∈ others, handler.writes line = false := by
  induction way with
  | nil => exact ⟨[], reached_singleton root, nofun⟩
  | cons logger rest ih =>
    obtain ⟨hlogger, hrest⟩ := List.forall_mem_cons.1 hway
    obtain ⟨others, hreached, hsilent⟩ := ih hrest
    refine ⟨logger.handlers ++ others, ?_, fun handler hhandler => ?_⟩
    · rw [List.cons_append, reached, hlogger.propagates, if_pos rfl, hreached, List.append_assoc]
    · exact (List.mem_append.1 hhandler).elim (hlogger.silent handler) (hsilent handler)

/-- Where the line passes by, it is offered to the handlers of the root as if they were alone. -/
theorem filter_offered (hway : ∀ logger ∈ way, logger.LetsBy line) (hroot : root.handlers ≠ []) :
    (offered (way ++ [root])).filter (fun handler => handler.writes line)
      = root.handlers.filter fun handler => handler.writes line := by
  obtain ⟨others, hreached, hsilent⟩ := exists_reached hway root
  have hothers : others.filter (fun handler => handler.writes line) = [] := by
    simpa using hsilent
  rw [offered, hreached, if_neg (by simp [hroot]), List.filter_append, hothers, List.nil_append]

/-- A plain logger takes the line if the level that counts is not above it. -/
theorem takes_of_plain (hlogger : logger.IsPlain) (hline : 1 ≤ line.level)
    (hlevel : effectiveLevel (logger :: above) ≤ line.level) :
    takes (logger :: above) line = true := by
  have hlowest : Level.notSet < line.level := hline
  simp [takes, hlowest, hlevel, hlogger.passes line]

/-- A root at this level writes the line once if it is shown there, and else not at all. -/
theorem written_atLevel (hlogger : logger.IsPlain) (habove : ∀ other ∈ above, other.LetsBy line)
    (hline : 1 ≤ line.level) (root : Logger) (level : Level) :
    written (logger :: above ++ [root.atLevel level]) line
      = if line.IsShownAt level then [line] else [] := by
  have hway : ∀ other ∈ logger :: above, other.LetsBy line :=
    List.forall_mem_cons.2 ⟨hlogger.letsBy hline, habove⟩
  have hhandlers : (root.atLevel level).handlers = [.ofProgram level] := rfl
  rw [written, filter_offered hway (hhandlers ▸ List.cons_ne_nil _ _), hhandlers]
  by_cases hshown : line.IsShownAt level
  · have hwrites : (Handler.ofProgram level).writes line = true :=
      Handler.writes_ofProgram.2 hshown
    have htakes : takes (logger :: above ++ [root.atLevel level]) line = true :=
      takes_of_plain hlogger hline (effectiveLevel_le hway hshown.1)
    rw [if_pos htakes]
    simp [hshown, hwrites]
  · have hwrites : (Handler.ofProgram level).writes line = false :=
      eq_false_of_ne_true (mt Handler.writes_ofProgram.1 hshown)
    simp [hshown, hwrites]

end Logger

namespace Console

/-- A line that comes to a console from a plain logger is written as the console shows it. -/
theorem written_root {logger : Logger} (hlogger : logger.IsPlain) {console : Console}
    (hhandlers : console.handlers ≠ []) (line : LogLine) :
    Logger.written [logger, console.root] line = console.shown [line] := by
  have htakes : Logger.takes [logger, console.root] line = console.takes line := by
    rw [Logger.takes, Logger.effectiveLevel, if_pos hlogger.level,
      Logger.effectiveLevel_singleton, hlogger.passes line, Bool.and_true]
    rfl
  have hoffered : Logger.offered [logger, console.root] = console.handlers.map .ofProgram := by
    rw [Logger.offered, Logger.reached, hlogger.handlers, hlogger.propagates, if_pos rfl,
      Logger.reached_singleton, List.nil_append, root, if_neg (by simpa using hhandlers)]
  have hwrites (level : Level) : (Handler.ofProgram level).writes line
      = (decide (level ≤ line.level) && line.isWanted) := by
    rw [Handler.writes, Handler.ofProgram, Bool.and_true]
  rw [Logger.written, htakes, hoffered, shown, List.flatMap_singleton, List.filter_map,
    List.map_map]
  simp only [Function.comp_def, hwrites]

/-- **The console shows what the level that was set last lets through**, each line once and in its
place. -/
theorem shown_after {choices : List LevelChoice} {level : Level} (h : SetLast choices level)
    (console : Console) {lines : List LogLine} (hlines : ∀ line ∈ lines, 1 ≤ line.level) :
    (console.after choices).shown lines = lines.filter fun line => line.IsShownAt level := by
  obtain ⟨before, hbefore⟩ := Logger.after_of_setLast h console.root
  have hroot : (console.after choices).root = before.atLevel level :=
    (console.root_after choices).trans hbefore
  have hhandlers : (console.after choices).handlers ≠ [] := by
    intro hnone
    have hmapped := congrArg Logger.handlers hroot
    rw [root, hnone] at hmapped
    cases hmapped
  -- line by line, as if each had come from a plain logger
  induction lines with
  | nil => rfl
  | cons line rest ih =>
    obtain ⟨hline, hrest⟩ := List.forall_mem_cons.1 hlines
    have hshown : (console.after choices).shown [line]
        = if line.IsShownAt level then [line] else [] := by
      have hnone : ∀ other ∈ ([] : List Logger), other.LetsBy line := nofun
      rw [← written_root Logger.isPlain_default hhandlers, hroot]
      exact Logger.written_atLevel Logger.isPlain_default hnone hline before level
    have hsplit : (console.after choices).shown (line :: rest)
        = (console.after choices).shown [line] ++ (console.after choices).shown rest := by
      rw [shown, shown, shown, List.flatMap_cons, List.flatMap_singleton]
    rw [hsplit, hshown, ih hrest]
    by_cases hlevel : line.IsShownAt level <;> simp [hlevel]

end Console

/-! ## The statement -/

namespace Logger

/-- **The console follows the last set-up that succeeded, and never doubles.** Some level was set
last as soon as one was not refused. Take a line that is reported to a plain logger and passes by
those between it and the root. It is written once if it is of that level or above and is the
program's own or an error, and else not at all, whatever level and handlers the root had at first.
So a console shows the lines that this lets through, each of them once. A set-up succeeds unless its
level is refused, and if it is refused the root keeps its level and its handlers, as does a
console. -/
theorem console_follows_last_setUp (choices : List LevelChoice) :
    ((∃ level, SetLast choices level) ↔ ∃ choice ∈ choices, ∃ level, choice.level = .ok level) ∧
    (∀ level, SetLast choices level →
      (∀ (root logger : Logger) (above : List Logger) (line : LogLine), logger.IsPlain →
        (∀ other ∈ above, other.LetsBy line) → 1 ≤ line.level →
        written (logger :: above ++ [root.after choices]) line
          = if line.IsShownAt level then [line] else []) ∧
      ∀ (console : Console) (lines : List LogLine), (∀ line ∈ lines, 1 ≤ line.level) →
        (console.after choices).shown lines
          = lines.filter fun line => line.IsShownAt level) ∧
    ∀ choice : LevelChoice,
      (∀ level, choice.level = .ok level →
        (∀ root : Logger, (root.setUp choice).1 = .ok ()) ∧
        ∀ console : Console, (console.setUp choice).1 = .ok ()) ∧
      ∀ error, choice.level = .error error →
        (∀ root : Logger, root.setUp choice = (.error error, root)) ∧
        ∀ console : Console, console.setUp choice = (.error error, console) := by
  refine ⟨exists_setLast_iff, fun level hlast => ⟨?_, ?_⟩, fun choice => ⟨?_, ?_⟩⟩
  · intro root logger above line hlogger habove hline
    obtain ⟨before, hbefore⟩ := after_of_setLast hlast root
    rw [hbefore]
    exact written_atLevel hlogger habove hline before level
  · intro console lines hlines
    exact Console.shown_after hlast console hlines
  · intro level hlevel
    constructor
    · intro root
      rw [setUp_of_ok hlevel]
    · intro console
      rw [Console.setUp, hlevel]
  · intro error herror
    constructor
    · intro root
      exact setUp_of_error herror root
    · intro console
      rw [Console.setUp, herror]

/-- Two handlers of others wrote every line twice. A set-up at a low level, one for warnings and one
that is refused leave one handler for warnings: an error from elsewhere is written once, a warning
from there not at all, and the program's own warning once. The logger in between has a level, a
filter and a handler of its own, but lets all three by. -/
theorem doubled_before_and_single_after :
    let root : Logger := { handlers := [⟨2, 0, fun _ => true, true⟩, ⟨3, 0, fun _ => true, true⟩] }
    let between : Logger :=
      { level := 10, handlers := [⟨4, 0, fun _ => true, false⟩], passes := fun _ => false }
    let choices : List LevelChoice := [.number 10, .text "wArn", .text "BASIC_FORMAT"]
    let gone : LogLine := ⟨40, "httpx.client", "gone"⟩
    let slow : LogLine := ⟨30, "httpx.client", "slow"⟩
    let own : LogLine := ⟨30, "contract_tasks.cli", "slow"⟩
    SetLast choices 30 ∧ ({} : Logger).IsPlain ∧
    (∀ line ∈ [gone, slow, own], 1 ≤ line.level ∧ between.LetsBy line) ∧
    written [{}, between, root] gone = [gone, gone] ∧
    written [{}, between, root.after choices] gone = [gone] ∧
    written [{}, between, root.after choices] slow = [] ∧
    written [{}, between, root.after choices] own = [own] ∧
    (Console.after {} choices).shown [gone, slow, own] = [gone, own] ∧
    ∃ error, root.setUp (.text "BASIC_FORMAT") = (.error error, root) := by
  intro root between choices gone slow own
  obtain ⟨-, hlast, hcalls⟩ := console_follows_last_setUp choices
  have hwarn : LevelChoice.level (.text "wArn") = .ok 30 := by decide +kernel
  have hform : LevelChoice.level (.text "BASIC_FORMAT") = .error .lineFormat := by decide +kernel
  have hset : SetLast choices 30 := by
    refine ⟨[.number 10], .text "wArn", [.text "BASIC_FORMAT"], rfl, hwarn, fun later hlater => ?_⟩
    rw [List.mem_singleton.1 hlater]
    exact ⟨_, hform⟩
  have hlines : ∀ line ∈ [gone, slow, own], 1 ≤ line.level := by decide
  have hby : ∀ line ∈ [gone, slow, own], ∀ other ∈ [between], other.LetsBy line := by
    intro line hline other hother
    rw [List.mem_singleton.1 hother]
    have hlevels : ∀ line ∈ [gone, slow, own], 10 ≤ line.level := by decide
    refine ⟨hlevels line hline, fun handler hhandler => ?_, rfl⟩
    simp [List.mem_singleton.1 hhandler, Handler.writes]
  obtain ⟨hall, hshown⟩ := hlast 30 hset
  have hwritten (line : LogLine) (hline : line ∈ [gone, slow, own]) :=
    hall root {} [between] line isPlain_default (hby line hline) (hlines line hline)
  refine ⟨hset, isPlain_default, fun line hline => ⟨hlines line hline, ?_⟩, rfl, ?_, ?_, ?_, ?_,
    _, ((hcalls _).2 _ hform).1 root⟩
  · exact hby line hline between List.mem_cons_self
  · exact (hwritten gone (by simp)).trans (if_pos (by decide +kernel))
  · exact (hwritten slow (by simp)).trans (if_neg (by decide +kernel))
  · exact (hwritten own (by simp)).trans (if_pos (by decide +kernel))
  · rw [hshown {} _ hlines]
    decide +kernel

end Logger

end Taskbook
