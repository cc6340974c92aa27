/-
The level that a text means.

A level is asked for by its name, in letters of any size, and a text that names none means the
normal level. That covers every text but two. The name is looked for among all that the
logging facility has under names in capitals, and two of these are no levels: the form of a
line and the table of the ways to write one. A text that names one of them is refused, and the
program ends without an exit code (`level_text_is_taken_unless_stray`).

The text reaches the console as the option, or through the preferences, which put it into
capitals themselves. Capitals stay as they are (`Text.upper_upper`), so both ways come to the
same.
-/
import Taskbook.Proofs.CommandLine.Program
import Taskbook.Proofs.Text.Upper

set_option autoImplicit false

namespace Taskbook

/-! ## Names -/

namespace Level

/-- The names of the levels. -/
def names : List (String × Level) := [
  ("CRITICAL", 50), ("FATAL", 50), ("ERROR", 40), ("WARNING", 30), ("WARN", 30), ("INFO", 20),
  ("DEBUG", 10), ("NOTSET", 0)]

/-- The names of what stands beside the levels and is none. -/
def strays : List (String × LevelError) := [
  ("BASIC_FORMAT", .lineFormat), ("_STYLES", .formatStyles)]

/-- The level that the text names, in letters of any size, else the normal one. -/
def ofText (text : String) : Level :=
  (names.lookup (Text.upper text)).getD 20

/-- What the text names instead of a level, in letters of any size. -/
def stray? (text : String) : Option LevelError :=
  strays.lookup (Text.upper text)

/-- A name that is no stray one is that of a level or means the normal level. -/
theorem named_eq (name : String) :
    named name =
      match strays.lookup name with
      | some error => .error error
      | none => .ok ((names.lookup name).getD 20) := by
  unfold named
  split
  case h_11 hcritical hfatal herror hwarning hwarn hinfo hdebug hnotSet hform hstyles =>
    have hstray : strays.lookup name = none := by
      simp only [strays, List.lookup_eq_none_iff, List.forall_mem_cons, List.not_mem_nil,
        false_implies, implies_true, and_true, bne_iff_ne]
      exact ⟨hform, hstyles⟩
    have hname : names.lookup name = none := by
      simp only [names, List.lookup_eq_none_iff, List.forall_mem_cons, List.not_mem_nil,
        false_implies, implies_true, and_true, bne_iff_ne]
      exact ⟨hcritical, hfatal, herror, hwarning, hwarn, hinfo, hdebug, hnotSet⟩
    rw [hstray, hname]
    rfl
  all_goals rfl

end Level

theorem LevelChoice.level_text (text : String) :
    LevelChoice.level (.text text) =
      match Level.stray? text with
      | some error => .error error
      | none => .ok (Level.ofText text) :=
  Level.named_eq (Text.upper text)

/-! ## The console -/

namespace Console

variable {text : String}

theorem setUp_of_not_stray (h : Level.stray? text = none) (console : Console) :
    console.setUp (.text text) = (.ok (), .atLevel (Level.ofText text)) := by
  rw [setUp, LevelChoice.level_text, h]

/-- A level that is refused leaves the console as it was. -/
theorem setUp_of_stray {error : LevelError} (h : Level.stray? text = some error)
    (console : Console) : console.setUp (.text text) = (.error error, console) := by
  rw [setUp, LevelChoice.level_text, h]

end Console

/-! ## The way of the text to the console -/

namespace CommandLine

variable {σ : Type} {world : Surroundings σ} {argv : List String} {arguments : Arguments}
  {preferences : Preferences}

/-- The text that the level is read from: the option's, unless it is empty, else what the
environment states, or the name of the normal level. -/
def Arguments.levelText (arguments : Arguments) (environment : Environment) : String :=
  let stated := (environment.get? "CONTRACT_TASKS_LOG_LEVEL").getD "INFO"
  match arguments.logLevel with
  | some (.text text) => if text = "" then stated else text
  | _ => stated

theorem logLevel_of_ofEnvironment {environment : Environment} {homes : Homes}
    (h : Preferences.ofEnvironment environment homes = .ok preferences) :
    preferences.logLevel
      = Text.upper ((environment.get? "CONTRACT_TASKS_LOG_LEVEL").getD "INFO") := by
  unfold Preferences.ofEnvironment at h
  dsimp only at h
  -- the directory is found in one of three ways, and none of them touches the level
  split at h
  case h_1 =>
    cases h
    rfl
  case h_2 =>
    split at h
    · cases h
      rfl
    · obtain ⟨directory, -, h⟩ := bind_eq_ok_iff.1 h
      cases h
      rfl

/-- Whichever way the text takes, the level is the one that it means. -/
theorem Arguments.level_level {environment : Environment} {homes : Homes}
    (h : Preferences.ofEnvironment environment homes = .ok preferences) (arguments : Arguments) :
    (arguments.level preferences).level
      = LevelChoice.level (.text (arguments.levelText environment)) := by
  have hpreferred : LevelChoice.level (.text preferences.logLevel)
      = LevelChoice.level
          (.text ((environment.get? "CONTRACT_TASKS_LOG_LEVEL").getD "INFO")) := by
    rw [logLevel_of_ofEnvironment h, LevelChoice.level, Text.upper_upper]
    rfl
  rcases hoption : arguments.logLevel with _ | (text | _)
  case some.text =>
    simp only [level, levelText, hoption]
    by_cases hempty : text = ""
    · rw [if_pos hempty, if_pos hempty]
      exact hpreferred
    · rw [if_neg hempty, if_neg hempty]
  all_goals
    simp only [level, levelText, hoption]
    exact hpreferred

/-! ## The program -/

theorem ready_of_not_stray (hread : read argv = .ok (.work arguments))
    (hpreferences : Preferences.ofEnvironment world.environment world.homes = .ok preferences)
    (h : Level.stray? (arguments.levelText world.environment) = none) :
    Ready world argv arguments preferences
      (Level.ofText (arguments.levelText world.environment)) where
  read_eq := hread
  preferences_eq := hpreferences
  level_eq := by rw [arguments.level_level hpreferences, LevelChoice.level_text, h]

theorem program_of_stray {error : LevelError} (hread : read argv = .ok (.work arguments))
    (hpreferences : Preferences.ofEnvironment world.environment world.homes = .ok preferences)
    (h : Level.stray? (arguments.levelText world.environment) = some error) (memory : σ) :
    program world argv memory = { exit := .failed (.level error), memory := memory } := by
  have hconsole : Console.setUp (arguments.level preferences) {} = (.error error, {}) := by
    rw [Console.setUp, arguments.level_level hpreferences, LevelChoice.level_text, h]
  rw [program_of_read hread, work, hpreferences]
  dsimp only
  rw [hconsole]

/-- Running tasks has no part in a refused level. -/
theorem runTasks_exit_ne_level (console : Console) (arguments : Arguments)
    (preferences : Preferences) (memory : σ) (error : LevelError) :
    (runTasks world console arguments preferences memory).exit ≠ .failed (.level error) := by
  unfold runTasks
  split
  · exact nofun
  · split
    · exact nofun
    · dsimp only
      split
      · exact nofun
      · exact nofun

/-- A program that comes to its work does not end because of the level. -/
theorem program_exit_ne_level {level : Level}
    (h : Ready world argv arguments preferences level) (memory : σ) (error : LevelError) :
    (program world argv memory).exit ≠ .failed (.level error) := by
  rw [program_of_ready h]
  split
  · exact nofun
  · apply runTasks_exit_ne_level

/-- The program ends because of the level only if the level's text is a stray name. -/
theorem exit_level_iff {memory : σ} {error : LevelError} :
    (program world argv memory).exit = .failed (.level error) ↔
      ∃ arguments preferences, read argv = .ok (.work arguments) ∧
        Preferences.ofEnvironment world.environment world.homes = .ok preferences ∧
        Level.stray? (arguments.levelText world.environment) = some error := by
  constructor
  · intro hexit
    rcases hread : read argv with _ | (_ | arguments)
    · rw [program, hread] at hexit
      cases hexit
    · rw [program, hread] at hexit
      cases hexit
    · rcases hpreferences : Preferences.ofEnvironment world.environment world.homes
        with _ | preferences
      · rw [program_of_read hread, work, hpreferences] at hexit
        cases hexit
      · refine ⟨arguments, preferences, rfl, rfl, ?_⟩
        rcases hstray : Level.stray? (arguments.levelText world.environment) with _ | other
        · exact absurd hexit
            (program_exit_ne_level (ready_of_not_stray hread hpreferences hstray) memory error)
        · rw [program_of_stray hread hpreferences hstray] at hexit
          cases hexit
          rfl
  · rintro ⟨arguments, preferences, hread, hpreferences, hstray⟩
    rw [program_of_stray hread hpreferences hstray]

/-- **Every level text but two names is taken.** A console that is set up with a text is at the
level that the text names, with one handler at the same level, and at the normal level if it
names none. Only a text that names what stands beside the levels is refused, and the console is
then as it was. So the program, whether the text comes with the option or from the environment,
comes to its work at the level of the text. It fails because of the level if, and only if, the
arguments and the preferences can be read and the text is a stray name. -/
theorem level_text_is_taken_unless_stray {σ : Type} (world : Surroundings σ) (argv : List String)
    (memory : σ) :
    (∀ (text : String) (console : Console),
      (Level.stray? text = none →
        console.setUp (.text text) = (.ok (), .atLevel (Level.ofText text))) ∧
      ∀ error, Level.stray? text = some error →
        console.setUp (.text text) = (.error error, console)) ∧
    (∀ arguments preferences, read argv = .ok (.work arguments) →
      Preferences.ofEnvironment world.environment world.homes = .ok preferences →
      let text := arguments.levelText world.environment
      (Level.stray? text = none →
        program world argv memory =
          if arguments.list || arguments.tasks.isEmpty then
            { exit := .returned 0
              output := String.join ((world.book.listing arguments.all).map (· ++ "\n"))
              memory := memory }
          else
            runTasks world (.atLevel (Level.ofText text)) arguments preferences memory) ∧
      ∀ error, Level.stray? text = some error →
        program world argv memory = { exit := .failed (.level error), memory := memory }) ∧
    ∀ error, (program world argv memory).exit = .failed (.level error) ↔
      ∃ arguments preferences, read argv = .ok (.work arguments) ∧
        Preferences.ofEnvironment world.environment world.homes = .ok preferences ∧
        Level.stray? (arguments.levelText world.environment) = some error := by
  refine ⟨fun text console => ⟨fun h => ?_, fun error h => ?_⟩, ?_, fun error => exit_level_iff⟩
  · exact Console.setUp_of_not_stray h console
  · exact Console.setUp_of_stray h console
  · intro arguments preferences hread hpreferences text
    refine ⟨fun h => ?_, fun error h => ?_⟩
    · exact program_of_ready (ready_of_not_stray hread hpreferences h) memory
    · exact program_of_stray hread hpreferences h memory

/-- An environment that asks for the level `wArn` has the tests run with a console for warnings.
An option that asks for the `_styles` comes before it, and then nothing is run. -/
theorem warnings_are_taken_and_styles_refused :
    let world : Surroundings Nat :=
      { book := releaseBook, environment := ⟨[("CONTRACT_TASKS_LOG_LEVEL", "wArn")]⟩
        homes := ⟨none, fun _ => none⟩
        shell := fun _ count => (.exited 0, count + 1), elapsed := 0 }
    let tests : Arguments := { tasks := ["release.test"] }
    (Console.atLevel 10).setUp (.text "wArn") = (.ok (), ⟨30, [30]⟩) ∧
    program world ["release.test"] 0
      = runTasks world ⟨30, [30]⟩ tests ⟨"WARN", {}, some "/bin/bash", false⟩ 0 ∧
    program world ["--log-level", "_styles", "release.test"] 0
      = { exit := .failed (.level .formatStyles), memory := 0 } := by
  intro world tests
  obtain ⟨htext, hnamed, -⟩ := level_text_is_taken_unless_stray world ["release.test"] 0
  obtain ⟨-, hstray, -⟩ := level_text_is_taken_unless_stray world
    ["--log-level", "_styles", "release.test"] 0
  have hpreferences : Preferences.ofEnvironment world.environment world.homes
      = .ok ⟨"WARN", {}, some "/bin/bash", false⟩ := toOption_eq_some_iff.1 (by decide +kernel)
  have htests : read ["release.test"] = .ok (.work tests) :=
    toOption_eq_some_iff.1 (by decide +kernel)
  have hstyled : read ["--log-level", "_styles", "release.test"]
      = .ok (.work { tests with logLevel := some (.text "_styles") }) :=
    toOption_eq_some_iff.1 (by decide +kernel)
  have hlevel : Level.ofText "wArn" = 30 := by decide +kernel
  refine ⟨?_, ?_, ?_⟩
  · have hset := (htext "wArn" (.atLevel 10)).1 (by decide +kernel)
    rwa [hlevel] at hset
  · have hrun := (hnamed tests _ htests hpreferences).1 (by decide +kernel)
    have hwarn : Level.ofText (tests.levelText world.environment) = 30 := by decide +kernel
    rw [hwarn, if_neg (by decide)] at hrun
    exact hrun
  · exact (hstray _ _ hstyled hpreferences).2 .formatStyles (by decide +kernel)

/-- The name of the line's form is no level name and is not taken for the normal level either:
the console refuses it, and the program fails. -/
theorem basic_format_is_refused :
    ¬(∀ (text : String) (console : Console),
      console.setUp (.text text) = (.ok (), .atLevel (Level.ofText text))) ∧
    let world : Surroundings Nat :=
      { book := releaseBook, environment := {}, homes := ⟨none, fun _ => none⟩
        shell := fun _ count => (.exited 0, count + 1), elapsed := 0 }
    (program world ["--log-level", "BASIC_FORMAT", "release.test"] 0).exit
      = .failed (.level .lineFormat) := by
  refine ⟨fun hall => ?_, ?_⟩
  · have hset := hall "BASIC_FORMAT" {}
    rw [Console.setUp_of_stray (by decide +kernel : _ = some .lineFormat)] at hset
    cases hset
  · decide +kernel

end CommandLine

end Taskbook
