/-
The program: from its arguments to its exit code.

The arguments are read first, then the preferences, and then the console is set
up; each can end the program with an error. After that the program either lists
the tasks, if that is asked for or no task is named, or runs the named tasks in
order and says how that went. The exit code of a run is that of the command that
failed, zero for success, and two if a path leads to no task, in which case nothing
has been run.

The program is a function of everything it depends on: the book, the environment,
the home directories, the shell, and the time that a run takes.
-/
import Taskbook.CommandLine.Arguments
import Taskbook.Console
import Taskbook.FixedPoint
import Taskbook.Preferences
import Taskbook.Run.Report

set_option autoImplicit false

namespace Taskbook.CommandLine

/-- What the program depends on besides its arguments. -/
structure Surroundings (σ : Type) where
  book : Book
  environment : Environment
  homes : Homes
  shell : Shell σ
  /-- How many seconds a run takes. -/
  elapsed : Float

/-- What keeps the program from finishing. -/
inductive ProgramError where
  | preferences (error : PreferencesError)
  | level (error : LevelError)
  /-- The directory option was given without a directory. -/
  | noDirectory
  /-- A run was cut short. -/
  | crash (text : String)
  deriving DecidableEq, Repr

/-- How the program ends. -/
inductive Exit where
  /-- It returns its exit code. -/
  | returned (code : Int)
  /-- It leaves at once, with this exit code. -/
  | left (code : Int)
  | failed (error : ProgramError)
  deriving DecidableEq, Repr

/-- What came of the program. -/
structure Result (σ : Type) where
  exit : Exit
  /-- What it printed. -/
  output : String := ""
  /-- What it said about its arguments. -/
  complaint : String := ""
  /-- The log lines on the console. -/
  lines : List LogLine := []
  /-- What happened in the run. -/
  trace : Trace := []
  memory : σ

/-- The exit code if a path leads to no task. -/
def notFoundCode : Int := 2

/-- The exit code if the arguments cannot be read. -/
def usageCode : Int := 2

/-- The level that the console is asked for: the option's, unless it is empty,
else the preferences'. -/
def Arguments.level (arguments : Arguments) (preferences : Preferences) : LevelChoice :=
  match arguments.logLevel with
  | some (.text text) => .text (if text = "" then preferences.logLevel else text)
  | _ => .text preferences.logLevel

/-- The directory to run in: the option's, else the preferences'; none if the
option has no value. -/
def Arguments.dir? (arguments : Arguments) (preferences : Preferences) : Option Dir :=
  match arguments.directory with
  | some (.text text) => some (Dir.ofText text)
  | some .nothing => none
  | none => some preferences.directory

/-- The policy that the arguments and the preferences amount to. -/
def Arguments.policy (arguments : Arguments) (preferences : Preferences) : Policy where
  dryRun := arguments.dryRun || preferences.dryRun
  shell := preferences.shell

/-- The line that says how a run went. -/
def closingLine (report : Report) (seconds : Float) : LogLine :=
  match report.failures with
  | failure :: _ =>
    Reporter.commandLine.line .error
      ("Command failed (exit " ++ toString report.exitCode ++ "): " ++
        failure.text?.getD "None")
  | [] => Reporter.commandLine.line .info ("Done in " ++ FixedPoint.text 2 seconds ++ "s")

/-- Runs the named tasks. -/
def runTasks {σ : Type} (world : Surroundings σ) (console : Console) (arguments : Arguments)
    (preferences : Preferences) (memory : σ) : Result σ :=
  match world.book.plans (arguments.tasks.map Path.ofDotted) with
  | .error error =>
    { exit := .returned notFoundCode
      lines := console.shown [Reporter.commandLine.line .error error.message]
      memory := memory }
  | .ok plans =>
    -- an unknown path is reported first, even where there is no directory either
    match arguments.dir? preferences with
    | none => { exit := .failed .noDirectory, memory := memory }
    | some directory =>
      let conditions :=
        (arguments.policy preferences).conditions world.shell world.environment directory
      let execution := (Plan.together plans).execute conditions 0 memory
      let result (exit : Exit) (closing : List LogLine) : Result σ :=
        { exit := exit
          lines := console.shown (execution.trace.log ++ closing)
          trace := execution.trace
          memory := execution.memory }
      match execution.result with
      | .error text => result (.failed (.crash text)) []
      | .ok report =>
        result (.returned report.exitCode) [closingLine report world.elapsed]

/-- Lists the tasks or runs those that are named (`main`). -/
def work {σ : Type} (world : Surroundings σ) (arguments : Arguments) (memory : σ) : Result σ :=
  match Preferences.ofEnvironment world.environment world.homes with
  | .error error => { exit := .failed (.preferences error), memory := memory }
  | .ok preferences =>
    match Console.setUp (arguments.level preferences) {} with
    | (.error error, _) => { exit := .failed (.level error), memory := memory }
    | (.ok (), console) =>
      if arguments.list || arguments.tasks.isEmpty then
        { exit := .returned 0
          output := String.join ((world.book.listing arguments.all).map (· ++ "\n"))
          memory := memory }
      else runTasks world console arguments preferences memory

/-- The program with these arguments (`main`). -/
def program {σ : Type} (world : Surroundings σ) (arguments : List String) (memory : σ) : Result σ :=
  match read arguments with
  | .error error => { exit := .left usageCode, complaint := error.complaint, memory := memory }
  | .ok .help => { exit := .left 0, output := helpText, memory := memory }
  | .ok (.work arguments) => work world arguments memory

/-- The exit code that the program leaves with, if it finishes. -/
def Exit.code? : Exit → Option Int
  | returned code => some code
  | left code => some code
  | failed _ => none

end Taskbook.CommandLine
