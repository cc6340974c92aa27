/-
The command-line program.

It reads its arguments, the environment and the clock, and leaves everything else
to `CommandLine.program`. Commands are not started from here: each is written to
the output on a line of its own, and its exit code is read from the input. Where
the input ends, or the line is no number, the command could not be started.
-/
import Std.Time.Format
import Taskbook.CommandLine.Program
import Taskbook.Run.Dialogue
import Taskbook.Workspace

set_option autoImplicit false

namespace Taskbook.Main

/-- The variables that the program reads. -/
def variableNames : List String :=
  "HOME" :: ["LOG_LEVEL", "WORKDIR", "SHELL", "DRY_RUN"].map Preferences.variableName

/-- The part of the environment that the program reads. -/
def environment : IO Environment :=
  variableNames.foldlM
    (fun result name => do
      match ← IO.getEnv name with
      | some value => return result.set name value
      | none => return result)
    {}

/-- The time, to a thousandth of a second. -/
def timeText : IO String := do
  return (← Std.Time.PlainDateTime.now).format "uuuu-MM-dd HH:mm:ss.SSS"

/-- The clock in seconds. -/
def clock : IO Float := do
  return (← IO.monoMsNow).toFloat / 1000

/-- The answer to a call: the code on the next line of the input. -/
def ask (call : Call) : IO Outcome := do
  (← IO.getStdout).putStrLn (Dialogue.request call)
  (← IO.getStdout).flush
  let line ← (← IO.getStdin).getLine
  match (Text.trim line).toInt? with
  | some code => return .exited code
  | none => return .notStarted "no exit code was given"

/-- Writes the log lines that have not been written yet. -/
def report (lines : List LogLine) (written : Nat) : IO Unit := do
  for line in lines.drop written do
    (← IO.getStderr).putStrLn (line.text (← timeText))

/-- Runs the program with the answers so far, and asks for the next one as long as
there is a question. -/
partial def converse (arguments : List String) (world : CommandLine.Surroundings Dialogue)
    (started : Float) (answers : List Outcome) (written : Nat) :
    IO (CommandLine.Result Dialogue) := do
  let elapsed := (← clock) - started
  let result := CommandLine.program { world with elapsed := elapsed } arguments ⟨answers, none⟩
  report result.lines written
  match result.memory.question with
  | none => return result
  | some call =>
    let answer ← ask call
    converse arguments world started (answers ++ [answer]) result.lines.length

/-- The exit code for a program that does not finish. -/
def brokenCode : UInt32 := 1

/-- What keeps the program from finishing, in words. -/
def errorText : CommandLine.ProgramError → String
  | .preferences error => error.message
  | .level error => error.message
  | .noDirectory => "no directory was given"
  | .crash text => text

end Taskbook.Main

open Taskbook in
/-- Runs the program over the task book of the workspace. -/
def main (arguments : List String) : IO UInt32 := do
  let world : CommandLine.Surroundings Dialogue := {
    book := Workspace.book
    environment := ← Main.environment
    homes := ⟨none, fun _ => none⟩
    shell := Dialogue.shell
    elapsed := 0 }
  let result ← Main.converse arguments world (← Main.clock) [] 0
  (← IO.getStdout).putStr result.output
  (← IO.getStderr).putStr result.complaint
  match result.exit with
  | .returned code | .left code => return (code % 256).toNat.toUInt32
  | .failed error =>
    (← IO.getStderr).putStrLn (Main.errorText error)
    return Main.brokenCode
