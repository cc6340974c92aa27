/-
Log lines: what the library reports about its own work.

A line has a level, the name of the part of the program that reports, and a text.
Levels are numbers, so that a level between two named ones can be used; the named
ones are ten apart. Whether a line is shown anywhere is for the console to say.
-/
import Taskbook.Book.Entries

set_option autoImplicit false

namespace Taskbook

/-! ## Levels -/

/-- How much a line matters; more is a higher number. -/
abbrev Level := Int

namespace Level

/-- No level at all: nothing is too low for it. -/
def notSet : Level := 0
/-- What only a search for a mistake needs. -/
def debug : Level := 10
/-- The normal course. -/
def info : Level := 20
/-- Something to look at. -/
def warning : Level := 30
/-- Something failed. -/
def error : Level := 40
/-- The program cannot go on. -/
def critical : Level := 50

/-- A level's name; a number between the named levels is its own name. -/
def text (level : Level) : String :=
  if level = critical then "CRITICAL"
  else if level = error then "ERROR"
  else if level = warning then "WARNING"
  else if level = info then "INFO"
  else if level = debug then "DEBUG"
  else if level = notSet then "NOTSET"
  else "Level " ++ toString level

end Level

/-! ## Lines -/

/-- The parts of the program that report. -/
inductive Reporter where
  | book
  | mapping
  | plan
  | runner
  | commandLine
  deriving DecidableEq, Repr

/-- The name a part reports under. -/
def Reporter.name : Reporter → String
  | book => "contract_tasks.registry.task_registry"
  | mapping => "contract_tasks.registry.schemas"
  | plan => "contract_tasks.core.node"
  | runner => "contract_tasks.core.executor"
  | commandLine => "contract_tasks.cli"

/-- One reported line. -/
structure LogLine where
  level : Level
  /-- The name of the part that reports. -/
  logger : String
  message : String
  deriving DecidableEq, Repr

/-- The line that one of the program's own parts reports. -/
def Reporter.line (reporter : Reporter) (level : Level) (message : String) : LogLine :=
  ⟨level, reporter.name, message⟩

/-! ## Lines about books -/

namespace Book

/-- The line about a new book. -/
def builtLine (book : Book) : LogLine :=
  Reporter.book.line .debug
    ("Task registry built with " ++ toString book.tasks.size ++ " top-level task(s)")

/-- The line about a book that came from a mapping. -/
def loadedLine (book : Book) : LogLine :=
  Reporter.mapping.line .debug
    ("Loaded " ++ toString (book.paths false).length ++ " task(s) from mapping")

end Book

end Taskbook
