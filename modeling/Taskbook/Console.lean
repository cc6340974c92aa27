/-
The console: which log lines are shown, and how.

The console is set up with a level, and from then on it shows the lines of that
level and above, its own program's all of them and those of others only from the
level of an error on. Setting it up again replaces what was there, so a line is
never shown twice. A level that cannot be read leaves the console as it was.

A level is a number, or the name of one in letters of any size. Any other text
means the normal level. Two texts are exceptions, because they name something in
the logging facility that is no level; they are refused.
-/
import Taskbook.Log
import Taskbook.Text.Quoted
import Taskbook.Text.Upper

set_option autoImplicit false

namespace Taskbook

/-- A level as it is asked for. -/
inductive LevelChoice where
  | number (level : Level)
  | text (text : String)
  deriving DecidableEq, Repr

/-- What a text can name instead of a level. -/
inductive LevelError where
  /-- The form of a log line. -/
  | lineFormat
  /-- The table of the ways to write such a form. -/
  | formatStyles
  deriving DecidableEq, Repr

namespace LevelError

/-- The form of a log line where no other is set. -/
def basicFormat : String := "%(levelname)s:%(name)s:%(message)s"

/-- The table of styles as it is shown. -/
def styleTable : String :=
  "\x7b'%': (<class 'logging.PercentStyle'>, '%(levelname)s:%(name)s:%(message)s'), " ++
    "'\x7b': (<class 'logging.StrFormatStyle'>, '\x7blevelname\x7d:\x7bname\x7d:\x7bmessage\x7d'), " ++
    "'$': (<class 'logging.StringTemplateStyle'>, " ++
    "'$\x7blevelname\x7d:$\x7bname\x7d:$\x7bmessage\x7d')\x7d"

/-- The wording of a refused level. -/
def message : LevelError → String
  | lineFormat => "Unknown level: " ++ Text.quote basicFormat
  | formatStyles => "Level not an integer or a valid string: " ++ styleTable

end LevelError

/-- The level that a text in capitals names. -/
def Level.named : String → Except LevelError Level
  | "CRITICAL" | "FATAL" => .ok critical
  | "ERROR" => .ok error
  | "WARNING" | "WARN" => .ok warning
  | "INFO" => .ok info
  | "DEBUG" => .ok debug
  | "NOTSET" => .ok notSet
  | "BASIC_FORMAT" => .error .lineFormat
  | "_STYLES" => .error .formatStyles
  | _ => .ok info

/-- The level that is asked for. -/
def LevelChoice.level : LevelChoice → Except LevelError Level
  | .number level => .ok level
  | .text name => Level.named (Text.upper name)

/-- The root of all loggers: the level from which on lines are taken, and the
levels from which on each handler writes them. -/
structure Console where
  level : Level := .warning
  handlers : List Level := []
  deriving DecidableEq, Repr

/-- The program's own lines are shown whatever their level, those of others only if they report an
error (`_ConsoleNoiseFilter`). -/
def LogLine.isWanted (line : LogLine) : Bool :=
  "contract_tasks".toList.isPrefixOf line.logger.toList || decide (Level.error ≤ line.level)

/-- The line as it is shown, after the given time. -/
def LogLine.text (time : String) (line : LogLine) : String :=
  time ++ " " ++ line.level.text ++ " " ++ (if line.logger = "" then "root" else line.logger) ++
    ": " ++ line.message

namespace Console

/-- The console with one handler, both at this level. -/
def atLevel (level : Level) : Console :=
  ⟨level, [level]⟩

/-- Sets the console up at the level asked for, in place of whatever it was (`setup_logging`). If
the level is refused it stays as it was. -/
def setUp (choice : LevelChoice) (console : Console) : Except LevelError Unit × Console :=
  match choice.level with
  | .ok level => (.ok (), atLevel level)
  | .error error => (.error error, console)

/-- The line is taken and passed to the handlers. Lines below the lowest level
never are. -/
def takes (console : Console) (line : LogLine) : Bool :=
  decide (Level.notSet < line.level) && decide (console.level ≤ line.level)

/-- The lines that are shown, each once for every handler that writes it. -/
def shown (console : Console) (lines : List LogLine) : List LogLine :=
  lines.flatMap fun line =>
    if console.takes line then
      (console.handlers.filter fun level => decide (level ≤ line.level) && line.isWanted).map
        fun _ => line
    else []

end Console

end Taskbook
