/-
Preferences: what the environment says about how tasks are to be run.

Four variables are read, each with a value for when it is missing: the level of
the log, the directory that commands start in, the program that interprets them,
and whether they are only to be noted. A directory may be given relative to a home
directory. That is the one thing that can go wrong, because there may be no such
home.

Preferences are kept once they have been read. They are read again only when that
is asked for, and a reading that fails leaves those that are kept as they are.
-/
import Taskbook.Directory
import Taskbook.Environment
import Taskbook.Text.Blank
import Taskbook.Text.Upper

set_option autoImplicit false

namespace Taskbook

/-- How tasks are to be run (`Settings`). -/
structure Preferences where
  logLevel : String
  directory : Dir
  shell : Option String
  dryRun : Bool
  deriving DecidableEq, Repr

/-- The home directories that the system knows: one's own and those of others. -/
structure Homes where
  own : Option String
  of : String → Option String

/-- What can be wrong with preferences. -/
inductive PreferencesError where
  /-- A directory is given relative to a home that nobody knows. -/
  | unknownHome
  deriving DecidableEq, Repr

/-- The wording of an error in the preferences. -/
def PreferencesError.message : PreferencesError → String
  | unknownHome => "Could not determine home directory."

namespace Dir

/-- A home directory's text without the slashes at its end, the root for one that
has nothing else. -/
def homeText (text : String) : String :=
  let stripped := String.ofList (text.toList.reverse.dropWhile (· == '/')).reverse
  if stripped = "" then "/" else stripped

/-- The text starts with the mark of a home directory. -/
def isHomeMarked (text : String) : Bool :=
  text.toList.head? == some '~'

/-- The directory with a home in place of its first part, if that part names a home: `~` one's own,
which a variable can set, and `~NAME` that of another (`_env_path`). -/
def expandHome (environment : Environment) (homes : Homes) (dir : Dir) :
    Except PreferencesError Dir :=
  match dir with
  | ⟨.here, first :: rest⟩ =>
    match first.toList with
    | '~' :: user =>
      let home :=
        if user.isEmpty then (environment.get? "HOME").or homes.own
        else homes.of (String.ofList user)
      match home.map homeText with
      | none => .error .unknownHome
      | some text =>
        -- a home is not looked up in another home
        if isHomeMarked text then .error .unknownHome else .ok ((ofText text).below rest)
    | _ => .ok dir
  | _ => .ok dir

end Dir

namespace Preferences

/-- The variable that the preference `name` is read from (`_k`). -/
def variableName (name : String) : String :=
  "CONTRACT_TASKS_" ++ name

/-- The words that mean yes. -/
def yesWords : List String := ["1", "true", "yes", "y", "on"]

/-- A text that means yes, in letters of any size and with blanks around it (`_env_bool`). -/
def isYes (text : String) : Bool :=
  yesWords.contains (Text.trim text).toLower

/-- The text, unless nothing is left of it. -/
def nonEmpty (text : String) : Option String :=
  if text = "" then none else some text

/-- The preferences that the environment states (`Settings.from_env`). -/
def ofEnvironment (environment : Environment) (homes : Homes) :
    Except PreferencesError Preferences := do
  let stated (name : String) := environment.get? (variableName name)
  let directory ←
    match stated "WORKDIR" with
    | none => pure {}
    | some text =>
      if Text.trim text = "" then pure {}
      else (Dir.ofText text).expandHome environment homes
  return {
    logLevel := Text.upper ((stated "LOG_LEVEL").getD "INFO")
    directory := directory
    shell := nonEmpty (Text.trim ((stated "SHELL").getD "/bin/bash"))
    dryRun := ((stated "DRY_RUN").map isYes).getD false }

/-! ## Keeping them -/

/-- Preferences as they were read at one time; every reading has its own
number. -/
structure Edition where
  number : Nat
  preferences : Preferences
  deriving DecidableEq, Repr

/-- The preferences that are kept, if any have been read. -/
abbrev Kept := Option Edition

/-- The number of the reading after those that are kept. -/
def nextNumber : Kept → Nat
  | none => 0
  | some edition => edition.number + 1

/-- The kept preferences (`get_settings`). They are read first if there are none, or if `reload`
asks for it, and kept if that succeeds. -/
def get (reload : Bool) (environment : Environment) (homes : Homes) (kept : Kept) :
    Except PreferencesError Edition × Kept :=
  match reload, kept with
  | false, some edition => (.ok edition, kept)
  | _, _ =>
    match ofEnvironment environment homes with
    | .ok preferences =>
      let edition : Edition := ⟨nextNumber kept, preferences⟩
      (.ok edition, some edition)
    | .error error => (.error error, kept)

end Preferences

end Taskbook
