/-
The arguments of the command line: options in any order, and task paths.

Reading takes two passes. First every argument up to the first `--` is given a
meaning by itself. An option may be spelt by any beginning that only one of the
long spellings has; short options may be written together; a value may be joined
to a long option by `=`. A lone dash, a negative number and anything with a space
in it is a task path, and whatever else begins with a dash is an option nobody
knows.

Then the meanings are gone through from left to right. Task paths are taken from
one unbroken run only: after an option, further ones are left over. What comes
after `--` belongs to the run, even if it looks like an option, unless the run is
over. An option that wants a value takes the next task path for it. Asking for
help ends the reading on the spot; what is left over is reported at the very end.
-/
import Taskbook.Text.Digit
import Taskbook.Text.Quoted

set_option autoImplicit false

namespace Taskbook.CommandLine

/-! ## Options -/

/-- The options. -/
inductive Opt where
  | help
  | list
  | all
  | dryRun
  | directory
  | logLevel
  deriving DecidableEq, Repr

namespace Opt

/-- The spellings of all options, in the order in which they are documented. -/
def table : List (String × Opt) := [
  ("-h", help), ("--help", help), ("-l", list), ("--list", list), ("--all", all), ("-n", dryRun),
  ("--dry-run", dryRun), ("--cwd", directory), ("--log-level", logLevel)]

/-- The option wants a value. -/
def wantsValue : Opt → Bool
  | directory | logLevel => true
  | _ => false

/-- The option with this spelling. -/
def ofSpelling? (spelling : String) : Option Opt :=
  table.lookup spelling

/-- The option with this letter. -/
def ofLetter? (letter : Char) : Option Opt :=
  ofSpelling? (String.ofList ['-', letter])

/-- The spellings of an option with slashes between them: its name in messages. -/
def title (opt : Opt) : String :=
  Text.join "/" ((table.filter fun entry => entry.2 == opt).map Prod.fst)

end Opt

/-- The value of an option. -/
inductive Value where
  | text (text : String)
  /-- The option was given, but its value was only the mark that ends the
  options. -/
  | nothing
  deriving DecidableEq, Repr

/-- The value that a text joined to an option gives it. -/
def Value.ofJoined (text : String) : Value :=
  if text = "--" then nothing else .text text

/-- What the command line asks for. -/
structure Arguments where
  tasks : List String := []
  list : Bool := false
  all : Bool := false
  dryRun : Bool := false
  directory : Option Value := none
  logLevel : Option Value := none
  deriving DecidableEq, Repr

/-- What can be wrong with the arguments. -/
inductive ArgumentError where
  /-- The argument is the beginning of several options. -/
  | ambiguous (argument : String) (candidates : List String)
  /-- The option wants a value and has none. -/
  | missingValue (opt : Opt)
  /-- The option wants no value and has this one. -/
  | unwantedValue (opt : Opt) (value : String)
  /-- These arguments mean nothing. -/
  | leftOver (arguments : List String)
  deriving DecidableEq, Repr

/-- The wording of an error in the arguments. -/
def ArgumentError.message : ArgumentError → String
  | ambiguous argument candidates =>
    "ambiguous option: " ++ argument ++ " could match " ++ Text.join ", " candidates
  | missingValue opt => "argument " ++ opt.title ++ ": expected one argument"
  | unwantedValue opt value =>
    "argument " ++ opt.title ++ ": ignored explicit argument " ++ Text.quote value
  | leftOver arguments => "unrecognized arguments: " ++ Text.join " " arguments

/-! ## First pass: what each argument means -/

/-- The meaning of an argument. -/
inductive Token where
  /-- A task path, or the value of the option before it. -/
  | operand (text : String)
  /-- An option, spelt short or long, perhaps with a text joined to it. -/
  | option (opt : Opt) (isShort : Bool) (joined : Option String)
  /-- An option nobody knows. -/
  | unknown (text : String)
  /-- The end of the options, and the arguments after it. -/
  | terminator (rest : List String)
  deriving DecidableEq, Repr

/-- A spelling of one dash and a letter. -/
def isShort (spelling : String) : Bool :=
  match spelling.toList with
  | ['-', letter] => letter != '-'
  | _ => false

/-- The text before the first `=` and the text after it, if there is one. -/
def splitValue (text : List Char) : List Char × Option String :=
  match text.dropWhile (· != '=') with
  | [] => (text, none)
  | _ :: value => (text.takeWhile (· != '='), some (String.ofList value))

/-- A dash and a decimal number with digits before the point, after it, or
both. -/
def isNegativeNumber (text : List Char) : Bool :=
  match Text.dropLineEnd text with
  | '-' :: number =>
    match number.dropWhile Text.isDigit with
    | [] => !number.isEmpty
    | '.' :: decimals => !decimals.isEmpty && decimals.all Text.isDigit
    | _ => false
  | _ => false

/-- The meaning of an argument that is no option as it stands: a task path if it
cannot be meant as an option. -/
def otherwise (argument : String) : Token :=
  if isNegativeNumber argument.toList || argument.toList.contains ' ' then .operand argument
  else .unknown argument

/-- The meaning of an argument before the end of the options. -/
def Token.ofArgument (argument : String) : Except ArgumentError Token :=
  match argument.toList with
  | [] => .ok (.operand argument)
  | ['-'] => .ok (.operand argument)
  | '-' :: rest =>
    -- the whole argument may be a spelling, or what stands before an equals sign
    match Opt.ofSpelling? argument with
    | some opt => .ok (.option opt (isShort argument) none)
    | none =>
      let (start, value) := splitValue argument.toList
      match value, Opt.ofSpelling? (String.ofList start) with
      | some value, some opt => .ok (.option opt (isShort (String.ofList start)) (some value))
      | _, _ =>
        match rest with
        -- any beginning of a long spelling will do
        | '-' :: _ =>
          match Opt.table.filter fun entry => start.isPrefixOf entry.1.toList with
          | [] => .ok (otherwise argument)
          | [(_, opt)] => .ok (.option opt false value)
          | several => .error (.ambiguous argument (several.map Prod.fst))
        -- a short option with something behind its letter
        | letter :: joined =>
          match Opt.ofLetter? letter with
          | some opt => .ok (.option opt true (some (String.ofList joined)))
          | none => .ok (otherwise argument)
        | [] => .ok (.operand argument)
  | _ => .ok (.operand argument)

/-- The meanings of all arguments, or the first that is ambiguous. -/
def tokens : List String → Except ArgumentError (List Token)
  | [] => .ok []
  | argument :: rest =>
    if argument = "--" then .ok [.terminator rest]
    else do
      let token ← Token.ofArgument argument
      let others ← tokens rest
      return token :: others

/-! ## Second pass: what they amount to -/

/-- How far the run of task paths has come. -/
inductive Run where
  | ahead
  | inside
  | closed
  deriving DecidableEq, Repr

/-- What has been read so far. -/
structure Reading where
  arguments : Arguments := {}
  run : Run := .ahead
  leftOver : List String := []
  deriving DecidableEq, Repr

/-- The outcome of reading the arguments. -/
inductive Request where
  | help
  | work (arguments : Arguments)
  deriving DecidableEq, Repr

namespace Reading

/-- Takes task paths, if the run is not over. -/
def take (paths left : List String) (reading : Reading) : Reading :=
  match reading.run with
  | .closed => { reading with leftOver := reading.leftOver ++ left }
  | _ =>
    { reading with
      run := .inside
      arguments := { reading.arguments with tasks := reading.arguments.tasks ++ paths } }

/-- An option ends the run of task paths, if it has begun. -/
def pause (reading : Reading) : Reading :=
  match reading.run with
  | .inside => { reading with run := .closed }
  | _ => reading

/-- Takes an option that wants no value. -/
def switch (opt : Opt) (reading : Reading) : Reading :=
  let arguments := reading.arguments
  { reading with
    arguments :=
      match opt with
      | .list => { arguments with list := true }
      | .all => { arguments with all := true }
      | .dryRun => { arguments with dryRun := true }
      | _ => arguments }

/-- Takes the value of an option. -/
def assign (opt : Opt) (value : Value) (reading : Reading) : Reading :=
  let arguments := reading.arguments
  { reading with
    arguments :=
      match opt with
      | .directory => { arguments with directory := some value }
      | .logLevel => { arguments with logLevel := some value }
      | _ => arguments }

/-- What is asked for, if nothing is left over. -/
def finish (reading : Reading) : Except ArgumentError Request :=
  if reading.leftOver.isEmpty then .ok (.work reading.arguments)
  else .error (.leftOver reading.leftOver)

end Reading

/-- The options written together behind the letter of `opt`. -/
def together (opt : Opt) : List Char → Except ArgumentError (List Opt)
  | [] => .ok [opt]
  | letter :: rest =>
    match Opt.ofLetter? letter with
    | some next => do
      let others ← together next rest
      return opt :: others
    | none => .error (.unwantedValue opt (String.ofList (letter :: rest)))

/-- The options that one argument stands for: several only if they are short and
written together. -/
def switches (opt : Opt) (isShort : Bool) : Option String → Except ArgumentError (List Opt)
  | none => .ok [opt]
  | some joined =>
    if isShort && joined != "" then together opt joined.toList
    else .error (.unwantedValue opt joined)

/-- What the tokens amount to, after what has been read. -/
def Reading.goOn (reading : Reading) : List Token → Except ArgumentError Request
  | [] => reading.finish
  | .operand text :: rest => (reading.take [text] [text]).goOn rest
  -- nothing comes after the terminator: it holds the rest of the arguments
  | .terminator others :: _ => (reading.take others ("--" :: others)).finish
  | .unknown text :: rest =>
    let paused := reading.pause
    { paused with leftOver := paused.leftOver ++ [text] }.goOn rest
  | .option opt isShort joined :: rest =>
    let paused := reading.pause
    if opt.wantsValue then
      match joined, rest with
      | some text, rest => (paused.assign opt (.ofJoined text)).goOn rest
      | none, .operand text :: rest => (paused.assign opt (.text text)).goOn rest
      | none, _ => .error (.missingValue opt)
    else
      match switches opt isShort joined with
      | .error error => .error error
      | .ok opts =>
        if opts.contains .help then .ok .help
        else (opts.foldl (fun reading opt => reading.switch opt) paused).goOn rest

/-- What the arguments ask for. -/
def read (arguments : List String) : Except ArgumentError Request := do
  let tokens ← tokens arguments
  ({} : Reading).goOn tokens

/-! ## What the program says about itself -/

/-- How the program is called. -/
def usage : String :=
  "usage: contract-tasks [-h] [-l] [--all] [-n] [--cwd CWD]\n" ++
    "                      [--log-level LOG_LEVEL]\n" ++
    "                      [tasks ...]\n"

/-- The help text. -/
def helpText : String :=
  usage ++
    "\n" ++
    "Run workspace build and schema-to-types tasks.\n" ++
    "\n" ++
    "positional arguments:\n" ++
    "  tasks                 task paths, e.g. schema or schema.hub\n" ++
    "\n" ++
    "options:\n" ++
    "  -h, --help            show this help message and exit\n" ++
    "  -l, --list            list tasks and exit\n" ++
    "  --all                 include disabled tasks when listing\n" ++
    "  -n, --dry-run         print commands without running them\n" ++
    "  --cwd CWD             directory commands start in (the scripts directory)\n" ++
    "  --log-level LOG_LEVEL\n" ++
    "                        DEBUG, INFO, WARNING, ...\n"

/-- What is said about arguments that cannot be read. -/
def ArgumentError.complaint (error : ArgumentError) : String :=
  usage ++ "contract-tasks: error: " ++ error.message ++ "\n"

end Taskbook.CommandLine
