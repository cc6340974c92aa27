/-
Commands of the type generator json2ts, read as what they are for.

Such a command may change the directory first, then names an input glob and an
output directory:

    cd DIR && json2ts -i GLOB -o DIR

Each of the three texts is one word, the words in between are fixed and stand one
space apart, and one line end may follow. So the command cut at its spaces has
five or eight pieces, with the fixed words in fixed places, and nothing is left to
choose: a command is read in at most one way.
-/
import Taskbook.Text.Blank
import Taskbook.Directory
import Taskbook.Book.Entries

set_option autoImplicit false

namespace Taskbook

/-- What one generator task reads and writes (`Json2TsTarget`). -/
structure Target where
  /-- The path of the task. -/
  task : String
  inputGlob : String
  outputDir : String
  /-- The directory to change to first, if any. -/
  startDir : Option String := none
  deriving DecidableEq, Repr

namespace Target

/-- The generator's name. -/
def tool : String := "json2ts"

/-- The target with these texts, if each is a word. -/
def ofWords? (task : String) (startDir : Option String) (glob output : String) : Option Target :=
  let texts := startDir.toList ++ [glob, output]
  if texts.all (fun text => Text.isSolid text.toList) then
    some ⟨task, glob, output, startDir⟩
  else none

/-- The target of a generator command; other commands have none (`parse_json2ts_command`). -/
def parse? (task command : String) : Option Target :=
  match Text.pieces ' ' command with
  | ["json2ts", "-i", glob, "-o", output] => ofWords? task none glob (Text.withoutLineEnd output)
  | ["cd", dir, "&&", "json2ts", "-i", glob, "-o", output] =>
    ofWords? task (some dir) glob (Text.withoutLineEnd output)
  | _ => none

/-- The command that a target is read from. -/
def command (target : Target) : String :=
  (match target.startDir with
    | some dir => "cd " ++ dir ++ " && "
    | none => "") ++ tool ++ " -i " ++ target.inputGlob ++ " -o " ++ target.outputDir

/-- A character that makes a part of a path a pattern. -/
def isGlobMark (c : Char) : Bool :=
  c == '*' || c == '?' || c == '['

/-- The directory that the input is read from: the glob up to its first pattern
(`Json2TsTarget.input_root`). -/
def inputRoot (target : Target) : Dir :=
  let dir := Dir.ofText target.inputGlob
  { dir with parts := dir.parts.takeWhile fun part => !part.toList.any isGlobMark }

/-- The directory that is written to (`Json2TsTarget.output_path`). -/
def outputPath (target : Target) : Dir :=
  Dir.ofText target.outputDir

end Target

/-- The tags that a command earns by the tool it calls: the generator's name for a generator
command, else the text up to the first space (`infer_tags`). -/
def toolTags (command : String) : List String :=
  if (Target.parse? "" command).isSome then [Target.tool]
  else
    match Text.pieces ' ' command with
    | word :: _ => if word = "" then [] else [word]
    | [] => []

/-- The target of an entry, if it is a generator command. -/
def Entry.target? (entry : Entry) : Option Target :=
  entry.task.text?.bind fun text => Target.parse? entry.dotted text

/-- The targets of the enabled generator commands, in order (`TaskRegistry.json2ts_targets`). -/
def Book.targets (book : Book) : List Target :=
  (book.entries false).filterMap Entry.target?

end Taskbook
