/-
A generator command has one reading.

Reading cuts a command at its spaces. What is read can be said without cutting anything: three
words, or two, in their places between fixed texts, and at most one line end behind them
(`Target.IsSaidBy`). Words hold no spaces, so the spaces of such a command are those of the fixed
texts, whatever the words are: a directory called `&&` and a glob called `-o` do no harm. That is
why the pieces of the command are the words and the fixed texts again (`Target.pieces_spelt`), and
why no command says two things.
-/
import Taskbook.Generator.Target

set_option autoImplicit false

namespace Taskbook

/-- A word: a text with at least one character, none of them blank. -/
def Text.IsWord (text : String) : Prop :=
  text ≠ "" ∧ ∀ c ∈ text.toList, isBlank c = false

namespace Text

theorem isWord_iff {text : String} : IsWord text ↔ isSolid text.toList = true := by
  rw [isSolid_iff, IsWord, ne_eq, ← String.toList_inj]
  rfl

/-- A word holds no blank character. -/
theorem IsWord.not_mem {text : String} (h : IsWord text) {c : Char} (hc : isBlank c = true) :
    c ∉ text.toList := by
  intro hmem
  rw [h.2 c hmem] at hc
  cases hc

end Text

namespace Target

/-! ## What a command says -/

/-- The texts that a command has to name: each is a word. -/
def HasWords (target : Target) : Prop :=
  ∀ text ∈ target.startDir.toList ++ [target.inputGlob, target.outputDir], Text.IsWord text

/-- The command says what this target is: it is the target's own command, and one line end may
follow. -/
structure IsSaidBy (target : Target) (text : String) : Prop where
  words : target.HasWords
  spelling : text = target.command ∨ text = target.command ++ "\n"

theorem HasWords.output {target : Target} (h : target.HasWords) : Text.IsWord target.outputDir :=
  h _ (List.mem_append_right _ (List.mem_cons_of_mem _ List.mem_cons_self))

/-! ## The pieces of a command -/

/-- What stands before the output: the fixed texts and the other words, as they stand between the
spaces. -/
def opening (target : Target) : List String :=
  (target.startDir.elim [] fun dir => ["cd", dir, "&&"]) ++ [tool, "-i", target.inputGlob, "-o"]

/-- The words and the fixed texts of a command, as they stand between its spaces. -/
def spelt (target : Target) : List String :=
  target.opening ++ [target.outputDir]

/-- The fixed texts are words too. -/
theorem isWord_of_mem_opening {target : Target} (hwords : target.HasWords) :
    ∀ piece ∈ target.opening, Text.IsWord piece := by
  have hfixed : ∀ text ∈ ["cd", "&&", tool, "-i", "-o"], Text.IsWord text := by
    intro text htext
    rw [Text.isWord_iff]
    revert text
    decide
  obtain ⟨task, glob, output, _ | dir⟩ := target
  · have hglob : Text.IsWord glob := hwords _ (by simp)
    simp [opening, hfixed, hglob]
  · have hglob : Text.IsWord glob := hwords _ (by simp)
    have hdir : Text.IsWord dir := hwords _ (by simp)
    simp [opening, hfixed, hglob, hdir]

/-- A command is its pieces with one space between neighbours. -/
theorem join_spelt (target : Target) : Text.join " " target.spelt = target.command := by
  rw [← String.toList_inj]
  obtain ⟨task, glob, output, _ | dir⟩ := target
  · simp [spelt, opening, command, tool, Text.join]
  · simp [spelt, opening, command, tool, Text.join]

/-- With another output, the command has another end. -/
theorem command_append (target : Target) (ending : String) :
    ({ target with outputDir := target.outputDir ++ ending } : Target).command
      = target.command ++ ending := by
  simp [command, String.append_assoc]

/-- Where the output has no line end, its command is what is left of two texts. -/
theorem exists_output_iff {target : Target} (hwords : target.HasWords) {text : String} :
    (∃ output, Text.withoutLineEnd output = target.outputDir ∧
        text = ({ target with outputDir := output } : Target).command) ↔
      text = target.command ∨ text = target.command ++ "\n" := by
  have hline := hwords.output.not_mem (c := '\n') (by decide)
  constructor
  · rintro ⟨output, houtput, rfl⟩
    rcases (Text.withoutLineEnd_eq_iff hline).1 houtput with rfl | rfl
    · exact .inl rfl
    · exact .inr (target.command_append "\n")
  · rintro (rfl | rfl)
    · exact ⟨target.outputDir, (Text.withoutLineEnd_eq_iff hline).2 (.inl rfl), rfl⟩
    · exact ⟨target.outputDir ++ "\n", (Text.withoutLineEnd_eq_iff hline).2 (.inr rfl),
        (target.command_append "\n").symm⟩

/-- None of the pieces holds a space, even if a line end follows the output. -/
theorem space_not_mem_spelt {target : Target} (hwords : target.HasWords) {output : String}
    (houtput : Text.withoutLineEnd output = target.outputDir) :
    ∀ piece ∈ ({ target with outputDir := output } : Target).spelt, ' ' ∉ piece.toList := by
  intro piece hpiece
  rcases List.mem_append.1 hpiece with hopening | hlast
  · exact (isWord_of_mem_opening hwords piece hopening).not_mem (by decide)
  · -- the line end is blank as well, so the output as it was cut off need not be a word
    obtain rfl := List.mem_singleton.1 hlast
    have hspace : ' ' ∉ target.outputDir.toList := hwords.output.not_mem (by decide)
    rcases Text.eq_of_withoutLineEnd houtput with hsame | hline
    · rw [hsame]
      exact hspace
    · rw [hline, String.toList_append, List.mem_append, not_or]
      exact ⟨hspace, by decide⟩

/-- **The spaces of a command are those between its pieces**, and so the pieces are what is found
between its spaces. -/
theorem pieces_spelt {target : Target} (hwords : target.HasWords) {output : String}
    (houtput : Text.withoutLineEnd output = target.outputDir) {text : String} :
    Text.pieces ' ' text = ({ target with outputDir := output } : Target).spelt ↔
      text = ({ target with outputDir := output } : Target).command := by
  rw [← join_spelt]
  constructor
  · intro h
    rw [← h]
    exact (Text.join_pieces ' ' text).symm
  · rintro rfl
    refine Text.pieces_join ?_ (space_not_mem_spelt hwords houtput)
    simp [spelt]

/-! ## Reading -/

theorem ofWords?_eq_some_iff {task glob output : String} {startDir : Option String}
    {target : Target} :
    ofWords? task startDir glob output = some target ↔
      target = ⟨task, glob, output, startDir⟩ ∧ target.HasWords := by
  have hall : (startDir.toList ++ [glob, output]).all (fun text => Text.isSolid text.toList) = true
      ↔ HasWords ⟨task, glob, output, startDir⟩ := by
    rw [List.all_eq_true]
    exact forall₂_congr fun text _ => Text.isWord_iff.symm
  rw [ofWords?]
  split
  · next h =>
    rw [Option.some.injEq]
    constructor
    · rintro rfl
      exact ⟨rfl, hall.1 h⟩
    · exact fun heq => heq.1.symm
  · next h =>
    refine iff_of_false nofun fun heq => ?_
    obtain ⟨rfl, hwords⟩ := heq
    exact h (hall.2 hwords)

/-- What is read is found in the pieces of the command. -/
theorem parse?_eq_some_iff_pieces {task text : String} {target : Target} :
    parse? task text = some target ↔ target.task = task ∧ target.HasWords ∧
      ∃ output, Text.withoutLineEnd output = target.outputDir ∧
        Text.pieces ' ' text = ({ target with outputDir := output } : Target).spelt := by
  constructor
  · -- two shapes of pieces are read: five of them, or eight with a directory in front
    intro h
    rw [parse?] at h
    split at h
    · next glob output hpieces =>
      obtain ⟨rfl, hwords⟩ := ofWords?_eq_some_iff.1 h
      exact ⟨rfl, hwords, output, rfl, hpieces⟩
    · next dir glob output hpieces =>
      obtain ⟨rfl, hwords⟩ := ofWords?_eq_some_iff.1 h
      exact ⟨rfl, hwords, output, rfl, hpieces⟩
    · cases h
  · rintro ⟨rfl, hwords, output, houtput, hpieces⟩
    obtain ⟨task, glob, own, _ | dir⟩ := target
    · change Text.pieces ' ' text = ["json2ts", "-i", glob, "-o", output] at hpieces
      rw [parse?, hpieces]
      exact ofWords?_eq_some_iff.2 ⟨by rw [houtput], hwords⟩
    · change Text.pieces ' ' text = ["cd", dir, "&&", "json2ts", "-i", glob, "-o", output] at hpieces
      rw [parse?, hpieces]
      exact ofWords?_eq_some_iff.2 ⟨by rw [houtput], hwords⟩

/-- A target is read from the commands that say it. -/
theorem parse?_eq_some_iff {task text : String} {target : Target} :
    parse? task text = some target ↔ target.task = task ∧ target.IsSaidBy text := by
  rw [parse?_eq_some_iff_pieces]
  refine and_congr_right fun _ => ?_
  constructor
  · rintro ⟨hwords, output, houtput, hpieces⟩
    have hcommand := (pieces_spelt hwords houtput).1 hpieces
    exact ⟨hwords, (exists_output_iff hwords).1 ⟨output, houtput, hcommand⟩⟩
  · rintro ⟨hwords, hspelling⟩
    obtain ⟨output, houtput, hcommand⟩ := (exists_output_iff hwords).2 hspelling
    exact ⟨hwords, output, houtput, (pieces_spelt hwords houtput).2 hcommand⟩

/-- The task only names the target. -/
theorem IsSaidBy.withTask {target : Target} {text : String} (h : target.IsSaidBy text)
    (task : String) : ({ target with task := task } : Target).IsSaidBy text :=
  ⟨h.words, h.spelling⟩

/-- **No command says two things.** -/
theorem IsSaidBy.unique {a b : Target} {text : String} (ha : a.IsSaidBy text)
    (hb : b.IsSaidBy text) :
    a.startDir = b.startDir ∧ a.inputGlob = b.inputGlob ∧ a.outputDir = b.outputDir := by
  -- reading has one result, and each of the two is it
  have hfirst := parse?_eq_some_iff.2 ⟨rfl, ha.withTask ""⟩
  have hsecond := parse?_eq_some_iff.2 ⟨rfl, hb.withTask ""⟩
  have hsame := Option.some.inj (hfirst.symm.trans hsecond)
  rw [Target.mk.injEq] at hsame
  obtain ⟨-, hglob, houtput, hdir⟩ := hsame
  exact ⟨hdir, hglob, houtput⟩

/-- The command of a target has no line end of its own. -/
theorem lineEnd_not_mem_command {target : Target} (hwords : target.HasWords) :
    '\n' ∉ target.command.toList := by
  rw [← join_spelt, Text.toList_join]
  intro hmem
  rcases Text.mem_of_mem_glue hmem with hmark | ⟨chars, hchars, hline⟩
  · exact absurd hmark (by decide)
  · obtain ⟨piece, hpiece, rfl⟩ := List.mem_map.1 hchars
    have hword : Text.IsWord piece := by
      rcases List.mem_append.1 hpiece with hopening | hlast
      · exact isWord_of_mem_opening hwords piece hopening
      · exact List.mem_singleton.1 hlast ▸ hwords.output
    exact hword.not_mem (by decide) hline

/-- Written again, a target is what was read, less the line end. -/
theorem IsSaidBy.command_eq {target : Target} {text : String} (h : target.IsSaidBy text) :
    target.command = Text.withoutLineEnd text :=
  ((Text.withoutLineEnd_eq_iff (lineEnd_not_mem_command h.words)).2 h.spelling).symm

/-- The tool of every command that says a target is the generator. -/
theorem IsSaidBy.toolTags_eq {target : Target} {text : String} (h : target.IsSaidBy text) :
    toolTags text = ["json2ts"] := by
  have hread := parse?_eq_some_iff.2 ⟨rfl, h.withTask ""⟩
  rw [toolTags, hread]
  rfl

/-! ## The statement -/

/-- **A command has one reading.** A target is read from a command exactly if the command says it:
`cd DIR && ` or nothing, then `json2ts -i GLOB -o OUTPUT`, and one line end at most, where the
three texts are words. No command says two targets. What is written is read again, with and
without a line end, what was read is written as it was but for the line end, and the tool of all
these commands is the generator. -/
theorem command_has_one_reading (task text : String) :
    (∀ target, parse? task text = some target ↔ target.task = task ∧ target.IsSaidBy text) ∧
    (∀ a b : Target, a.IsSaidBy text → b.IsSaidBy text →
      a.startDir = b.startDir ∧ a.inputGlob = b.inputGlob ∧ a.outputDir = b.outputDir) ∧
    (∀ target : Target, target.task = task → target.HasWords →
      parse? task target.command = some target ∧
        parse? task (target.command ++ "\n") = some target) ∧
    (∀ target, parse? task text = some target → target.command = Text.withoutLineEnd text) ∧
    (∀ target : Target, target.IsSaidBy text → toolTags text = ["json2ts"]) := by
  refine ⟨fun target => parse?_eq_some_iff, fun a b => IsSaidBy.unique, ?_, ?_, ?_⟩
  · intro target htask hwords
    exact ⟨parse?_eq_some_iff.2 ⟨htask, hwords, .inl rfl⟩,
      parse?_eq_some_iff.2 ⟨htask, hwords, .inr rfl⟩⟩
  · intro target hread
    exact (parse?_eq_some_iff.1 hread).2.command_eq
  · exact fun target => IsSaidBy.toolTags_eq

/-- Words that look like the fixed texts around them, and a line end: the directory is called
`&&`, the glob `-o` and the output `json2ts`. -/
theorem words_may_look_like_flags :
    let target : Target := ⟨"odd", "-o", "json2ts", some "&&"⟩
    let text := "cd && && json2ts -i -o -o json2ts\n"
    target.HasWords ∧ target.IsSaidBy text ∧ parse? "odd" text = some target ∧
      target.command = Text.withoutLineEnd text ∧ toolTags text = ["json2ts"] := by
  intro target text
  have hwords : target.HasWords := by
    intro word hword
    rw [Text.isWord_iff]
    revert word
    decide
  have hsaid : target.IsSaidBy text := ⟨hwords, .inr rfl⟩
  obtain ⟨-, -, hreads, hwritten, htags⟩ := command_has_one_reading "odd" text
  have hread : parse? "odd" text = some target := (hreads target rfl hwords).2
  exact ⟨hwords, hsaid, hread, hwritten target hread, htags target hsaid⟩

end Target

end Taskbook
