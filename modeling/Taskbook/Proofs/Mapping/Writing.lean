/-
Writing a book as a scripts mapping, and loading it again.

Most of a book can be written as a scripts mapping: a command as its text or as a table with
nothing but a default, a group of commands as the table of their texts, and its default, if it
has one, as a line that runs its sub-tasks (`Task.WrittenAs`). Some of it cannot. A mapping has
no groups in groups and no disabled tasks, a child called like the key of a default would be
taken for one, and a line is read as words, so that a name with a blank in it falls apart
(`Task.IsWritable`).

Writing and loading are different pieces of work: one renders a sequence and lays entries out,
the other takes a line apart, leaves the default out of the children, tells a command from a
group and checks everything again. They meet in `Script.Gives`, which says what a script becomes.
What a written task gives is the task itself with another label (`Task.WrittenAs.gives`),
because descriptions are not written and tags are worked out from the text. So the loaded
book is the written one but for its labels, and for all that a book is asked that is no
difference (`Taskbook.Proofs.Book.Relabelling`).
-/
import Taskbook.Proofs.Book.Relabelling
import Taskbook.Proofs.Mapping.Grammar
import Taskbook.Proofs.Mapping.Line
import Mathlib.Data.List.Nodup

set_option autoImplicit false

namespace Taskbook

/-! ## How tasks are written -/

/-- The commands of the table under their keys. -/
def Table.commands (table : Table) : List (String × String) :=
  table.toList.filterMap fun entry => entry.2.text?.map (entry.1, ·)

/-- The task can be written as a script: it is an enabled command, or a group of enabled
commands, none of which is called like a default. If the group has a default, there is no
blank in its name or in the names that the default lists. -/
inductive Task.IsWritable : Task → Prop
  | command (label : Label) (text : String) (henabled : label.enabled = true) :
      IsWritable (.command label text)
  | group (label : Label) (children : Table) (default : Option Sequence)
      (hcommands : ∀ entry ∈ children.toList, entry.2.isGroup = false ∧ entry.2.enabled = true)
      (hkeys : ∀ entry ∈ children.toList, entry.1 ≠ "default")
      (hblanks : ∀ sequence, default = some sequence → ∀ name ∈ label.name :: sequence.names,
        ∀ c ∈ name.toList, Text.isBlank c = false) :
      IsWritable (.group label children default)

/-- The script is one way to write the task. The default of a group can stand anywhere among
its commands. -/
inductive Task.WrittenAs : Task → Script → Prop
  | bare (label : Label) (text : String) : WrittenAs (.command label text) (.command text)
  | alone (label : Label) (text : String) :
      WrittenAs (.command label text) (.table [("default", text)])
  | group (label : Label) (children : Table) :
      WrittenAs (.group label children none) (.table children.commands)
  | groupWithDefault (label : Label) (children : Table) (sequence : Sequence)
      (before after : List (String × String)) (h : before ++ after = children.commands) :
      WrittenAs (.group label children (some sequence))
        (.table (before ++ ("default", sequence.render label.name) :: after))

/-- The scripts are one way to write the tasks of the table, each under its key and in order. -/
def Table.WrittenAs (table : Table) (scripts : List (String × Script)) : Prop :=
  List.Forall₂ (fun entry script => script.1 = entry.1 ∧ entry.2.WrittenAs script.2)
    table.toList scripts

/-- The mapping with these scripts. -/
def Document.ofScripts (scripts : List (String × Script)) : Document :=
  .table [("scripts", .table (scripts.map fun entry => (entry.1, entry.2.document)))]

/-! ## Documents without repeated keys -/

theorem Document.entriesKeysOnce_iff {entries : List (String × Document)} :
    Document.entriesKeysOnce entries = true ↔ ∀ entry ∈ entries, entry.2.keysOnce = true := by
  induction entries with
  | nil => simp [Document.entriesKeysOnce]
  | cons entry rest ih =>
    rw [Document.entriesKeysOnce, Bool.and_eq_true, ih, List.forall_mem_cons]

theorem Script.keysOnce_iff {entries : List (String × String)} :
    (Script.table entries).document.keysOnce = true ↔ (entries.map Prod.fst).Nodup := by
  refine ⟨Script.nodup_of_keysOnce, fun honce => ?_⟩
  rw [Script.document, Document.keysOnce, Bool.and_eq_true, decide_eq_true_eq, List.map_map]
  refine ⟨honce, Document.entriesKeysOnce_iff.2 fun entry hentry => ?_⟩
  obtain ⟨own, -, rfl⟩ := List.mem_map.1 hentry
  rfl

theorem Document.keysOnce_ofScripts {scripts : List (String × Script)}
    (honce : (scripts.map Prod.fst).Nodup)
    (heach : ∀ entry ∈ scripts, entry.2.document.keysOnce = true) :
    (Document.ofScripts scripts).keysOnce = true := by
  have hscripts : (Document.table
      (scripts.map fun entry => (entry.1, entry.2.document))).keysOnce = true := by
    rw [Document.keysOnce, Bool.and_eq_true, decide_eq_true_eq, List.map_map]
    refine ⟨honce, Document.entriesKeysOnce_iff.2 fun entry hentry => ?_⟩
    obtain ⟨own, hown, rfl⟩ := List.mem_map.1 hentry
    exact heach own hown
  rw [Document.ofScripts, Document.keysOnce, Bool.and_eq_true]
  exact ⟨by simp, Document.entriesKeysOnce_iff.2 (by simpa using hscripts)⟩

/-! ## Commands and what they come back as -/

/-- The labels that tasks have after they have been loaded: names are kept, descriptions
are lost, and the tags of a command are those of its tool. -/
def Relabelling.loaded : Relabelling := fun label text =>
  { name := label.name, enabled := label.enabled, tags := (text.map toolTags).getD [] }

theorem Relabelling.loaded_keepsEnabled : Relabelling.loaded.KeepsEnabled :=
  fun _ _ => rfl

theorem Task.name_loaded (task : Task) : (task.relabel .loaded).name = task.name := by
  cases task <;> rfl

/-- An enabled command comes back as the command of its name and text. -/
theorem Task.loaded_of_command {label : Label} (henabled : label.enabled = true) (text : String) :
    (Task.command label text).relabel .loaded = .ofCommand label.name text := by
  rw [Task.relabel, Relabelling.loaded, henabled]
  rfl

theorem Table.loaded_byName (tasks : List Task) :
    (Table.byName tasks).relabel .loaded = .byName (tasks.map (Task.relabel .loaded)) := by
  induction tasks with
  | nil => rfl
  | cons task rest ih =>
    rw [List.map_cons, Table.byName_cons, Table.byName_cons, Table.relabel, ih, Task.name_loaded]

section Commands

variable {tasks : List Task}

theorem Table.commands_byName_cons (label : Label) (text : String) (rest : List Task) :
    (Table.byName (.command label text :: rest)).commands
      = (label.name, text) :: (Table.byName rest).commands := by
  rw [Table.byName_cons, Table.commands, Table.toList, List.filterMap_cons]
  rfl

/-- If all tasks are commands, none is left out. -/
theorem Table.keys_commands (h : ∀ task ∈ tasks, task.isGroup = false) :
    (Table.byName tasks).commands.map Prod.fst = tasks.map Task.name := by
  induction tasks with
  | nil => rfl
  | cons task rest ih =>
    obtain ⟨hfirst, hrest⟩ := List.forall_mem_cons.1 h
    cases task with
    | command label text =>
      rw [Table.commands_byName_cons, List.map_cons, ih hrest]
      rfl
    | group => cases hfirst

/-- Enabled commands come back as they are written. -/
theorem Table.loaded_eq_commands
    (h : ∀ task ∈ tasks, task.isGroup = false ∧ task.enabled = true) :
    (Table.byName tasks).relabel .loaded
      = .byName ((Table.byName tasks).commands.map fun entry => .ofCommand entry.1 entry.2) := by
  induction tasks with
  | nil => rfl
  | cons task rest ih =>
    obtain ⟨⟨hcommand, henabled⟩, hrest⟩ := List.forall_mem_cons.1 h
    cases task with
    | command label text =>
      have hfirst : (Task.command label text).relabel .loaded = .ofCommand label.name text :=
        Task.loaded_of_command henabled text
      rw [Table.commands_byName_cons, List.map_cons, Table.byName_cons, Table.byName_cons,
        Table.relabel, hfirst, ih hrest]
      rfl
    | group => cases hcommand

end Commands

/-! ## What a written task gives -/

/-- No key is that of a default. -/
theorem Script.members_eq_self {entries : List (String × String)}
    (h : ∀ entry ∈ entries, entry.1 ≠ "default") : Script.members entries = entries :=
  List.filter_eq_self.2 fun entry hentry => bne_iff_ne.2 (h entry hentry)

/-- The default is left out wherever it stands. -/
theorem Script.members_append_cons {before after : List (String × String)} {line : String}
    (h : ∀ entry ∈ before ++ after, entry.1 ≠ "default") :
    Script.members (before ++ ("default", line) :: after) = before ++ after := by
  obtain ⟨hbefore, hafter⟩ := List.forall_mem_append.1 h
  have hcons : Script.members (("default", line) :: after) = Script.members after := rfl
  rw [Script.members, List.filter_append, ← Script.members, ← Script.members, hcons,
    Script.members_eq_self hbefore, Script.members_eq_self hafter]

/-- A group that is declared by name holds tasks of proper names by name, and is enabled. -/
theorem Declaration.children_of_check {declaration : Declaration} {label : Label}
    {children : Table} {default : Option Sequence} (hnamed : declaration.isNamed = true)
    (h : declaration.check = .ok (.group label children default)) :
    label.enabled = true ∧ children.defaultHolds default = true ∧
      ∃ tasks, children = .byName tasks ∧ tasks ≠ [] ∧ (tasks.map Task.name).Nodup ∧
        ∀ task ∈ tasks, validName task.name = true := by
  cases declaration with
  | command own text =>
    rw [Declaration.check, Task.define_command_eq_ok_iff] at h
    cases h.2
  | group name members names description tags =>
    obtain ⟨tasks, sequence, htasks, honce, -, -, hne, hholds, hgroup⟩ :=
      Declaration.check_group_eq_ok_iff.1 h
    cases hgroup
    rw [← Declaration.checkAll_eq_mapM] at htasks
    exact ⟨rfl, hholds, tasks, rfl, hne, honce, fun task htask =>
      (Declaration.keysPass_of_checkAll hnamed htasks task htask).1⟩
  | keyed => cases hnamed

/-- A table whose members are the commands of a group, and whose default is the line of the
group's, gives that group. -/
theorem Task.gives_of_commands {label : Label} {tasks : List Task} {default : Option Sequence}
    {entries : List (String × String)} (henabled : label.enabled = true) (hne : tasks ≠ [])
    (hnames : ∀ task ∈ tasks, validName task.name = true)
    (hcommands : ∀ task ∈ tasks, task.isGroup = false ∧ task.enabled = true)
    (hholds : (Table.byName tasks).defaultHolds default = true)
    (hmembers : Script.members entries = (Table.byName tasks).commands)
    (hline : (entries.lookup "default").map Text.words
      = default.map fun s => "nps" :: s.names.map (label.name ++ "." ++ ·)) :
    (Script.table entries).Gives label.name
      ((Task.group label (.byName tasks) default).relabel .loaded) := by
  have hchildren : (Table.byName tasks).relabel .loaded = .ofMembers entries := by
    rw [Table.loaded_eq_commands hcommands, Table.ofMembers, hmembers]
  have hloaded : (Task.group label (.byName tasks) default).relabel .loaded
      = .group { name := label.name } (.ofMembers entries) default := by
    rw [Task.relabel, hchildren, Relabelling.loaded, henabled]
    rfl
  have hkeys : (Script.members entries).map Prod.fst = tasks.map Task.name := by
    rw [hmembers, Table.keys_commands fun task htask => (hcommands task htask).1]
  rw [hloaded]
  refine .group entries default ?_ (fun entry hentry => ?_) hline ?_
  · intro hnone
    rw [hnone] at hkeys
    exact hne (List.map_eq_nil_iff.1 hkeys.symm)
  · obtain ⟨task, htask, hname⟩ := List.mem_map.1 (hkeys ▸ List.mem_map_of_mem hentry)
    exact hname ▸ hnames task htask
  · rw [← hchildren, Table.defaultHolds_relabel Relabelling.loaded_keepsEnabled, hholds]

/-- The commands of a group that can be written stand under different keys, none of them that of
a default, and a table of them gives the group back. -/
theorem Task.IsWritable.commands_of_group {declaration : Declaration} {label : Label}
    {children : Table} {default : Option Sequence}
    (hwritable : (Task.group label children default).IsWritable)
    (hnamed : declaration.isNamed = true)
    (hcheck : declaration.check = .ok (.group label children default)) :
    (children.commands.map Prod.fst).Nodup ∧
    (∀ entry ∈ children.commands, entry.1 ≠ "default") ∧
    ∀ entries, Script.members entries = children.commands →
      (entries.lookup "default").map Text.words
        = default.map (fun s => "nps" :: s.names.map (label.name ++ "." ++ ·)) →
      (Script.table entries).Gives label.name
        ((Task.group label children default).relabel .loaded) := by
  obtain ⟨henabled, hholds, tasks, rfl, hne, honce, hnames⟩ :=
    Declaration.children_of_check hnamed hcheck
  cases hwritable with
  | group _ _ _ hcommands hkeys hblanks =>
    rw [Table.toList_byName, List.forall_mem_map] at hcommands hkeys
    have hkept : (Table.byName tasks).commands.map Prod.fst = tasks.map Task.name :=
      Table.keys_commands fun task htask => (hcommands task htask).1
    refine ⟨hkept ▸ honce, fun entry hmem => ?_, fun entries hmembers hline =>
      Task.gives_of_commands henabled hne hnames hcommands hholds hmembers hline⟩
    obtain ⟨task, htask, hname⟩ := List.mem_map.1 (hkept ▸ List.mem_map_of_mem hmem)
    exact hname ▸ hkeys task htask

/-- **A written task gives itself** with the label that it comes back with. -/
theorem Task.WrittenAs.gives {declaration : Declaration} {task : Task} {script : Script}
    (hwritten : task.WrittenAs script) (hwritable : task.IsWritable)
    (hnamed : declaration.isNamed = true) (hcheck : declaration.check = .ok task) :
    script.document.keysOnce = true ∧ script.Gives task.name (task.relabel .loaded) := by
  cases hwritten with
  | bare label text =>
    cases hwritable with
    | command _ _ henabled =>
      rw [Task.loaded_of_command henabled]
      exact ⟨rfl, .command text⟩
  | alone label text =>
    cases hwritable with
    | command _ _ henabled =>
      rw [Task.loaded_of_command henabled]
      exact ⟨Script.keysOnce_iff.2 (by simp), .alone text⟩
  | group label children =>
    obtain ⟨honce, hfree, hgives⟩ := hwritable.commands_of_group hnamed hcheck
    refine ⟨Script.keysOnce_iff.2 honce, hgives _ (Script.members_eq_self hfree) ?_⟩
    have hnone : children.commands.lookup "default" = none :=
      List.lookup_eq_none_iff.2 fun entry hentry => bne_iff_ne.2 (hfree entry hentry).symm
    rw [hnone]
    rfl
  | groupWithDefault label children sequence before after happend =>
    obtain ⟨honce, hfree, hgives⟩ := hwritable.commands_of_group hnamed hcheck
    have hwords : Text.words (sequence.render label.name)
        = "nps" :: sequence.names.map (label.name ++ "." ++ ·) := by
      cases hwritable with
      | group _ _ _ _ _ hblanks => exact Sequence.words_render (hblanks sequence rfl)
    rw [← happend] at honce hfree
    -- the default has a key of its own, wherever it stands
    have hall :
        ((before ++ ("default", sequence.render label.name) :: after).map Prod.fst).Nodup := by
      rw [List.map_append, List.map_cons, List.nodup_middle, List.nodup_cons, ← List.map_append]
      refine ⟨fun hmem => ?_, honce⟩
      obtain ⟨entry, hentry, hkey⟩ := List.mem_map.1 hmem
      exact hfree entry hentry hkey
    have hline : (before ++ ("default", sequence.render label.name) :: after).lookup "default"
        = some (sequence.render label.name) :=
      (lookup_eq_some_iff_mem hall).2 (List.mem_append_right _ List.mem_cons_self)
    refine ⟨Script.keysOnce_iff.2 hall,
      hgives _ ((Script.members_append_cons hfree).trans happend) ?_⟩
    rw [hline, Option.map_some, Option.map_some, hwords]

/-! ## The statement -/

/-- **Writing and loading loses nothing that runs.** Let a book be declared by name, with
enabled commands and groups of enabled commands at its top that can all be written, and let a
mapping have one script for each of them in order, whichever way it is written. Then the
mapping loads, and the loaded book agrees with the first one: every path finds a task of the
same text, the same default and the same keys below it, or fails for the same reason; it
resolves to the same or fails for the same reason, and it has the same plan or none for the
same reason; and the same paths are listed in the same order. -/
theorem Book.written_and_loaded_agrees {declarations : List Declaration} {book : Book}
    {scripts : List (String × Script)} (hnamed : Declaration.areNamed declarations = true)
    (hbook : Book.ofDeclarations declarations = .ok book)
    (hwritable : ∀ entry ∈ book.tasks.toList, entry.2.IsWritable)
    (hwritten : book.tasks.WrittenAs scripts) :
    ∃ loaded, Book.ofDocument (.ofScripts scripts) = .ok loaded ∧
      (∀ path, (loaded.find path).map (fun task => (task.text?, task.default?, task.children.keys))
        = (book.find path).map (fun task => (task.text?, task.default?, task.children.keys))) ∧
      (∀ path, loaded.resolve path = book.resolve path) ∧
      (∀ path, loaded.plan path = book.plan path) ∧
      ∀ withDisabled, loaded.paths withDisabled = book.paths withDisabled := by
  obtain ⟨tasks, htasks, honce, rfl⟩ := Book.ofDeclarations_eq_ok_iff.1 hbook
  rw [Table.toList_byName, List.forall_mem_map] at hwritable
  rw [Table.WrittenAs, Table.toList_byName, List.forall₂_map_left_iff] at hwritten
  have heach : ∀ task ∈ tasks, ∀ script, task.WrittenAs script →
      script.document.keysOnce = true ∧ script.task task.name = .ok (task.relabel .loaded) := by
    intro task htask script hscript
    obtain ⟨declaration, hmem, hcheck⟩ := item_of_mapM_ok htasks htask
    have hown := Declaration.isNamed_of_mem hnamed hmem
    obtain ⟨hkeys, hgives⟩ := hscript.gives (hwritable task htask) hown hcheck
    exact ⟨hkeys, (Script.task_eq_ok_iff hkeys).2
      ⟨(Declaration.keysPass_of_check hown hcheck).1, hgives⟩⟩
  have hnames : scripts.map Prod.fst = tasks.map Task.name := by
    rw [← List.forall₂_eq_eq_eq, List.forall₂_map_left_iff, List.forall₂_map_right_iff]
    exact hwritten.flip.imp fun _ _ h => h.1
  have hkeys : (Document.ofScripts scripts).keysOnce = true := by
    refine Document.keysOnce_ofScripts (hnames ▸ honce) fun script hscript => ?_
    obtain ⟨task, htask, -, hform⟩ := exists_mem_of_forall₂ hwritten hscript
    exact (heach task htask script.2 hform).1
  have hchecked : (scripts.mapM fun entry => entry.2.task entry.1)
      = .ok (tasks.map (Task.relabel .loaded)) := by
    rw [mapM_eq_ok_iff, List.forall₂_map_right_iff]
    have hboth := (List.forall₂_and_left tasks scripts).2 ⟨fun task htask => htask, hwritten⟩
    refine hboth.flip.imp fun script task h => ?_
    rw [h.2.1]
    exact (heach task h.1 script.2 h.2.2).2
  have hloaded : Book.ofDocument (.ofScripts scripts)
      = .ok (Book.relabel .loaded ⟨.byName tasks⟩) :=
    (Book.ofDocument_eq_ok_iff hkeys).2 ⟨scripts, _, ⟨_, rfl, List.mem_cons_self⟩, hchecked,
      by rw [Book.relabel, Table.loaded_byName]⟩
  have hsame := Relabelling.loaded_keepsEnabled
  refine ⟨_, hloaded, fun path => ?_, Book.resolve_relabel hsame _, Book.plan_relabel hsame _,
    Book.paths_relabel hsame _⟩
  rw [Book.find_relabel]
  cases Book.find ⟨.byName tasks⟩ path with
  | error error => rfl
  | ok task => simp [Except.map]

/-- A described command and a group whose default runs a test twice are written, the default
between the commands, and loaded. -/
theorem Book.check_is_written_and_loaded :
    let declarations : List Declaration := [
      .command { name := "fmt", description := some "Formats." } "black .",
      .group "check" [.command { name := "lint" } "flake8", .command { name := "test" } "pytest -q"]
        (some ["test", "lint", "test"]) none []]
    let tasks : Table := .byName [
      .command { name := "fmt", description := some "Formats." } "black .",
      .group { name := "check" }
        (.byName [.command { name := "lint" } "flake8", .command { name := "test" } "pytest -q"])
        (Sequence.ofNames? ["test", "lint", "test"])]
    let scripts : List (String × Script) := [
      ("fmt", .table [("default", "black .")]),
      ("check", .table [("lint", "flake8"), ("default", "nps check.test check.lint check.test"),
        ("test", "pytest -q")])]
    Book.ofDeclarations declarations = .ok ⟨tasks⟩ ∧
    ∃ loaded, Book.ofDocument (.ofScripts scripts) = .ok loaded ∧
      loaded.plan ["check"] = Book.plan ⟨tasks⟩ ["check"] ∧
      loaded.paths false = ["fmt", "check", "check.lint", "check.test"] := by
  intro declarations tasks scripts
  have hbook : Book.ofDeclarations declarations = .ok ⟨tasks⟩ := rfl
  have hsolid : ∀ name ∈ ["check", "test", "lint", "test"], Text.isSolid name.toList = true := by
    decide
  have hwritable : ∀ entry ∈ tasks.toList, entry.2.IsWritable := by
    refine List.forall_mem_cons.2 ⟨.command _ _ rfl, List.forall_mem_singleton.2
      (.group _ _ _ (by decide) (by decide) fun sequence hsequence name hname => ?_)⟩
    cases hsequence
    exact (Text.isSolid_iff.1 (hsolid name hname)).2
  have hwritten : tasks.WrittenAs scripts :=
    .cons ⟨rfl, .alone _ _⟩ (.cons ⟨rfl, .groupWithDefault _ _ ⟨["test", "lint", "test"], by decide⟩
      [("lint", "flake8")] [("test", "pytest -q")] rfl⟩ .nil)
  obtain ⟨loaded, hloaded, -, -, hplans, hpaths⟩ :=
    Book.written_and_loaded_agrees rfl hbook hwritable hwritten
  exact ⟨hbook, loaded, hloaded, hplans ["check"], (hpaths false).trans (by decide)⟩

end Taskbook
