/-
Targets, the list of paths and the tags tell of the same tasks.

Three lists are drawn from the walk through a book, each by a test of its own: a target asks
for a command that can be read, a listed path for something that can be called, a tag for
itself among the tags. Over proper names a listed path leads back to its entry, so asking the
entry for its target and asking the path what it resolves to come to the same
(`Entry.target?_eq`).

Tags are another matter. They can be chosen at will, and only a book that came from a mapping
has those that its commands earn. How such a book is made is opened here once more and from the
other end than in the grammar of mappings: whatever the mapping, it is made of declarations of
commands and of groups of such commands (`Script.declaration_cases`), and that is enough for
sound tables, proper names and the tags.
-/
import Taskbook.Proofs.Book.Walk
import Taskbook.Proofs.Generator.Target
import Taskbook.Proofs.Mapping.Grammar

set_option autoImplicit false

namespace Taskbook

/-! ## Asking the path -/

/-- The target that is read from the command that the dotted path resolves to. -/
def Book.targetAt? (book : Book) (text : String) : Option Target :=
  match book.resolve (Path.ofDotted text) with
  | .ok (.command command) => Target.parse? text command
  | _ => none

section

variable {book : Book} {entry : Entry}

/-- An entry of the walk is found and enabled. -/
theorem Book.find_of_mem_entries (hsound : book.isSound = true)
    (hkeys : book.tasks.keysPass validName = true) (hmem : entry ∈ book.entries false) :
    book.find (Path.ofDotted entry.dotted) = .ok entry.task ∧ entry.task.enabled = true := by
  obtain ⟨hfind, hall | hopen⟩ := (Book.mem_entries_iff hsound hkeys).1 hmem
  · cases hall
  · have hne : entry.path ≠ [] := (Path.isValid_iff.1 (Book.find_eq_ok_iff.1 hfind).1).1
    rw [Entry.dotted, Book.ofDotted_dotted_of_find hkeys hfind]
    exact ⟨hfind, hopen entry.path hne (List.prefix_refl _) _ hfind⟩

/-- An entry has a target exactly if its path can be called and resolves to a command with one. -/
theorem Entry.target?_eq (hsound : book.isSound = true)
    (hkeys : book.tasks.keysPass validName = true) (hmem : entry ∈ book.entries false) :
    entry.target? = if entry.task.isInvocable then book.targetAt? entry.dotted else none := by
  obtain ⟨hfind, henabled⟩ := Book.find_of_mem_entries hsound hkeys hmem
  have hresolve := Book.resolve_of_find hfind henabled
  rw [Book.targetAt?, hresolve, Entry.target?]
  rcases entry.task with ⟨label, text⟩ | ⟨label, children, _ | sequence⟩ <;> rfl

/-- **The targets are those of the listed paths.** -/
theorem Book.targets_eq_paths (hsound : book.isSound = true)
    (hkeys : book.tasks.keysPass validName = true) :
    book.targets = (book.paths false).filterMap book.targetAt? := by
  rw [Book.targets, Book.paths, List.filterMap_map, List.filterMap_filter]
  exact List.filterMap_congr fun entry hmem => Entry.target?_eq hsound hkeys hmem

/-- The task of a target is the entry that it was read from. -/
theorem Entry.task_of_target? {target : Target} (h : entry.target? = some target) :
    target.task = entry.dotted := by
  obtain ⟨text, -, hread⟩ := Option.bind_eq_some_iff.1 h
  exact (Target.parse?_eq_some_iff.1 hread).1

/-- An entry with a target is a command whose tool is the generator. -/
theorem Entry.command_of_target? {target : Target} (h : entry.target? = some target) :
    ∃ label text, entry.task = .command label text ∧ toolTags text = ["json2ts"] := by
  obtain ⟨text, htext, hread⟩ := Option.bind_eq_some_iff.1 h
  cases htask : entry.task with
  | command label own =>
    rw [htask] at htext
    cases htext
    exact ⟨label, text, rfl, (Target.parse?_eq_some_iff.1 hread).2.toolTags_eq⟩
  | group label children default =>
    rw [htask] at htext
    cases htext

/-- The paths of the targets find the entries that have one, in order. -/
theorem Book.find_targets (hsound : book.isSound = true)
    (hkeys : book.tasks.keysPass validName = true) :
    book.targets.map (fun target => book.find (Path.ofDotted target.task))
      = (((book.entries false).filter fun entry => entry.target?.isSome).map Entry.task).map
          .ok := by
  rw [Book.targets, List.map_filterMap, List.map_map, ← List.filterMap_eq_map,
    List.filterMap_filter]
  refine List.filterMap_congr fun entry hmem => ?_
  cases htarget : entry.target? with
  | none => rfl
  | some target =>
    rw [Option.map_some, Entry.task_of_target? htarget,
      (Book.find_of_mem_entries hsound hkeys hmem).1]
    rfl

/-- In a book where the entries with a target carry a tag, they are among those that carry
it, in order. -/
theorem Book.sublist_tagged {tag : String}
    (htags : ∀ entry ∈ book.entries false, entry.target?.isSome = true →
      tag ∈ entry.task.label.tags) :
    (((book.entries false).filter fun entry => entry.target?.isSome).map Entry.task).Sublist
      (book.tagged tag) := by
  rw [Book.tagged, List.filter_map]
  refine List.Sublist.map Entry.task ?_
  have htwice : (book.entries false).filter (fun entry => entry.target?.isSome)
      = ((book.entries false).filter fun entry => entry.task.label.tags.contains tag).filter
          fun entry => entry.target?.isSome := by
    rw [List.filter_filter]
    refine List.filter_congr fun entry hmem => ?_
    cases hsome : entry.target?.isSome with
    | false => rfl
    | true => simpa using htags entry hmem hsome
  rw [htwice]
  exact List.filter_sublist

end

/-! ## Books that came from a mapping -/

/-- What an entry of a mapping becomes: a command that is tagged with its tool, or a group of such
commands under proper names of their own. -/
inductive Task.IsLoaded : Task → Prop
  | command (name text : String) : IsLoaded (.ofCommand name text)
  | group (label : Label) (entries : List (String × String)) (default : Option Sequence)
      (hnames : ∀ entry ∈ Script.members entries, validName entry.1 = true)
      (honce : ((Script.members entries).map Prod.fst).Nodup) :
      IsLoaded (.group label (.ofMembers entries) default)

namespace Task.IsLoaded

variable {task : Task}

/-- A command has the tags that it earns. -/
theorem tags_eq {label : Label} {text : String} (h : (Task.command label text).IsLoaded) :
    label.tags = toolTags text := by
  cases h
  rfl

/-- What stands below it is a command of the same kind. -/
theorem child {key : String} {child : Task} (h : task.IsLoaded)
    (hfind : task.children.find? key = some child) : child.IsLoaded := by
  cases h with
  | command name text => cases hfind
  | group label entries default hnames honce =>
    rw [← Script.names_ofCommand] at honce
    obtain ⟨hmem, -⟩ := (Table.find?_byName_iff honce).1 hfind
    obtain ⟨entry, -, rfl⟩ := List.mem_map.1 hmem
    exact .command entry.1 entry.2

theorem keysPass (h : task.IsLoaded) : task.keysPass validName = true := by
  cases h with
  | command name text => rfl
  | group label entries default hnames honce =>
    refine Table.keysPass_byName fun task htask => ?_
    obtain ⟨entry, hentry, rfl⟩ := List.mem_map.1 htask
    exact ⟨hnames entry hentry, rfl⟩

end Task.IsLoaded

/-- Every script declares a command or a group of commands. -/
theorem Script.declaration_cases {name : String} {script : Script} {declaration : Declaration}
    (h : script.declaration name = .ok declaration) :
    (∃ text, declaration = .ofCommand name text) ∨
      ∃ entries default, declaration = .ofMembers name entries default := by
  cases script with
  | command text => exact .inl ⟨text, (Except.ok.inj h).symm⟩
  | table entries =>
    unfold Script.declaration at h
    dsimp only at h
    split at h
    · cases h
    · exact .inl ⟨_, (Except.ok.inj h).symm⟩
    · exact .inr ⟨entries, none, (Except.ok.inj h).symm⟩
    · obtain ⟨_ | names, -, h⟩ := bind_eq_ok_iff.1 h
      · cases h
      · exact .inr ⟨entries, some names, (Except.ok.inj h).symm⟩

/-- What a script becomes is sound, has a proper name, and is of this kind. -/
theorem Script.isLoaded_of_task {name : String} {script : Script} {task : Task}
    (h : script.task name = .ok task) :
    task.isSound = true ∧ validName task.name = true ∧ task.IsLoaded := by
  obtain ⟨declaration, hdeclaration, hcheck⟩ := Script.task_eq_ok_iff_declaration.1 h
  refine ⟨Declaration.isSound_of_check hcheck, ?_⟩
  rcases Script.declaration_cases hdeclaration with ⟨text, rfl⟩ | ⟨entries, default, rfl⟩
  · obtain ⟨hname, rfl⟩ := Declaration.check_ofCommand_eq_ok_iff.1 hcheck
    exact ⟨hname, .command name text⟩
  · obtain ⟨hname, -, hnames, honce, sequence, -, -, rfl⟩ :=
      Declaration.check_ofMembers_eq_ok_iff.1 hcheck
    exact ⟨hname, .group _ entries sequence hnames honce⟩

namespace Book

variable {document : Document} {book : Book}

/-- A book that came from a mapping has the tasks of the scripts, each under its name. -/
theorem tasks_of_ofDocument (h : Book.ofDocument document = .ok book) :
    ∃ tasks, Table.index "" [] tasks = .ok book.tasks ∧
      ∀ task ∈ tasks, task.isSound = true ∧ validName task.name = true ∧ task.IsLoaded := by
  obtain ⟨scripts, -, h⟩ := bind_eq_ok_iff.1 h
  obtain ⟨tasks, htasks, h⟩ := bind_eq_ok_iff.1 h
  obtain ⟨table, hindex, h⟩ := bind_eq_ok_iff.1 h
  cases h
  refine ⟨tasks, mapError_eq_ok_iff.1 hindex, fun task hmem => ?_⟩
  obtain ⟨entry, -, htask⟩ := item_of_mapM_ok htasks hmem
  exact Script.isLoaded_of_task htask

theorem isSound_of_ofDocument (h : Book.ofDocument document = .ok book) :
    book.isSound = true := by
  obtain ⟨tasks, hindex, htasks⟩ := tasks_of_ofDocument h
  exact Table.isSound_of_index (fun task hmem => (htasks task hmem).1) hindex

theorem keysPass_of_ofDocument (h : Book.ofDocument document = .ok book) :
    book.tasks.keysPass validName = true := by
  obtain ⟨tasks, hindex, htasks⟩ := tasks_of_ofDocument h
  obtain ⟨-, -, htable⟩ := Table.index_eq_ok_iff.1 hindex
  rw [htable]
  exact Table.keysPass_byName fun task hmem =>
    ⟨(htasks task hmem).2.1, (htasks task hmem).2.2.keysPass⟩

/-- Every command in it has the tags that it earns, wherever it stands. -/
theorem tags_of_ofDocument (h : Book.ofDocument document = .ok book) {path : Path}
    {label : Label} {text : String} (hfind : book.find path = .ok (.command label text)) :
    label.tags = toolTags text := by
  obtain ⟨tasks, hindex, htasks⟩ := tasks_of_ofDocument h
  obtain ⟨honce, -, htable⟩ := Table.index_eq_ok_iff.1 hindex
  have hat := (Book.find_eq_ok_iff.1 hfind).2
  refine Task.IsLoaded.tags_eq (Table.at?_closed (fun _ _ _ => Task.IsLoaded.child) ?_ hat)
  intro key task htop
  rw [htable] at htop
  exact (htasks task ((Table.find?_byName_iff honce).1 htop).1).2.2

/-! ## The statement -/

/-- **Targets, tags and the list of paths agree.** In a sound book whose keys are all proper
names, the targets are those that can be read from the commands that the listed paths resolve
to, in the order of the list. A book that came from a mapping is such a book, and there the
tasks that the targets name are found, and are among those tagged with the generator, in the
order of the tagged. -/
theorem targets_tags_and_paths_agree :
    (∀ book : Book, book.isSound = true → book.tasks.keysPass validName = true →
      book.targets = (book.paths false).filterMap book.targetAt?) ∧
    ∀ (document : Document) (book : Book), Book.ofDocument document = .ok book →
      book.targets = (book.paths false).filterMap book.targetAt? ∧
      ∃ tasks : List Task,
        book.targets.map (fun target => book.find (Path.ofDotted target.task)) = tasks.map .ok ∧
        tasks.Sublist (book.tagged "json2ts") := by
  refine ⟨fun book => Book.targets_eq_paths, fun document book hbook => ?_⟩
  have hsound := Book.isSound_of_ofDocument hbook
  have hkeys := Book.keysPass_of_ofDocument hbook
  refine ⟨Book.targets_eq_paths hsound hkeys, _, Book.find_targets hsound hkeys,
    Book.sublist_tagged fun entry hmem hsome => ?_⟩
  obtain ⟨target, htarget⟩ := Option.isSome_iff_exists.1 hsome
  obtain ⟨label, text, htask, htool⟩ := Entry.command_of_target? htarget
  have hfind := (Book.find_of_mem_entries hsound hkeys hmem).1
  rw [htask] at hfind ⊢
  have htags : label.tags = ["json2ts"] := (Book.tags_of_ofDocument hbook hfind).trans htool
  rw [Task.label, htags]
  exact List.mem_singleton_self _

/-- A mapping with a command of the generator that is no target: it only asks for help. It is
tagged all the same, between the two that are targets. -/
theorem tagged_without_target :
    let create := "json2ts -i schema/*.json -o out"
    let hub := "cd hub && json2ts -i hub.json -o out"
    let document : Document := .table [("scripts", .table [
      ("create", .text create), ("help", .text "json2ts --help"),
      ("schema", .table [("default", .text "nps schema.hub"), ("hub", .text hub)])])]
    let book : Book := ⟨.byName [.ofCommand "create" create, .ofCommand "help" "json2ts --help",
      .group { name := "schema" } (.byName [.ofCommand "hub" hub])
        (Sequence.ofNames? ["hub"])]⟩
    book.isSound = true ∧ book.tasks.keysPass validName = true ∧
    Book.ofDocument document = .ok book ∧
    book.targets = ["create", "help", "schema", "schema.hub"].filterMap book.targetAt? ∧
    (book.tagged "json2ts").map Task.name = ["create", "help", "hub"] ∧
    ∃ tasks : List Task,
      book.targets.map (fun target => book.find (Path.ofDotted target.task)) = tasks.map .ok ∧
        tasks.Sublist (book.tagged "json2ts") ∧ tasks.map Task.name = ["create", "hub"] := by
  intro create hub document book
  have hbook : Book.ofDocument document = .ok book := by decide +kernel
  have hsound : book.isSound = true := by decide
  have hkeys : book.tasks.keysPass validName = true := by decide
  have hpaths : book.paths false = ["create", "help", "schema", "schema.hub"] := by decide +kernel
  obtain ⟨hagree, hloaded⟩ := targets_tags_and_paths_agree
  have htargets := hagree book hsound hkeys
  obtain ⟨-, tasks, hfound, htagged⟩ := hloaded document book hbook
  rw [hpaths] at htargets
  have hnamed : book.targets.map (fun target => book.find (Path.ofDotted target.task))
      = [Task.ofCommand "create" create, Task.ofCommand "hub" hub].map .ok := by
    decide +kernel
  obtain rfl := (List.map_inj_right fun _ _ => Except.ok.inj).1 (hfound.symm.trans hnamed)
  exact ⟨hsound, hkeys, hbook, htargets, by decide +kernel, _, hfound, htagged, rfl⟩

end Book

end Taskbook
