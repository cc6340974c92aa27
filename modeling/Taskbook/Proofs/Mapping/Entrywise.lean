/-
Loading a mapping is loading its entries.

Every entry of a mapping can be put into a mapping of its own (`Book.ofEntry`), and what comes
of it there is all that comes of it anywhere. The names at the top are the keys of one table,
so no two entries get into each other's way when they are put together, and up to there each is
treated alone. So the whole mapping loads exactly if every entry does by itself, and then has
their tasks in order; otherwise it fails as the first entry does that fails by itself
(`Book.loads_entry_by_entry`).

What an entry becomes can therefore be read off the entry. The last section does this for
tables whose default starts with the runner's word. Beside other entries such a default is
taken apart and each of its words checked; alone it is a command like any other, and nobody asks
what it refers to (`Book.runner_default_beside_members_is_checked`).
-/
import Taskbook.Proofs.Mapping.Writing

set_option autoImplicit false

namespace Taskbook

/-! ## One entry -/

/-- The book of the mapping that has this entry and no other. -/
def Book.ofEntry (entry : String × Script) : Except LoadError Book :=
  Book.ofDocument (.ofScripts [entry])

section Mapping

variable {document : Document} {scripts : List (String × Script)} {entry : String × Script}

/-- By itself an entry loads as the task that it gives, or fails as that does. -/
theorem Book.ofEntry_eq_map (honce : entry.2.document.keysOnce = true) :
    Book.ofEntry entry = (fun task => ⟨.byName [task]⟩) <$> entry.2.task entry.1 := by
  have hkeys : (Document.ofScripts [entry]).keysOnce = true :=
    Document.keysOnce_ofScripts (by simp) (by simpa using honce)
  have hscripts : (Document.ofScripts [entry]).HoldsScripts [entry] :=
    ⟨_, rfl, List.mem_cons_self⟩
  rw [Book.ofEntry, Book.ofDocument_eq_map hkeys hscripts, List.mapM_cons, List.mapM_nil]
  cases entry.2.task entry.1 <;> rfl

theorem Book.ofEntry_eq_ok_iff (honce : entry.2.document.keysOnce = true) {task : Task} :
    Book.ofEntry entry = .ok ⟨.byName [task]⟩ ↔ entry.2.task entry.1 = .ok task := by
  rw [Book.ofEntry_eq_map honce, map_eq_ok_iff]
  simp [Table.byName_cons]

theorem Book.exists_ofEntry_iff (honce : entry.2.document.keysOnce = true) :
    (∃ alone, Book.ofEntry entry = .ok alone) ↔ ∃ task, entry.2.task entry.1 = .ok task := by
  rw [Book.ofEntry_eq_map honce, exists_map_ok_iff]

theorem Book.ofEntry_eq_error_iff (honce : entry.2.document.keysOnce = true) {error : LoadError} :
    Book.ofEntry entry = .error error ↔ entry.2.task entry.1 = .error error := by
  rw [Book.ofEntry_eq_map honce, map_eq_error_iff]

/-! ## All entries -/

/-- A loaded book has under the name of each entry the task that the entry gives. -/
theorem Book.find?_of_ofDocument (honce : document.keysOnce = true)
    (hscripts : document.HoldsScripts scripts) {book : Book}
    (hbook : Book.ofDocument document = .ok book) (hentry : entry ∈ scripts) :
    ∃ task, entry.2.task entry.1 = .ok task ∧ book.tasks.find? entry.1 = some task := by
  obtain ⟨hnames, heach⟩ := hscripts.keysOnce honce
  rw [Book.ofDocument_eq_map honce hscripts, map_eq_ok_iff] at hbook
  obtain ⟨tasks, htasks, rfl⟩ := hbook
  obtain ⟨task, hmem, htask⟩ := value_of_mapM_ok htasks hentry
  rw [← Script.names_of_mapM_task heach htasks] at hnames
  refine ⟨task, htask, (Table.find?_byName_iff hnames).2 ⟨hmem, ?_⟩⟩
  exact ((Script.task_eq_ok_iff (heach entry hentry)).1 htask).2.name_eq

/-- Two books that have the same task under a key have the same below it. -/
theorem Book.find_cons_congr {book other : Book} {key : String} {task : Task}
    (hbook : book.tasks.find? key = some task) (hother : other.tasks.find? key = some task)
    (rest : Path) : book.find (key :: rest) = other.find (key :: rest) := by
  unfold Book.find
  cases rest with
  | nil => simp [Table.follow, hbook, hother]
  | cons next rest => simp [Table.follow, hbook, hother]

/-- **A mapping is loaded entry by entry.** Let a document hold scripts. It loads exactly if
each of them loads alone, and then as the tasks that they are alone, in their order. It fails
exactly if one of them fails alone after others that load alone, and with the same error. And
whatever is found in the loaded book under the name of an entry is what is found there if the
entry is loaded alone. -/
theorem Book.loads_entry_by_entry (honce : document.keysOnce = true)
    (hscripts : document.HoldsScripts scripts) :
    ((∃ book, Book.ofDocument document = .ok book) ↔
      ∀ entry ∈ scripts, ∃ alone, Book.ofEntry entry = .ok alone) ∧
    (∀ book, Book.ofDocument document = .ok book ↔
      ∃ tasks, List.Forall₂ (fun entry task => Book.ofEntry entry = .ok ⟨.byName [task]⟩)
        scripts tasks ∧ book = ⟨.byName tasks⟩) ∧
    (∀ error, Book.ofDocument document = .error error ↔
      ∃ before entry after, scripts = before ++ entry :: after ∧
        (∀ earlier ∈ before, ∃ alone, Book.ofEntry earlier = .ok alone) ∧
        Book.ofEntry entry = .error error) ∧
    ∀ book, Book.ofDocument document = .ok book → ∀ entry ∈ scripts,
      ∃ alone, Book.ofEntry entry = .ok alone ∧
        ∀ rest, book.find (entry.1 :: rest) = alone.find (entry.1 :: rest) := by
  have heach := (hscripts.keysOnce honce).2
  have hload := Book.ofDocument_eq_map honce hscripts
  refine ⟨?_, fun book => ?_, fun error => ?_, fun book hbook entry hentry => ?_⟩
  · rw [hload, exists_map_ok_iff, exists_mapM_ok_iff]
    exact forall₂_congr fun entry hentry => (Book.exists_ofEntry_iff (heach entry hentry)).symm
  · rw [hload, map_eq_ok_iff]
    refine exists_congr fun tasks => and_congr ?_ eq_comm
    rw [mapM_eq_ok_iff]
    exact forall₂_congr_of_mem fun entry hentry task =>
      (Book.ofEntry_eq_ok_iff (heach entry hentry)).symm
  · rw [hload, map_eq_error_iff, mapM_eq_error_iff]
    refine exists_congr fun before => exists_congr fun entry => exists_congr fun after =>
      and_congr_right ?_
    rintro rfl
    -- wherever the list is cut, its parts are entries of the mapping
    have hbefore : (∀ earlier ∈ before, ∃ task, earlier.2.task earlier.1 = .ok task) ↔
        ∀ earlier ∈ before, ∃ alone, Book.ofEntry earlier = .ok alone :=
      forall₂_congr fun earlier h =>
        (Book.exists_ofEntry_iff (heach earlier (List.mem_append_left _ h))).symm
    have hentry := heach entry (List.mem_append_right _ List.mem_cons_self)
    rw [hbefore, Book.ofEntry_eq_error_iff hentry]
  · obtain ⟨task, htask, hfind⟩ := Book.find?_of_ofDocument honce hscripts hbook hentry
    refine ⟨_, (Book.ofEntry_eq_ok_iff (heach entry hentry)).2 htask, ?_⟩
    have hname := ((Script.task_eq_ok_iff (heach entry hentry)).1 htask).2.name_eq
    exact Book.find_cons_congr hfind (by simp [Table.byName_cons, Table.find?, hname])

end Mapping

/-- The first entry that fails alone is the one that a mapping fails with, whatever else is wrong
in those after it. -/
theorem Book.foreign_reference_is_met_first :
    let scripts : List (String × Script) := [("fmt", .command "black ."),
      ("check", .table [("default", "nps check.lint docs.html"), ("lint", "flake8")]),
      ("docs.html", .table [])]
    (Document.ofScripts scripts).keysOnce = true ∧
    (∃ alone, Book.ofEntry ("fmt", .command "black .") = .ok alone) ∧
    Book.ofDocument (.ofScripts scripts) = .error (.foreignReference "check" "docs.html") := by
  intro scripts
  have honce : (Document.ofScripts scripts).keysOnce = true := by decide
  have hscripts : (Document.ofScripts scripts).HoldsScripts scripts := ⟨_, rfl, List.mem_cons_self⟩
  have hfirst : ∃ alone, Book.ofEntry ("fmt", .command "black .") = .ok alone := ⟨_, rfl⟩
  obtain ⟨-, -, hfails, -⟩ := Book.loads_entry_by_entry honce hscripts
  refine ⟨honce, hfirst, (hfails _).2 ⟨[("fmt", .command "black .")], _, _, rfl, ?_, rfl⟩⟩
  exact List.forall_mem_singleton.2 hfirst

/-! ## Defaults that start with the runner's word -/

section Default

variable {document : Document} {scripts : List (String × Script)} {name line : String}
  {entries : List (String × String)} {tokens : List String}

/-- The task is a group of the name, and its default is the sequence that the tokens refer to, each
of them a command among the entries. -/
def Task.RunsMembers (task : Task) (name : String) (entries : List (String × String))
    (tokens : List String) : Prop :=
  ∃ children sequence, task = .group { name := name } children (some sequence) ∧
    tokens = sequence.names.map (name ++ "." ++ ·) ∧
    ∀ child ∈ sequence.names, ∃ text, (child, text) ∈ entries ∧ child ≠ "default" ∧
      children.find? child = some (.ofCommand child text)

/-- What such a task runs, it runs by the dotted names of its members. -/
theorem Task.RunsMembers.exists_entry {task : Task} (h : task.RunsMembers name entries tokens)
    {token : String} (htoken : token ∈ tokens) :
    ∃ entry ∈ entries, entry.1 ≠ "default" ∧ token = name ++ "." ++ entry.1 := by
  obtain ⟨_, sequence, -, rfl, hchildren⟩ := h
  obtain ⟨child, hchild, rfl⟩ := List.mem_map.1 htoken
  obtain ⟨text, hmem, hne, -⟩ := hchildren child hchild
  exact ⟨(child, text), hmem, hne, rfl⟩

/-- A loaded book has under the name of each entry what the entry gives. -/
theorem Book.find_of_ofDocument {script : Script} (honce : document.keysOnce = true)
    (hscripts : document.HoldsScripts scripts) {book : Book}
    (hbook : Book.ofDocument document = .ok book) (hentry : (name, script) ∈ scripts) :
    ∃ task, script.Gives name task ∧ book.find [name] = .ok task := by
  obtain ⟨task, htask, hfind⟩ := Book.find?_of_ofDocument honce hscripts hbook hentry
  obtain ⟨hname, hgives⟩ :=
    (Script.task_eq_ok_iff ((hscripts.keysOnce honce).2 _ hentry)).1 htask
  refine ⟨task, hgives, Book.find_eq_ok_iff.2 ⟨?_, ?_⟩⟩
  · exact Path.isValid_iff.2 (by simpa using (validName_iff.1 hname).1)
  · rw [Table.at?, hfind]
    rfl

/-- What a table gives whose default starts with the runner's word: a group that runs the tasks
the other words refer to, all of them members of the table, or else the default stands alone. -/
theorem Script.Gives.of_runner_default {task : Task}
    (hgives : (Script.table entries).Gives name task) (honce : (entries.map Prod.fst).Nodup)
    (hline : ("default", line) ∈ entries) (hwords : Text.words line = "nps" :: tokens) :
    (entries = [("default", line)] ∧ task = .ofCommand name line) ∨
      task.RunsMembers name entries tokens := by
  cases hgives with
  | alone text =>
    obtain rfl : line = text := by simpa using hline
    exact .inl ⟨rfl, rfl⟩
  | group _ sequence hmembers hnames hdefault hholds =>
    obtain ⟨s, rfl, hread⟩ := Script.sequence_of_default honce hdefault hline
    obtain ⟨-, rfl⟩ := List.cons.inj (hwords.symm.trans hread)
    refine .inr ⟨_, s, rfl, rfl, fun child hchild => ?_⟩
    obtain ⟨text, hentry, hne⟩ := (Table.defaultHolds_ofMembers_iff honce).1 hholds child hchild
    exact ⟨text, hentry, hne, (Table.find?_ofMembers_iff honce).2 ⟨text, hentry, hne, rfl⟩⟩

/-- **A default that runs others is checked, unless it stands alone.** Let a mapping have a table
whose default starts with the runner's word. If the mapping loads, the table has become a group
whose default is the sequence that the other words of the line refer to, each of them a command
of the same table; or the table has nothing but its default, and has become a command with
that text. A table with members and a word that refers to none of them keeps the mapping from
loading. -/
theorem Book.runner_default_beside_members_is_checked (honce : document.keysOnce = true)
    (hscripts : document.HoldsScripts scripts) (hentry : (name, .table entries) ∈ scripts)
    (hline : ("default", line) ∈ entries) (hwords : Text.words line = "nps" :: tokens) :
    (∀ book, Book.ofDocument document = .ok book → ∃ task, book.find [name] = .ok task ∧
      ((entries = [("default", line)] ∧ task = .ofCommand name line) ∨
        task.RunsMembers name entries tokens)) ∧
    (entries ≠ [("default", line)] →
      (∃ token ∈ tokens, ∀ entry ∈ entries, entry.1 ≠ "default" → token ≠ name ++ "." ++ entry.1) →
      ∃ error, Book.ofDocument document = .error error) := by
  have hkeys := Script.nodup_of_keysOnce ((hscripts.keysOnce honce).2 _ hentry)
  have hloaded : ∀ book, Book.ofDocument document = .ok book → ∃ task,
      book.find [name] = .ok task ∧ ((entries = [("default", line)] ∧ task = .ofCommand name line) ∨
        task.RunsMembers name entries tokens) := by
    intro book hbook
    obtain ⟨task, hgives, hfind⟩ := Book.find_of_ofDocument honce hscripts hbook hentry
    exact ⟨task, hfind, hgives.of_runner_default hkeys hline hwords⟩
  refine ⟨hloaded, ?_⟩
  rintro hmembers ⟨token, htoken, hforeign⟩
  cases hbook : Book.ofDocument document with
  | error error => exact ⟨error, rfl⟩
  | ok book =>
    obtain ⟨task, -, ⟨halone, -⟩ | hruns⟩ := hloaded book hbook
    · exact absurd halone hmembers
    · -- the word is the dotted name of a member after all
      obtain ⟨entry, hmem, hne, htoken⟩ := hruns.exists_entry htoken
      exact absurd htoken (hforeign entry hmem hne)

end Default

/-- Beside members a default becomes a sequence of them, whatever blanks it is written with, and
a word that refers to another table's task is refused. -/
theorem Book.default_beside_members_runs_them :
    let own := [("lint", "flake8"), ("default", "nps\u2003check.test  check.lint"),
      ("test", "pytest")]
    let foreign := [("default", "nps check.lint docs.html"), ("lint", "flake8")]
    (∃ book task, Book.ofDocument (.ofScripts [("check", .table own)]) = .ok book ∧
      book.find ["check"] = .ok task ∧
      task.RunsMembers "check" own ["check.test", "check.lint"]) ∧
    ∃ error, Book.ofDocument (.ofScripts [("check", .table foreign)]) = .error error := by
  intro own foreign
  have honce : ∀ entries ∈ [own, foreign],
      (Document.ofScripts [("check", .table entries)]).keysOnce = true := by decide
  have hscripts : ∀ entries, (Document.ofScripts [("check", .table entries)]).HoldsScripts
      [("check", .table entries)] := fun entries => ⟨_, rfl, List.mem_cons_self⟩
  constructor
  · have hline : ("default", "nps\u2003check.test  check.lint") ∈ own := by decide
    have hwords :
        Text.words "nps\u2003check.test  check.lint" = ["nps", "check.test", "check.lint"] := by
      decide
    obtain ⟨hruns, -⟩ := Book.runner_default_beside_members_is_checked (honce own (by decide))
      (hscripts own) List.mem_cons_self hline hwords
    have hloads : (Book.ofDocument (.ofScripts [("check", .table own)])).isOk = true := by
      decide +kernel
    cases hbook : Book.ofDocument (.ofScripts [("check", .table own)]) with
    | error error =>
      rw [hbook] at hloads
      cases hloads
    | ok book =>
      obtain ⟨task, hfind, ⟨halone, -⟩ | htask⟩ := hruns book hbook
      · exact absurd halone (by decide)
      · exact ⟨book, task, rfl, hfind, htask⟩
  · have hline : ("default", "nps check.lint docs.html") ∈ foreign := by decide
    have hwords : Text.words "nps check.lint docs.html" = ["nps", "check.lint", "docs.html"] := by
      decide
    obtain ⟨-, hrefused⟩ := Book.runner_default_beside_members_is_checked
      (honce foreign (by decide)) (hscripts foreign) List.mem_cons_self hline hwords
    exact hrefused (by decide) ⟨"docs.html", by decide, by decide⟩

/-- **A default that stands alone is not checked.** The line refers to a task that the table does
not have, and that no other table has either. It is loaded as a command, and not as a group. -/
theorem Book.lone_default_is_not_checked :
    let document : Document := .ofScripts [("release", .table [("default", "nps schema.hub")])]
    Text.words "nps schema.hub" = ["nps", "schema.hub"] ∧
    ∃ book, Book.ofDocument document = .ok book ∧
      book.resolve ["release"] = .ok (.command "nps schema.hub") ∧
      ¬∃ label children default, book.find ["release"] = .ok (.group label children default) := by
  intro document
  refine ⟨by decide, _, rfl, rfl, ?_⟩
  rintro ⟨label, children, default, h⟩
  cases h

end Taskbook
