/-
The scripts mappings that load, and what they become.

Loading goes through four stages, and each of them refuses something: the shape of the
document, the reading of the defaults, the rules for a single task, and the names at
the top. The grammar of a mapping says all of it in one place and mentions none of the
stages (`Script.Fits`). This file shows that a document loads exactly if its scripts
fit, and that nothing gets lost on the way: each command is found again to the letter,
under the dotted name that it has in the document.

What a single script becomes is `Script.Gives`, one constructor for each form that a
script can have. The statement that checking a script succeeds with a task exactly if
the name is proper and the script gives that task (`Script.task_eq_ok_iff`) is the only
place where the stages are opened.
-/
import Taskbook.Proofs.Book.Lookup
import Taskbook.Proofs.Mapping.Reading
import Taskbook.Proofs.Task.Definition

set_option autoImplicit false

namespace Taskbook

/-! ## The grammar -/

/-- The line consists of the runner's word and of one or more dotted names of entries of
the table under `name`, none of them the default. -/
def Script.RunsOwn (name : String) (entries : List (String × String)) (line : String) : Prop :=
  ∃ tokens, tokens ≠ [] ∧ Text.words line = "nps" :: tokens ∧
    ∀ token ∈ tokens, ∃ entry ∈ entries, entry.1 ≠ "default" ∧ token = name ++ "." ++ entry.1

/-- **The grammar of a script** under `name`: a command, a default alone, or entries that
can be named, with a default that runs some of them if there is one. -/
inductive Script.Fits (name : String) : Script → Prop where
  | command (text : String) : Fits name (.command text)
  | alone (text : String) : Fits name (.table [("default", text)])
  | group (entries : List (String × String)) (hchild : ∃ entry ∈ entries, entry.1 ≠ "default")
      (hnames : ∀ entry ∈ entries, entry.1 ≠ "default" → entry.1 ≠ "" ∧ '.' ∉ entry.1.toList)
      (hdefault : ∀ line, ("default", line) ∈ entries → Script.RunsOwn name entries line) :
      Fits name (.table entries)

/-! ## What a script becomes -/

/-- The command that is declared by a text, tagged with its tool. -/
def Task.ofCommand (name text : String) : Task :=
  .command { name := name, tags := toolTags text } text

/-- The entries of a table of commands, the default apart. -/
def Script.members (entries : List (String × String)) : List (String × String) :=
  entries.filter fun entry => entry.1 != "default"

/-- The commands that the members declare, each under its key. -/
def Table.ofMembers (entries : List (String × String)) : Table :=
  .byName ((Script.members entries).map fun entry => .ofCommand entry.1 entry.2)

/-- What a script that fits becomes under `name`. A group's default, if the table has one,
is the sequence whose dotted names are the words of the line. -/
inductive Script.Gives (name : String) : Script → Task → Prop where
  | command (text : String) : Gives name (.command text) (.ofCommand name text)
  | alone (text : String) : Gives name (.table [("default", text)]) (.ofCommand name text)
  | group (entries : List (String × String)) (sequence : Option Sequence)
      (hmembers : Script.members entries ≠ [])
      (hnames : ∀ entry ∈ Script.members entries, validName entry.1 = true)
      (hdefault : (entries.lookup "default").map Text.words =
        sequence.map fun s => "nps" :: s.names.map (name ++ "." ++ ·))
      (hholds : (Table.ofMembers entries).defaultHolds sequence = true) :
      Gives name (.table entries) (.group { name := name } (.ofMembers entries) sequence)

section Members

variable {entries : List (String × String)}

theorem Script.mem_members_iff {entry : String × String} :
    entry ∈ Script.members entries ↔ entry ∈ entries ∧ entry.1 ≠ "default" := by
  simp [Script.members]

/-- A table without members is empty or has only its default. -/
theorem Script.eq_of_members_eq_nil (honce : (entries.map Prod.fst).Nodup)
    (hmembers : Script.members entries = []) :
    entries = [] ∨ ∃ text, entries = [("default", text)] := by
  have hall : ∀ entry ∈ entries, entry.1 = "default" := by
    intro entry hentry
    by_contra hne
    have hmem := Script.mem_members_iff.2 ⟨hentry, hne⟩
    rw [hmembers] at hmem
    simp at hmem
  rcases entries with _ | ⟨⟨key, text⟩, _ | ⟨second, rest⟩⟩
  · exact .inl rfl
  · obtain rfl : key = "default" := hall _ List.mem_cons_self
    exact .inr ⟨text, rfl⟩
  · -- two defaults would be two entries under one key
    have hfirst : key = "default" := hall _ List.mem_cons_self
    have hsecond : second.1 = "default" := hall second (by simp)
    simp [hfirst, hsecond] at honce

theorem Script.names_ofCommand (entries : List (String × String)) :
    (entries.map fun entry => Task.ofCommand entry.1 entry.2).map Task.name =
      entries.map Prod.fst := by
  rw [List.map_map]
  rfl

theorem Script.members_nodup (honce : (entries.map Prod.fst).Nodup) :
    ((Script.members entries).map Prod.fst).Nodup :=
  honce.sublist (List.filter_sublist.map _)

/-- A command of a table is found under its key. -/
theorem Table.find?_ofMembers_iff (honce : (entries.map Prod.fst).Nodup) {key : String}
    {task : Task} :
    (Table.ofMembers entries).find? key = some task ↔
      ∃ text, (key, text) ∈ entries ∧ key ≠ "default" ∧ task = .ofCommand key text := by
  have hnames : (((Script.members entries).map fun entry =>
      Task.ofCommand entry.1 entry.2).map Task.name).Nodup := by
    rw [Script.names_ofCommand]
    exact Script.members_nodup honce
  rw [Table.ofMembers, Table.find?_byName_iff hnames, List.mem_map]
  constructor
  · rintro ⟨⟨⟨child, text⟩, hmem, rfl⟩, rfl⟩
    obtain ⟨hentry, hne⟩ := Script.mem_members_iff.1 hmem
    exact ⟨text, hentry, hne, rfl⟩
  · rintro ⟨text, hentry, hne, rfl⟩
    exact ⟨⟨(key, text), Script.mem_members_iff.2 ⟨hentry, hne⟩, rfl⟩, rfl⟩

/-- A line runs entries of the table exactly if its words are the runner's and those of a
sequence of members. -/
theorem Script.runsOwn_iff {name line : String} :
    Script.RunsOwn name entries line ↔
      ∃ sequence : Sequence, Text.words line = "nps" :: sequence.names.map (name ++ "." ++ ·) ∧
        ∀ child ∈ sequence.names, ∃ text, (child, text) ∈ entries ∧ child ≠ "default" := by
  constructor
  · rintro ⟨tokens, htokens, hwords, hown⟩
    -- one child is chosen for each word
    have hchild : ∀ token ∈ tokens, ∃ child,
        (∃ text, (child, text) ∈ entries ∧ child ≠ "default") ∧ token = name ++ "." ++ child := by
      intro token htoken
      obtain ⟨⟨child, text⟩, hentry, hne, htext⟩ := hown token htoken
      exact ⟨child, ⟨text, hentry, hne⟩, htext⟩
    obtain ⟨children, rfl, hchildren⟩ := exists_map_of_forall_mem hchild
    have hsome : children ≠ [] := by simpa using htokens
    exact ⟨⟨children, hsome⟩, hwords, hchildren⟩
  · rintro ⟨sequence, hwords, hchildren⟩
    refine ⟨_, by simpa using sequence.names_ne_nil, hwords, fun token htoken => ?_⟩
    obtain ⟨child, hmem, rfl⟩ := List.mem_map.1 htoken
    obtain ⟨text, hentry, hne⟩ := hchildren child hmem
    exact ⟨(child, text), hentry, hne, rfl⟩

/-- If the table has a default, there is a sequence, and its words are those of the line. -/
theorem Script.sequence_of_default {name line : String} {sequence : Option Sequence}
    (honce : (entries.map Prod.fst).Nodup)
    (hdefault : (entries.lookup "default").map Text.words =
      sequence.map fun s => "nps" :: s.names.map (name ++ "." ++ ·))
    (hline : ("default", line) ∈ entries) :
    ∃ s, sequence = some s ∧ Text.words line = "nps" :: s.names.map (name ++ "." ++ ·) := by
  rw [(lookup_eq_some_iff_mem honce).2 hline, Option.map_some] at hdefault
  obtain ⟨s, rfl, hwords⟩ := Option.map_eq_some_iff.1 hdefault.symm
  exact ⟨s, rfl, hwords.symm⟩

end Members

/-! ## Checking a script -/

theorem Declaration.check_ofCommand_eq_ok_iff {name text : String} {task : Task} :
    (Declaration.ofCommand name text).check = .ok task ↔
      validName name = true ∧ task = .ofCommand name text := by
  rw [Declaration.ofCommand, Declaration.check, Task.define_command_eq_ok_iff]
  rfl

theorem Script.task_eq_ok_iff_declaration {name : String} {script : Script} {task : Task} :
    script.task name = .ok task ↔
      ∃ declaration, script.declaration name = .ok declaration ∧ declaration.check = .ok task := by
  rw [Script.task, bind_eq_ok_iff]
  simp only [mapError_eq_ok_iff]

/-- The group that a table with members declares, with this default. -/
def Declaration.ofMembers (name : String) (entries : List (String × String))
    (default : Option (List String)) : Declaration :=
  .group name ((Script.members entries).map fun entry => .ofCommand entry.1 entry.2) default none []

theorem Declaration.check_ofMembers_eq_ok_iff {name : String} {entries : List (String × String)}
    {default : Option (List String)} {task : Task} :
    (Declaration.ofMembers name entries default).check = .ok task ↔
      validName name = true ∧ Script.members entries ≠ [] ∧
        (∀ entry ∈ Script.members entries, validName entry.1 = true) ∧
        ((Script.members entries).map Prod.fst).Nodup ∧
        ∃ sequence, sequence.map Sequence.names = default ∧
          (Table.ofMembers entries).defaultHolds sequence = true ∧
          task = .group { name := name } (.ofMembers entries) sequence := by
  have hchecked : ∀ tasks : List Task,
      ((Script.members entries).map fun entry =>
          Declaration.ofCommand entry.1 entry.2).mapM Declaration.check = .ok tasks ↔
        (∀ entry ∈ Script.members entries, validName entry.1 = true) ∧
          tasks = (Script.members entries).map fun entry => .ofCommand entry.1 entry.2 := by
    intro tasks
    rw [List.mapM_map]
    exact mapM_eq_ok_iff_map fun entry task => Declaration.check_ofCommand_eq_ok_iff
  rw [Declaration.ofMembers, Declaration.check_group_eq_ok_iff]
  simp only [hchecked]
  constructor
  · rintro ⟨_, sequence, ⟨hnames, rfl⟩, honce, hsequence, hname, hne, hholds, rfl⟩
    rw [Script.names_ofCommand] at honce
    exact ⟨hname, fun h => hne (by rw [h]; rfl), hnames, honce, sequence, hsequence, hholds, rfl⟩
  · rintro ⟨hname, hne, hnames, honce, sequence, hsequence, hholds, rfl⟩
    rw [← Script.names_ofCommand] at honce
    exact ⟨_, sequence, ⟨hnames, rfl⟩, honce, hsequence, hname, by simpa using hne, hholds, rfl⟩

theorem Script.declaration_of_no_default {name : String} {entries : List (String × String)}
    (hmembers : Script.members entries ≠ []) (hdefault : entries.lookup "default" = none) :
    (Script.table entries).declaration name = .ok (.ofMembers name entries none) := by
  obtain ⟨first, rest, hcons⟩ := List.exists_cons_of_ne_nil hmembers
  rw [Script.members] at hcons
  simp only [Script.declaration, Script.defaultKey, hdefault, hcons, Declaration.ofMembers,
    Script.members]

theorem Script.declaration_of_default_eq_ok_iff {name line : String}
    {entries : List (String × String)} {declaration : Declaration}
    (hmembers : Script.members entries ≠ []) (hdefault : entries.lookup "default" = some line) :
    (Script.table entries).declaration name = .ok declaration ↔
      ∃ names, Sequence.parse name line = .ok (some names) ∧
        declaration = .ofMembers name entries (some names) := by
  obtain ⟨first, rest, hcons⟩ := List.exists_cons_of_ne_nil hmembers
  rw [Script.members] at hcons
  simp only [Script.declaration, Script.defaultKey, hdefault, hcons, Declaration.ofMembers,
    Script.members]
  rw [bind_eq_ok_iff]
  constructor
  · rintro ⟨_ | names, hparse, h⟩
    · cases h
    · exact ⟨names, hparse, (Except.ok.inj h).symm⟩
  · rintro ⟨names, hparse, rfl⟩
    exact ⟨some names, hparse, rfl⟩

/-- A default of a table of members holds exactly if it names members. -/
theorem Table.defaultHolds_ofMembers_iff {entries : List (String × String)}
    (honce : (entries.map Prod.fst).Nodup) {sequence : Sequence} :
    (Table.ofMembers entries).defaultHolds (some sequence) = true ↔
      ∀ child ∈ sequence.names, ∃ text, (child, text) ∈ entries ∧ child ≠ "default" := by
  rw [Table.defaultHolds_some_iff]
  refine forall₂_congr fun child _ => ?_
  simp only [Table.find?_ofMembers_iff honce]
  constructor
  · rintro ⟨_, ⟨text, hentry, hne, rfl⟩, -⟩
    exact ⟨text, hentry, hne⟩
  · rintro ⟨text, hentry, hne⟩
    exact ⟨_, ⟨text, hentry, hne, rfl⟩, rfl⟩

theorem Script.nodup_of_keysOnce {entries : List (String × String)}
    (honce : (Script.table entries).document.keysOnce = true) : (entries.map Prod.fst).Nodup := by
  rw [Script.document, Document.keysOnce, Bool.and_eq_true, decide_eq_true_eq, List.map_map] at honce
  exact honce.1

/-- The case of a table with members. -/
theorem Script.task_group_eq_ok_iff {name : String} {entries : List (String × String)}
    {task : Task} (honce : (entries.map Prod.fst).Nodup) (hmembers : Script.members entries ≠ []) :
    (Script.table entries).task name = .ok task ↔
      validName name = true ∧ (Script.table entries).Gives name task := by
  rw [Script.task_eq_ok_iff_declaration]
  constructor
  · rintro ⟨declaration, hdeclaration, hcheck⟩
    cases hdefault : entries.lookup "default" with
    | none =>
      rw [Script.declaration_of_no_default hmembers hdefault] at hdeclaration
      cases hdeclaration
      obtain ⟨hname, -, hnames, -, sequence, hsequence, hholds, rfl⟩ :=
        Declaration.check_ofMembers_eq_ok_iff.1 hcheck
      obtain rfl := Option.map_eq_none_iff.1 hsequence
      exact ⟨hname, .group entries none hmembers hnames (by rw [hdefault]; rfl) hholds⟩
    | some line =>
      obtain ⟨names, hparse, rfl⟩ :=
        (Script.declaration_of_default_eq_ok_iff hmembers hdefault).1 hdeclaration
      obtain ⟨hname, -, hnames, -, sequence, hsequence, hholds, rfl⟩ :=
        Declaration.check_ofMembers_eq_ok_iff.1 hcheck
      obtain ⟨s, rfl, rfl⟩ := Option.map_eq_some_iff.1 hsequence
      -- only now is the name known to be without a dot, as reading the line needs
      have hwords := ((Sequence.parse_eq_ok_iff (validName_iff.1 hname).2).1 hparse).1
      exact ⟨hname, .group entries (some s) hmembers hnames
        (by rw [hdefault, Option.map_some, hwords]; rfl) hholds⟩
  · rintro ⟨hname, hgives⟩
    cases hgives with
    | alone text => exact absurd rfl hmembers
    | group _ sequence _ hnames hdefault hholds =>
      have hcheck : ∀ default, sequence.map Sequence.names = default →
          (Declaration.ofMembers name entries default).check =
            .ok (.group { name := name } (.ofMembers entries) sequence) := fun default hsequence =>
        Declaration.check_ofMembers_eq_ok_iff.2 ⟨hname, hmembers, hnames,
          Script.members_nodup honce, sequence, hsequence, hholds, rfl⟩
      cases sequence with
      | none =>
        have hlookup := Option.map_eq_none_iff.1 hdefault
        exact ⟨_, Script.declaration_of_no_default hmembers hlookup, hcheck none rfl⟩
      | some s =>
        obtain ⟨line, hlookup, hwords⟩ := Option.map_eq_some_iff.1 hdefault
        -- the words of the line are read back, because no member is without a name
        have hne : ∀ child ∈ s.names, child ≠ "" := by
          intro child hchild
          obtain ⟨text, hentry, hnot⟩ := (Table.defaultHolds_ofMembers_iff honce).1 hholds child hchild
          exact (validName_iff.1 (hnames _ (Script.mem_members_iff.2 ⟨hentry, hnot⟩))).1
        have hparse := (Sequence.parse_eq_ok_iff (validName_iff.1 hname).2).2 ⟨hwords, hne⟩
        exact ⟨_, (Script.declaration_of_default_eq_ok_iff hmembers hlookup).2 ⟨_, hparse, rfl⟩,
          hcheck _ rfl⟩

/-- **Checking a script** succeeds exactly if the name is proper, and with what the script
gives under it. -/
theorem Script.task_eq_ok_iff {name : String} {script : Script} {task : Task}
    (honce : script.document.keysOnce = true) :
    script.task name = .ok task ↔ validName name = true ∧ script.Gives name task := by
  have hcommand : ∀ {script : Script} {text : String},
      script.declaration name = .ok (.ofCommand name text) →
      (script.task name = .ok task ↔ validName name = true ∧ task = .ofCommand name text) := by
    intro script text hdeclaration
    rw [Script.task_eq_ok_iff_declaration, hdeclaration, ← Declaration.check_ofCommand_eq_ok_iff]
    simp
  cases script with
  | command text =>
    rw [hcommand rfl]
    refine and_congr_right fun _ => ⟨?_, ?_⟩
    · rintro rfl
      exact .command text
    · rintro ⟨⟩
      rfl
  | table entries =>
    replace honce := Script.nodup_of_keysOnce honce
    by_cases hmembers : Script.members entries = []
    · rcases Script.eq_of_members_eq_nil honce hmembers with rfl | ⟨text, rfl⟩
      · -- an empty table declares nothing, and no form of a script has it
        refine iff_of_false nofun ?_
        rintro ⟨-, hgives⟩
        cases hgives with
        | group _ _ hne => exact hne rfl
      · rw [hcommand rfl]
        refine and_congr_right fun _ => ⟨?_, ?_⟩
        · rintro rfl
          exact .alone text
        · intro hgives
          cases hgives with
          | alone => rfl
          | group _ _ hne => exact absurd hmembers hne
    · exact Script.task_group_eq_ok_iff honce hmembers

/-- A script fits exactly if there is something that it gives. -/
theorem Script.fits_iff {name : String} {script : Script}
    (honce : script.document.keysOnce = true) :
    script.Fits name ↔ ∃ task, script.Gives name task := by
  constructor
  · rintro (text | text | ⟨entries, ⟨child, hchild, hne⟩, hnames, hdefault⟩)
    · exact ⟨_, .command text⟩
    · exact ⟨_, .alone text⟩
    · replace honce := Script.nodup_of_keysOnce honce
      have hmembers := List.ne_nil_of_mem (Script.mem_members_iff.2 ⟨hchild, hne⟩)
      have hproper : ∀ entry ∈ Script.members entries, validName entry.1 = true := by
        intro entry hentry
        obtain ⟨hmem, hnot⟩ := Script.mem_members_iff.1 hentry
        exact validName_iff.2 (hnames entry hmem hnot)
      cases hlookup : entries.lookup "default" with
      | none =>
        exact ⟨_, .group entries none hmembers hproper (by rw [hlookup]; rfl) rfl⟩
      | some line =>
        have hruns := hdefault line ((lookup_eq_some_iff_mem honce).1 hlookup)
        obtain ⟨sequence, hwords, hchildren⟩ := Script.runsOwn_iff.1 hruns
        have hread : (entries.lookup "default").map Text.words =
            (some sequence).map fun s => "nps" :: s.names.map (name ++ "." ++ ·) := by
          rw [hlookup, Option.map_some, hwords]
          rfl
        exact ⟨_, .group entries (some sequence) hmembers hproper hread
          ((Table.defaultHolds_ofMembers_iff honce).2 hchildren)⟩
  · rintro ⟨task, text | text | ⟨entries, sequence, hmembers, hnames, hdefault, hholds⟩⟩
    · exact .command text
    · exact .alone text
    · replace honce := Script.nodup_of_keysOnce honce
      obtain ⟨entry, hentry⟩ := List.exists_mem_of_ne_nil _ hmembers
      refine .group entries ⟨entry, Script.mem_members_iff.1 hentry⟩ ?_ ?_
      · exact fun entry hmem hne =>
          validName_iff.1 (hnames entry (Script.mem_members_iff.2 ⟨hmem, hne⟩))
      · intro line hline
        obtain ⟨s, rfl, hwords⟩ := Script.sequence_of_default honce hdefault hline
        exact Script.runsOwn_iff.2 ⟨s, hwords, (Table.defaultHolds_ofMembers_iff honce).1 hholds⟩

theorem Script.Gives.name_eq {name : String} {script : Script} {task : Task}
    (h : script.Gives name task) : task.name = name := by
  cases h <;> rfl

theorem Script.Gives.enabled {name : String} {script : Script} {task : Task}
    (h : script.Gives name task) : task.enabled = true := by
  cases h <;> rfl

/-! ## Checking a mapping -/

section Mapping

variable {document : Document} {scripts : List (String × Script)}

theorem Document.HoldsScripts.keysOnce (h : document.HoldsScripts scripts)
    (honce : document.keysOnce = true) :
    (scripts.map Prod.fst).Nodup ∧ ∀ entry ∈ scripts, entry.2.document.keysOnce = true := by
  obtain ⟨entries, rfl, hmem⟩ := h
  rw [Document.keysOnce, Bool.and_eq_true] at honce
  have htable := Document.keysOnce_of_mem honce.2 hmem
  rw [Document.keysOnce, Bool.and_eq_true, decide_eq_true_eq, List.map_map] at htable
  refine ⟨htable.1, fun entry hentry => ?_⟩
  exact Document.keysOnce_of_mem htable.2 (List.mem_map_of_mem hentry)

/-- A document holds only one list of scripts. -/
theorem Document.HoldsScripts.unique {others : List (String × Script)}
    (h : document.HoldsScripts scripts) (hothers : document.HoldsScripts others)
    (honce : document.keysOnce = true) : scripts = others := by
  have hfirst := (Document.scripts_eq_ok_iff honce).2 h
  rw [(Document.scripts_eq_ok_iff honce).2 hothers] at hfirst
  exact (Except.ok.inj hfirst).symm

/-- The tasks of a mapping have the names that its scripts stand under. -/
theorem Script.names_of_mapM_task {tasks : List Task}
    (honce : ∀ entry ∈ scripts, entry.2.document.keysOnce = true)
    (htasks : (scripts.mapM fun entry => entry.2.task entry.1) = .ok tasks) :
    tasks.map Task.name = scripts.map Prod.fst :=
  map_eq_of_mapM_ok htasks fun entry hentry _ htask =>
    ((Script.task_eq_ok_iff (honce entry hentry)).1 htask).2.name_eq

/-- Once the scripts of a document are read, nothing but their tasks can fail. -/
theorem Book.ofDocument_eq_map (honce : document.keysOnce = true)
    (hscripts : document.HoldsScripts scripts) :
    Book.ofDocument document =
      (fun tasks => ⟨.byName tasks⟩) <$> scripts.mapM fun entry => entry.2.task entry.1 := by
  have hread : document.scripts = .ok scripts := (Document.scripts_eq_ok_iff honce).2 hscripts
  obtain ⟨hnames, heach⟩ := hscripts.keysOnce honce
  unfold Book.ofDocument
  rw [hread]
  show ((scripts.mapM fun entry => entry.2.task entry.1) >>= _) = _
  cases htasks : scripts.mapM fun entry => entry.2.task entry.1 with
  | error error => rfl
  | ok tasks =>
    -- the names are the keys of one table, so no task stands in another's way
    rw [← Script.names_of_mapM_task heach htasks] at hnames
    have hindex : Table.index "" [] tasks = .ok (.byName tasks) :=
      Table.index_eq_ok_iff.2 ⟨hnames, by simp, rfl⟩
    show ((Table.index "" [] tasks).mapError LoadError.declaration >>= _) = _
    rw [hindex]
    rfl

/-- A document loads exactly if each of its scripts does, and as the table of their tasks. -/
theorem Book.ofDocument_eq_ok_iff (honce : document.keysOnce = true) {book : Book} :
    Book.ofDocument document = .ok book ↔
      ∃ scripts tasks, document.HoldsScripts scripts ∧
        (scripts.mapM fun entry => entry.2.task entry.1) = .ok tasks ∧
        book = ⟨.byName tasks⟩ := by
  constructor
  · intro hbook
    obtain ⟨scripts, hread, -⟩ := bind_eq_ok_iff.1 hbook
    have hscripts := (Document.scripts_eq_ok_iff honce).1 (mapError_eq_ok_iff.1 hread)
    rw [Book.ofDocument_eq_map honce hscripts, map_eq_ok_iff] at hbook
    obtain ⟨tasks, htasks, rfl⟩ := hbook
    exact ⟨scripts, tasks, hscripts, htasks, rfl⟩
  · rintro ⟨scripts, tasks, hscripts, htasks, rfl⟩
    rw [Book.ofDocument_eq_map honce hscripts, htasks]
    rfl

/-! ## What is kept -/

/-- A book answers for a script that stands under `name` in a mapping as the script says:
with the command to the letter, with each member under its dotted name, and for a table of
members with the sequence that its default runs, or with none if it has no default. -/
structure Book.Keeps (book : Book) (name : String) (script : Script) : Prop where
  command : ∀ text, script = .command text ∨ script = .table [("default", text)] →
    book.resolve (Path.ofDotted name) = .ok (.command text)
  member : ∀ entries, script = .table entries → ∀ child text, (child, text) ∈ entries →
    child ≠ "default" →
      book.resolve (Path.ofDotted (name ++ "." ++ child)) = .ok (.command text)
  sequence : ∀ entries, script = .table entries → (∃ entry ∈ entries, entry.1 ≠ "default") →
    ∀ line, ("default", line) ∈ entries →
      ∃ sequence, book.resolve (Path.ofDotted name) = .ok (.sequence sequence) ∧
        Text.words line = "nps" :: sequence.names.map (name ++ "." ++ ·)
  noDefault : ∀ entries, script = .table entries → (∀ entry ∈ entries, entry.1 ≠ "default") →
    book.resolve (Path.ofDotted name) = .error (.noDefault [name] (entries.map Prod.fst))

/-- A proper name is a path of one segment. -/
theorem Path.ofDotted_name {name : String} (hname : validName name = true) :
    Path.ofDotted name = [name] := by
  have hback : Path.ofDotted (Path.dotted [name]) = [name] :=
    Path.ofDotted_dotted_of_names (by simp) (by simpa using hname)
  exact hback

theorem Path.ofDotted_child {name child : String} (hname : validName name = true)
    (hchild : validName child = true) : Path.ofDotted (name ++ "." ++ child) = [name, child] := by
  have hback : Path.ofDotted (Path.dotted [name, child]) = [name, child] :=
    Path.ofDotted_dotted_of_names (by simp) (by simpa using ⟨hname, hchild⟩)
  exact hback

/-- A member is found below its group, under its dotted name. -/
theorem Table.resolve_member {book : Book} {name : String} {label : Label}
    {entries : List (String × String)} {default : Option Sequence}
    (honce : (entries.map Prod.fst).Nodup) (hname : validName name = true)
    (hnames : ∀ entry ∈ Script.members entries, validName entry.1 = true)
    (hfind : book.find [name] = .ok (.group label (.ofMembers entries) default))
    {child text : String} (hentry : (child, text) ∈ entries) (hne : child ≠ "default") :
    book.resolve (Path.ofDotted (name ++ "." ++ child)) = .ok (.command text) := by
  have hchild := hnames _ (Script.mem_members_iff.2 ⟨hentry, hne⟩)
  have hbelow := (Table.find?_ofMembers_iff honce).2 ⟨text, hentry, hne, rfl⟩
  have hlonger := Book.find_append_singleton hfind (validName_iff.1 hchild).1 hbelow
  rw [Path.ofDotted_child hname hchild]
  exact Book.resolve_of_find hlonger rfl

/-- What a script gives is kept wherever it is found under its name. -/
theorem Script.Gives.keeps {book : Book} {name : String} {script : Script} {task : Task}
    (honce : script.document.keysOnce = true) (hname : validName name = true)
    (hgives : script.Gives name task) (hfind : book.find [name] = .ok task) :
    book.Keeps name script := by
  have hresolve := Book.resolve_of_find hfind hgives.enabled
  cases hgives with
  | command text =>
    constructor
    · intro found hfound
      obtain rfl : text = found := by simpa using hfound
      rw [Path.ofDotted_name hname]
      exact hresolve
    all_goals exact nofun
  | alone text =>
    constructor
    · intro found hfound
      obtain rfl : text = found := by simpa using hfound
      rw [Path.ofDotted_name hname]
      exact hresolve
    · rintro _ ⟨⟩ child other hmem hne
      simp [hne] at hmem
    · rintro _ ⟨⟩ ⟨entry, hmem, hne⟩
      obtain rfl := List.mem_singleton.1 hmem
      exact absurd rfl hne
    · rintro _ ⟨⟩ hnone
      exact absurd rfl (hnone _ List.mem_cons_self)
  | group entries sequence hmembers hnames hdefault hholds =>
    replace honce := Script.nodup_of_keysOnce honce
    constructor
    · intro text htext
      obtain rfl : entries = [("default", text)] := by simpa using htext
      exact absurd rfl hmembers
    · rintro _ ⟨⟩ child text hentry hne
      exact Table.resolve_member honce hname hnames hfind hentry hne
    · rintro _ ⟨⟩ - line hline
      obtain ⟨s, rfl, hwords⟩ := Script.sequence_of_default honce hdefault hline
      rw [Path.ofDotted_name hname]
      exact ⟨s, hresolve, hwords⟩
    · rintro _ ⟨⟩ hnone
      have hlookup : entries.lookup "default" = none := by
        rw [List.lookup_eq_none_iff]
        exact fun entry hentry => bne_iff_ne.2 (hnone entry hentry).symm
      rw [hlookup] at hdefault
      obtain rfl := Option.map_eq_none_iff.1 hdefault.symm
      -- nothing is left out of the members, so the choices are all the keys
      have hall : Script.members entries = entries :=
        List.filter_eq_self.2 fun entry hentry => by simpa using hnone entry hentry
      have hkeys : (Table.ofMembers entries).keys = entries.map Prod.fst := by
        rw [Table.ofMembers, Table.keys_byName, Script.names_ofCommand, hall]
      rw [Path.ofDotted_name hname, hresolve, Task.resolution, hkeys]

/-! ## Loading -/

/-- **Loading accepts exactly the grammar and keeps every command.** A document in which no
table has a key twice loads exactly if it holds scripts that each have a proper name and fit
the grammar under it. The book then has one enabled task for each script, in the order of
the mapping, and it answers for each as the script says. -/
theorem Book.ofDocument_accepts_grammar (honce : document.keysOnce = true) :
    ((∃ book, Book.ofDocument document = .ok book) ↔
      ∃ scripts, document.HoldsScripts scripts ∧
        ∀ entry ∈ scripts, (entry.1 ≠ "" ∧ '.' ∉ entry.1.toList) ∧ entry.2.Fits entry.1) ∧
    ∀ book scripts, Book.ofDocument document = .ok book → document.HoldsScripts scripts →
      book.tasks.keys = scripts.map Prod.fst ∧
      (∀ entry ∈ book.tasks.toList, entry.2.enabled = true) ∧
      ∀ entry ∈ scripts, book.Keeps entry.1 entry.2 := by
  constructor
  · have hfits : ∀ scripts, document.HoldsScripts scripts →
        ((∃ tasks, (scripts.mapM fun entry => entry.2.task entry.1) = .ok tasks) ↔
          ∀ entry ∈ scripts, (entry.1 ≠ "" ∧ '.' ∉ entry.1.toList) ∧ entry.2.Fits entry.1) := by
      intro scripts hscripts
      rw [exists_mapM_ok_iff]
      refine forall₂_congr fun entry hentry => ?_
      have heach := (hscripts.keysOnce honce).2 entry hentry
      simp only [Script.task_eq_ok_iff heach]
      rw [exists_and_left, validName_iff, Script.fits_iff heach]
    simp only [Book.ofDocument_eq_ok_iff honce]
    constructor
    · rintro ⟨_, scripts, tasks, hscripts, htasks, rfl⟩
      exact ⟨scripts, hscripts, (hfits scripts hscripts).1 ⟨tasks, htasks⟩⟩
    · rintro ⟨scripts, hscripts, hall⟩
      obtain ⟨tasks, htasks⟩ := (hfits scripts hscripts).2 hall
      exact ⟨_, scripts, tasks, hscripts, htasks, rfl⟩
  · intro book scripts hbook hscripts
    obtain ⟨others, tasks, hothers, htasks, rfl⟩ := (Book.ofDocument_eq_ok_iff honce).1 hbook
    -- the scripts that were loaded are those that the statement speaks of
    obtain rfl := hothers.unique hscripts honce
    obtain ⟨hnodup, heach⟩ := hscripts.keysOnce honce
    have hnames := Script.names_of_mapM_task heach htasks
    have hgives : ∀ entry ∈ others, ∀ task, entry.2.task entry.1 = .ok task →
        validName entry.1 = true ∧ entry.2.Gives entry.1 task := fun entry hentry task =>
      (Script.task_eq_ok_iff (heach entry hentry)).1
    refine ⟨by rw [Table.keys_byName, hnames], ?_, ?_⟩
    · intro entry hentry
      rw [Table.byName, Table.toList_ofList, List.mem_map] at hentry
      obtain ⟨task, htask, rfl⟩ := hentry
      obtain ⟨item, hitem, hok⟩ := item_of_mapM_ok htasks htask
      exact (hgives item hitem task hok).2.enabled
    · intro entry hentry
      obtain ⟨task, htask, hok⟩ := value_of_mapM_ok htasks hentry
      obtain ⟨hname, hgive⟩ := hgives entry hentry task hok
      refine hgive.keeps (heach entry hentry) hname (Book.find_eq_ok_iff.2 ⟨?_, ?_⟩)
      · exact Path.isValid_iff.2 (by simpa using (validName_iff.1 hname).1)
      · rw [← hnames] at hnodup
        have hfind := (Table.find?_byName_iff hnodup).2 ⟨htask, hgive.name_eq⟩
        rw [Table.at?, hfind]
        rfl

end Mapping

/-- A group whose default runs a member twice. -/
def checkScripts : List (String × Script) :=
  [("fmt", .command "black ."),
    ("check", .table [("lint", "flake8"), ("default", "nps check.test\tcheck.lint check.test"),
      ("test", "pytest -q")])]

theorem Book.check_runs_twice :
    let document : Document := .table
      [("scripts", .table (checkScripts.map fun entry => (entry.1, entry.2.document)))]
    document.keysOnce = true ∧
      ∃ book, Book.ofDocument document = .ok book ∧ book.tasks.keys = ["fmt", "check"] ∧
        book.resolve (Path.ofDotted "check.test") = .ok (.command "pytest -q") := by
  intro document
  have honce : document.keysOnce = true := by decide
  have hscripts : document.HoldsScripts checkScripts := ⟨_, rfl, List.mem_cons_self⟩
  obtain ⟨hloads, hkept⟩ := Book.ofDocument_accepts_grammar honce
  have hline : Script.RunsOwn "check"
      [("lint", "flake8"), ("default", "nps check.test\tcheck.lint check.test"), ("test", "pytest -q")]
      "nps check.test\tcheck.lint check.test" :=
    ⟨["check.test", "check.lint", "check.test"], by decide, by decide, by decide⟩
  obtain ⟨book, hbook⟩ := hloads.2 ⟨checkScripts, hscripts, by
    refine List.forall_mem_cons.2 ⟨⟨by decide, .command _⟩, List.forall_mem_singleton.2
      ⟨by decide, .group _ ⟨_, List.mem_cons_self, by decide⟩ (by decide) ?_⟩⟩
    intro line hmem
    obtain rfl : line = "nps check.test\tcheck.lint check.test" := by simpa using hmem
    exact hline⟩
  obtain ⟨hkeys, -, heach⟩ := hkept book checkScripts hbook hscripts
  refine ⟨honce, book, hbook, hkeys, ?_⟩
  have hcheck := heach _ (List.mem_cons_of_mem _ List.mem_cons_self)
  exact hcheck.member _ rfl "test" "pytest -q" (by simp) (by decide)

end Taskbook
