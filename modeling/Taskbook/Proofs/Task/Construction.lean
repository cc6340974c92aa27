/-
Which declarations make a book, and what the book keeps of them.

The rules for a declaration are spread over the functions that check it: one looks at names,
one at repeated names, one at empty defaults, one at what a default lists, and all of it from
the inside out. Here they are said at once, for one level and without any function of the
check. An `Outline` is what can be seen of a task, or of a declaration, at one level: its label,
its command, its default, and what stands directly below it under which key.
`Outline.IsProper` says what one level has to be like, and the declarations are accepted exactly
if every declaration that stands anywhere in them is like this, and no name comes twice at the
top (`Book.ofDeclarations_eq_ok_iff_wellFormed`).

What is accepted is kept whole. The task of a declaration has the outline of the declaration,
with the tasks of the members in their places (`Declaration.outline_task`), so at every level
nothing is added, left out or moved, and what was asked of the declarations holds of the
tasks.
-/
import Mathlib.Data.List.Nodup
import Taskbook.Proofs.Task.Definition

set_option autoImplicit false

namespace Taskbook

/-! ## Outlines -/

/-- One level of a task: what it is by itself, and what stands directly below it under which
key. -/
structure Outline (α : Type) where
  label : Label
  text? : Option String
  entries : List (String × α)
  default? : Option (List String)

namespace Outline

variable {α β : Type}

/-- The outline with other things under the same keys. -/
def map (f : α → β) (outline : Outline α) : Outline β :=
  ⟨outline.label, outline.text?, outline.entries.map fun entry => (entry.1, f entry.2),
    outline.default?⟩

/-- What is asked of one level, when it is known of the things below whether they are enabled. -/
structure IsProper (enabled : α → Bool) (outline : Outline α) : Prop where
  /-- The name can stand in a dotted path. -/
  name : outline.label.name ≠ "" ∧ '.' ∉ outline.label.name.toList
  /-- There is a command or something below, and never both. -/
  either : outline.text? = none ↔ outline.entries ≠ []
  /-- There is no default beside a command. -/
  alone : outline.text? ≠ none → outline.default? = none
  /-- No key comes twice. -/
  once : (outline.entries.map Prod.fst).Nodup
  /-- A default lists something, and only keys of what is enabled. -/
  default : ∀ names, outline.default? = some names → names ≠ [] ∧
    ∀ name ∈ names, ∃ below, (name, below) ∈ outline.entries ∧ enabled below = true

theorem keys_map (f : α → β) (outline : Outline α) :
    (outline.map f).entries.map Prod.fst = outline.entries.map Prod.fst := by
  rw [map, List.map_map]
  rfl

/-- A level is proper or not whatever stands below, as long as it is enabled or not as before. -/
theorem isProper_map {f : α → β} {enabled : β → Bool} {outline : Outline α} :
    (outline.map f).IsProper enabled ↔ outline.IsProper fun below => enabled (f below) := by
  have hnil : (outline.map f).entries ≠ [] ↔ outline.entries ≠ [] := by
    rw [map, Ne, List.map_eq_nil_iff]
  have hlisted : ∀ name, (∃ below, (name, below) ∈ (outline.map f).entries ∧ enabled below = true) ↔
      ∃ below, (name, below) ∈ outline.entries ∧ enabled (f below) = true := by
    intro name
    constructor
    · rintro ⟨_, hmem, henabled⟩
      obtain ⟨⟨key, below⟩, hbelow, heq⟩ := List.mem_map.1 hmem
      cases heq
      exact ⟨below, hbelow, henabled⟩
    · rintro ⟨below, hbelow, henabled⟩
      exact ⟨f below, List.mem_map.2 ⟨_, hbelow, rfl⟩, henabled⟩
  constructor
  · intro h
    exact ⟨h.name, h.either.trans hnil, h.alone, outline.keys_map f ▸ h.once,
      fun names hnames => ⟨(h.default names hnames).1,
        fun name hname => (hlisted name).1 ((h.default names hnames).2 name hname)⟩⟩
  · intro h
    exact ⟨h.name, h.either.trans hnil.symm, h.alone, (outline.keys_map f).symm ▸ h.once,
      fun names hnames => ⟨(h.default names hnames).1,
        fun name hname => (hlisted name).2 ((h.default names hnames).2 name hname)⟩⟩

/-- The task with this outline. -/
def task (outline : Outline Task) : Task :=
  match outline.text? with
  | some text => .command outline.label text
  | none => .group outline.label (.ofList outline.entries)
      (outline.default?.bind Sequence.ofNames?)

end Outline

/-- What can be seen of a task at its own level. -/
def Task.outline (task : Task) : Outline Task :=
  ⟨task.label, task.text?, task.children.toList, task.default?.map Sequence.names⟩

/-- A proper outline is that of its task. -/
theorem Outline.outline_task {enabled : Task → Bool} {outline : Outline Task}
    (h : outline.IsProper enabled) : outline.task.outline = outline := by
  obtain ⟨label, text?, entries, default?⟩ := outline
  cases text? with
  | some text =>
    -- nothing stands below a command, and it has no default
    obtain rfl : entries = [] := by
      by_contra hne
      exact absurd (h.either.2 hne) nofun
    obtain rfl : default? = none := h.alone nofun
    rfl
  | none =>
    have hdefault : (default?.bind Sequence.ofNames?).map Sequence.names = default? := by
      cases default? with
      | none => rfl
      | some names =>
        have hne : names ≠ [] := (h.default names rfl).1
        rw [Option.bind_some, Sequence.ofNames?, dif_pos hne, Option.map_some]
    change (⟨label, none, (Table.ofList entries).toList,
      (default?.bind Sequence.ofNames?).map Sequence.names⟩ : Outline Task) = _
    rw [Table.toList_ofList, hdefault]

/-! ## One level

The last step of every check: the default is read, and the parts are put together. -/

/-- A default holds over a table without repeated keys exactly if it lists keys of enabled
tasks. -/
theorem Table.defaultHolds_ofList_iff {entries : List (String × Task)}
    (honce : (entries.map Prod.fst).Nodup) {sequence : Sequence} :
    (Table.ofList entries).defaultHolds (some sequence) = true ↔
      ∀ name ∈ sequence.names, ∃ child, (name, child) ∈ entries ∧ child.enabled = true := by
  rw [Table.defaultHolds_some_iff]
  simp only [Table.find?_ofList_iff honce]

theorem Table.ofList_eq_nil_iff {entries : List (String × Task)} :
    Table.ofList entries = .nil ↔ entries = [] := by
  cases entries with
  | nil => exact iff_of_true rfl rfl
  | cons entry rest => simp [Table.ofList]

/-- Parts make a task exactly if their outline is proper, and then the task with that outline. -/
theorem Outline.define_eq_ok_iff {outline : Outline Task}
    (honce : (outline.entries.map Prod.fst).Nodup) {task : Task} :
    (outline.default?.mapM Sequence.ofDeclared >>= fun sequence =>
        Task.define outline.label outline.text? (.ofList outline.entries) sequence) = .ok task ↔
      outline.IsProper Task.enabled ∧ task = outline.task := by
  rw [bind_eq_ok_iff]
  simp only [Sequence.mapM_ofDeclared_eq_ok_iff]
  obtain ⟨label, text?, entries, default?⟩ := outline
  dsimp only at honce ⊢
  cases text? with
  | some text =>
    simp only [Task.define_text_eq_ok_iff, validName_iff, Table.ofList_eq_nil_iff]
    constructor
    · rintro ⟨sequence, rfl, hname, rfl, rfl, rfl⟩
      exact ⟨⟨hname, by simp, fun _ => rfl, honce, nofun⟩, rfl⟩
    · rintro ⟨hproper, rfl⟩
      have hnone : default? = none := hproper.alone nofun
      have hnil : entries = [] := by
        by_contra hne
        exact absurd (hproper.either.2 hne) nofun
      exact ⟨none, hnone.symm, hproper.name, hnil, rfl, rfl⟩
  | none =>
    simp only [Task.define_group_eq_ok_iff, validName_iff, Ne, Table.ofList_eq_nil_iff]
    constructor
    · rintro ⟨sequence, rfl, hname, hne, hholds, rfl⟩
      refine ⟨⟨hname, iff_of_true rfl hne, fun h => absurd rfl h, honce, ?_⟩, ?_⟩
      · intro names hnames
        obtain ⟨s, rfl, rfl⟩ := Option.map_eq_some_iff.1 hnames
        exact ⟨s.names_ne_nil, (Table.defaultHolds_ofList_iff honce).1 hholds⟩
      · cases sequence <;> simp [Outline.task]
    · rintro ⟨hproper, rfl⟩
      have hne : entries ≠ [] := hproper.either.1 rfl
      cases default? with
      | none => exact ⟨none, rfl, hproper.name, hne, rfl, rfl⟩
      | some names =>
        obtain ⟨hnames, hlisted⟩ := hproper.default names rfl
        refine ⟨some ⟨names, hnames⟩, rfl, hproper.name, hne,
          (Table.defaultHolds_ofList_iff honce).2 hlisted, ?_⟩
        simp [Outline.task, Sequence.ofNames?, hnames]

/-! ## Declarations, level by level -/

namespace Declaration

/-- The declared label; a group by name is enabled. -/
def label : Declaration → Label
  | .command label _ => label
  | .group name _ _ description tags => ⟨name, true, description, tags⟩
  | .keyed label .. => label

/-- The declared task may be run. -/
def enabled (declaration : Declaration) : Bool :=
  declaration.label.enabled

/-- What is written down at the declaration's own level. The members of a group by name stand
under their names. -/
def outline (declaration : Declaration) : Outline Declaration :=
  match declaration with
  | .command label text => ⟨label, some text, [], none⟩
  | .group _ members default _ _ =>
    ⟨declaration.label, none, members.map fun member => (member.label.name, member), default⟩
  | .keyed label text members default => ⟨label, text, members, default⟩

/-- The declarations that stand directly below this one. -/
def members (declaration : Declaration) : List Declaration :=
  declaration.outline.entries.map Prod.snd

/-- The keys of the members are spelt out. -/
def choosesKeys : Declaration → Bool
  | .keyed .. => true
  | _ => false

/-- The declaration is one of these or stands somewhere below one of them. -/
inductive StandsIn : Declaration → List Declaration → Prop
  | here {declaration : Declaration} {declarations : List Declaration}
      (h : declaration ∈ declarations) : StandsIn declaration declarations
  | within {declaration outer : Declaration} {declarations : List Declaration}
      (houter : outer ∈ declarations) (h : StandsIn declaration outer.members) :
      StandsIn declaration declarations

/-- A member of what stands in some declarations stands in them too. -/
theorem StandsIn.member {declaration member : Declaration} {declarations : List Declaration}
    (h : declaration.StandsIn declarations) (hmember : member ∈ declaration.members) :
    member.StandsIn declarations := by
  induction h with
  | here h => exact .within h (.here hmember)
  | within houter _ ih => exact .within houter ih

/-- What holds at the top and is passed on from every declaration to its members holds of
everything that stands in the declarations. -/
theorem StandsIn.closed {P : Declaration → Prop} {declaration : Declaration}
    {declarations : List Declaration} (h : declaration.StandsIn declarations)
    (htop : ∀ first ∈ declarations, P first)
    (hmember : ∀ outer : Declaration, outer.StandsIn declarations → P outer →
      ∀ member ∈ outer.members, P member) : P declaration := by
  induction h with
  | here h => exact htop _ h
  | within houter _ ih =>
    refine ih (hmember _ (.here houter) (htop _ houter)) fun outer hstands hP => ?_
    exact hmember outer (.within houter hstands) hP

/-- What holds of everything that stands in a list holds of the first declaration, of what stands
below it, and of what stands in the rest. -/
theorem forall_standsIn_cons {P : Declaration → Prop} {first : Declaration}
    {rest : List Declaration} :
    (∀ declaration : Declaration, declaration.StandsIn (first :: rest) → P declaration) ↔
      (P first ∧ ∀ declaration : Declaration, declaration.StandsIn first.members → P declaration) ∧
        ∀ declaration : Declaration, declaration.StandsIn rest → P declaration := by
  constructor
  · intro h
    refine ⟨⟨h first (.here List.mem_cons_self),
      fun declaration hbelow => h declaration (.within List.mem_cons_self hbelow)⟩,
      fun declaration hrest => h declaration ?_⟩
    cases hrest with
    | here hmem => exact .here (List.mem_cons_of_mem _ hmem)
    | within houter hbelow => exact .within (List.mem_cons_of_mem _ houter) hbelow
  · rintro ⟨⟨hfirst, hbelow⟩, hrest⟩ declaration h
    cases h with
    | here hmem =>
      rcases List.mem_cons.1 hmem with rfl | hother
      · exact hfirst
      · exact hrest declaration (.here hother)
    | within houter hlower =>
      rcases List.mem_cons.1 houter with rfl | hother
      · exact hbelow declaration hlower
      · exact hrest declaration (.within hother hlower)

theorem not_standsIn_nil {declaration : Declaration} : ¬declaration.StandsIn [] := by
  rintro (⟨hmem⟩ | ⟨houter, -⟩)
  · cases hmem
  · cases houter

/-- Where keys are spelt out, none is spelt out twice. -/
def KeysOnce (declarations : List Declaration) : Prop :=
  ∀ declaration : Declaration, declaration.StandsIn declarations → declaration.choosesKeys = true →
    (declaration.outline.entries.map Prod.fst).Nodup

/-- Every level of the declarations is proper. -/
def AllProper (declarations : List Declaration) : Prop :=
  ∀ declaration : Declaration, declaration.StandsIn declarations →
    declaration.outline.IsProper Declaration.enabled

/-- Every level of the declarations is proper, and the names at the top are distinct. -/
structure AreWellFormed (declarations : List Declaration) : Prop where
  proper : AllProper declarations
  once : (declarations.map fun declaration => declaration.label.name).Nodup

/-! ## Declared tasks -/

mutual

/-- The task as it is declared, whether that makes sense or not. -/
def task : Declaration → Task
  | .command label text => .command label text
  | .group name members default description tags =>
    .group ⟨name, true, description, tags⟩ (tableByName members)
      (default.bind Sequence.ofNames?)
  | .keyed label (some text) _ _ => .command label text
  | .keyed label none members default =>
    .group label (tableByKey members) (default.bind Sequence.ofNames?)

/-- The declared tasks under their names. -/
def tableByName : List Declaration → Table
  | [] => .nil
  | declaration :: rest => .cons declaration.label.name declaration.task (tableByName rest)

/-- The declared tasks under the keys that are spelt out. -/
def tableByKey : List (String × Declaration) → Table
  | [] => .nil
  | (key, declaration) :: rest => .cons key declaration.task (tableByKey rest)

end

theorem tableByName_eq (declarations : List Declaration) :
    tableByName declarations = .ofList (declarations.map fun declaration =>
      (declaration.label.name, declaration.task)) := by
  induction declarations with
  | nil => rfl
  | cons declaration rest ih => rw [tableByName, ih, List.map_cons, Table.ofList]

theorem tableByKey_eq (entries : List (String × Declaration)) :
    tableByKey entries = .ofList (entries.map fun entry => (entry.1, entry.2.task)) := by
  induction entries with
  | nil => rfl
  | cons entry rest ih => rw [tableByKey, ih, List.map_cons, Table.ofList]

/-- The declared task is the one with the declared outline. -/
theorem task_eq (declaration : Declaration) :
    declaration.task = (declaration.outline.map task).task := by
  cases declaration with
  | command label text => rfl
  | group name members default description tags =>
    rw [task, tableByName_eq, Outline.map, Outline.task, outline, List.map_map]
    rfl
  | keyed label text members default =>
    cases text with
    | some text => rfl
    | none =>
      rw [task, tableByKey_eq]
      rfl

theorem label_outline (declaration : Declaration) :
    declaration.outline.label = declaration.label := by
  cases declaration <;> rfl

/-- A declared task has the declared label. -/
theorem label_task (declaration : Declaration) : declaration.task.label = declaration.label := by
  rw [task_eq, ← label_outline, Outline.task]
  split <;> rfl

theorem name_task (declaration : Declaration) :
    declaration.task.name = declaration.label.name := by
  rw [Task.name, label_task]

theorem isProper_map_task {declaration : Declaration} :
    (declaration.outline.map task).IsProper Task.enabled ↔
      declaration.outline.IsProper Declaration.enabled := by
  have hsame : (fun below : Declaration => below.task.enabled) = Declaration.enabled := by
    funext below
    rw [Task.enabled, label_task, enabled]
  rw [Outline.isProper_map, hsame]

/-- **A proper declaration is kept whole.** Its task has the declared label, command and default,
and the tasks of the members under the declared keys and in the declared order. -/
theorem outline_task {declaration : Declaration}
    (h : declaration.outline.IsProper Declaration.enabled) :
    declaration.task.outline = declaration.outline.map task := by
  rw [task_eq, Outline.outline_task (isProper_map_task.2 h)]

end Declaration

/-! ## Acceptance -/

/-- Setting keys that do not come twice, one after the other, puts them one behind the other. -/
theorem Table.ofEntries_eq_ofList {entries : List (String × Task)}
    (honce : (entries.map Prod.fst).Nodup) : Table.ofEntries entries = .ofList entries := by
  -- a key that is not there yet is set at the end
  have hset : ∀ (before : List (String × Task)) (entry : String × Task),
      entry.1 ∉ before.map Prod.fst →
        (Table.ofList before).set entry.1 entry.2 = .ofList (before ++ [entry]) := by
    intro before entry hnew
    induction before with
    | nil => rfl
    | cons first rest ih =>
      rw [List.map_cons, List.mem_cons, not_or] at hnew
      rw [Table.ofList, Table.set, if_neg (Ne.symm hnew.1), ih hnew.2]
      rfl
  have hfold : ∀ after before : List (String × Task), ((before ++ after).map Prod.fst).Nodup →
      after.foldl (fun table entry => table.set entry.1 entry.2) (Table.ofList before)
        = .ofList (before ++ after) := by
    intro after
    induction after with
    | nil =>
      intro before _
      rw [List.append_nil]
      rfl
    | cons entry rest ih =>
      intro before hkeys
      have hnew : entry.1 ∉ before.map Prod.fst := by
        rw [List.map_append, List.map_cons, List.nodup_middle, List.nodup_cons] at hkeys
        exact fun hmem => hkeys.1 (List.mem_append_left _ hmem)
      rw [List.foldl_cons, hset before entry hnew, ih (before ++ [entry]) (by simpa using hkeys),
        List.append_assoc]
      rfl
  exact hfold entries [] honce

namespace Declaration

/-- Both ways of writing a group give its members. -/
theorem members_group (name : String) (members : List Declaration)
    (default : Option (List String)) (description : Option String) (tags : List String) :
    (group name members default description tags).members = members := by
  rw [Declaration.members, outline, List.map_map]
  exact List.map_id _

/-- Where no keys are spelt out, members stand under their names. -/
theorem key_of_mem (declaration : Declaration) (h : declaration.choosesKeys = false)
    {entry : String × Declaration} (hentry : entry ∈ declaration.outline.entries) :
    entry.1 = entry.2.label.name := by
  cases declaration with
  | command label text => cases hentry
  | group name members default description tags =>
    obtain ⟨member, -, rfl⟩ := List.mem_map.1 hentry
    rfl
  | keyed label text members default => cases h

theorem members_keyed (label : Label) (text : Option String) (members : List (String × Declaration))
    (default : Option (List String)) :
    (keyed label text members default).members = members.map Prod.snd := rfl

theorem keysOnce_cons {first : Declaration} {rest : List Declaration} :
    KeysOnce (first :: rest) ↔
      ((first.choosesKeys = true → (first.outline.entries.map Prod.fst).Nodup) ∧
        KeysOnce first.members) ∧ KeysOnce rest :=
  forall_standsIn_cons

theorem allProper_cons {first : Declaration} {rest : List Declaration} :
    AllProper (first :: rest) ↔
      (first.outline.IsProper Declaration.enabled ∧ AllProper first.members) ∧ AllProper rest :=
  forall_standsIn_cons

theorem allProper_nil : AllProper [] :=
  fun _ h => absurd h not_standsIn_nil

/-- Once what stands below has been accepted, a declaration is accepted exactly if its own level
is proper. -/
theorem define_eq_ok_iff (declaration : Declaration) {accepted : Task}
    (honce : (declaration.outline.entries.map Prod.fst).Nodup) :
    (declaration.outline.default?.mapM Sequence.ofDeclared >>= fun sequence =>
        Task.define declaration.outline.label declaration.outline.text?
          (.ofList (declaration.outline.map task).entries) sequence) = .ok accepted ↔
      declaration.outline.IsProper Declaration.enabled ∧ accepted = declaration.task := by
  rw [← declaration.outline.keys_map task] at honce
  rw [task_eq, ← isProper_map_task]
  exact Outline.define_eq_ok_iff honce

mutual

/-- A declaration is accepted exactly if it and everything below it is proper, and gives the
declared task. -/
theorem check_eq_ok_iff : ∀ {declaration : Declaration} {accepted : Task},
    (declaration.choosesKeys = true → (declaration.outline.entries.map Prod.fst).Nodup) →
      KeysOnce declaration.members →
        (declaration.check = .ok accepted ↔
          (declaration.outline.IsProper Declaration.enabled ∧ AllProper declaration.members) ∧
            accepted = declaration.task)
  | .command label text, accepted, _, _ => by
    -- nothing stands below a command
    rw [and_iff_left (show AllProper (command label text).members from allProper_nil),
      ← (command label text).define_eq_ok_iff List.nodup_nil]
    rfl
  | .group name members default description tags, accepted, _, hkeys => by
    rw [members_group] at hkeys ⊢
    have hnames : (members.map task).map Task.name
        = (group name members default description tags).outline.entries.map Prod.fst := by
      simp [outline, name_task]
    have htable : Table.byName (members.map task)
        = .ofList ((group name members default description tags).outline.map task).entries := by
      rw [Table.byName, outline, Outline.map, List.map_map, List.map_map]
      exact congrArg Table.ofList (List.map_congr_left fun member _ => by simp [name_task])
    rw [Declaration.check, bind_eq_ok_iff]
    constructor
    · rintro ⟨tasks, htasks, h⟩
      obtain ⟨hbelow, rfl⟩ := (checkAll_eq_ok_iff hkeys).1 htasks
      obtain ⟨children, hindex, h⟩ := bind_eq_ok_iff.1 h
      obtain ⟨honce, -, rfl⟩ := Table.index_eq_ok_iff.1 hindex
      rw [htable] at h
      obtain ⟨hproper, htask⟩ := (define_eq_ok_iff
        (group name members default description tags) (hnames ▸ honce)).1 h
      exact ⟨⟨hproper, hbelow⟩, htask⟩
    · rintro ⟨⟨hproper, hbelow⟩, htask⟩
      refine ⟨_, (checkAll_eq_ok_iff hkeys).2 ⟨hbelow, rfl⟩, bind_eq_ok_iff.2 ⟨_,
        Table.index_eq_ok_iff.2 ⟨hnames ▸ hproper.once, by simp, rfl⟩, ?_⟩⟩
      rw [htable]
      exact (define_eq_ok_iff _ hproper.once).2 ⟨hproper, htask⟩
  | .keyed label text members default, accepted, honce, hkeys => by
    rw [members_keyed] at hkeys ⊢
    have hdistinct : (members.map Prod.fst).Nodup := honce rfl
    have htable : Table.ofEntries (members.map fun member => (member.1, member.2.task))
        = .ofList ((keyed label text members default).outline.map task).entries :=
      Table.ofEntries_eq_ofList (by rwa [List.map_map])
    rw [Declaration.check, bind_eq_ok_iff]
    constructor
    · rintro ⟨entries, hentries, h⟩
      obtain ⟨hbelow, rfl⟩ := (checkKeyed_eq_ok_iff hkeys).1 hentries
      rw [htable] at h
      obtain ⟨hproper, htask⟩ := (define_eq_ok_iff
        (keyed label text members default) (honce rfl)).1 h
      exact ⟨⟨hproper, hbelow⟩, htask⟩
    · rintro ⟨⟨hproper, hbelow⟩, htask⟩
      refine ⟨_, (checkKeyed_eq_ok_iff hkeys).2 ⟨hbelow, rfl⟩, ?_⟩
      rw [htable]
      exact (define_eq_ok_iff _ hproper.once).2 ⟨hproper, htask⟩

/-- Several are accepted exactly if all that stands in them is proper. -/
theorem checkAll_eq_ok_iff : ∀ {declarations : List Declaration} {accepted : List Task},
    KeysOnce declarations →
      (checkAll declarations = .ok accepted ↔
        AllProper declarations ∧ accepted = declarations.map task)
  | [], accepted, _ => by
    rw [checkAll, and_iff_right allProper_nil, List.map_nil]
    exact ⟨fun h => (Except.ok.inj h).symm, fun h => congrArg Except.ok h.symm⟩
  | declaration :: rest, accepted, hkeys => by
    obtain ⟨⟨honce, hbelow⟩, hrest⟩ := keysOnce_cons.1 hkeys
    rw [checkAll, bind_eq_ok_iff, allProper_cons, List.map_cons]
    constructor
    · rintro ⟨first, hfirst, h⟩
      obtain ⟨others, hothers, h⟩ := bind_eq_ok_iff.1 h
      cases h
      obtain ⟨hproper, rfl⟩ := (check_eq_ok_iff honce hbelow).1 hfirst
      obtain ⟨hall, rfl⟩ := (checkAll_eq_ok_iff hrest).1 hothers
      exact ⟨⟨hproper, hall⟩, rfl⟩
    · rintro ⟨⟨hproper, hall⟩, rfl⟩
      exact ⟨_, (check_eq_ok_iff honce hbelow).2 ⟨hproper, rfl⟩, bind_eq_ok_iff.2 ⟨_,
        (checkAll_eq_ok_iff hrest).2 ⟨hall, rfl⟩, rfl⟩⟩

/-- The same for declarations under keys. -/
theorem checkKeyed_eq_ok_iff : ∀ {members : List (String × Declaration)}
    {accepted : List (String × Task)}, KeysOnce (members.map Prod.snd) →
      (checkKeyed members = .ok accepted ↔
        AllProper (members.map Prod.snd) ∧
          accepted = members.map fun member => (member.1, member.2.task))
  | [], accepted, _ => by
    rw [checkKeyed, List.map_nil, and_iff_right allProper_nil, List.map_nil]
    exact ⟨fun h => (Except.ok.inj h).symm, fun h => congrArg Except.ok h.symm⟩
  | (key, declaration) :: rest, accepted, hkeys => by
    rw [List.map_cons] at hkeys
    obtain ⟨⟨honce, hbelow⟩, hrest⟩ := keysOnce_cons.1 hkeys
    rw [checkKeyed, bind_eq_ok_iff, List.map_cons, allProper_cons, List.map_cons]
    constructor
    · rintro ⟨first, hfirst, h⟩
      obtain ⟨others, hothers, h⟩ := bind_eq_ok_iff.1 h
      cases h
      obtain ⟨hproper, rfl⟩ := (check_eq_ok_iff honce hbelow).1 hfirst
      obtain ⟨hall, rfl⟩ := (checkKeyed_eq_ok_iff hrest).1 hothers
      exact ⟨⟨hproper, hall⟩, rfl⟩
    · rintro ⟨⟨hproper, hall⟩, rfl⟩
      exact ⟨_, (check_eq_ok_iff honce hbelow).2 ⟨hproper, rfl⟩, bind_eq_ok_iff.2 ⟨_,
        (checkKeyed_eq_ok_iff hrest).2 ⟨hall, rfl⟩, rfl⟩⟩

end

end Declaration

/-- **Declarations make a book exactly if they are well-formed**, and then the book of the
declared tasks. -/
theorem Book.ofDeclarations_eq_ok_iff_wellFormed {declarations : List Declaration} {book : Book}
    (hkeys : Declaration.KeysOnce declarations) :
    Book.ofDeclarations declarations = .ok book ↔
      Declaration.AreWellFormed declarations ∧
        book = ⟨.byName (declarations.map Declaration.task)⟩ := by
  have hnames : (declarations.map Declaration.task).map Task.name
      = declarations.map fun declaration => declaration.label.name := by
    simp [Declaration.name_task]
  rw [Book.ofDeclarations_eq_ok_iff, ← Declaration.checkAll_eq_mapM]
  constructor
  · rintro ⟨tasks, htasks, honce, hbook⟩
    obtain ⟨hproper, rfl⟩ := (Declaration.checkAll_eq_ok_iff hkeys).1 htasks
    exact ⟨⟨hproper, hnames ▸ honce⟩, hbook⟩
  · rintro ⟨hwell, hbook⟩
    exact ⟨_, (Declaration.checkAll_eq_ok_iff hkeys).2 ⟨hwell.proper, rfl⟩,
      hnames ▸ hwell.once, hbook⟩

/-! ## What a book keeps -/

namespace Declaration

/-- The children of a proper declaration's task are the tasks of the members, in their order. -/
theorem toList_children_task {declaration : Declaration}
    (h : declaration.outline.IsProper Declaration.enabled) :
    declaration.task.children.toList
      = declaration.outline.entries.map fun entry => (entry.1, entry.2.task) :=
  congrArg Outline.entries (outline_task h)

/-- The task under a key of a proper declaration's task is that of the member under the key. -/
theorem find?_children_task_iff {declaration : Declaration}
    (h : declaration.outline.IsProper Declaration.enabled) {key : String} {child : Task} :
    declaration.task.children.find? key = some child ↔
      ∃ member, (key, member) ∈ declaration.outline.entries ∧ child = member.task := by
  have honce : (declaration.task.children.toList.map Prod.fst).Nodup := by
    rw [toList_children_task h, List.map_map]
    exact h.once
  rw [Table.find?_eq_lookup, lookup_eq_some_iff_mem honce, toList_children_task h, List.mem_map]
  constructor
  · rintro ⟨⟨k, member⟩, hmem, heq⟩
    cases heq
    exact ⟨member, hmem, rfl⟩
  · rintro ⟨member, hmem, rfl⟩
    exact ⟨(key, member), hmem, rfl⟩

/-- **The tasks of the book are the declared ones**: paths lead to the tasks of the declarations
that stand anywhere, and to nothing else. -/
theorem at?_iff_standsIn {declarations : List Declaration} (hwell : AreWellFormed declarations)
    {task : Task} :
    (∃ path, (Table.byName (declarations.map Declaration.task)).at? path = some task) ↔
      ∃ declaration : Declaration, declaration.StandsIn declarations ∧
        task = declaration.task := by
  have honce : ((declarations.map Declaration.task).map Task.name).Nodup := by
    rw [List.map_map]
    simpa [Function.comp_def, name_task] using hwell.once
  constructor
  · rintro ⟨path, hpath⟩
    refine Table.at?_closed (P := fun task => ∃ declaration : Declaration,
      declaration.StandsIn declarations ∧ task = declaration.task) ?_ ?_ hpath
    · rintro _ key child ⟨declaration, hstands, rfl⟩ hchild
      obtain ⟨member, hmem, rfl⟩ := (find?_children_task_iff (hwell.proper _ hstands)).1 hchild
      exact ⟨member, hstands.member (List.mem_map_of_mem hmem), rfl⟩
    · intro key top htop
      obtain ⟨declaration, hmem, rfl⟩ :=
        List.mem_map.1 ((Table.find?_byName_iff honce).1 htop).1
      exact ⟨declaration, .here hmem, rfl⟩
  · rintro ⟨declaration, hstands, rfl⟩
    refine hstands.closed (P := fun declaration => ∃ path,
      (Table.byName (declarations.map Declaration.task)).at? path = some declaration.task)
      (fun first hmem => ?_) (fun outer houter hpath member hmember => ?_)
    · have htop := (Table.find?_byName_iff honce).2 ⟨List.mem_map_of_mem hmem, rfl⟩
      exact ⟨[first.task.name], by rw [Table.at?, htop]; rfl⟩
    · obtain ⟨path, hpath⟩ := hpath
      obtain ⟨⟨key, _⟩, hmem, rfl⟩ := List.mem_map.1 hmember
      have hchild := (find?_children_task_iff (hwell.proper _ houter)).2 ⟨_, hmem, rfl⟩
      have hne : path ≠ [] := by
        rintro rfl
        cases hpath
      refine ⟨path ++ [key], ?_⟩
      rw [Table.at?_append hne, hpath, Option.bind_some, Task.below?, hchild]
      rfl

end Declaration

/-- **Construction accepts exactly the well-formed declarations and keeps them whole.** With the
keys that are spelt out distinct, the declarations make a book exactly if every level of them is
proper and the names at the top are distinct. The book then has the declared tasks at the top,
each under its own name and in the declared order; paths lead to the tasks of the declarations
that stand anywhere and to no others; and each of these tasks is proper, has the declared label,
command and default, and as children the tasks of the members in the declared order, under
their own names unless other keys were spelt out. -/
theorem Book.construction_accepts_wellFormed (declarations : List Declaration)
    (hkeys : Declaration.KeysOnce declarations) :
    ((∃ book, Book.ofDeclarations declarations = .ok book) ↔
      Declaration.AreWellFormed declarations) ∧
    ∀ book, Book.ofDeclarations declarations = .ok book →
      book.tasks.toList = declarations.map (fun declaration =>
        (declaration.label.name, declaration.task)) ∧
      (∀ entry ∈ book.tasks.toList, entry.1 = entry.2.name) ∧
      (∀ task, (∃ path, book.tasks.at? path = some task) ↔
        ∃ declaration : Declaration, declaration.StandsIn declarations ∧
          task = declaration.task) ∧
      ∀ declaration : Declaration, declaration.StandsIn declarations →
        declaration.task.outline.IsProper Task.enabled ∧
        declaration.task.outline = declaration.outline.map Declaration.task ∧
        (declaration.choosesKeys = false →
          ∀ entry ∈ declaration.task.children.toList, entry.1 = entry.2.name) := by
  constructor
  · constructor
    · rintro ⟨book, h⟩
      exact ((Book.ofDeclarations_eq_ok_iff_wellFormed hkeys).1 h).1
    · intro hwell
      exact ⟨_, (Book.ofDeclarations_eq_ok_iff_wellFormed hkeys).2 ⟨hwell, rfl⟩⟩
  · intro book h
    obtain ⟨hwell, rfl⟩ := (Book.ofDeclarations_eq_ok_iff_wellFormed hkeys).1 h
    have htop : (Table.byName (declarations.map Declaration.task)).toList
        = declarations.map fun declaration => (declaration.label.name, declaration.task) := by
      rw [Table.toList_byName, List.map_map]
      exact List.map_congr_left fun declaration _ => by simp [Declaration.name_task]
    refine ⟨htop, ?_, fun task => Declaration.at?_iff_standsIn hwell,
      fun declaration hstands => ?_⟩
    · rw [htop, List.forall_mem_map]
      exact fun declaration _ => declaration.name_task.symm
    · have hproper := hwell.proper declaration hstands
      have houtline := Declaration.outline_task hproper
      refine ⟨houtline ▸ Declaration.isProper_map_task.2 hproper, houtline, fun hnamed => ?_⟩
      rw [Declaration.toList_children_task hproper, List.forall_mem_map]
      exact fun entry hentry => (declaration.key_of_mem hnamed hentry).trans
        entry.2.name_task.symm

/-- Keys that are spelt out may be empty or hold a dot, and a default may list them; a disabled
task may stand below a group, and what stands deeper is asked the same. -/
theorem Book.oddly_keyed_group_is_accepted :
    let declarations : List Declaration :=
      [.command { name := "fmt" } "",
        .keyed { name := "gen", enabled := false } none
          [("", .command { name := "all" } "make all"),
            ("a.b", .group "docs" [.command { name := "html" } "sphinx"] (some ["html"]) none []),
            ("old", .command { name := "old", enabled := false } "make old")]
          (some ["a.b", "", "a.b"])]
    Declaration.KeysOnce declarations ∧ Declaration.AreWellFormed declarations ∧
      ∃ book, Book.ofDeclarations declarations = .ok book ∧
        book.tasks.keys = ["fmt", "gen"] ∧
        ∃ path task, book.tasks.at? path = some task ∧ task.name = "html" := by
  intro declarations
  have hkeys : Declaration.KeysOnce declarations := by
    simp only [declarations, Declaration.keysOnce_cons, Declaration.members, Declaration.outline,
      Declaration.choosesKeys, List.map_cons, List.map_nil]
    have hnil : Declaration.KeysOnce [] := fun _ h => absurd h Declaration.not_standsIn_nil
    simp [hnil]
  obtain ⟨hiff, hkept⟩ := Book.construction_accepts_wellFormed declarations hkeys
  obtain ⟨book, hbook⟩ : ∃ book, Book.ofDeclarations declarations = .ok book := ⟨_, rfl⟩
  obtain ⟨htop, -, hpaths, -⟩ := hkept book hbook
  refine ⟨hkeys, hiff.1 ⟨book, hbook⟩, book, hbook, ?_, ?_⟩
  · rw [Table.keys, htop]
    rfl
  · -- two levels down, below a key that a dotted path cannot spell
    have hstands : (Declaration.command { name := "html" } "sphinx").StandsIn declarations := by
      refine .within (List.mem_cons_of_mem _ List.mem_cons_self)
        (.within (List.mem_cons_of_mem _ List.mem_cons_self) (.here List.mem_cons_self))
    obtain ⟨path, hpath⟩ := (hpaths _).2 ⟨_, hstands, rfl⟩
    exact ⟨path, _, hpath, rfl⟩

end Taskbook
