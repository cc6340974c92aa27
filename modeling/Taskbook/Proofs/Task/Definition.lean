/-
What a definition asks for, as equivalences.

Checking a declaration goes through four functions: one defines a single task, one
keys tasks by their names, one reads a default, and one goes over all members. For
each of them it is said here when it succeeds and with what, in one statement that
can be read in both directions. That soundness follows is another matter, and a
weaker one: these statements also say that nothing else is refused.

A table of named tasks is written `Table.byName`. Looking a key up in it is looking
for the task of that name, as long as the names are distinct. Declarations that choose no
keys of their own give nothing but such tables, at every level, and so all keys in their
book are proper names (`Book.keysPass_of_named`).
-/
import Taskbook.Proofs.Book.Lookup
import Taskbook.Proofs.InOrder

set_option autoImplicit false

namespace Taskbook

/-! ## Tables by name -/

/-- The table of the tasks, each under its own name. -/
def Table.byName (tasks : List Task) : Table :=
  .ofList (tasks.map fun task => (task.name, task))

theorem Table.byName_cons (task : Task) (rest : List Task) :
    Table.byName (task :: rest) = .cons task.name task (.byName rest) := rfl

theorem Table.keys_byName (tasks : List Task) : (Table.byName tasks).keys = tasks.map Task.name := by
  rw [Table.keys, Table.byName, Table.toList_ofList, List.map_map]
  rfl

theorem Table.toList_byName (tasks : List Task) :
    (Table.byName tasks).toList = tasks.map fun task => (task.name, task) :=
  Table.toList_ofList _

theorem Table.byName_eq_nil_iff {tasks : List Task} : Table.byName tasks = .nil ↔ tasks = [] := by
  cases tasks with
  | nil => exact iff_of_true rfl rfl
  | cons task rest => simp [Table.byName_cons]

/-- Keying succeeds exactly if no name comes twice and none has been taken before. -/
theorem Table.index_eq_ok_iff {parent : String} {taken : List String} {tasks : List Task}
    {table : Table} :
    Table.index parent taken tasks = .ok table ↔
      (tasks.map Task.name).Nodup ∧ (∀ task ∈ tasks, task.name ∉ taken) ∧
        table = .byName tasks := by
  induction tasks generalizing taken table with
  | nil =>
    rw [Table.index]
    constructor
    · intro h
      exact ⟨List.nodup_nil, by simp, (Except.ok.inj h).symm⟩
    · rintro ⟨-, -, rfl⟩
      rfl
  | cons task rest ih =>
    rw [Table.index, List.map_cons, List.nodup_cons, List.forall_mem_cons, Table.byName_cons]
    by_cases hmem : task.name ∈ taken
    · simp [hmem]
    · rw [if_neg hmem, bind_eq_ok_iff]
      constructor
      · rintro ⟨others, hothers, heq⟩
        obtain ⟨honce, hfresh, rfl⟩ := ih.1 hothers
        -- the first name is taken when the others are keyed, so none of them has it
        refine ⟨⟨?_, honce⟩, ⟨hmem, ?_⟩, (Except.ok.inj heq).symm⟩
        · intro hagain
          obtain ⟨other, hother, hname⟩ := List.mem_map.1 hagain
          exact hfresh other hother (hname ▸ List.mem_cons_self)
        · exact fun other hother htaken => hfresh other hother (List.mem_cons_of_mem _ htaken)
      · rintro ⟨⟨hnew, honce⟩, ⟨-, hfresh⟩, rfl⟩
        refine ⟨_, ih.2 ⟨honce, fun other hother htaken => ?_, rfl⟩, rfl⟩
        -- taken is the name of the first task, or a name taken before
        rcases List.mem_cons.1 htaken with hname | hbefore
        · exact hnew (hname ▸ List.mem_map_of_mem hother)
        · exact hfresh other hother hbefore

/-- Where no key comes twice, a task is found under each key that it is given. -/
theorem Table.find?_ofList_iff {entries : List (String × Task)}
    (honce : (entries.map Prod.fst).Nodup) {key : String} {task : Task} :
    (Table.ofList entries).find? key = some task ↔ (key, task) ∈ entries := by
  rw [Table.find?_eq_lookup, Table.toList_ofList, lookup_eq_some_iff_mem honce]

/-- A task is found under its own name and no other, if no name comes twice. -/
theorem Table.find?_byName_iff {tasks : List Task} (honce : (tasks.map Task.name).Nodup)
    {key : String} {task : Task} :
    (Table.byName tasks).find? key = some task ↔ task ∈ tasks ∧ task.name = key := by
  have hkeys : ((tasks.map fun task => (task.name, task)).map Prod.fst).Nodup := by
    rw [List.map_map]
    exact honce
  rw [Table.byName, Table.find?_ofList_iff hkeys, List.mem_map]
  constructor
  · rintro ⟨found, hfound, heq⟩
    cases heq
    exact ⟨hfound, rfl⟩
  · rintro ⟨hmem, rfl⟩
    exact ⟨task, hmem, rfl⟩

/-! ## One task -/

/-- A default has no fault exactly if it holds. -/
theorem Table.no_fault_iff (group : String) {children : Table} {default : Option Sequence} :
    (default.bind fun sequence => children.defaultFault? group sequence.names) = none ↔
      children.defaultHolds default = true := by
  cases default with
  | none => exact iff_of_true rfl rfl
  | some sequence =>
    rw [Option.bind_some, Table.defaultFault?, List.findSome?_eq_none_iff, Table.defaultHolds,
      List.all_eq_true]
    refine forall₂_congr fun name _ => ?_
    cases children.find? name with
    | none => simp
    | some child => simp

/-- A command needs a name, and nothing else. -/
theorem Task.define_text_eq_ok_iff {label : Label} {text : String} {children : Table}
    {default : Option Sequence} {task : Task} :
    Task.define label (some text) children default = .ok task ↔
      validName label.name = true ∧ children = .nil ∧ default = none ∧
        task = .command label text := by
  rw [Task.define, ← Table.isEmpty_eq_true_iff, ← Option.isNone_iff_eq_none]
  cases validName label.name with
  | false => simp
  | true =>
    cases children.isEmpty with
    | false => simp
    | true =>
      cases default.isNone with
      | false => simp
      | true => simp [eq_comm]

theorem Task.define_command_eq_ok_iff {label : Label} {text : String} {task : Task} :
    Task.define label (some text) .nil none = .ok task ↔
      validName label.name = true ∧ task = .command label text := by
  rw [Task.define_text_eq_ok_iff]
  simp

/-- A group needs a name, children, and a default that holds if there is one. -/
theorem Task.define_group_eq_ok_iff {label : Label} {children : Table}
    {default : Option Sequence} {task : Task} :
    Task.define label none children default = .ok task ↔
      validName label.name = true ∧ children ≠ .nil ∧ children.defaultHolds default = true ∧
        task = .group label children default := by
  rw [Task.define, ← Table.no_fault_iff label.name, Ne, ← Table.isEmpty_eq_true_iff]
  cases validName label.name with
  | false => simp
  | true =>
    cases children.isEmpty with
    | true => simp
    | false =>
      cases default.bind fun sequence => children.defaultFault? label.name sequence.names with
      | some fault => simp
      | none => simp [eq_comm]

/-- A declared default is read as the sequence of its names. -/
theorem Sequence.mapM_ofDeclared_eq_ok_iff {default : Option (List String)}
    {sequence : Option Sequence} :
    default.mapM Sequence.ofDeclared = .ok sequence ↔ sequence.map Sequence.names = default := by
  cases default with
  | none =>
    rw [Option.map_eq_none_iff]
    exact ⟨fun h => (Except.ok.inj h).symm, fun h => h ▸ rfl⟩
  | some names =>
    by_cases hnames : names = []
    · -- an empty list is refused, and a sequence is never empty
      subst hnames
      refine iff_of_false nofun ?_
      intro h
      obtain ⟨s, -, hs⟩ := Option.map_eq_some_iff.1 h
      exact s.names_ne_nil hs
    · have hread : Sequence.ofDeclared names = .ok ⟨names, hnames⟩ := by
        simp [Sequence.ofDeclared, Sequence.ofNames?, hnames]
      rw [Option.mapM_some, hread, Option.map_eq_some_iff]
      constructor
      · intro h
        exact ⟨_, (Except.ok.inj h).symm, rfl⟩
      · rintro ⟨s, rfl, rfl⟩
        rfl

/-! ## Members -/

theorem Declaration.checkAll_eq_mapM (declarations : List Declaration) :
    Declaration.checkAll declarations = declarations.mapM Declaration.check := by
  induction declarations with
  | nil => rfl
  | cons declaration rest ih =>
    rw [Declaration.checkAll, List.mapM_cons, ih]

/-- A group of named members is accepted exactly if its members are, their names are
distinct, and the whole makes a task. -/
theorem Declaration.check_group_eq_ok_iff {name : String} {members : List Declaration}
    {default : Option (List String)} {description : Option String} {tags : List String}
    {task : Task} :
    (Declaration.group name members default description tags).check = .ok task ↔
      ∃ tasks sequence, members.mapM Declaration.check = .ok tasks ∧
        (tasks.map Task.name).Nodup ∧ sequence.map Sequence.names = default ∧
        validName name = true ∧ tasks ≠ [] ∧ (Table.byName tasks).defaultHolds sequence = true ∧
        task = .group ⟨name, true, description, tags⟩ (.byName tasks) sequence := by
  rw [Declaration.check, Declaration.checkAll_eq_mapM, bind_eq_ok_iff]
  refine exists_congr fun tasks => ?_
  simp only [bind_eq_ok_iff, Table.index_eq_ok_iff, Sequence.mapM_ofDeclared_eq_ok_iff,
    Task.define_group_eq_ok_iff]
  constructor
  · rintro ⟨htasks, _, ⟨honce, -, rfl⟩, sequence, hsequence, hname, hne, hholds, rfl⟩
    exact ⟨sequence, htasks, honce, hsequence, hname, fun h => hne (Table.byName_eq_nil_iff.2 h),
      hholds, rfl⟩
  · rintro ⟨sequence, htasks, honce, hsequence, hname, hne, hholds, rfl⟩
    exact ⟨htasks, _, ⟨honce, by simp, rfl⟩, sequence, hsequence, hname,
      fun h => hne (Table.byName_eq_nil_iff.1 h), hholds, rfl⟩

/-! ## Declarations by name -/

mutual

/-- The declaration is a command or a group of named members, and so is everything in it. -/
def Declaration.isNamed : Declaration → Bool
  | .command .. => true
  | .group _ members _ _ _ => areNamed members
  | .keyed .. => false

/-- All of the declarations are made by name. -/
def Declaration.areNamed : List Declaration → Bool
  | [] => true
  | declaration :: rest => declaration.isNamed && areNamed rest

end

theorem Declaration.isNamed_of_mem {declarations : List Declaration} {declaration : Declaration}
    (h : Declaration.areNamed declarations = true) (hmem : declaration ∈ declarations) :
    declaration.isNamed = true := by
  induction declarations with
  | nil => cases hmem
  | cons first rest ih =>
    rw [Declaration.areNamed, Bool.and_eq_true] at h
    rcases List.mem_cons.1 hmem with rfl | hrest
    · exact h.1
    · exact ih h.2 hrest

/-- A table by name has proper keys throughout if its tasks have proper names and proper keys
below them. -/
theorem Table.keysPass_byName {tasks : List Task}
    (h : ∀ task ∈ tasks, validName task.name = true ∧ task.keysPass validName = true) :
    (Table.byName tasks).keysPass validName = true := by
  induction tasks with
  | nil => rfl
  | cons task rest ih =>
    obtain ⟨⟨hname, hkeys⟩, hrest⟩ := List.forall_mem_cons.1 h
    rw [Table.byName_cons, Table.keysPass, hname, hkeys, ih hrest]
    rfl

mutual

/-- A task that is declared by name has a proper name and proper keys below it. -/
theorem Declaration.keysPass_of_check : ∀ {declaration : Declaration} {task : Task},
    declaration.isNamed = true → declaration.check = .ok task →
      validName task.name = true ∧ task.keysPass validName = true
  | .command label text, task, _, h => by
    rw [Declaration.check, Task.define_command_eq_ok_iff] at h
    obtain ⟨hname, rfl⟩ := h
    exact ⟨hname, rfl⟩
  | .group name members default description tags, task, hnamed, h => by
    rw [Declaration.isNamed] at hnamed
    obtain ⟨tasks, sequence, htasks, -, -, hname, -, -, rfl⟩ :=
      Declaration.check_group_eq_ok_iff.1 h
    rw [← Declaration.checkAll_eq_mapM] at htasks
    exact ⟨hname, Table.keysPass_byName (Declaration.keysPass_of_checkAll hnamed htasks)⟩
  | .keyed .., _, hnamed, _ => by cases hnamed

/-- The same for each of several. -/
theorem Declaration.keysPass_of_checkAll : ∀ {declarations : List Declaration}
    {tasks : List Task}, Declaration.areNamed declarations = true →
      Declaration.checkAll declarations = .ok tasks →
        ∀ task ∈ tasks, validName task.name = true ∧ task.keysPass validName = true
  | [], tasks, _, h => by
    cases h
    simp
  | declaration :: rest, tasks, hnamed, h => by
    rw [Declaration.areNamed, Bool.and_eq_true] at hnamed
    rw [Declaration.checkAll, bind_eq_ok_iff] at h
    obtain ⟨first, hfirst, h⟩ := h
    obtain ⟨others, hothers, h⟩ := bind_eq_ok_iff.1 h
    cases h
    exact List.forall_mem_cons.2 ⟨Declaration.keysPass_of_check hnamed.1 hfirst,
      Declaration.keysPass_of_checkAll hnamed.2 hothers⟩

end

/-- Declarations make a book exactly if each is accepted and no name comes twice, and the book
has the tasks by name. -/
theorem Book.ofDeclarations_eq_ok_iff {declarations : List Declaration} {book : Book} :
    Book.ofDeclarations declarations = .ok book ↔
      ∃ tasks, declarations.mapM Declaration.check = .ok tasks ∧ (tasks.map Task.name).Nodup ∧
        book = ⟨.byName tasks⟩ := by
  rw [Book.ofDeclarations, Declaration.checkAll_eq_mapM, bind_eq_ok_iff]
  refine exists_congr fun tasks => and_congr_right fun _ => ?_
  simp only [bind_eq_ok_iff, Table.index_eq_ok_iff]
  constructor
  · rintro ⟨_, ⟨honce, -, rfl⟩, hbook⟩
    exact ⟨honce, (Except.ok.inj hbook).symm⟩
  · rintro ⟨honce, rfl⟩
    exact ⟨_, ⟨honce, by simp, rfl⟩, rfl⟩

/-- All keys of a book that is declared by name are proper names. -/
theorem Book.keysPass_of_named {declarations : List Declaration} {book : Book}
    (hnamed : Declaration.areNamed declarations = true)
    (h : Book.ofDeclarations declarations = .ok book) :
    book.tasks.keysPass validName = true := by
  obtain ⟨tasks, htasks, -, rfl⟩ := Book.ofDeclarations_eq_ok_iff.1 h
  rw [← Declaration.checkAll_eq_mapM] at htasks
  exact Table.keysPass_byName (Declaration.keysPass_of_checkAll hnamed htasks)

end Taskbook
