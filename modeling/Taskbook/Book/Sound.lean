/-
What every checked declaration guarantees about the task it gives.

A task is sound if its name can stand in a dotted path, a group has children, and
its default lists keys of enabled children only; and if the same holds for every
task below it, and no table has a key twice. Nothing else is asked of keys: a table
may be keyed by other texts than the names of its tasks.

The main statement is that checking gives sound tasks and nothing else
(`isSound_of_check`), so a book made of declarations is sound (`isSound_of_book`).
The proof follows a declaration from the inside out: indexing tasks by distinct
names keeps a table sound, and so does setting one key after the other.
-/
import Taskbook.Book.Basic

set_option autoImplicit false

namespace Taskbook

/-! ## The property -/

/-- A default, if there is one, lists keys of enabled children only. -/
def Table.defaultHolds (children : Table) : Option Sequence → Bool
  | none => true
  | some sequence =>
    sequence.names.all fun name =>
      match children.find? name with
      | some child => child.enabled
      | none => false

mutual

/-- The task and all tasks below it are well formed. -/
def Task.isSound : Task → Bool
  | .command label _ => validName label.name
  | .group label children default =>
    validName label.name && !children.isEmpty && children.defaultHolds default && children.isSound

/-- The keys are distinct, and all tasks in the table are sound. -/
def Table.isSound : Table → Bool
  | .nil => true
  | .cons key task rest => !rest.keys.contains key && task.isSound && rest.isSound

end

/-- The book's tasks are sound. -/
def Book.isSound (book : Book) : Bool :=
  book.tasks.isSound

/-! ## One definition -/

/-- A default without a fault holds. -/
theorem Table.defaultHolds_of_no_fault {group : String} {children : Table}
    {default : Option Sequence}
    (h : (default.bind fun s => children.defaultFault? group s.names) = none) :
    children.defaultHolds default = true := by
  cases default with
  | none => rfl
  | some sequence =>
    simp only [Option.bind_some, Table.defaultFault?, List.findSome?_eq_none_iff] at h
    simp only [Table.defaultHolds, List.all_eq_true]
    intro name hname
    have hfault := h name hname
    cases hfind : children.find? name with
    | none => simp [hfind] at hfault
    | some child =>
      simp only [hfind] at hfault
      by_cases henabled : child.enabled = true
      · simpa using henabled
      · simp [henabled] at hfault

/-- What is defined over a sound table is sound. -/
theorem Task.isSound_of_define {label : Label} {text : Option String} {children : Table}
    {default : Option Sequence} {task : Task} (hchildren : children.isSound = true)
    (h : Task.define label text children default = .ok task) : task.isSound = true := by
  unfold Task.define at h
  split at h
  · cases h
  · next hname =>
    have valid : validName label.name = true := by simpa using hname
    split at h
    · -- a command: its name is all there is to ask
      split at h
      · cases h
        simpa [Task.isSound] using valid
      · cases h
    · split at h
      · cases h
      · next hempty =>
        split at h
        · cases h
        · next hfault =>
          cases h
          have holds := Table.defaultHolds_of_no_fault hfault
          simp [Task.isSound, valid, hempty, holds, hchildren]

/-! ## Tables -/

/-- Every key of an indexed table is the name of one of the tasks, and none of the
names that were taken. -/
theorem Table.not_mem_keys_of_index {parent key : String} {taken : List String}
    {tasks : List Task} {table : Table} (h : Table.index parent taken tasks = .ok table)
    (hkey : key ∈ taken) : key ∉ table.keys := by
  induction tasks generalizing taken table with
  | nil =>
    cases h
    simp [Table.keys, Table.toList]
  | cons task rest ih =>
    unfold Table.index at h
    split at h
    · cases h
    · next hfresh =>
      cases hrest : Table.index parent (task.name :: taken) rest with
      | error e =>
        rw [hrest] at h
        cases h
      | ok others =>
        rw [hrest] at h
        cases h
        have hothers := ih hrest (List.mem_cons_of_mem _ hkey)
        have hne : key ≠ task.name := fun e => hfresh (e ▸ hkey)
        simpa [Table.keys, Table.toList, hne] using hothers

/-- Tasks indexed by their names make a sound table. -/
theorem Table.isSound_of_index {parent : String} {taken : List String} {tasks : List Task}
    {table : Table} (htasks : ∀ task ∈ tasks, task.isSound = true)
    (h : Table.index parent taken tasks = .ok table) : table.isSound = true := by
  induction tasks generalizing taken table with
  | nil =>
    cases h
    rfl
  | cons task rest ih =>
    unfold Table.index at h
    split at h
    · cases h
    · cases hrest : Table.index parent (task.name :: taken) rest with
      | error e =>
        rw [hrest] at h
        cases h
      | ok others =>
        rw [hrest] at h
        cases h
        have hothers := ih (fun t ht => htasks t (List.mem_cons_of_mem _ ht)) hrest
        have hfresh := Table.not_mem_keys_of_index hrest List.mem_cons_self
        simp [Table.isSound, htasks task List.mem_cons_self, hothers, hfresh]

/-- The keys after one is set. -/
theorem Table.mem_keys_set {key other : String} {task : Task} : ∀ {table : Table},
    other ∈ (table.set key task).keys ↔ other = key ∨ other ∈ table.keys
  | .nil => by simp [Table.set, Table.keys, Table.toList]
  | .cons k old rest => by
    have ih : other ∈ (rest.set key task).toList.map Prod.fst
        ↔ other = key ∨ other ∈ rest.toList.map Prod.fst := Table.mem_keys_set
    by_cases h : k = key
    · subst h
      simp [Table.set, Table.keys, Table.toList]
    · simp only [Table.set, if_neg h, Table.keys, Table.toList, List.map_cons, List.mem_cons, ih]
      exact or_left_comm

/-- Setting a key to a sound task keeps a table sound. -/
theorem Table.isSound_set {key : String} {task : Task} (htask : task.isSound = true) :
    ∀ {table : Table}, table.isSound = true → (table.set key task).isSound = true
  | .nil, _ => by simp [Table.set, Table.isSound, Table.keys, Table.toList, htask]
  | .cons k old rest, h => by
    simp only [Table.isSound, Bool.and_eq_true, Bool.not_eq_true', List.contains_eq_mem,
      decide_eq_false_iff_not] at h
    obtain ⟨⟨hfresh, hold⟩, hrest⟩ := h
    by_cases hk : k = key
    · subst hk
      simp [Table.set, Table.isSound, htask, hrest, hfresh]
    · have hkept : (rest.set key task).isSound = true := Table.isSound_set htask hrest
      have hnot : k ∉ (rest.set key task).keys := fun hmem =>
        (Table.mem_keys_set.1 hmem).elim hk hfresh
      simp [Table.set, hk, Table.isSound, hold, hkept, hnot]

/-- Sound tasks under given keys make a sound table. -/
theorem Table.isSound_ofEntries {entries : List (String × Task)}
    (h : ∀ entry ∈ entries, entry.2.isSound = true) :
    (Table.ofEntries entries).isSound = true := by
  have fold : ∀ (rest : List (String × Task)) (table : Table),
      (∀ entry ∈ rest, entry.2.isSound = true) → table.isSound = true →
      (rest.foldl (fun t entry => t.set entry.1 entry.2) table).isSound = true := by
    intro rest
    induction rest with
    | nil => exact fun _ _ hsound => hsound
    | cons entry others ih =>
      intro table hall hsound
      exact ih _ (fun e he => hall e (List.mem_cons_of_mem _ he))
        (Table.isSound_set (hall entry List.mem_cons_self) hsound)
  exact fold entries .nil h rfl

/-! ## Declarations -/

mutual

/-- A checked declaration gives a sound task. -/
theorem Declaration.isSound_of_check : ∀ {declaration : Declaration} {task : Task},
    declaration.check = .ok task → task.isSound = true
  | .command label text, task, h => by
    unfold Declaration.check at h
    exact Task.isSound_of_define rfl h
  | .group name members default description tags, task, h => by
    unfold Declaration.check at h
    cases htasks : Declaration.checkAll members with
    | error e =>
      rw [htasks] at h
      cases h
    | ok tasks =>
      rw [htasks] at h
      simp only [bind, Except.bind] at h
      split at h
      · cases h
      · next children hindex =>
        split at h
        · cases h
        · exact Task.isSound_of_define
            (Table.isSound_of_index (Declaration.isSound_of_checkAll htasks) hindex) h
  | .keyed label text members default, task, h => by
    unfold Declaration.check at h
    cases hentries : Declaration.checkKeyed members with
    | error e =>
      rw [hentries] at h
      cases h
    | ok entries =>
      rw [hentries] at h
      simp only [bind, Except.bind] at h
      split at h
      · cases h
      · exact Task.isSound_of_define
          (Table.isSound_ofEntries (Declaration.isSound_of_checkKeyed hentries)) h

/-- Checked declarations give sound tasks. -/
theorem Declaration.isSound_of_checkAll : ∀ {declarations : List Declaration} {tasks : List Task},
    Declaration.checkAll declarations = .ok tasks → ∀ task ∈ tasks, task.isSound = true
  | [], tasks, h => by
    cases h
    simp
  | declaration :: rest, tasks, h => by
    unfold Declaration.checkAll at h
    cases hfirst : declaration.check with
    | error e =>
      rw [hfirst] at h
      cases h
    | ok first =>
      cases hrest : Declaration.checkAll rest with
      | error e =>
        rw [hfirst, hrest] at h
        cases h
      | ok others =>
        rw [hfirst, hrest] at h
        cases h
        intro task hmem
        rcases List.mem_cons.1 hmem with rfl | hothers
        · exact Declaration.isSound_of_check hfirst
        · exact Declaration.isSound_of_checkAll hrest task hothers

/-- Checked declarations under keys give sound tasks. -/
theorem Declaration.isSound_of_checkKeyed :
    ∀ {declarations : List (String × Declaration)} {entries : List (String × Task)},
    Declaration.checkKeyed declarations = .ok entries →
      ∀ entry ∈ entries, entry.2.isSound = true
  | [], entries, h => by
    cases h
    simp
  | (key, declaration) :: rest, entries, h => by
    unfold Declaration.checkKeyed at h
    cases hfirst : declaration.check with
    | error e =>
      rw [hfirst] at h
      cases h
    | ok first =>
      cases hrest : Declaration.checkKeyed rest with
      | error e =>
        rw [hfirst, hrest] at h
        cases h
      | ok others =>
        rw [hfirst, hrest] at h
        cases h
        intro entry hmem
        rcases List.mem_cons.1 hmem with rfl | hothers
        · exact Declaration.isSound_of_check hfirst
        · exact Declaration.isSound_of_checkKeyed hrest entry hothers

end

/-- A book of declarations is sound. -/
theorem Book.isSound_of_book {declarations : List Declaration} {book : Book}
    (h : Book.ofDeclarations declarations = .ok book) : book.isSound = true := by
  unfold Book.ofDeclarations at h
  cases htasks : Declaration.checkAll declarations with
  | error e =>
    rw [htasks] at h
    cases h
  | ok tasks =>
    rw [htasks] at h
    simp only [bind, Except.bind] at h
    split at h
    · cases h
    · next table hindex =>
      cases h
      exact Table.isSound_of_index (Declaration.isSound_of_checkAll htasks) hindex

end Taskbook
