/-
Looking up a path, said without errors.

`Table.follow` keeps account of where it is, because a failed look-up has to report
it. For everything that is proved about look-ups that succeed, the account is in the
way. `Task.below?` and `Table.at?` follow a path through the tables and say nothing
else, and `Book.find_eq_ok_iff` is the one place where the two meet: a valid path
finds exactly the task that it leads to.

What holds of every task in a book is shown here too, once for all properties: it is
enough that it holds at the top and is passed on from a task to its children
(`Table.at?_closed`). Soundness is such a property, and so is any condition on the
keys at every level.
-/
import Taskbook.Book.Entries
import Taskbook.Book.Sound

set_option autoImplicit false

namespace Taskbook

/-! ## Tables from the inside out -/

mutual

/-- What holds of a task's children, if it holds of every table made of tables it
holds of. -/
theorem Task.children_closed {P : Table → Prop} (nil : P .nil)
    (cons : ∀ (key : String) (task : Task) (rest : Table), P task.children → P rest →
      P (.cons key task rest)) : ∀ task : Task, P task.children
  | .command .. => nil
  | .group _ children _ => Table.induction nil cons children

/-- Induction over a table, with the statement for the children of its first task
and for the rest of the table. -/
@[elab_as_elim] theorem Table.induction {P : Table → Prop} (nil : P .nil)
    (cons : ∀ (key : String) (task : Task) (rest : Table), P task.children → P rest →
      P (.cons key task rest)) : ∀ table : Table, P table
  | .nil => nil
  | .cons key task rest =>
    cons key task rest (Task.children_closed nil cons task) (Table.induction nil cons rest)

end

/-! ## Following a path -/

/-- The task that the keys lead to from this one. -/
def Task.below? : Task → Path → Option Task
  | task, [] => some task
  | task, key :: rest => (task.children.find? key).bind fun child => child.below? rest

/-- The task that the keys lead to from the table. -/
def Table.at? (table : Table) : Path → Option Task
  | [] => none
  | key :: rest => (table.find? key).bind fun task => task.below? rest

/-- From the task at the end of a path the way goes on below it. -/
theorem Task.below?_append (task : Task) (path rest : Path) :
    task.below? (path ++ rest) = (task.below? path).bind fun last => last.below? rest := by
  induction path generalizing task with
  | nil => rfl
  | cons key path ih =>
    rw [List.cons_append, Task.below?, Task.below?]
    cases task.children.find? key with
    | none => rfl
    | some child => exact ih child

theorem Table.at?_append {table : Table} {path : Path} (hpath : path ≠ []) (rest : Path) :
    table.at? (path ++ rest) = (table.at? path).bind fun last => last.below? rest := by
  cases path with
  | nil => exact absurd rfl hpath
  | cons key path =>
    rw [List.cons_append, Table.at?, Table.at?]
    cases table.find? key with
    | none => rfl
    | some task => exact task.below?_append path rest

theorem Task.below?_eq_at? (task : Task) {path : Path} (hpath : path ≠ []) :
    task.below? path = task.children.at? path := by
  cases path with
  | nil => exact absurd rfl hpath
  | cons key rest => rfl

/-- The first entry of a table is for its own key, the others for all others. -/
theorem Table.at?_cons (k key : String) (task : Task) (rest : Table) (path : Path) :
    (Table.cons k task rest).at? (key :: path)
      = if k = key then task.below? path else rest.at? (key :: path) := by
  rw [Table.at?, Table.find?]
  split <;> rfl

/-- A path that leads to a task begins with a key of the table. -/
theorem Table.mem_keys_of_at? {table : Table} {key : String} {rest : Path} {task : Task}
    (h : table.at? (key :: rest) = some task) : key ∈ table.keys := by
  obtain ⟨first, hfind, -⟩ := Option.bind_eq_some_iff.1 h
  exact Table.find?_isSome_iff.1 (Option.isSome_of_eq_some hfind)

/-- Following a path with an account of it leads to the same task. -/
theorem Table.follow_eq_ok_iff {reached rest : Path} {table : Table} {key : String}
    {task : Task} :
    table.follow reached key rest = .ok task ↔ table.at? (key :: rest) = some task := by
  induction rest generalizing reached table key with
  | nil =>
    rw [Table.follow, Table.at?]
    cases table.find? key <;> simp [Task.below?]
  | cons next rest ih =>
    rw [Table.follow, Table.at?]
    cases table.find? key with
    | none => simp
    | some child => exact ih

/-- A look-up succeeds exactly if the path is valid and leads to a task. -/
theorem Book.find_eq_ok_iff {book : Book} {path : Path} {task : Task} :
    book.find path = .ok task ↔ path.isValid = true ∧ book.tasks.at? path = some task := by
  unfold Book.find
  by_cases hvalid : path.isValid = true
  · rw [if_pos hvalid]
    cases path with
    | nil => simp [Table.at?]
    | cons key rest => simp [Table.follow_eq_ok_iff, hvalid]
  · simp [hvalid]

theorem Path.isValid_iff {path : Path} :
    path.isValid = true ↔ path ≠ [] ∧ ∀ segment ∈ path, segment ≠ "" := by
  simp [Path.isValid]

theorem validName_iff {name : String} :
    validName name = true ↔ name ≠ "" ∧ '.' ∉ name.toList := by
  simp [validName]

/-- A path of proper names is read back from its dotted spelling. -/
theorem Path.ofDotted_dotted_of_names {path : Path} (hpath : path ≠ [])
    (hnames : ∀ name ∈ path, validName name = true) : Path.ofDotted path.dotted = path := by
  have hvalid : path.isValid = true :=
    Path.isValid_iff.2 ⟨hpath, fun name hname => (validName_iff.1 (hnames name hname)).1⟩
  exact Path.ofDotted_dotted hvalid fun name hname => (validName_iff.1 (hnames name hname)).2

/-- A path that is valid and goes on with further keys. -/
theorem Path.isValid_append {path rest : Path} (hpath : path.isValid = true)
    (hrest : ∀ key ∈ rest, key ≠ "") : Path.isValid (path ++ rest) = true := by
  rw [Path.isValid_iff] at hpath ⊢
  refine ⟨by simp [hpath.1], fun key hkey => ?_⟩
  rcases List.mem_append.1 hkey with h | h
  · exact hpath.2 key h
  · exact hrest key h

/-- Every first part of a valid path is valid, the empty one apart. -/
theorem Path.isValid_of_prefix {first path : Path} (hpath : path.isValid = true)
    (hne : first ≠ []) (hpre : first <+: path) : first.isValid = true := by
  rw [Path.isValid_iff] at hpath ⊢
  exact ⟨hne, fun key hkey => hpath.2 key (hpre.subset hkey)⟩

/-- The children of a task that was found are found under their keys. -/
theorem Book.find_append_singleton {book : Book} {path : Path} {task child : Task}
    {key : String} (hfind : book.find path = .ok task) (hkey : key ≠ "")
    (hchild : task.children.find? key = some child) :
    book.find (path ++ [key]) = .ok child := by
  obtain ⟨hvalid, hat⟩ := Book.find_eq_ok_iff.1 hfind
  refine Book.find_eq_ok_iff.2 ⟨Path.isValid_append hvalid (by simpa using hkey), ?_⟩
  rw [Table.at?_append (Path.isValid_iff.1 hvalid).1, hat]
  simp [Task.below?, hchild]

/-! ## Resolving -/

/-- What calling a task at `path` runs, enabled or not. -/
def Task.resolution (path : Path) : Task → Except LookupError Resolution
  | .command _ text => .ok (.command text)
  | .group _ _ (some sequence) => .ok (.sequence sequence)
  | .group _ children none => .error (.noDefault path children.keys)

theorem Book.resolve_of_find {book : Book} {path : Path} {task : Task}
    (hfind : book.find path = .ok task) (henabled : task.enabled = true) :
    book.resolve path = task.resolution path := by
  rw [Book.resolve, hfind]
  simp only [bind, Except.bind, henabled, Bool.not_true, Bool.false_eq_true, if_false]
  rcases task with _ | ⟨label, children, _ | sequence⟩ <;> rfl

theorem Book.resolve_of_disabled {book : Book} {path : Path} {task : Task}
    (hfind : book.find path = .ok task) (hoff : task.enabled = false) :
    book.resolve path = .error (.disabled path) := by
  rw [Book.resolve, hfind]
  simp only [bind, Except.bind, hoff, Bool.not_false, if_true]

/-- A way that cannot be followed is not reported as disabled. -/
theorem Table.isDisabled_of_follow {reached rest : Path} {table : Table} {key : String}
    {error : LookupError} (h : table.follow reached key rest = .error error) :
    error.isDisabled = false := by
  induction rest generalizing reached table key with
  | nil =>
    rw [Table.follow] at h
    split at h <;> cases h
    rfl
  | cons next rest ih =>
    rw [Table.follow] at h
    split at h
    · exact ih h
    · cases h
      rfl

theorem Book.isDisabled_of_find {book : Book} {path : Path} {error : LookupError}
    (h : book.find path = .error error) : error.isDisabled = false := by
  unfold Book.find at h
  split at h
  · split at h
    · cases h
      rfl
    · exact Table.isDisabled_of_follow h
  · cases h
    rfl

/-- What is not found is not resolved, for the same reason. -/
theorem Book.resolve_of_find_error {book : Book} {path : Path} {error : LookupError}
    (hfind : book.find path = .error error) : book.resolve path = .error error := by
  rw [Book.resolve, hfind]
  rfl

/-- A path is reported as disabled exactly if it leads to a task that is, and with that path. -/
theorem Book.resolve_eq_disabled_iff {book : Book} {path : Path} {error : LookupError}
    (hdisabled : error.isDisabled = true) :
    book.resolve path = .error error ↔
      (∃ task, book.find path = .ok task ∧ task.enabled = false) ∧ error = .disabled path := by
  cases hfind : book.find path with
  | error own =>
    rw [Book.resolve_of_find_error hfind]
    constructor
    · intro h
      cases h
      rw [Book.isDisabled_of_find hfind] at hdisabled
      cases hdisabled
    · rintro ⟨⟨task, htask, -⟩, -⟩
      cases htask
  | ok task =>
    cases henabled : task.enabled with
    | true =>
      rw [Book.resolve_of_find hfind henabled]
      constructor
      · intro h
        rcases task with ⟨label, text⟩ | ⟨label, children, _ | sequence⟩ <;> cases h
        cases hdisabled
      · rintro ⟨⟨other, hother, hoff⟩, -⟩
        cases hother
        rw [henabled] at hoff
        cases hoff
    | false =>
      rw [Book.resolve_of_disabled hfind henabled]
      exact ⟨fun h => ⟨⟨task, rfl, henabled⟩, (Except.error.inj h).symm⟩, fun h => h.2 ▸ rfl⟩

/-- What resolves to a command is an enabled command of that text. -/
theorem Book.find_of_resolve_command {book : Book} {path : Path} {text : String}
    (h : book.resolve path = .ok (.command text)) :
    ∃ label, book.find path = .ok (.command label text) ∧ label.enabled = true := by
  obtain ⟨task, hfind, henabled⟩ := Book.find_of_resolve h
  rw [Book.resolve_of_find hfind henabled] at h
  rcases task with ⟨label, own⟩ | ⟨label, children, _ | sequence⟩
  · cases h
    exact ⟨label, hfind, henabled⟩
  · cases h
  · cases h

/-- A path resolves exactly if it leads to an enabled task that can be called. -/
theorem Book.exists_resolve_iff {book : Book} {path : Path} :
    (∃ resolution, book.resolve path = .ok resolution) ↔
      ∃ task, book.find path = .ok task ∧ task.enabled = true ∧ task.isInvocable = true := by
  constructor
  · rintro ⟨resolution, h⟩
    obtain ⟨task, hfind, henabled⟩ := Book.find_of_resolve h
    refine ⟨task, hfind, henabled, ?_⟩
    rw [Book.resolve_of_find hfind henabled] at h
    rcases task with _ | ⟨label, children, _ | sequence⟩
    · rfl
    · cases h
    · rfl
  · rintro ⟨task, hfind, henabled, hinvocable⟩
    rw [Book.resolve_of_find hfind henabled]
    rcases task with ⟨label, text⟩ | ⟨label, children, _ | sequence⟩
    · exact ⟨_, rfl⟩
    · cases hinvocable
    · exact ⟨_, rfl⟩

/-! ## What holds at every level -/

/-- What is passed on from every task to its children holds wherever a path leads,
if it holds at the top. -/
theorem Table.at?_closed {P : Task → Prop} {table : Table} {path : Path} {task : Task}
    (hchild : ∀ (task : Task) (key : String) (child : Task), P task →
      task.children.find? key = some child → P child)
    (htop : ∀ (key : String) (task : Task), table.find? key = some task → P task)
    (h : table.at? path = some task) : P task := by
  -- from the top task on, the property goes down with the path
  have below : ∀ (rest : Path) (first : Task), P first → first.below? rest = some task →
      P task := by
    intro rest
    induction rest with
    | nil =>
      intro first hfirst hbelow
      obtain rfl : first = task := by simpa [Task.below?] using hbelow
      exact hfirst
    | cons key rest ih =>
      intro first hfirst hbelow
      obtain ⟨child, hfind, hrest⟩ := Option.bind_eq_some_iff.1 hbelow
      exact ih child (hchild first key child hfirst hfind) hrest
  cases path with
  | nil => simp [Table.at?] at h
  | cons key rest =>
    obtain ⟨first, hfind, hrest⟩ := Option.bind_eq_some_iff.1 h
    exact below rest first (htop key first hfind) hrest

/-- A task of a sound table is sound. -/
theorem Table.isSound_of_find? {key : String} {task : Task} : ∀ {table : Table},
    table.isSound = true → table.find? key = some task → task.isSound = true
  | .nil, _, hfind => by simp [Table.find?] at hfind
  | .cons k first rest, hsound, hfind => by
    simp only [Table.isSound, Bool.and_eq_true] at hsound
    rw [Table.find?] at hfind
    split at hfind
    · cases hfind
      exact hsound.1.2
    · exact Table.isSound_of_find? hsound.2 hfind

theorem Task.isSound_children {task : Task} (h : task.isSound = true) :
    task.children.isSound = true := by
  cases task with
  | command label text => rfl
  | group label children default =>
    simp only [Task.isSound, Bool.and_eq_true] at h
    exact h.2

/-- A default holds exactly if an enabled child is found for each of its names. -/
theorem Table.defaultHolds_some_iff {children : Table} {sequence : Sequence} :
    children.defaultHolds (some sequence) = true ↔
      ∀ name ∈ sequence.names, ∃ child, children.find? name = some child ∧
        child.enabled = true := by
  rw [Table.defaultHolds, List.all_eq_true]
  refine forall_congr' fun name => forall_congr' fun _ => ?_
  cases children.find? name with
  | none => simp
  | some child => simp

/-- Whatever is found in a sound book is sound. -/
theorem Book.isSound_of_find {book : Book} (hsound : book.isSound = true) {path : Path}
    {task : Task} (hfind : book.find path = .ok task) : task.isSound = true :=
  Table.at?_closed (P := fun task => task.isSound = true)
    (fun _ _ _ htask hchild => Table.isSound_of_find? (Task.isSound_children htask) hchild)
    (fun _ _ htop => Table.isSound_of_find? hsound htop) (Book.find_eq_ok_iff.1 hfind).2

/-! ## Keys -/

mutual

/-- Every key below the task passes the test. -/
def Task.keysPass (test : String → Bool) : Task → Bool
  | .command .. => true
  | .group _ children _ => children.keysPass test

/-- Every key of the table and below it passes the test. -/
def Table.keysPass (test : String → Bool) : Table → Bool
  | .nil => true
  | .cons key task rest => test key && task.keysPass test && rest.keysPass test

end

variable {test : String → Bool}

theorem Task.keysPass_children (task : Task) :
    task.children.keysPass test = task.keysPass test := by
  cases task <;> rfl

/-- Keys that pass a test pass every weaker one. -/
theorem Table.keysPass_mono {weaker : String → Bool}
    (hweaker : ∀ key, test key = true → weaker key = true) {table : Table}
    (h : table.keysPass test = true) : table.keysPass weaker = true := by
  induction table using Table.induction with
  | nil => rfl
  | cons key task rest below others =>
    simp only [Table.keysPass, Bool.and_eq_true] at h ⊢
    rw [← task.keysPass_children] at h ⊢
    exact ⟨⟨hweaker key h.1.1, below h.1.2⟩, others h.2⟩

/-- Proper names are not empty. -/
theorem Table.keysPass_nonempty {table : Table} (h : table.keysPass validName = true) :
    table.keysPass (· != "") = true :=
  Table.keysPass_mono (fun _ hname => bne_iff_ne.2 (validName_iff.1 hname).1) h

/-- Keys that are found pass the test, and so do those below them. -/
theorem Table.keysPass_of_find? {key : String} {task : Task} : ∀ {table : Table},
    table.keysPass test = true → table.find? key = some task →
      test key = true ∧ task.keysPass test = true
  | .nil, _, hfind => by simp [Table.find?] at hfind
  | .cons k first rest, hkeys, hfind => by
    simp only [Table.keysPass, Bool.and_eq_true] at hkeys
    rw [Table.find?] at hfind
    split at hfind
    · next hk =>
      cases hfind
      exact ⟨hk ▸ hkeys.1.1, hkeys.1.2⟩
    · exact Table.keysPass_of_find? hkeys.2 hfind

/-- Below a task that is found the keys pass the test. -/
theorem Book.keysPass_of_find {book : Book} (hkeys : book.tasks.keysPass test = true)
    {path : Path} {task : Task} (hfind : book.find path = .ok task) :
    task.keysPass test = true :=
  Table.at?_closed (P := fun task => task.keysPass test = true)
    (fun task _ _ htask hchild =>
      (Table.keysPass_of_find? (task.keysPass_children.trans htask) hchild).2)
    (fun _ _ htop => (Table.keysPass_of_find? hkeys htop).2) (Book.find_eq_ok_iff.1 hfind).2

/-- All keys of a path that leads to a task pass the test. -/
theorem Table.keysPass_of_at? {table : Table} {path : Path} {task : Task}
    (hkeys : table.keysPass test = true) (h : table.at? path = some task) :
    ∀ key ∈ path, test key = true := by
  induction path generalizing table with
  | nil => simp
  | cons key rest ih =>
    obtain ⟨first, hfind, hrest⟩ := Option.bind_eq_some_iff.1 h
    obtain ⟨hkey, hbelow⟩ := Table.keysPass_of_find? hkeys hfind
    refine List.forall_mem_cons.2 ⟨hkey, ?_⟩
    cases rest with
    | nil => simp
    | cons next rest => exact ih (first.keysPass_children.trans hbelow) hrest

end Taskbook
