/-
The walk through a book and the look-up of a path, one against the other.

The walk goes down the tables and puts the paths together on the way; a look-up
takes one path apart and goes down in the same tables. So an entry of the walk is a
path that can be followed, and what it holds is what is found there
(`Table.mem_entries_iff`). The walk that leaves the disabled tasks out is covered by
the same statement: it keeps the paths that are open all along.

The order is said in two pieces. No entry has a path that begins an earlier one's,
which puts a task before everything below it and every path in one place only; and
the children of a task stand in the walk in the order of their table.

Texts come in at the end. Keys without dots can be read back from a dotted path, so
as long as all keys are of this kind the dotted paths tell the entries apart as well
as the paths do.
-/
import Taskbook.Proofs.Book.Lookup

set_option autoImplicit false

namespace Taskbook

/-! ## Open paths -/

/-- Every task on the way is enabled, the one at the end of it too. -/
def Table.OpenTo (table : Table) (path : Path) : Prop :=
  ∀ first, first ≠ [] → first <+: path → ∀ task, table.at? first = some task →
    task.enabled = true

/-- Every task that is found on the way is enabled, the one at the end of it too. -/
def Book.OpenTo (book : Book) (path : Path) : Prop :=
  ∀ first, first ≠ [] → first <+: path → ∀ task, book.find first = .ok task →
    task.enabled = true

theorem Table.openTo_nil (table : Table) : table.OpenTo [] := by
  intro first hne hpre
  exact absurd (List.prefix_nil.1 hpre) hne

/-- A way is open if its first task is enabled and the rest of it is open. -/
theorem Table.openTo_cons {table : Table} {key : String} {rest : Path} {task : Task}
    (hfind : table.find? key = some task) :
    table.OpenTo (key :: rest) ↔ task.enabled = true ∧ task.children.OpenTo rest := by
  have hat : ∀ path, table.at? (key :: path) = task.below? path := fun path => by
    rw [Table.at?, hfind, Option.bind_some]
  constructor
  · intro h
    refine ⟨h [key] (by simp) (by simp) task (hat []), fun first hne hpre below hbelow => ?_⟩
    refine h (key :: first) (by simp) ((List.prefix_cons_inj key).2 hpre) below ?_
    rw [hat, task.below?_eq_at? hne, hbelow]
  · rintro ⟨henabled, hrest⟩ first hne hpre below hbelow
    obtain ⟨more, rfl⟩ : ∃ more, first = key :: more := by
      cases first with
      | nil => exact absurd rfl hne
      | cons k more => exact ⟨more, by rw [(List.cons_prefix_cons.1 hpre).1]⟩
    rw [hat] at hbelow
    -- the first task itself, or one further down the rest of the way
    cases more with
    | nil =>
      obtain rfl : task = below := by simpa [Task.below?] using hbelow
      exact henabled
    | cons next more =>
      refine hrest (next :: more) (by simp) ((List.prefix_cons_inj key).1 hpre) below ?_
      rw [← hbelow, task.below?_eq_at? (by simp)]

theorem Book.openTo_iff {book : Book} {path : Path} (hvalid : path.isValid = true) :
    book.OpenTo path ↔ book.tasks.OpenTo path := by
  constructor
  · intro h first hne hpre task hat
    exact h first hne hpre task
      (Book.find_eq_ok_iff.2 ⟨Path.isValid_of_prefix hvalid hne hpre, hat⟩)
  · intro h first hne hpre task hfind
    exact h first hne hpre task (Book.find_eq_ok_iff.1 hfind).2

/-! ## The entries of a table -/

theorem Task.entries_eq (withDisabled : Bool) (path : Path) (task : Task) :
    task.entries withDisabled path = task.children.entries withDisabled path := by
  cases task <;> rfl

/-- The first key of a table, what is below it, and the rest of the table. -/
theorem Table.entries_cons (withDisabled : Bool) (above : Path) (key : String) (task : Task)
    (rest : Table) :
    (Table.cons key task rest).entries withDisabled above
      = (if task.enabled || withDisabled then
          ⟨above ++ [key], task⟩ :: task.children.entries withDisabled (above ++ [key])
        else []) ++ rest.entries withDisabled above := by
  rw [Table.entries, Task.entries_eq]

theorem Table.mem_entries_cons {withDisabled : Bool} {above : Path} {key : String} {task : Task}
    {rest : Table} {entry : Entry} :
    entry ∈ (Table.cons key task rest).entries withDisabled above ↔
      ((withDisabled = true ∨ task.enabled = true) ∧
        (entry = ⟨above ++ [key], task⟩ ∨
          entry ∈ task.children.entries withDisabled (above ++ [key]))) ∨
      entry ∈ rest.entries withDisabled above := by
  rw [Table.entries_cons, List.mem_append]
  split
  · next h =>
    have hkept : withDisabled = true ∨ task.enabled = true := by
      rwa [Bool.or_eq_true, or_comm] at h
    rw [List.mem_cons, and_iff_right hkept]
  · next h =>
    have hout : ¬(withDisabled = true ∨ task.enabled = true) := by
      rwa [Bool.or_eq_true, or_comm] at h
    simp only [hout, List.not_mem_nil, false_and]

/-- The keys of a sound table are distinct, and the tables below are sound. -/
theorem Table.isSound_cons {key : String} {task : Task} {rest : Table}
    (h : (Table.cons key task rest).isSound = true) :
    key ∉ rest.keys ∧ task.children.isSound = true ∧ rest.isSound = true := by
  simp only [Table.isSound, Bool.and_eq_true, Bool.not_eq_true', List.contains_eq_mem,
    decide_eq_false_iff_not] at h
  exact ⟨h.1.1, Task.isSound_children h.1.2, h.2⟩

/-- The path leads to the task, and is open unless disabled tasks are shown too. -/
def Table.Shows (withDisabled : Bool) (table : Table) (path : Path) (task : Task) : Prop :=
  table.at? path = some task ∧ (withDisabled = true ∨ table.OpenTo path)

theorem Table.not_shows_nil {withDisabled : Bool} {table : Table} {task : Task} :
    ¬table.Shows withDisabled [] task := by
  rintro ⟨hat, -⟩
  cases hat

/-- From the first key of a table the way leads to its task or below it. -/
theorem Table.shows_first {withDisabled : Bool} {key : String} {task last : Task} {rest : Table}
    {path : Path} :
    (Table.cons key task rest).Shows withDisabled (key :: path) last ↔
      (withDisabled = true ∨ task.enabled = true) ∧
        (path = [] ∧ task = last ∨ task.children.Shows withDisabled path last) := by
  have hfind : (Table.cons key task rest).find? key = some task := by simp [Table.find?]
  unfold Table.Shows
  rw [Table.at?_cons, if_pos rfl, Table.openTo_cons hfind]
  cases path with
  | nil => simp [Task.below?, Table.at?, Table.openTo_nil, and_comm]
  | cons next path =>
    rw [task.below?_eq_at? (by simp)]
    simp only [reduceCtorEq, false_and, false_or]
    rw [or_and_left, and_left_comm]

/-- From any other key it leads through the rest of the table. -/
theorem Table.shows_other {withDisabled : Bool} {key k : String} {task last : Task}
    {rest : Table} {path : Path} (hk : key ≠ k) :
    (Table.cons key task rest).Shows withDisabled (k :: path) last ↔
      rest.Shows withDisabled (k :: path) last := by
  unfold Table.Shows
  rw [Table.at?_cons, if_neg hk]
  refine and_congr_right fun hat => or_congr_right ?_
  obtain ⟨first, hfirst, -⟩ := Option.bind_eq_some_iff.1 hat
  have hsame : (Table.cons key task rest).find? k = some first := by
    rw [Table.find?, if_neg hk, hfirst]
  rw [Table.openTo_cons hsame, Table.openTo_cons hfirst]

/-- **What the walk holds.** The entries are the paths that lead to a task, with
that task; without the disabled ones, those of them that are open. -/
theorem Table.mem_entries_iff {withDisabled : Bool} {entry : Entry} {table : Table}
    {above : Path} (hsound : table.isSound = true) :
    entry ∈ table.entries withDisabled above ↔
      ∃ path, entry.path = above ++ path ∧ table.Shows withDisabled path entry.task := by
  induction table using Table.induction generalizing above with
  | nil =>
    simp only [Table.entries, List.not_mem_nil, false_iff, not_exists]
    rintro path ⟨-, hat, -⟩
    cases path <;> simp [Table.at?, Table.find?] at hat
  | cons key task rest below others =>
    obtain ⟨hfresh, hbelow, hrest⟩ := Table.isSound_cons hsound
    rw [Table.mem_entries_cons, below hbelow, others hrest]
    constructor
    · rintro (⟨hkept, rfl | ⟨path, hpath, hshows⟩⟩ | ⟨path, hpath, hshows⟩)
      · exact ⟨[key], rfl, Table.shows_first.2 ⟨hkept, .inl ⟨rfl, rfl⟩⟩⟩
      · exact ⟨key :: path, by simp [hpath], Table.shows_first.2 ⟨hkept, .inr hshows⟩⟩
      · cases path with
        | nil => exact absurd hshows Table.not_shows_nil
        | cons k path =>
          -- a key of the rest of the table is not the first key again
          have hk : key ≠ k := fun h => hfresh (h ▸ Table.mem_keys_of_at? hshows.1)
          exact ⟨k :: path, hpath, (Table.shows_other hk).2 hshows⟩
    · rintro ⟨path, hpath, hshows⟩
      cases path with
      | nil => exact absurd hshows Table.not_shows_nil
      | cons k path =>
        by_cases hk : key = k
        · subst hk
          obtain ⟨hkept, ⟨rfl, hlast⟩ | hshows⟩ := Table.shows_first.1 hshows
          · refine .inl ⟨hkept, .inl ?_⟩
            rw [hlast, ← hpath]
          · exact .inl ⟨hkept, .inr ⟨path, by simp [hpath], hshows⟩⟩
        · exact .inr ⟨k :: path, hpath, (Table.shows_other hk).1 hshows⟩

/-- Leaving the disabled tasks out changes neither the order nor anything else. -/
theorem Table.entries_sublist (table : Table) (above : Path) :
    (table.entries false above).Sublist (table.entries true above) := by
  induction table using Table.induction generalizing above with
  | nil => exact List.Sublist.refl _
  | cons key task rest below others =>
    rw [Table.entries_cons, Table.entries_cons]
    refine List.Sublist.append ?_ (others above)
    rw [Bool.or_true, if_pos rfl]
    split
    · exact (below (above ++ [key])).cons_cons _
    · exact List.nil_sublist _

/-! ## The order of the entries -/

/-- No entry's path begins the path of an earlier entry. -/
theorem Table.entries_pairwise {table : Table} (hsound : table.isSound = true) (above : Path) :
    (table.entries true above).Pairwise fun earlier later => ¬later.path <+: earlier.path := by
  induction table using Table.induction generalizing above with
  | nil => exact List.Pairwise.nil
  | cons key task rest below others =>
    obtain ⟨hfresh, hbelow, hrest⟩ := Table.isSound_cons hsound
    -- whatever comes from the first key goes on from there
    have hfirst : ∀ entry ∈ task.children.entries true (above ++ [key]),
        ∃ k path, entry.path = above ++ [key] ++ k :: path := by
      intro entry hentry
      obtain ⟨path, hpath, hat, -⟩ := (Table.mem_entries_iff hbelow).1 hentry
      cases path with
      | nil => cases hat
      | cons k path => exact ⟨k, path, hpath⟩
    have hothers : ∀ entry ∈ rest.entries true above,
        ∃ k path, entry.path = above ++ k :: path ∧ key ≠ k := by
      intro entry hentry
      obtain ⟨path, hpath, hat, -⟩ := (Table.mem_entries_iff hrest).1 hentry
      cases path with
      | nil => cases hat
      | cons k path =>
        exact ⟨k, path, hpath, fun h => hfresh (h ▸ Table.mem_keys_of_at? hat)⟩
    rw [Table.entries_cons, Bool.or_true, if_pos rfl, List.pairwise_append, List.pairwise_cons]
    refine ⟨⟨fun later hlater => ?_, below hbelow _⟩, others hrest above, ?_⟩
    · -- what lies below a task has a longer path than the task
      obtain ⟨k, path, hpath⟩ := hfirst later hlater
      intro hpre
      have hlength := hpre.length_le
      rw [hpath] at hlength
      simp at hlength
    · -- between two keys of the table: the paths part right there
      intro earlier hearlier later hlater hpre
      obtain ⟨k, path, hpath, hk⟩ := hothers later hlater
      obtain ⟨more, hmore⟩ : ∃ more, earlier.path = above ++ key :: more := by
        rcases List.mem_cons.1 hearlier with rfl | hchild
        · exact ⟨[], rfl⟩
        · obtain ⟨next, more, hmore⟩ := hfirst earlier hchild
          exact ⟨next :: more, by simp [hmore]⟩
      rw [hpath, hmore, List.prefix_append_right_inj, List.cons_prefix_cons] at hpre
      exact hk hpre.1.symm

/-- What is below a key of the table stands in the walk through the table, in the
same order. -/
theorem Table.entries_children_sublist {key : String} {task : Task} : ∀ {table : Table}
    (above : Path), table.find? key = some task →
      (task.children.entries true (above ++ [key])).Sublist (table.entries true above)
  | .nil, above, hfind => by simp [Table.find?] at hfind
  | .cons k first rest, above, hfind => by
    rw [Table.entries_cons, Bool.or_true, if_pos rfl]
    rw [Table.find?] at hfind
    split at hfind
    · next hk =>
      subst hk
      cases hfind
      exact (List.sublist_cons_self _ _).trans (List.sublist_append_left _ _)
    · exact (Table.entries_children_sublist above hfind).trans (List.sublist_append_right _ _)

/-- The walk through the children of a task is part of the walk through the table
that leads to it. -/
theorem Table.entries_below_sublist {table : Table} {path : Path} {task : Task} (above : Path)
    (hat : table.at? path = some task) :
    (task.children.entries true (above ++ path)).Sublist (table.entries true above) := by
  induction path generalizing table above with
  | nil => cases hat
  | cons key path ih =>
    obtain ⟨first, hfind, hbelow⟩ := Option.bind_eq_some_iff.1 hat
    have hfirst := Table.entries_children_sublist above hfind
    cases path with
    | nil =>
      obtain rfl : first = task := by simpa [Task.below?] using hbelow
      exact hfirst
    | cons next path =>
      rw [first.below?_eq_at? (by simp)] at hbelow
      have hdeeper := ih (above ++ [key]) hbelow
      rw [List.append_assoc, List.singleton_append] at hdeeper
      exact hdeeper.trans hfirst

/-- The tasks of a table stand in the walk through it in the order of the table. -/
theorem Table.siblings_sublist (above : Path) (table : Table) :
    (table.toList.map fun child => (⟨above ++ [child.1], child.2⟩ : Entry)).Sublist
      (table.entries true above) := by
  induction table using Table.induction with
  | nil => exact List.Sublist.refl _
  | cons key task rest _ others =>
    rw [Table.entries_cons, Bool.or_true, if_pos rfl, Table.toList, List.map_cons]
    refine List.Sublist.cons_cons _ ?_
    exact others.trans (List.sublist_append_right _ _)

/-! ## Entries, look-ups and dotted paths -/

section Texts

variable {book : Book}

/-- What leads somewhere over proper names can be looked up. -/
theorem Book.find_of_at? (hkeys : book.tasks.keysPass validName = true) {path : Path}
    {task : Task} (hat : book.tasks.at? path = some task) : book.find path = .ok task := by
  refine Book.find_eq_ok_iff.2 ⟨Path.isValid_iff.2 ⟨?_, fun key hkey => ?_⟩, hat⟩
  · rintro rfl
    cases hat
  · exact (validName_iff.1 (Table.keysPass_of_at? hkeys hat key hkey)).1

/-- A path over proper names is read back from its dotted spelling. -/
theorem Book.ofDotted_dotted_of_find (hkeys : book.tasks.keysPass validName = true) {path : Path}
    {task : Task} (hfind : book.find path = .ok task) : Path.ofDotted path.dotted = path := by
  obtain ⟨hvalid, hat⟩ := Book.find_eq_ok_iff.1 hfind
  exact Path.ofDotted_dotted_of_names (Path.isValid_iff.1 hvalid).1
    (Table.keysPass_of_at? hkeys hat)

/-- The entries of a book are the paths that find a task, with that task; without
the disabled ones, those of them that are open. -/
theorem Book.mem_entries_iff (hsound : book.isSound = true)
    (hkeys : book.tasks.keysPass validName = true) {withDisabled : Bool} {entry : Entry} :
    entry ∈ book.entries withDisabled ↔
      book.find entry.path = .ok entry.task ∧
        (withDisabled = true ∨ book.OpenTo entry.path) := by
  rw [Book.entries, Table.mem_entries_iff hsound]
  constructor
  · rintro ⟨path, hpath, hat, hopen⟩
    rw [List.nil_append] at hpath
    rw [← hpath] at hat hopen
    have hfind := Book.find_of_at? hkeys hat
    exact ⟨hfind, by rwa [Book.openTo_iff (Book.find_eq_ok_iff.1 hfind).1]⟩
  · rintro ⟨hfind, hopen⟩
    obtain ⟨hvalid, hat⟩ := Book.find_eq_ok_iff.1 hfind
    exact ⟨entry.path, rfl, hat, by rwa [← Book.openTo_iff hvalid]⟩

/-- A dotted path is listed exactly if it resolves and nothing on the way to it is
disabled. -/
theorem Book.mem_paths_iff (hsound : book.isSound = true)
    (hkeys : book.tasks.keysPass validName = true) {text : String} :
    text ∈ book.paths false ↔
      (∃ resolution, book.resolve (Path.ofDotted text) = .ok resolution) ∧
        ∀ first, first ≠ [] → first <+: Path.ofDotted text → first ≠ Path.ofDotted text →
          ∀ task, book.find first = .ok task → task.enabled = true := by
  rw [Book.exists_resolve_iff, Book.paths, List.mem_map]
  constructor
  · rintro ⟨entry, hentry, rfl⟩
    obtain ⟨hmem, hinvocable⟩ := List.mem_filter.1 hentry
    obtain ⟨hfind, hall | hopen⟩ := (Book.mem_entries_iff hsound hkeys).1 hmem
    · cases hall
    · have hne : entry.path ≠ [] := (Path.isValid_iff.1 (Book.find_eq_ok_iff.1 hfind).1).1
      rw [Entry.dotted, Book.ofDotted_dotted_of_find hkeys hfind]
      exact ⟨⟨entry.task, hfind, hopen entry.path hne (List.prefix_refl _) _ hfind, hinvocable⟩,
        fun first hfirst hpre _ => hopen first hfirst hpre⟩
  · rintro ⟨⟨task, hfind, henabled, hinvocable⟩, habove⟩
    refine ⟨⟨Path.ofDotted text, task⟩, List.mem_filter.2 ⟨?_, hinvocable⟩,
      Path.dotted_ofDotted text⟩
    refine (Book.mem_entries_iff hsound hkeys).2 ⟨hfind, .inr fun first hne hpre below hbelow => ?_⟩
    by_cases hwhole : first = Path.ofDotted text
    · rw [hwhole, hfind] at hbelow
      cases hbelow
      exact henabled
    · exact habove first hne hpre hwhole below hbelow

end Texts

/-- **Walk, look-up and listing agree.** In a sound book whose keys are all proper
names, the walk with the disabled tasks holds a dotted path with a task exactly if
the path finds that task; it holds each path once, a task before what is below it,
and the children of a task in the order of their table. The walk without them is the
part of it whose paths are open. A path is listed exactly if it resolves and no task
above it is disabled. -/
theorem Book.walk_agrees_with_lookup (book : Book) (hsound : book.isSound = true)
    (hkeys : book.tasks.keysPass validName = true) :
    (∀ text task, (∃ entry ∈ book.entries true, entry.dotted = text ∧ entry.task = task) ↔
      book.find (Path.ofDotted text) = .ok task) ∧
    ((book.entries true).map Entry.dotted).Nodup ∧
    (∀ entry ∈ book.entries true, Path.ofDotted entry.dotted = entry.path) ∧
    (book.entries true).Pairwise (fun earlier later => ¬later.path <+: earlier.path) ∧
    (book.tasks.toList.map fun child => (⟨[child.1], child.2⟩ : Entry)).Sublist
      (book.entries true) ∧
    (∀ path task, book.find path = .ok task →
      (task.children.toList.map fun child => (⟨path ++ [child.1], child.2⟩ : Entry)).Sublist
        (book.entries true)) ∧
    (book.entries false).Sublist (book.entries true) ∧
    (∀ entry ∈ book.entries true, entry ∈ book.entries false ↔ book.OpenTo entry.path) ∧
    ∀ text, text ∈ book.paths false ↔
      (∃ resolution, book.resolve (Path.ofDotted text) = .ok resolution) ∧
        ∀ first, first ≠ [] → first <+: Path.ofDotted text → first ≠ Path.ofDotted text →
          ∀ task, book.find first = .ok task → task.enabled = true := by
  have hfound : ∀ entry ∈ book.entries true, book.find entry.path = .ok entry.task :=
    fun entry hentry => ((Book.mem_entries_iff hsound hkeys).1 hentry).1
  have hback : ∀ entry ∈ book.entries true, Path.ofDotted entry.dotted = entry.path :=
    fun entry hentry => Book.ofDotted_dotted_of_find hkeys (hfound entry hentry)
  have horder := Table.entries_pairwise hsound []
  refine ⟨fun text task => ⟨?_, fun hfind => ?_⟩, ?_, hback, horder,
    Table.siblings_sublist [] book.tasks, fun path task hfind => ?_,
    Table.entries_sublist book.tasks [], fun entry hentry => ?_,
    fun text => Book.mem_paths_iff hsound hkeys⟩
  · rintro ⟨entry, hentry, rfl, rfl⟩
    rw [hback entry hentry]
    exact hfound entry hentry
  · exact ⟨⟨Path.ofDotted text, task⟩, (Book.mem_entries_iff hsound hkeys).2 ⟨hfind, .inl rfl⟩,
      Path.dotted_ofDotted text, rfl⟩
  · -- equal dotted paths would be equal paths, and a path begins with itself
    rw [List.Nodup, List.pairwise_map]
    refine horder.imp_of_mem fun {earlier later} hearlier hlater hnot hsame => hnot ?_
    have hpath : earlier.path = later.path := by
      rw [← hback earlier hearlier, ← hback later hlater, hsame]
    exact hpath ▸ List.prefix_refl _
  · have hbelow := Table.entries_below_sublist [] (Book.find_eq_ok_iff.1 hfind).2
    exact (Table.siblings_sublist path task.children).trans hbelow
  · rw [Book.mem_entries_iff hsound hkeys, and_iff_right (hfound entry hentry)]
    simp

/-- A task in a disabled group resolves, but is not listed. -/
theorem Book.enabled_in_disabled_group_not_listed :
    let task : Task := .command { name := "x" } "make x"
    let book : Book := ⟨.cons "a" (.command { name := "a" } "make a")
      (.cons "old" (.group { name := "old", enabled := false } (.cons "x" task .nil) none) .nil)⟩
    book.isSound = true ∧ book.tasks.keysPass validName = true ∧
    book.find (Path.ofDotted "old.x") = .ok task ∧
    book.resolve (Path.ofDotted "old.x") = .ok (.command "make x") ∧
    "old.x" ∉ book.paths false ∧
    ∃ entry ∈ book.entries true, entry.dotted = "old.x" ∧ entry.task = task := by
  intro task book
  have hsound : book.isSound = true := by decide
  have hkeys : book.tasks.keysPass validName = true := by decide
  have hpath : Path.ofDotted "old.x" = ["old", "x"] := by decide
  obtain ⟨hmem, -, -, -, -, -, -, -, hlisted⟩ := book.walk_agrees_with_lookup hsound hkeys
  have hfind : book.find (Path.ofDotted "old.x") = .ok task := by
    rw [hpath]
    rfl
  refine ⟨hsound, hkeys, hfind, ?_, ?_, (hmem "old.x" task).2 hfind⟩
  · rw [hpath]
    rfl
  · rw [hlisted, hpath]
    intro h
    have henabled := h.2 ["old"] (by simp) (by simp) (by simp) _ rfl
    cases henabled

end Taskbook
