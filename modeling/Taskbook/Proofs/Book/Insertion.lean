/-
A new task leaves the others as they are.

A task is put into a table under a key that is not there, at the top or somewhere among the
children of a group, at any place in the order (`Table.Inserts`). The groups on the way down to
that place are no longer the same tasks, because they have another child now. But that is all
that is different about them, so what is compared is a task without its children
(`Task.bare`): what lies at a path is kept in this sense (`Table.Inserts.retains`), and nothing
has come up at any path but those that begin with the new one (`Table.Inserts.introduces`).

Whether a task is enabled, what calling it runs and whether it can be called at all can be read
off the bare task, and every statement about resolving, planning, running and listing follows
from this. A group's own list of children is the exception, and that is why nothing is said
about the errors that show it.
-/
import Taskbook.Proofs.Book.Walk
import Taskbook.Proofs.Plan.Expansion
import Taskbook.Proofs.Run.Request

set_option autoImplicit false

namespace Taskbook

/-! ## Tasks without their children -/

/-- The task without its children. -/
def Task.bare : Task → Task
  | command label text => .command label text
  | group label _ default => .group label .nil default

namespace Task

variable {task other : Task}

@[simp] theorem enabled_bare : task.bare.enabled = task.enabled := by
  cases task <;> rfl

@[simp] theorem isInvocable_bare : task.bare.isInvocable = task.isInvocable := by
  cases task <;> rfl

/-- What calling a task runs is said by the task itself. -/
theorem resolution_of_bare {path : Path} {value : Resolution} (h : other.bare = task.bare)
    (hvalue : task.resolution path = .ok value) : other.resolution path = .ok value := by
  rcases task with ⟨label, text⟩ | ⟨label, children, _ | sequence⟩
  · rcases other with ⟨own, mine⟩ | ⟨own, below, default⟩ <;> cases h
    exact hvalue
  · cases hvalue
  · rcases other with ⟨own, mine⟩ | ⟨own, below, default⟩ <;> cases h
    exact hvalue

end Task

/-! ## Putting a task into a table -/

/-- The second table is the first with this task put in at this path. The last key of the path
is new in its table, and the keys before it lead to that table. -/
inductive Table.Inserts (task : Task) : Path → Table → Table → Prop
  /-- In front of all entries. -/
  | here {key : String} {table : Table} (hfresh : key ∉ table.keys) :
      Inserts task [key] table (.cons key task table)
  /-- Among the children of the group in front. -/
  | within (key : String) (label : Label) (default : Option Sequence) (rest : Table) {path : Path}
      {old new : Table} (h : Inserts task path old new) :
      Inserts task (key :: path) (.cons key (.group label old default) rest)
        (.cons key (.group label new default) rest)
  /-- Somewhere behind an entry under another key. -/
  | later (other : String) (first : Task) {key : String} {path : Path} {old new : Table}
      (hne : other ≠ key) (h : Inserts task (key :: path) old new) :
      Inserts task (key :: path) (.cons other first old) (.cons other first new)

namespace Table.Inserts

variable {task : Task} {place : Path} {old new : Table}

theorem place_ne_nil (h : Inserts task place old new) : place ≠ [] := by
  cases h <;> exact List.cons_ne_nil _ _

/-- The task is at its place. -/
theorem at?_place (h : Inserts task place old new) : new.at? place = some task := by
  induction h with
  | here hfresh => rw [at?_cons, if_pos rfl, Task.below?]
  | within key label default rest h ih =>
    rw [at?_cons, if_pos rfl, Task.below?_eq_at? _ h.place_ne_nil]
    exact ih
  | later other first hne h ih => rw [at?_cons, if_neg hne, ih]

/-- There was nothing at that place before. -/
theorem at?_place_before (h : Inserts task place old new) : old.at? place = none := by
  induction h with
  | @here key table hfresh =>
    rw [at?, Option.not_isSome_iff_eq_none.1 (mt find?_isSome_iff.1 hfresh), Option.bind_none]
  | within key label default rest h ih =>
    rw [at?_cons, if_pos rfl, Task.below?_eq_at? _ h.place_ne_nil]
    exact ih
  | later other first hne h ih => rw [at?_cons, if_neg hne, ih]

/-- Wherever a path leads that does not begin with the new one, it leads to the same task as
before, the children apart. The induction goes the way to the new place, and a path can leave
that way at every table. -/
theorem at?_bare (h : Inserts task place old new) (path : Path) :
    place <+: path ∨ (new.at? path).map Task.bare = (old.at? path).map Task.bare := by
  induction h generalizing path with
  | @here key table hfresh =>
    cases path with
    | nil => exact .inr rfl
    | cons k rest =>
      by_cases hk : key = k
      · exact .inl ⟨rest, by rw [hk]; rfl⟩
      · right
        rw [at?_cons, if_neg hk]
  | within key label default rest h ih =>
    cases path with
    | nil => exact .inr rfl
    | cons k more =>
      rw [at?_cons, at?_cons]
      by_cases hk : key = k
      · subst hk
        rw [if_pos rfl, if_pos rfl]
        -- the group itself has another child; what is below it is up to its children
        cases more with
        | nil => exact .inr rfl
        | cons next more => exact (ih (next :: more)).imp_left (List.prefix_cons_inj key).2
      · right
        rw [if_neg hk, if_neg hk]
  | later other first hne h ih =>
    cases path with
    | nil => exact .inr rfl
    | cons k more =>
      rw [at?_cons, at?_cons]
      by_cases hk : other = k
      · right
        rw [if_pos hk, if_pos hk]
      · rw [if_neg hk, if_neg hk]
        exact ih (k :: more)

/-- What a path leads to is still there, with other children at most. -/
theorem retains (h : Inserts task place old new) {path : Path} {found : Task}
    (hfound : old.at? path = some found) :
    ∃ kept, new.at? path = some kept ∧ kept.bare = found.bare := by
  rcases h.at?_bare path with ⟨rest, rfl⟩ | hsame
  · rw [at?_append h.place_ne_nil, h.at?_place_before] at hfound
    cases hfound
  · rw [hfound] at hsame
    exact Option.map_eq_some_iff.1 hsame

/-- Whatever a path leads to was there before, with other children at most, unless the path
begins with the new one. -/
theorem introduces (h : Inserts task place old new) {path : Path} {found : Task}
    (hfound : new.at? path = some found) :
    place <+: path ∨ ∃ before, old.at? path = some before ∧ before.bare = found.bare := by
  refine (h.at?_bare path).imp_right fun hsame => ?_
  rw [hfound] at hsame
  exact Option.map_eq_some_iff.1 hsame.symm

/-- The keys that a table had are kept, with tasks that are enabled or not as before. -/
theorem find?_kept (h : Inserts task place old new) {key : String} {found : Task}
    (hfound : old.find? key = some found) :
    ∃ kept, new.find? key = some kept ∧ kept.enabled = found.enabled := by
  have hat : old.at? [key] = some found := by rw [at?, hfound]; rfl
  obtain ⟨kept, hkept, hbare⟩ := h.retains hat
  obtain ⟨first, hfirst, hsame⟩ := Option.bind_eq_some_iff.1 hkept
  cases hsame
  exact ⟨kept, hfirst, by rw [← Task.enabled_bare, hbare, Task.enabled_bare]⟩

/-- The only key that a table can have got is the first of the new path. -/
theorem mem_keys (h : Inserts task place old new) {key : String} (hkey : key ∈ new.keys) :
    key ∈ old.keys ∨ [key] = place := by
  obtain ⟨found, hfound⟩ := Option.isSome_iff_exists.1 (find?_isSome_iff.2 hkey)
  have hat : new.at? [key] = some found := by rw [at?, hfound]; rfl
  rcases h.introduces hat with hprefix | ⟨before, hbefore, -⟩
  · rcases List.prefix_cons_iff.1 hprefix with hnil | ⟨rest, rfl, hrest⟩
    · exact absurd hnil h.place_ne_nil
    · rw [List.prefix_nil.1 hrest]
      exact .inr rfl
  · exact .inl (mem_keys_of_at? hbefore)

/-- A default that held still does. -/
theorem defaultHolds (h : Inserts task place old new) {default : Option Sequence}
    (hholds : old.defaultHolds default = true) : new.defaultHolds default = true := by
  cases default with
  | none => rfl
  | some sequence =>
    rw [defaultHolds_some_iff] at hholds ⊢
    intro name hname
    obtain ⟨child, hchild, henabled⟩ := hholds name hname
    obtain ⟨kept, hkept, hsame⟩ := h.find?_kept hchild
    exact ⟨kept, hkept, hsame.trans henabled⟩

/-- A sound task put into a sound table leaves it sound. -/
theorem isSound (h : Inserts task place old new) (htask : task.isSound = true)
    (hold : old.isSound = true) : new.isSound = true := by
  induction h with
  | here hfresh => simp [Table.isSound, hfresh, htask, hold]
  | @within key label default rest path old new h ih =>
    simp only [Table.isSound, Task.isSound, Bool.and_eq_true] at hold ⊢
    obtain ⟨⟨hkey, ⟨⟨hname, -⟩, hholds⟩, hbelow⟩, hrest⟩ := hold
    have hsome : (!new.isEmpty) = true := by
      cases new with
      | nil => cases h
      | cons => rfl
    exact ⟨⟨hkey, ⟨⟨hname, hsome⟩, h.defaultHolds hholds⟩, ih hbelow⟩, hrest⟩
  | @later other first key path old new hne h ih =>
    obtain ⟨hfresh, -, hrest⟩ := isSound_cons hold
    simp only [Table.isSound, Bool.and_eq_true] at hold ⊢
    refine ⟨⟨?_, hold.1.2⟩, ih hrest⟩
    have hnew : other ∉ new.keys := fun hmem => (h.mem_keys hmem).elim hfresh fun heq =>
      hne (List.head_eq_of_cons_eq heq)
    simpa using hnew

end Table.Inserts

/-! ## The walk -/

/-- The entry without the children of its task. -/
def Entry.bare (entry : Entry) : Entry :=
  ⟨entry.path, entry.task.bare⟩

/-- The paths that can be called can be read off the bare entries. -/
theorem Book.paths_eq_bare (book : Book) (withDisabled : Bool) :
    book.paths withDisabled
      = (((book.entries withDisabled).map Entry.bare).filter
          fun entry => entry.task.isInvocable).map Entry.dotted := by
  rw [List.filter_map, List.map_map, Book.paths]
  congr 2
  funext entry
  exact Task.isInvocable_bare.symm

/-- The walk goes through everything it went through before, in the same order. -/
theorem Table.Inserts.entries_sublist {task : Task} {place : Path} {old new : Table}
    (h : Inserts task place old new) (withDisabled : Bool) (above : Path) :
    ((old.entries withDisabled above).map Entry.bare).Sublist
      ((new.entries withDisabled above).map Entry.bare) := by
  induction h generalizing above with
  | here hfresh =>
    rw [entries_cons, List.map_append]
    exact List.sublist_append_right _ _
  | within key label default rest h ih =>
    rw [entries_cons, entries_cons, List.map_append, List.map_append]
    refine List.Sublist.append ?_ (List.Sublist.refl _)
    -- the group is enabled or not with its new child as it is without
    change (List.map Entry.bare (if label.enabled || withDisabled then _ else _)).Sublist
      (List.map Entry.bare (if label.enabled || withDisabled then _ else _))
    split
    · exact (ih (above ++ [key])).cons_cons _
    · exact List.Sublist.refl _
  | later other first hne h ih =>
    rw [entries_cons, entries_cons, List.map_append, List.map_append]
    exact List.Sublist.append (List.Sublist.refl _) (ih above)

/-! ## Books -/

section

variable {book extended : Book} {task : Task} {place path : Path}

theorem Book.find_of_inserts (h : book.tasks.Inserts task place extended.tasks) {found : Task}
    (hfound : book.find path = .ok found) :
    ∃ kept, extended.find path = .ok kept ∧ kept.bare = found.bare := by
  obtain ⟨hvalid, hat⟩ := Book.find_eq_ok_iff.1 hfound
  obtain ⟨kept, hkept, hbare⟩ := h.retains hat
  exact ⟨kept, Book.find_eq_ok_iff.2 ⟨hvalid, hkept⟩, hbare⟩

/-- What calling a task runs is not changed. -/
theorem Book.resolve_of_inserts (h : book.tasks.Inserts task place extended.tasks)
    {value : Resolution} (hvalue : book.resolve path = .ok value) :
    extended.resolve path = .ok value := by
  obtain ⟨found, hfound, henabled⟩ := Book.find_of_resolve hvalue
  obtain ⟨kept, hkept, hbare⟩ := Book.find_of_inserts h hfound
  have hon : kept.enabled = true := by
    rw [← Task.enabled_bare, hbare, Task.enabled_bare, henabled]
  rw [Book.resolve_of_find hfound henabled] at hvalue
  rw [Book.resolve_of_find hkept hon]
  exact Task.resolution_of_bare hbare hvalue

/-- What is disabled stays disabled. -/
theorem Book.disabled_of_inserts (h : book.tasks.Inserts task place extended.tasks)
    {error : LookupError} (hdisabled : error.isDisabled = true)
    (herror : book.resolve path = .error error) : extended.resolve path = .error error := by
  obtain ⟨⟨found, hfound, hoff⟩, rfl⟩ := (Book.resolve_eq_disabled_iff hdisabled).1 herror
  obtain ⟨kept, hkept, hbare⟩ := Book.find_of_inserts h hfound
  refine Book.resolve_of_disabled hkept ?_
  rw [← Task.enabled_bare, hbare, Task.enabled_bare, hoff]

/-- What resolves now but did not before lies at the new place or below it. -/
theorem Book.prefix_of_resolve (h : book.tasks.Inserts task place extended.tasks)
    (hnow : ∃ value, extended.resolve path = .ok value)
    (hbefore : ¬∃ value, book.resolve path = .ok value) : place <+: path := by
  obtain ⟨found, hfound, henabled, hinvocable⟩ := Book.exists_resolve_iff.1 hnow
  obtain ⟨hvalid, hat⟩ := Book.find_eq_ok_iff.1 hfound
  rcases h.introduces hat with hprefix | ⟨before, hthere, hbare⟩
  · exact hprefix
  · refine absurd (Book.exists_resolve_iff.2 ⟨before, Book.find_eq_ok_iff.2 ⟨hvalid, hthere⟩,
      ?_, ?_⟩) hbefore
    · rw [← Task.enabled_bare, hbare, Task.enabled_bare, henabled]
    · rw [← Task.isInvocable_bare, hbare, Task.isInvocable_bare, hinvocable]

/-- A path keeps its plan. The induction is the construction of the old plan, whose every path
resolves to the same as before. -/
theorem Book.plan_of_inserts (h : book.tasks.Inserts task place extended.tasks) (path : Path) :
    ∀ plan, book.plan path = .ok plan → extended.plan path = .ok plan := by
  induction path using Book.plan.induct book with
  | case1 path error hresolve =>
    intro plan hplan
    rw [Book.plan_of_error hresolve] at hplan
    cases hplan
  | case2 path text hresolve =>
    intro plan hplan
    rw [Book.plan_of_command hresolve] at hplan
    rw [Book.plan_of_command (Book.resolve_of_inserts h hresolve), hplan]
  | case3 path sequence hresolve below =>
    intro plan hplan
    rw [Book.plan_of_sequence hresolve, bind_eq_ok_iff] at hplan
    rw [Book.plan_of_sequence (Book.resolve_of_inserts h hresolve), bind_eq_ok_iff]
    obtain ⟨plans, hplans, hserial⟩ := hplan
    refine ⟨plans, ?_, hserial⟩
    rw [mapM_eq_ok_iff] at hplans ⊢
    exact hplans.imp fun name part => below name part

/-- A request for paths that had plans is run as before. -/
theorem Book.execute_of_inserts (h : book.tasks.Inserts task place extended.tasks) {σ : Type}
    (conditions : Conditions σ) {paths : List Path}
    (hplans : ∀ path ∈ paths, ∃ plan, book.plan path = .ok plan) (memory : σ) :
    extended.execute conditions paths memory = book.execute conditions paths memory := by
  have hsame : paths.mapM extended.plan = paths.mapM book.plan := by
    refine mapM_congr_of_mem fun path hpath => ?_
    obtain ⟨plan, hplan⟩ := hplans path hpath
    rw [hplan, Book.plan_of_inserts h path plan hplan]
  rw [Book.execute, Book.execute, Book.plans, Book.plans, hsame]

/-- Every path that could be called is listed as before, and in the same order. -/
theorem Book.paths_of_inserts (h : book.tasks.Inserts task place extended.tasks)
    (withDisabled : Bool) :
    (book.paths withDisabled).Sublist (extended.paths withDisabled) := by
  rw [Book.paths_eq_bare, Book.paths_eq_bare]
  exact ((h.entries_sublist withDisabled []).filter _).map _

end

/-- **A new task changes no other.** Let a task be put into a book under a key that its table
does not have, at the top or below any group, and at any place in the order. Then it is found
at its own path, where there was nothing, and a sound task leaves a sound book sound. Whatever
resolved resolves to the same, whatever had a plan has the same, so that a request for such
paths is run in the same way whatever the conditions are, and whatever was disabled is reported
as before. What resolves only now lies at the new path or below it, and the paths that were
listed are listed in the same order. -/
theorem Book.new_task_changes_no_other {book extended : Book} {task : Task} {place : Path}
    (h : book.tasks.Inserts task place extended.tasks) :
    (book.tasks.at? place = none ∧ extended.tasks.at? place = some task) ∧
    (task.isSound = true → book.isSound = true → extended.isSound = true) ∧
    (∀ path value, book.resolve path = .ok value → extended.resolve path = .ok value) ∧
    (∀ path plan, book.plan path = .ok plan → extended.plan path = .ok plan) ∧
    (∀ (σ : Type) (conditions : Conditions σ) (paths : List Path) (memory : σ),
      (∀ path ∈ paths, ∃ plan, book.plan path = .ok plan) →
      extended.execute conditions paths memory = book.execute conditions paths memory) ∧
    (∀ path error, book.resolve path = .error error → error.isDisabled = true →
      extended.resolve path = .error error) ∧
    (∀ path, (∃ value, extended.resolve path = .ok value) →
      (¬∃ value, book.resolve path = .ok value) → place <+: path) ∧
    ∀ withDisabled, (book.paths withDisabled).Sublist (extended.paths withDisabled) :=
  ⟨⟨h.at?_place_before, h.at?_place⟩,
    h.isSound,
    fun _ _ hvalue => Book.resolve_of_inserts h hvalue,
    fun path => Book.plan_of_inserts h path,
    fun _ conditions _ memory hplans => Book.execute_of_inserts h conditions hplans memory,
    fun _ _ herror hdisabled => Book.disabled_of_inserts h hdisabled herror,
    fun _ hnow hbefore => Book.prefix_of_resolve h hnow hbefore,
    fun withDisabled => Book.paths_of_inserts h withDisabled⟩

/-- The types of a token are put before those of the hub, two groups deep. The release still
runs what it ran, through both groups. -/
theorem Book.token_before_hub :
    let hub : Task := .command { name := "hub" } "json2ts hub"
    let token : Task := .command { name := "token" } "json2ts token"
    let create : Task := .command { name := "create" } "bash build_schema.sh"
    let book (types : List (String × Task)) : Book :=
      ⟨.ofList [("release", .group { name := "release" }
        (.ofList [("create", create),
          ("types", .group { name := "types" } (.ofList types) (Sequence.ofNames? ["hub"]))])
        (Sequence.ofNames? ["create", "types"]))]⟩
    (book [("hub", hub)]).tasks.Inserts token ["release", "types", "token"]
      (book [("token", token), ("hub", hub)]).tasks ∧
    ∃ plan, (book [("hub", hub)]).plan ["release"] = .ok plan ∧
      (book [("token", token), ("hub", hub)]).plan ["release"] = .ok plan ∧
      plan.leaves
        = [⟨"release.create", "bash build_schema.sh"⟩, ⟨"release.types.hub", "json2ts hub"⟩] := by
  intro hub token create book
  have hinserts : (book [("hub", hub)]).tasks.Inserts token ["release", "types", "token"]
      (book [("token", token), ("hub", hub)]).tasks :=
    .within _ _ _ _ (.later _ _ (by decide) (.within _ _ _ _ (.here (by decide))))
  have hplan : (book [("hub", hub)]).plan ["release"] = .ok (.serial "release"
      [.command "release.create" "bash build_schema.sh",
        .serial "release.types" [.command "release.types.hub" "json2ts hub"]]) :=
    (Book.plan_eq_expand (by decide) (by decide) rfl rfl).trans rfl
  obtain ⟨-, -, -, hplans, -⟩ := Book.new_task_changes_no_other hinserts
  exact ⟨hinserts, _, hplan, hplans _ _ hplan, rfl⟩

end Taskbook
