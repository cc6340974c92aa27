/-
The plan of a path, read off the tree.

`Book.plan` looks every longer path up from the top of the book again. The tree
could be expanded where it stands: a command is its own plan, and a group is the
series of its default's plans. `Task.expand` does that and looks nothing up, and
`Task.deadEnds` lists the groups without a default that the expansion meets, from
left to right. This file proves that the two ways agree: the plan of a path that
resolves is the expansion, and the only thing that can go wrong is the first dead
end.

A default lists keys of enabled children, at every level, because that is checked
when the group is made. So going from a group to a child of its default never leads
to a disabled task, and the look-up of the longer path finds that very child. That
step, taken down to any depth, is `Book.default_induction`; everything else is one
application of it.
-/
import Taskbook.Plan.OfBook
import Taskbook.Proofs.Book.Lookup
import Taskbook.Proofs.InOrder

set_option autoImplicit false

namespace Taskbook

/-! ## Expanding the tree -/

mutual

/-- The plan of a task that stands at `path`: for a command that command, for a group
the plans of its default's children in the default's order, each named by the segments of its
path with dots between them. A group without a default has none. -/
def Task.expand (path : Path) : Task → Except LookupError Plan
  | .command _ text => .ok (.command (Text.join "." path) text)
  | .group _ children none => .error (.noDefault path children.keys)
  | .group _ children (some sequence) => do
    let plans ← sequence.names.mapM fun name => children.expandAt path name
    return .serial (Text.join "." path) plans

/-- The plan of the child under `name`. -/
def Table.expandAt (path : Path) (name : String) : Table → Except LookupError Plan
  | .nil => .error (.missing path name [] [])
  | .cons key task rest =>
    if key = name then task.expand (path ++ [key]) else rest.expandAt path name

end

mutual

/-- The groups without a default that the expansion of a task meets, from left to
right, each with the children to choose from. -/
def Task.deadEnds (path : Path) : Task → List (Path × List String)
  | .command .. => []
  | .group _ children none => [(path, children.keys)]
  | .group _ children (some sequence) =>
    sequence.names.flatMap fun name => children.deadEndsAt path name

/-- The same for the child under `name`. -/
def Table.deadEndsAt (path : Path) (name : String) : Table → List (Path × List String)
  | .nil => []
  | .cons key task rest =>
    if key = name then task.deadEnds (path ++ [key]) else rest.deadEndsAt path name

end

theorem Table.expandAt_of_find? {path : Path} {name : String} {task : Task} :
    ∀ {table : Table}, table.find? name = some task →
      table.expandAt path name = task.expand (path ++ [name])
  | .nil, hfind => by simp [Table.find?] at hfind
  | .cons key first rest, hfind => by
    rw [Table.find?] at hfind
    rw [Table.expandAt]
    split at hfind
    · next hkey =>
      rw [if_pos hkey, hkey, Option.some.inj hfind]
    · next hkey =>
      rw [if_neg hkey, Table.expandAt_of_find? hfind]

theorem Table.deadEndsAt_of_find? {path : Path} {name : String} {task : Task} :
    ∀ {table : Table}, table.find? name = some task →
      table.deadEndsAt path name = task.deadEnds (path ++ [name])
  | .nil, hfind => by simp [Table.find?] at hfind
  | .cons key first rest, hfind => by
    rw [Table.find?] at hfind
    rw [Table.deadEndsAt]
    split at hfind
    · next hkey =>
      rw [if_pos hkey, hkey, Option.some.inj hfind]
    · next hkey =>
      rw [if_neg hkey, Table.deadEndsAt_of_find? hfind]

/-! ## Going down by defaults -/

variable {book : Book}

/-- **Induction along defaults.** What holds of the commands, of the groups without a
default, and of every other group if it holds of the children in its default, holds of
every enabled task of a sound book, provided that no key is empty. The induction is on the
depth of the task; every child named in a default is enabled and is found under the longer
path. -/
theorem Book.default_induction {P : Path → Task → Prop} (hsound : book.isSound = true)
    (hkeys : book.tasks.keysPass (· != "") = true)
    (command : ∀ (path : Path) (label : Label) (text : String),
      book.find path = .ok (.command label text) → label.enabled = true →
        P path (.command label text))
    (stuck : ∀ (path : Path) (label : Label) (children : Table),
      book.find path = .ok (.group label children none) → label.enabled = true →
        P path (.group label children none))
    (group : ∀ (path : Path) (label : Label) (children : Table) (sequence : Sequence),
      book.find path = .ok (.group label children (some sequence)) → label.enabled = true →
        (∀ name ∈ sequence.names, ∃ child, children.find? name = some child ∧
          P (path ++ [name]) child) →
        P path (.group label children (some sequence)))
    {path : Path} {task : Task} (hfind : book.find path = .ok task)
    (henabled : task.enabled = true) : P path task := by
  -- on the depth of the task, not on the task: its children come from a look-up
  induction hdepth : task.depth using Nat.strongRecOn generalizing path task with
  | ind depth ih =>
    rcases task with ⟨label, text⟩ | ⟨label, children, _ | sequence⟩
    · exact command path label text hfind henabled
    · exact stuck path label children hfind henabled
    · refine group path label children sequence hfind henabled fun name hname => ?_
      have hgroup := Book.isSound_of_find hsound hfind
      simp only [Task.isSound, Bool.and_eq_true] at hgroup
      obtain ⟨child, hchild, hon⟩ := Table.defaultHolds_some_iff.1 hgroup.1.2 name hname
      -- the child stands under its whole path, and less deep a table lies below it
      have hkey := (Table.keysPass_of_find? (Book.keysPass_of_find hkeys hfind) hchild).1
      have hlonger := Book.find_append_singleton hfind (by simpa using hkey) hchild
      have hless : child.depth < depth := by
        rw [← hdepth, Task.depth]
        exact Table.depth_lt_of_find? hchild
      exact ⟨child, hchild, ih child.depth hless hlonger hon rfl⟩

/-! ## The plan is the expansion -/

theorem Book.plan_of_error {path : Path} {error : LookupError}
    (h : book.resolve path = .error error) : book.plan path = .error error := by
  rw [Book.plan]
  split <;> simp_all

theorem Book.plan_of_command {path : Path} {text : String}
    (h : book.resolve path = .ok (.command text)) :
    book.plan path = .ok (.command path.dotted text) := by
  rw [Book.plan]
  split <;> simp_all

theorem Book.plan_of_sequence {path : Path} {sequence : Sequence}
    (h : book.resolve path = .ok (.sequence sequence)) :
    book.plan path = do
      let plans ← sequence.names.mapM fun name => book.plan (path ++ [name])
      return .serial path.dotted plans := by
  rw [Book.plan]
  split <;> simp_all

/-- A path is planned by way of what it resolves to. -/
theorem Book.exists_resolve_of_plan {path : Path} {plan : Plan} (h : book.plan path = .ok plan) :
    ∃ resolution, book.resolve path = .ok resolution := by
  cases hresolve : book.resolve path with
  | ok resolution => exact ⟨resolution, rfl⟩
  | error error =>
    rw [Book.plan_of_error hresolve] at h
    cases h

/-- **The plan is the expansion** of the task that the path leads to. -/
theorem Book.plan_eq_expand (hsound : book.isSound = true)
    (hkeys : book.tasks.keysPass (· != "") = true) {path : Path} {task : Task}
    (hfind : book.find path = .ok task) (henabled : task.enabled = true) :
    book.plan path = task.expand path := by
  refine Book.default_induction (P := fun path task => book.plan path = task.expand path)
    hsound hkeys ?command ?stuck ?group hfind henabled
  case command =>
    intro path label text hfind henabled
    exact Book.plan_of_command (Book.resolve_of_find hfind henabled)
  case stuck =>
    intro path label children hfind henabled
    exact Book.plan_of_error (Book.resolve_of_find hfind henabled)
  case group =>
    intro path label children sequence hfind henabled below
    have hchildren : (sequence.names.mapM fun name => book.plan (path ++ [name]))
        = sequence.names.mapM fun name => children.expandAt path name := by
      refine mapM_congr_of_mem fun name hname => ?_
      obtain ⟨child, hchild, hplan⟩ := below name hname
      rw [hplan, Table.expandAt_of_find? hchild]
    rw [Book.plan_of_sequence (Book.resolve_of_find hfind henabled), hchildren, Task.expand]
    rfl

/-! ## Dead ends -/

/-- A result is what a list of dead ends says: there is one if the list is empty, and
otherwise the first dead end is the error. -/
def EndsAtFirst {α : Type} (result : Except LookupError α) (ends : List (Path × List String)) :
    Prop :=
  match ends with
  | [] => ∃ value, result = .ok value
  | stop :: _ => result = .error (.noDefault stop.1 stop.2)

theorem EndsAtFirst.exists_ok_iff {α : Type} {result : Except LookupError α}
    {ends : List (Path × List String)} (h : EndsAtFirst result ends) :
    (∃ value, result = .ok value) ↔ ends = [] := by
  cases ends with
  | nil => exact iff_of_true h rfl
  | cons stop more =>
    replace h : result = .error (.noDefault stop.1 stop.2) := h
    simp [h]

theorem EndsAtFirst.exists_of_error {α : Type} {result : Except LookupError α}
    {ends : List (Path × List String)} (h : EndsAtFirst result ends) {error : LookupError}
    (herror : result = .error error) :
    ∃ stop more, ends = stop :: more ∧ error = .noDefault stop.1 stop.2 := by
  cases ends with
  | nil =>
    obtain ⟨value, hvalue⟩ := h
    rw [hvalue] at herror
    cases herror
  | cons stop more =>
    rw [herror] at h
    exact ⟨stop, more, rfl, Except.error.inj h⟩

/-- One after the other, the dead ends of the first come first. -/
theorem mapM_endsAtFirst {α β : Type} {f : α → Except LookupError β}
    {ends : α → List (Path × List String)} {items : List α}
    (h : ∀ item ∈ items, EndsAtFirst (f item) (ends item)) :
    EndsAtFirst (items.mapM f) (items.flatMap ends) := by
  induction items with
  | nil => exact ⟨[], rfl⟩
  | cons item rest ih =>
    have hitem := h item List.mem_cons_self
    have hrest := ih fun other hother => h other (List.mem_cons_of_mem _ hother)
    rw [List.flatMap_cons]
    cases hends : ends item with
    | cons stop more =>
      -- the first dead end is here, whatever the rest of the list holds
      rw [hends] at hitem
      exact mapM_cons_of_error rest hitem
    | nil =>
      rw [hends] at hitem
      obtain ⟨value, hvalue⟩ := hitem
      rw [mapM_cons_of_ok rest hvalue, List.nil_append]
      cases hmore : rest.flatMap ends with
      | cons stop more =>
        rw [hmore] at hrest
        exact congrArg (Except.map (value :: ·)) hrest
      | nil =>
        rw [hmore] at hrest
        obtain ⟨values, hvalues⟩ := hrest
        exact ⟨value :: values, by rw [hvalues]; rfl⟩

/-- The expansion fails exactly if there is a dead end, and with the first one. -/
theorem Book.expand_endsAtFirst (hsound : book.isSound = true)
    (hkeys : book.tasks.keysPass (· != "") = true) {path : Path} {task : Task}
    (hfind : book.find path = .ok task) (henabled : task.enabled = true) :
    EndsAtFirst (task.expand path) (task.deadEnds path) := by
  refine Book.default_induction
    (P := fun path task => EndsAtFirst (task.expand path) (task.deadEnds path))
    hsound hkeys ?command ?stuck ?group hfind henabled
  case command => exact fun path label text _ _ => ⟨_, rfl⟩
  case stuck => exact fun path label children _ _ => rfl
  case group =>
    intro path label children sequence _ _ below
    have hall : EndsAtFirst (sequence.names.mapM fun name => children.expandAt path name)
        (sequence.names.flatMap fun name => children.deadEndsAt path name) := by
      refine mapM_endsAtFirst fun name hname => ?_
      obtain ⟨child, hchild, hends⟩ := below name hname
      rwa [Table.expandAt_of_find? hchild, Table.deadEndsAt_of_find? hchild]
    rw [Task.expand, Task.deadEnds]
    -- putting the plans into a series neither adds a dead end nor takes one away
    cases hends : sequence.names.flatMap fun name => children.deadEndsAt path name with
    | nil =>
      rw [hends] at hall
      obtain ⟨plans, hplans⟩ := hall
      exact ⟨.serial (Text.join "." path) plans, by rw [hplans]; rfl⟩
    | cons stop more =>
      rw [hends] at hall
      exact congrArg (· >>= fun plans => pure (Plan.serial (Text.join "." path) plans)) hall

/-- Every dead end is an enabled group of the book that has no default. -/
theorem Book.find_of_mem_deadEnds (hsound : book.isSound = true)
    (hkeys : book.tasks.keysPass (· != "") = true) {path : Path} {task : Task}
    (hfind : book.find path = .ok task) (henabled : task.enabled = true) :
    ∀ stop ∈ task.deadEnds path, ∃ label children,
      book.find stop.1 = .ok (.group label children none) ∧ label.enabled = true ∧
        stop.2 = children.keys := by
  refine Book.default_induction
    (P := fun path task => ∀ stop ∈ task.deadEnds path, ∃ label children,
      book.find stop.1 = .ok (.group label children none) ∧ label.enabled = true ∧
        stop.2 = children.keys)
    hsound hkeys ?command ?stuck ?group hfind henabled
  case command =>
    intro path label text _ _ stop hstop
    simp [Task.deadEnds] at hstop
  case stuck =>
    intro path label children hfind henabled stop hstop
    rw [Task.deadEnds, List.mem_singleton] at hstop
    rw [hstop]
    exact ⟨label, children, hfind, henabled, rfl⟩
  case group =>
    intro path label children sequence _ _ below stop hstop
    rw [Task.deadEnds, List.mem_flatMap] at hstop
    obtain ⟨name, hname, hmem⟩ := hstop
    obtain ⟨child, hchild, hbelow⟩ := below name hname
    rw [Table.deadEndsAt_of_find? hchild] at hmem
    exact hbelow stop hmem

/-! ## The commands of a plan -/

theorem Plan.mem_leavesOf_iff {leaf : Leaf} {plans : List Plan} :
    leaf ∈ Plan.leavesOf plans ↔ ∃ plan ∈ plans, leaf ∈ plan.leaves := by
  induction plans with
  | nil => simp [Plan.leavesOf]
  | cons plan rest ih => simp [Plan.leavesOf, ih]

/-- The command stands in the book, enabled, under the path that it is named after. -/
def Leaf.IsTaskOf (leaf : Leaf) (book : Book) : Prop :=
  ∃ path label, leaf.name = Text.join "." path ∧
    book.find path = .ok (.command label leaf.text) ∧ label.enabled = true

/-- Every command of an expansion is an enabled command of the book. -/
theorem Book.leaves_of_expand (hsound : book.isSound = true)
    (hkeys : book.tasks.keysPass (· != "") = true) {path : Path} {task : Task}
    (hfind : book.find path = .ok task) (henabled : task.enabled = true) {plan : Plan}
    (hplan : task.expand path = .ok plan) : ∀ leaf ∈ plan.leaves, leaf.IsTaskOf book := by
  revert plan
  refine Book.default_induction
    (P := fun path task => ∀ {plan : Plan}, task.expand path = .ok plan →
      ∀ leaf ∈ plan.leaves, leaf.IsTaskOf book)
    hsound hkeys ?command ?stuck ?group hfind henabled
  case command =>
    intro path label text hfind henabled plan hplan leaf hleaf
    rw [Task.expand] at hplan
    obtain rfl := Except.ok.inj hplan
    obtain rfl := List.mem_singleton.1 hleaf
    exact ⟨path, label, rfl, hfind, henabled⟩
  case stuck =>
    intro path label children _ _ plan hplan
    cases hplan
  case group =>
    intro path label children sequence _ _ below plan hplan leaf hleaf
    rw [Task.expand, bind_eq_ok_iff] at hplan
    obtain ⟨plans, hplans, hserial⟩ := hplan
    obtain rfl := Except.ok.inj hserial
    obtain ⟨first, hmem, hfirst⟩ := Plan.mem_leavesOf_iff.1 hleaf
    obtain ⟨name, hname, hexpand⟩ := item_of_mapM_ok hplans hmem
    obtain ⟨child, hchild, hbelow⟩ := below name hname
    rw [Table.expandAt_of_find? hchild] at hexpand
    exact hbelow hexpand leaf hfirst

/-! ## What planning a path gives -/

/-- **Planning a path is expanding the tree.** In a sound book without empty keys a path
that does not resolve has no plan, for the same reason. A path that does leads to a
task, and its plan is the expansion of that task: there is one exactly if the expansion
meets no dead end, and then each of its commands is an enabled command of the book.
Otherwise the first dead end from the left is what is reported, as a group without a
default and never as a disabled task. -/
theorem Book.plan_is_expansion (hsound : book.isSound = true)
    (hkeys : book.tasks.keysPass (· != "") = true) (path : Path) :
    (∀ error, book.resolve path = .error error → book.plan path = .error error) ∧
    ∀ resolution, book.resolve path = .ok resolution →
      ∃ task, book.find path = .ok task ∧
        book.plan path = task.expand path ∧
        ((∃ plan, book.plan path = .ok plan) ↔ task.deadEnds path = []) ∧
        (∀ plan, book.plan path = .ok plan → ∀ leaf ∈ plan.leaves, leaf.IsTaskOf book) ∧
        ∀ error, book.plan path = .error error →
          ∃ stop label children more,
            task.deadEnds path = (stop, children.keys) :: more ∧
            book.find stop = .ok (.group label children none) ∧ label.enabled = true ∧
            error = .noDefault stop children.keys ∧ error.path = stop ∧
            error.isDisabled = false := by
  refine ⟨fun error => Book.plan_of_error, fun resolution hresolve => ?_⟩
  obtain ⟨task, hfind, henabled⟩ := Book.find_of_resolve hresolve
  have hplan := Book.plan_eq_expand hsound hkeys hfind henabled
  have hends := Book.expand_endsAtFirst hsound hkeys hfind henabled
  have hstops := Book.find_of_mem_deadEnds hsound hkeys hfind henabled
  refine ⟨task, hfind, hplan, ?_, ?_, ?_⟩
  · rw [hplan]
    exact hends.exists_ok_iff
  · rw [hplan]
    exact fun plan => Book.leaves_of_expand hsound hkeys hfind henabled
  · intro error herror
    rw [hplan] at herror
    obtain ⟨⟨stop, choices⟩, more, hmore, rfl⟩ := hends.exists_of_error herror
    have hmem : (stop, choices) ∈ task.deadEnds path := hmore ▸ List.mem_cons_self
    obtain ⟨label, children, hgroup, hon, hchoices⟩ := hstops _ hmem
    obtain rfl : choices = children.keys := hchoices
    exact ⟨stop, label, children, more, hmore, hgroup, hon, rfl, rfl, rfl⟩

/-- A release that tests twice and documents in between. The manual has no default, so
the release has no plan either; the documentation's other part is never reached. -/
def releaseBook : Book :=
  let manual : Task :=
    .group { name := "manual" } (.ofList [("a4", .command { name := "a4" } "pdf a4")]) none
  let docs : Task := .group { name := "docs" }
    (.ofList [("html", .command { name := "html" } "sphinx"), ("manual", manual)])
    (Sequence.ofNames? ["html", "manual", "html"])
  ⟨.ofList [("release", .group { name := "release" }
    (.ofList [("test", .command { name := "test" } "pytest"), ("docs", docs)])
    (Sequence.ofNames? ["test", "docs", "test"]))]⟩

/-- The release is planned down to its dead end, which is what is reported. With a default for the
manual it is planned through, and every part of it is named after its path. -/
theorem Book.manual_without_default_is_reported :
    let manual : Task := .group { name := "manual" }
      (.ofList [("a4", .command { name := "a4" } "pdf a4")]) (Sequence.ofNames? ["a4"])
    let docs : Task := .group { name := "docs" }
      (.ofList [("html", .command { name := "html" } "sphinx"), ("manual", manual)])
      (Sequence.ofNames? ["manual", "html"])
    let whole : Book := ⟨.ofList [("docs", docs)]⟩
    releaseBook.isSound = true ∧ releaseBook.tasks.keysPass (· != "") = true ∧
      releaseBook.plan ["release"] = .error (.noDefault ["release", "docs", "manual"] ["a4"]) ∧
      whole.isSound = true ∧ whole.tasks.keysPass (· != "") = true ∧
      whole.plan ["docs"] = .ok (.serial "docs" [
        .serial "docs.manual" [.command "docs.manual.a4" "pdf a4"],
        .command "docs.html" "sphinx"]) := by
  intro manual docs whole
  have hsound : releaseBook.isSound = true := by decide
  have hkeys : releaseBook.tasks.keysPass (· != "") = true := by decide
  have hwhole : whole.isSound = true := by decide
  have hnamed : whole.tasks.keysPass (· != "") = true := by decide
  refine ⟨hsound, hkeys, ?_, hwhole, hnamed, ?_⟩
  · obtain ⟨task, hfind, hplan, -⟩ := (Book.plan_is_expansion hsound hkeys ["release"]).2 _ rfl
    cases hfind
    rw [hplan]
    rfl
  · obtain ⟨task, hfind, hplan, -⟩ := (Book.plan_is_expansion hwhole hnamed ["docs"]).2 _ rfl
    cases hfind
    rw [hplan]
    rfl

end Taskbook
