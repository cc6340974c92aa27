/-
What being disabled keeps from the shell.

Whether a task is disabled is asked whenever a path resolves, and it is asked of the task
at the end of the path. A plan is made by resolving one path after the other, each one
segment longer than the last. So every command that a request hands to the shell stands at
or below one of the paths asked for, and every task from there down to the command is
enabled (`Book.leaves_of_plan`).

What lies above the path asked for is asked by nobody. The walk passes over a disabled
group with everything below it, but a path into the group resolves as if the group were
enabled (`Book.command_below_disabled_group_is_called`). The way down to a command is free
of disabled tasks as long as that is so above the paths asked for, and the listed paths are
such (`Book.disabled_is_never_called`).
-/
import Taskbook.Proofs.Book.Walk
import Taskbook.Proofs.Plan.Expansion
import Taskbook.Proofs.Run.Request

set_option autoImplicit false

namespace Taskbook

namespace Book

variable {book : Book}

/-! ## Ways without a disabled task -/

/-- Every task that is found above the end of the path is enabled. -/
def OpenAbove (book : Book) (path : Path) : Prop :=
  ∀ first, first ≠ [] → first <+: path → first ≠ path → ∀ task, book.find first = .ok task →
    task.enabled = true

/-- Every task that is found from the end of the path down to the end of the longer path is
enabled. -/
def OpenBelow (book : Book) (path rest : Path) : Prop :=
  ∀ more, more <+: rest → ∀ task, book.find (path ++ more) = .ok task → task.enabled = true

/-- What is open above a path and from there on is open throughout. -/
theorem OpenAbove.openTo {path rest : Path} (habove : book.OpenAbove path)
    (hbelow : book.OpenBelow path rest) : book.OpenTo (path ++ rest) := by
  intro first hne hpre task hfind
  rcases List.prefix_or_prefix_of_prefix hpre (List.prefix_append path rest) with hshort | hlong
  · by_cases hself : first = path
    · refine hbelow [] (List.nil_prefix) task ?_
      rw [List.append_nil, ← hself, hfind]
    · exact habove first hne hshort hself task hfind
  · obtain ⟨more, rfl⟩ := hlong
    exact hbelow more ((List.prefix_append_right_inj path).1 hpre) task hfind

/-! ## The commands of a plan -/

/-- The command stands at the end of the longer path, and nothing from the path on is
disabled. -/
structure StandsBelow (book : Book) (path rest : Path) (leaf : Leaf) : Prop where
  name_eq : leaf.name = Path.dotted (path ++ rest)
  find_eq : ∃ label, book.find (path ++ rest) = .ok (.command label leaf.text)
  isOpen : book.OpenBelow path rest

/-- A command that stands below a child stands below the enabled task that has the child. -/
theorem StandsBelow.of_child {path rest : Path} {name : String} {task : Task} {leaf : Leaf}
    (hfind : book.find path = .ok task) (henabled : task.enabled = true)
    (h : book.StandsBelow (path ++ [name]) rest leaf) :
    book.StandsBelow path (name :: rest) leaf := by
  have hpath : path ++ name :: rest = path ++ [name] ++ rest := by simp
  refine ⟨hpath ▸ h.name_eq, hpath ▸ h.find_eq, fun more hpre below hbelow => ?_⟩
  cases more with
  | nil =>
    rw [List.append_nil, hfind] at hbelow
    cases hbelow
    exact henabled
  | cons key more =>
    obtain ⟨rfl, hmore⟩ := List.cons_prefix_cons.1 hpre
    refine h.isOpen more hmore below ?_
    rw [← hbelow, List.append_assoc]
    rfl

/-- Every command of a plan stands below the path that was planned. The induction is the
construction of the plan, and each step resolves a path and so finds an enabled task. -/
theorem leaves_of_plan (path : Path) : ∀ plan, book.plan path = .ok plan →
    ∀ leaf ∈ plan.leaves, ∃ rest, book.StandsBelow path rest leaf := by
  induction path using Book.plan.induct book with
  | case1 path error hresolve =>
    intro plan hplan
    rw [Book.plan_of_error hresolve] at hplan
    cases hplan
  | case2 path text hresolve =>
    intro plan hplan leaf hleaf
    rw [Book.plan_of_command hresolve] at hplan
    cases hplan
    obtain rfl := List.mem_singleton.1 hleaf
    obtain ⟨label, hfind, henabled⟩ := Book.find_of_resolve_command hresolve
    refine ⟨[], by rw [List.append_nil], ⟨label, by rw [List.append_nil, hfind]⟩, ?_⟩
    intro more hpre task htask
    rw [List.prefix_nil.1 hpre, List.append_nil, hfind] at htask
    cases htask
    exact henabled
  | case3 path sequence hresolve below =>
    intro plan hplan leaf hleaf
    rw [Book.plan_of_sequence hresolve, bind_eq_ok_iff] at hplan
    obtain ⟨plans, hplans, hserial⟩ := hplan
    cases hserial
    obtain ⟨part, hpart, hmem⟩ := Plan.mem_leavesOf_iff.1 hleaf
    obtain ⟨name, -, hname⟩ := item_of_mapM_ok hplans hpart
    obtain ⟨rest, hrest⟩ := below name part hname leaf hmem
    obtain ⟨task, hfind, henabled⟩ := Book.find_of_resolve hresolve
    exact ⟨name :: rest, hrest.of_child hfind henabled⟩

/-- **What is disabled is never called by itself, and nothing is called through it.** A path
that ends at a disabled task neither resolves nor has a plan. Whatever a request hands to the
shell is the command of a task that stands at or below one of the paths asked for, and
every task from that path down to the command is enabled; if that is so above the path as
well, nothing on the whole way is disabled. In a sound book of proper names it is so above
every listed path. -/
theorem disabled_is_never_called (book : Book) :
    (∀ path task, book.find path = .ok task → task.enabled = false →
      book.resolve path = .error (.disabled path) ∧
        book.plan path = .error (.disabled path)) ∧
    (∀ (σ : Type) (conditions : Conditions σ) (paths : List Path) (memory : σ)
      (execution : Execution σ), book.execute conditions paths memory = .ok execution →
      ∀ call ∈ execution.trace.calls, ∃ path ∈ paths, ∃ rest label text,
        book.find (path ++ rest) = .ok (.command label text) ∧
        call = {
          command := text
          directory := conditions.site.directory
          shell := conditions.site.shell
          environment :=
            if conditions.site.overrides.isEmpty then none
            else some (conditions.inherited.extend conditions.site.overrides) } ∧
        book.OpenBelow path rest ∧
        (book.OpenAbove path → book.OpenTo (path ++ rest))) ∧
    (book.isSound = true → book.tasks.keysPass validName = true →
      ∀ text ∈ book.paths false, book.OpenAbove (Path.ofDotted text)) := by
  refine ⟨fun path task hfind hoff => ?_, fun σ conditions paths memory execution h call hcall => ?_,
    fun hsound hkeys text htext => ((Book.mem_paths_iff hsound hkeys).1 htext).2⟩
  · have hresolve := Book.resolve_of_disabled hfind hoff
    exact ⟨hresolve, Book.plan_of_error hresolve⟩
  · obtain ⟨plans, hplans, rfl⟩ := Book.execute_eq_ok_iff.1 h
    obtain ⟨leaf, hleaf, hsame⟩ := Plan.execute_callsOnly _ 0 memory call hcall
    rw [Plan.leaves_together] at hleaf
    obtain ⟨plan, hplan, hmem⟩ := Plan.mem_leavesOf_iff.1 hleaf
    obtain ⟨path, hpath, hplanned⟩ := item_of_mapM_ok hplans hplan
    obtain ⟨rest, hstands⟩ := Book.leaves_of_plan path plan hplanned leaf hmem
    obtain ⟨label, hfind⟩ := hstands.find_eq
    exact ⟨path, hpath, rest, label, leaf.text, hfind, hsame, hstands.isOpen,
      fun habove => habove.openTo hstands.isOpen⟩

/-- A group whose default leaves out the disabled one of its two commands. Asked for, the group
calls the other one; the disabled one is refused. -/
theorem disabled_sibling_is_refused :
    let book : Book := ⟨.ofList [("schema", .group { name := "schema" }
      (.ofList [("create", .command { name := "create" } "bash build_schema.sh"),
        ("fees", .command { name := "fees", enabled := false } "json2ts")])
      (Sequence.ofNames? ["create"]))]⟩
    let conditions : Conditions Unit :=
      ⟨fun _ memory => (.exited 0, memory), { directory := Dir.ofText "/srv" }, {}, {}⟩
    book.plan ["schema", "fees"] = .error (.disabled ["schema", "fees"]) ∧
    ∃ execution, book.execute conditions [["schema"]] () = .ok execution ∧
      execution.trace.calls.map Call.command = ["bash build_schema.sh"] ∧
      ∀ call ∈ execution.trace.calls, ∃ path label text, book.OpenTo path ∧
        book.find path = .ok (.command label text) ∧
        call = ⟨text, Dir.ofText "/srv", none, none⟩ := by
  intro book conditions
  obtain ⟨hrefused, hcalled, hlisted⟩ := disabled_is_never_called book
  have hplan : book.plan ["schema"] = .ok (.serial "schema"
      [.command "schema.create" "bash build_schema.sh"]) :=
    (Book.plan_eq_expand (by decide) (by decide) rfl rfl).trans rfl
  refine ⟨(hrefused ["schema", "fees"] _ rfl rfl).2, _, Book.execute_singleton hplan, rfl, ?_⟩
  intro call hcall
  obtain ⟨path, hpath, rest, label, text, hfind, hsame, -, hopen⟩ :=
    hcalled Unit conditions [["schema"]] () _ (Book.execute_singleton hplan) call hcall
  refine ⟨path ++ rest, label, text, hopen ?_, hfind, hsame⟩
  obtain rfl := List.mem_singleton.1 hpath
  exact hlisted (by decide) (by decide) "schema" (by decide)

/-- A command in a disabled group. The command itself is enabled, and its path resolves, has a
plan and is run, although the walk passes over it. -/
theorem command_below_disabled_group_is_called :
    let old : Declaration := .keyed { name := "old", enabled := false } none
      [("x", .command { name := "x" } "make x")] none
    let conditions : Conditions Unit :=
      ⟨fun _ memory => (.exited 0, memory), { directory := Dir.ofText "/srv" }, {}, {}⟩
    ∃ book group execution, Book.ofDeclarations [old] = .ok book ∧
      book.find ["old"] = .ok group ∧ group.enabled = false ∧
      book.resolve ["old", "x"] = .ok (.command "make x") ∧
      book.plan ["old", "x"] = .ok (.command "old.x" "make x") ∧
      book.execute conditions [["old", "x"]] () = .ok execution ∧
      execution.trace.calls.map Call.command = ["make x"] := by
  intro old conditions
  exact ⟨_, _, _, rfl, rfl, rfl, rfl, Book.plan_of_command rfl,
    Book.execute_singleton (Book.plan_of_command rfl), rfl⟩

end Book

end Taskbook
