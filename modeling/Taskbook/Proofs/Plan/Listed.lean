/-
Which listed paths can be planned.

The listing shows every path that can be called: a command, or a group that has a default.
Planning a group asks for more, because each task in its default is planned in turn, and
that may be a group without a default. The rules for a definition do not look that far:
they want the tasks in a default to be there and enabled, and no more. So a group can be
listed although nothing can be made of it (`Book.listed_group_without_plan`).

How far the two agree is said in terms of the listing alone. It is closed under defaults if
whatever the default of a listed group names is listed as well. Then every listed path has
a plan, and if it is not closed some listed path has none (`Book.listed_paths_have_plans_iff`).
-/
import Taskbook.Proofs.Book.Walk
import Taskbook.Proofs.Plan.Expansion
import Taskbook.Proofs.Run.Request
import Taskbook.Proofs.Task.Definition

set_option autoImplicit false

namespace Taskbook

namespace Book

variable {book : Book}

/-- Whatever the default of a listed group names is listed too. -/
def ListsDefaults (book : Book) : Prop :=
  ∀ text ∈ book.paths false, ∀ sequence,
    book.resolve (Path.ofDotted text) = .ok (.sequence sequence) →
      ∀ name ∈ sequence.names, Path.dotted (Path.ofDotted text ++ [name]) ∈ book.paths false

/-- What stands directly below a listed path and resolves is listed. -/
theorem dotted_append_mem_paths (hsound : book.isSound = true)
    (hkeys : book.tasks.keysPass validName = true) {text name : String}
    (hlisted : text ∈ book.paths false) {resolution : Resolution}
    (hresolve : book.resolve (Path.ofDotted text ++ [name]) = .ok resolution) :
    Path.dotted (Path.ofDotted text ++ [name]) ∈ book.paths false := by
  obtain ⟨task, hfind, -⟩ := Book.find_of_resolve hresolve
  rw [Book.mem_paths_iff hsound hkeys] at hlisted ⊢
  obtain ⟨⟨own, hown⟩, habove⟩ := hlisted
  rw [Book.ofDotted_dotted_of_find hkeys hfind]
  refine ⟨⟨resolution, hresolve⟩, fun first hne hpre hproper below hbelow => ?_⟩
  -- what lies above is the listed path itself or above that
  rcases List.prefix_concat_iff.1 hpre with hwhole | hshorter
  · exact absurd hwhole hproper
  · by_cases hself : first = Path.ofDotted text
    · obtain ⟨last, hlast, henabled⟩ := Book.find_of_resolve hown
      rw [hself, hlast] at hbelow
      cases hbelow
      exact henabled
    · exact habove first hne hshorter hself below hbelow

/-- A listing that is closed under defaults lists nothing without a plan. -/
theorem exists_plan_of_listsDefaults (hsound : book.isSound = true)
    (hkeys : book.tasks.keysPass validName = true) (hclosed : book.ListsDefaults)
    {text : String} (hlisted : text ∈ book.paths false) :
    ∃ plan, book.plan (Path.ofDotted text) = .ok plan := by
  obtain ⟨⟨resolution, hresolve⟩, -⟩ := (Book.mem_paths_iff hsound hkeys).1 hlisted
  obtain ⟨task, hfind, henabled⟩ := Book.find_of_resolve hresolve
  have hnonempty := Table.keysPass_nonempty hkeys
  rw [← Path.dotted_ofDotted text] at hlisted
  revert hlisted
  refine Book.default_induction
    (P := fun path _ => path.dotted ∈ book.paths false → ∃ plan, book.plan path = .ok plan)
    hsound hnonempty ?command ?stuck ?group hfind henabled
  case command =>
    intro path label text hfind henabled _
    exact ⟨_, Book.plan_of_command (Book.resolve_of_find hfind henabled)⟩
  case stuck =>
    intro path label children hfind henabled hlisted
    -- a group without a default is not listed
    obtain ⟨⟨resolution, hresolve⟩, -⟩ := (Book.mem_paths_iff hsound hkeys).1 hlisted
    rw [Book.ofDotted_dotted_of_find hkeys hfind, Book.resolve_of_find hfind henabled] at hresolve
    cases hresolve
  case group =>
    intro path label children sequence hfind henabled below hlisted
    have hback := Book.ofDotted_dotted_of_find hkeys hfind
    have hresolve : book.resolve path = .ok (.sequence sequence) :=
      Book.resolve_of_find hfind henabled
    have hall : ∀ name ∈ sequence.names, ∃ plan, book.plan (path ++ [name]) = .ok plan := by
      intro name hname
      obtain ⟨child, -, hplan⟩ := below name hname
      have hnext := hclosed path.dotted hlisted sequence (by rw [hback, hresolve]) name hname
      rw [hback] at hnext
      exact hplan hnext
    obtain ⟨plans, hplans⟩ := exists_mapM_ok_iff.2 hall
    exact ⟨_, by rw [Book.plan_of_sequence hresolve, hplans]; rfl⟩

/-- A listed path without a plan ends at a group without a default. -/
theorem noDefault_of_listed (hsound : book.isSound = true)
    (hkeys : book.tasks.keysPass validName = true) {text : String}
    (hlisted : text ∈ book.paths false) {error : LookupError}
    (herror : book.plan (Path.ofDotted text) = .error error) :
    ∃ stop label children, error = .noDefault stop children.keys ∧
      book.find stop = .ok (.group label children none) ∧ label.enabled = true := by
  obtain ⟨⟨resolution, hresolve⟩, -⟩ := (Book.mem_paths_iff hsound hkeys).1 hlisted
  obtain ⟨task, hfind, henabled⟩ := Book.find_of_resolve hresolve
  have hnonempty := Table.keysPass_nonempty hkeys
  rw [Book.plan_eq_expand hsound hnonempty hfind henabled] at herror
  obtain ⟨⟨stop, choices⟩, more, hmore, rfl⟩ :=
    (Book.expand_endsAtFirst hsound hnonempty hfind henabled).exists_of_error herror
  obtain ⟨label, children, hgroup, hon, hchoices⟩ :=
    Book.find_of_mem_deadEnds hsound hnonempty hfind henabled (stop, choices)
      (hmore ▸ List.mem_cons_self)
  exact ⟨stop, label, children, congrArg (LookupError.noDefault stop) hchoices, hgroup, hon⟩

/-- **A listed path has a plan as long as the listing is closed under defaults.** In a book
that is declared by name, every listed path has a plan exactly if whatever the default of a
listed group names is listed too. Then a request for listed paths is always run. In any case
a listed path without a plan comes to a group without a default, and nothing else is in its
way. -/
theorem listed_paths_have_plans_iff {declarations : List Declaration}
    (hnamed : Declaration.areNamed declarations = true)
    (hbook : Book.ofDeclarations declarations = .ok book) :
    ((∀ text ∈ book.paths false, ∃ plan, book.plan (Path.ofDotted text) = .ok plan) ↔
      book.ListsDefaults) ∧
    (book.ListsDefaults → ∀ texts : List String, (∀ text ∈ texts, text ∈ book.paths false) →
      ∀ (σ : Type) (conditions : Conditions σ) (memory : σ), ∃ execution,
        book.execute conditions (texts.map Path.ofDotted) memory = .ok execution) ∧
    ∀ text ∈ book.paths false, ∀ error, book.plan (Path.ofDotted text) = .error error →
      ∃ stop label children, error = .noDefault stop children.keys ∧
        book.find stop = .ok (.group label children none) ∧ label.enabled = true := by
  have hsound := Book.isSound_of_book hbook
  have hkeys := Book.keysPass_of_named hnamed hbook
  refine ⟨⟨fun hall text hlisted sequence hresolve name hname => ?_, fun hclosed text => ?_⟩,
    fun hclosed texts hlisted σ conditions memory => ?_, fun text hlisted error => ?_⟩
  · -- the plan of a group has a part for each name in its default
    obtain ⟨plan, hplan⟩ := hall text hlisted
    rw [Book.plan_of_sequence hresolve, bind_eq_ok_iff] at hplan
    obtain ⟨plans, hplans, -⟩ := hplan
    obtain ⟨part, -, hpart⟩ := value_of_mapM_ok hplans hname
    obtain ⟨resolution, hbelow⟩ := Book.exists_resolve_of_plan hpart
    exact Book.dotted_append_mem_paths hsound hkeys hlisted hbelow
  · exact Book.exists_plan_of_listsDefaults hsound hkeys hclosed
  · rw [Book.exists_execute_iff]
    rintro path hpath
    obtain ⟨text, htext, rfl⟩ := List.mem_map.1 hpath
    exact Book.exists_plan_of_listsDefaults hsound hkeys hclosed (hlisted text htext)
  · exact Book.noDefault_of_listed hsound hkeys hlisted

/-- A release whose default names a group that has a default itself. The listing is closed, and
asking for all of it at once is run. -/
theorem nested_default_is_run :
    let docs : Declaration := .group "docs" [.command { name := "html" } "sphinx"]
      (some ["html"]) none []
    let release : Declaration := .group "release" [.command { name := "test" } "pytest", docs]
      (some ["test", "docs"]) none []
    Declaration.areNamed [release] = true ∧
    ∃ book, Book.ofDeclarations [release] = .ok book ∧ book.ListsDefaults ∧
      ∀ (conditions : Conditions Unit), ∃ execution,
        book.execute conditions ((book.paths false).map Path.ofDotted) () = .ok execution := by
  intro docs release
  have hnamed : Declaration.areNamed [release] = true := rfl
  refine ⟨hnamed, _, rfl, ?_⟩
  obtain ⟨hplans, hruns, -⟩ := listed_paths_have_plans_iff hnamed rfl
  have hclosed := hplans.1 ?closed
  · exact ⟨hclosed, fun conditions => hruns hclosed _ (fun _ htext => htext) Unit conditions ()⟩
  case closed =>
    intro text htext
    have hlisted : text ∈ ["release", "release.test", "release.docs", "release.docs.html"] :=
      htext
    simp only [List.mem_cons, List.not_mem_nil, or_false] at hlisted
    rcases hlisted with rfl | rfl | rfl | rfl
    all_goals exact ⟨_, (Book.plan_eq_expand (by decide) (by decide) rfl rfl).trans rfl⟩

/-- A release whose default names a group that has none. The group is there and enabled, so the
release is accepted, and it is listed; but it has no plan. -/
theorem listed_group_without_plan :
    let docs : Declaration := .group "docs" [.command { name := "html" } "sphinx"] none none []
    let release : Declaration := .group "release" [.command { name := "test" } "pytest", docs]
      (some ["test", "docs"]) none []
    Declaration.areNamed [release] = true ∧
    ∃ book, Book.ofDeclarations [release] = .ok book ∧ "release" ∈ book.paths false ∧
      book.plan (Path.ofDotted "release") = .error (.noDefault ["release", "docs"] ["html"]) := by
  intro docs release
  have hpath : Path.ofDotted "release" = ["release"] := by decide
  refine ⟨rfl, _, rfl, by decide, ?_⟩
  rw [hpath]
  exact (Book.plan_eq_expand (by decide) (by decide) rfl rfl).trans rfl

end Book

end Taskbook
