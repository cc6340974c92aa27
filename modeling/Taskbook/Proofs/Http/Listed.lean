/-
Which listed paths can be fetched.

The list of a book says which paths can be called, and the pages of a path are behind addresses
that hold the path. Writing the path into the address loses nothing: the server reads back what
was written (`addressed_eq`). But a page takes one segment of the address, and a task's name may
hold the character that ends a segment. A path is listed with that name all the same, and then
neither of its pages is there. That is the only thing that can go wrong
(`App.listed_paths_are_served_iff`): with no slash in any key, all listed paths are served.
-/
import Taskbook.Proofs.Book.Walk
import Taskbook.Proofs.Http.Pages
import Taskbook.Proofs.Task.Definition
import Taskbook.Proofs.Text.Percent

set_option autoImplicit false

namespace Taskbook

/-! ## Slashes -/

/-- A name that fits into one segment of an address. -/
def fitsSegment (name : String) : Bool :=
  !name.toList.contains '/'

/-- A dotted text of segments without a slash has none. -/
theorem Path.not_mem_dotted {path : Path} (h : ∀ key ∈ path, fitsSegment key = true) :
    '/' ∉ path.dotted.toList := by
  rw [Path.dotted, Text.toList_join]
  intro hmem
  rcases Text.mem_of_mem_glue hmem with hmark | ⟨piece, hpiece, hslash⟩
  · exact absurd hmark (by decide)
  · obtain ⟨key, hkey, rfl⟩ := List.mem_map.1 hpiece
    have hfits := h key hkey
    simp [fitsSegment, hslash] at hfits

namespace Http

/-! ## Addresses -/

/-- The path that a server reads from an address: a beginning, and behind it this path, with
percent signs for all that is not left as it is. -/
def addressed (allowed : List Char) (start path : String) : String :=
  String.ofList (Text.percentDecode (start ++ Text.percentEncode allowed path).toList)

/-- Writing a path into an address loses nothing. -/
theorem addressed_eq {allowed : List Char} (hallowed : ∀ c ∈ allowed, Text.StandsForItself c)
    {start : String} (hstart : start = "/tasks/" ∨ start = "/resolve/") (path : String) :
    addressed allowed start path = start ++ path := by
  have hplain : ∀ c ∈ start.toList, Text.StandsForItself c := by
    rcases hstart with rfl | rfl <;> exact Text.forall_standsForItself (by decide)
  rw [addressed, String.toList_append, Text.percentDecode_percentEncode hallowed hplain,
    ← String.toList_append, String.ofList_toList]

/-- Behind an address with more than one segment there is no page. -/
theorem Page.at?_of_slash {start segment : String}
    (hstart : start = "/tasks/" ∨ start = "/resolve/") (hslash : '/' ∈ segment.toList) :
    Page.at? (start ++ segment) = none := by
  have hnone : ∀ other, other = "/tasks/" ∨ other = "/resolve/" →
      segmentAfter? other (start ++ segment) = none := by
    intro other hother
    rw [Option.eq_none_iff_forall_ne_some]
    intro own hown
    obtain ⟨heq, -, hfits⟩ := segmentAfter?_eq_some_iff.1 hown
    exact hfits ((eq_of_append_eq hstart hother heq).2 ▸ hslash)
  rw [Page.at?, fixedPage?_append hstart, hnone _ (.inl rfl), hnone _ (.inr rfl)]
  rfl

/-! ## Answers -/

/-- The page of the task at this path. -/
def Response.ShowsTask (response : Response) (path : String) : Prop :=
  response.status = 200 ∧ ∃ info : TaskInfo, response.body = .task info ∧ info.path = path

/-- The page of what this path resolves to. -/
def Response.ShowsResolution (response : Response) (path : String) : Prop :=
  response.status = 200 ∧ ∃ text names, response.body = .resolved path text names

namespace App

variable {app : App}

/-- Without a page, the answer sends on or says that there is none. -/
theorem status_ne_of_no_page {request : Request} (h : Page.at? request.path = none) :
    (app.answer request).status ≠ 200 := by
  rw [answer, h]
  dsimp only
  split
  · exact (by decide : (307 : Nat) ≠ 200)
  · exact (by decide : (404 : Nat) ≠ 200)

/-- In an empty query there is no flag. -/
theorem flag_empty (name : String) : flag name "" = .ok false := by
  have hraw : rawCharacters "" = [] := by
    rw [rawCharacters, ByteArray.toList, ByteArray.toList.loop,
      if_neg (by decide : ¬0 < "".toUTF8.size)]
    rfl
  have hfields : fields "" = [] := by
    rw [fields, hraw]
    rfl
  rw [flag, lastField?, hfields]
  rfl

/-- Without a flag, the list is that of the paths that can be called. -/
theorem answer_tasks (host : String) :
    app.answer { host := host, path := "/tasks" }
      = { status := 200, body := .tasks (app.book.paths false) } := by
  have hpage : Page.at? "/tasks" = some .tasks := by decide
  rw [@answer_of_page app ⟨"GET", host, "/tasks", ""⟩ _ rfl hpage, render, listPage, flag_empty]

/-- What resolves has both pages. -/
theorem pages_of_resolve {path : String} {resolution : Resolution}
    (h : app.book.resolve (Path.ofDotted path) = .ok resolution) :
    (app.taskPage path).ShowsTask path ∧ (app.resolvePage path).ShowsResolution path := by
  obtain ⟨task, hfind, -⟩ := Book.find_of_resolve h
  rw [taskPage_of_find hfind, resolvePage, h]
  refine ⟨⟨rfl, _, rfl, rfl⟩, ?_⟩
  cases resolution with
  | command text => exact ⟨rfl, _, _, rfl⟩
  | sequence sequence => exact ⟨rfl, _, _, rfl⟩

end App

/-! ## The statement -/

/-- **A listed path is served unless a name in it holds a slash.** In the view of a book that is
declared by name, take any path of the list, and write it into the addresses of its two pages,
leaving as they are whatever characters one likes that stand for themselves. Both pages are
there, and are those of the path, exactly if the path has no slash. So all listed paths are
served if no key in the book has one. -/
theorem App.listed_paths_are_served_iff {declarations : List Declaration} {book : Book}
    (hnamed : Declaration.areNamed declarations = true)
    (hbook : Book.ofDeclarations declarations = .ok book) (app : App) (happ : app.book = book)
    {allowed : List Char} (hallowed : ∀ c ∈ allowed, Text.StandsForItself c) (host : String) :
    ∃ paths, app.answer { host := host, path := "/tasks" }
        = { status := 200, body := .tasks paths } ∧
      (∀ path ∈ paths,
        let shown := app.answer { host := host, path := addressed allowed "/tasks/" path }
        let resolved := app.answer { host := host, path := addressed allowed "/resolve/" path }
        (shown.ShowsTask path ↔ '/' ∉ path.toList) ∧
        (resolved.ShowsResolution path ↔ '/' ∉ path.toList)) ∧
      (book.tasks.keysPass fitsSegment = true → ∀ path ∈ paths, '/' ∉ path.toList) := by
  have hsound := Book.isSound_of_book hbook
  have hkeys := Book.keysPass_of_named hnamed hbook
  subst happ
  refine ⟨app.book.paths false, answer_tasks host, fun path hlisted => ?_,
    fun hfits path hlisted => ?_⟩
  · obtain ⟨⟨resolution, hresolve⟩, -⟩ := (Book.mem_paths_iff hsound hkeys).1 hlisted
    rw [addressed_eq hallowed (.inl rfl), addressed_eq hallowed (.inr rfl)]
    by_cases hslash : '/' ∈ path.toList
    · have hshown := @status_ne_of_no_page app ⟨"GET", host, _, ""⟩
        (Page.at?_of_slash (.inl rfl) hslash)
      have hresolved := @status_ne_of_no_page app ⟨"GET", host, _, ""⟩
        (Page.at?_of_slash (.inr rfl) hslash)
      exact ⟨iff_of_false (fun h => hshown h.1) (not_not_intro hslash),
        iff_of_false (fun h => hresolved h.1) (not_not_intro hslash)⟩
    · have hne : path ≠ "" := by
        rintro rfl
        cases hresolve
      have hpages := pages_of_resolve hresolve
      rw [answer_of_page rfl (Page.at?_eq_task_iff.2 ⟨rfl, hne, hslash⟩),
        answer_of_page rfl (Page.at?_eq_resolve_iff.2 ⟨rfl, hne, hslash⟩)]
      exact ⟨iff_of_true hpages.1 hslash, iff_of_true hpages.2 hslash⟩
  · obtain ⟨⟨resolution, hresolve⟩, -⟩ := (Book.mem_paths_iff hsound hkeys).1 hlisted
    obtain ⟨task, hfind, -⟩ := Book.find_of_resolve hresolve
    rw [← Path.dotted_ofDotted path]
    exact Path.not_mem_dotted (Table.keysPass_of_at? hfits (Book.find_eq_ok_iff.1 hfind).2)

/-- Of two tasks in one group, the one with a percent sign and a letter beyond ASCII in its name is
served, and the one with a slash is not. -/
theorem App.slash_is_all_that_matters :
    let declarations : List Declaration := [.group "docs"
      [.command { name := "50% größer" } "make bigger", .command { name := "a/b" } "make ab"]
      none none []]
    ∃ book, Declaration.areNamed declarations = true ∧
      Book.ofDeclarations declarations = .ok book ∧
      let app : App := { book := book }
      let page (path : String) : Response :=
        app.answer { host := "h", path := addressed ['!'] "/tasks/" path }
      (page "docs.50% größer").ShowsTask "docs.50% größer" ∧
        ¬(page "docs.a/b").ShowsTask "docs.a/b" := by
  intro declarations
  refine ⟨_, rfl, rfl, ?_⟩
  intro app page
  have hallowed : ∀ c ∈ ['!'], Text.StandsForItself c :=
    Text.forall_standsForItself (by decide)
  obtain ⟨paths, hlist, hserved, -⟩ :=
    @listed_paths_are_served_iff declarations app.book rfl rfl app rfl ['!'] hallowed "h"
  rw [answer_tasks] at hlist
  cases hlist
  have hbigger : "docs.50% größer" ∈ app.book.paths false := by decide
  have hslash : "docs.a/b" ∈ app.book.paths false := by decide
  exact ⟨(hserved _ hbigger).1.2 (by decide), fun h => (hserved _ hslash).1.1 h (by decide)⟩

/-- A task with a slash in its name is a proper task and is listed, and both of its addresses lead
nowhere. -/
theorem App.slash_in_name_is_listed_not_served :
    let declarations : List Declaration := [.command { name := "build/docs" } "make docs"]
    ∃ book, Declaration.areNamed declarations = true ∧
      Book.ofDeclarations declarations = .ok book ∧
      let app : App := { book := book }
      (app.answer { host := "h", path := "/tasks" }).body = .tasks ["build/docs"] ∧
      app.answer { host := "h", path := addressed [] "/tasks/" "build/docs" }
        = { status := 404, body := .detail "Not Found" } ∧
      app.answer { host := "h", path := addressed [] "/resolve/" "build/docs" }
        = { status := 404, body := .detail "Not Found" } := by
  intro declarations
  refine ⟨_, rfl, rfl, ?_⟩
  intro app
  have hnothing : ∀ c ∈ ([] : List Char), Text.StandsForItself c := by simp
  rw [addressed_eq hnothing (.inl rfl), addressed_eq hnothing (.inr rfl), answer_tasks]
  exact ⟨rfl, by decide, by decide⟩

end Http

end Taskbook
