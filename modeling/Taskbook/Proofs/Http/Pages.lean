/-
Two pages for one path.

An address belongs to the page of a task exactly if it is the beginning of such addresses
followed by one segment (`Page.at?_eq_task_iff`, `Page.at?_eq_resolve_iff`): the pages with fixed
addresses do not get in the way, although a line end behind a fixed address is not minded.

What is shown of a task and what its path resolves to are two look-ups with two ways of
reporting an error. They agree, since resolving is looking up and then asking what is at the
end: a path that leads nowhere is refused by both with the same words, and the rest can be read
off what is shown (`App.pages_of_path_agree`).
-/
import Taskbook.Http.View
import Taskbook.Proofs.Book.Lookup

set_option autoImplicit false

namespace Taskbook

namespace Http

/-! ## Addresses -/

/-- The segment behind a beginning is what follows it, if that is one segment. -/
theorem segmentAfter?_eq_some_iff {start path segment : String} :
    segmentAfter? start path = some segment ↔
      path = start ++ segment ∧ segment ≠ "" ∧ '/' ∉ segment.toList := by
  have hsegment : ∀ rest : List Char, path.toList = start.toList ++ rest →
      segmentAfter? start path
        = if rest.isEmpty || rest.contains '/' then none else some (String.ofList rest) := by
    intro rest hrest
    rw [segmentAfter?, after?, hrest, if_pos (List.isPrefixOf_iff_prefix.2 ⟨rest, rfl⟩),
      List.drop_left]
  constructor
  · intro h
    cases hprefix : start.toList.isPrefixOf path.toList with
    | false =>
      rw [segmentAfter?, after?, hprefix] at h
      cases h
    | true =>
      obtain ⟨rest, hrest⟩ := List.isPrefixOf_iff_prefix.1 hprefix
      rw [hsegment rest hrest.symm] at h
      split at h
      · cases h
      · next hproper =>
        cases h
        simp only [Bool.or_eq_true, List.isEmpty_iff, List.contains_iff_mem, not_or] at hproper
        rw [String.toList_ofList]
        refine ⟨String.toList_inj.1 ?_, fun hempty => hproper.1 ?_, hproper.2⟩
        · rw [String.toList_append, String.toList_ofList, hrest]
        · exact String.ofList_injective hempty
  · rintro ⟨rfl, hne, hslash⟩
    rw [hsegment segment.toList String.toList_append, if_neg, String.ofList_toList]
    simp only [Bool.or_eq_true, List.isEmpty_iff, List.contains_iff_mem, not_or]
    exact ⟨fun hnil => hne (String.toList_inj.1 hnil), hslash⟩

/-- The pages with fixed addresses are not those of tasks. -/
theorem fixedPage?_eq_some {path : String} {page : Page} (h : fixedPage? path = some page) :
    ∃ fixed, (fixed = "/" ∧ page = .entrance ∨ fixed = "/tasks" ∧ page = .tasks ∨
      fixed = "/health" ∧ page = .health) ∧ (path = fixed ∨ path = fixed ++ "\n") := by
  unfold fixedPage? at h
  split at h
  · next hpath => cases h; exact ⟨_, .inl ⟨rfl, rfl⟩, Text.eq_of_withoutLineEnd hpath⟩
  · next hpath => cases h; exact ⟨_, .inr (.inl ⟨rfl, rfl⟩), Text.eq_of_withoutLineEnd hpath⟩
  · next hpath => cases h; exact ⟨_, .inr (.inr ⟨rfl, rfl⟩), Text.eq_of_withoutLineEnd hpath⟩
  · cases h

/-- No fixed address begins like the addresses of tasks. -/
theorem fixedPage?_append {start : String} (hstart : start = "/tasks/" ∨ start = "/resolve/")
    (segment : String) : fixedPage? (start ++ segment) = none := by
  rw [Option.eq_none_iff_forall_ne_some]
  intro page h
  obtain ⟨fixed, hfixed, hpath⟩ := fixedPage?_eq_some h
  have hlist := hpath.imp (congrArg String.toList) (congrArg String.toList)
  rcases hstart with rfl | rfl <;> rcases hfixed with ⟨rfl, -⟩ | ⟨rfl, -⟩ | ⟨rfl, -⟩ <;>
    simp at hlist

/-- The address of a page of a task says which of the two pages it is of, and of which task. -/
theorem eq_of_append_eq {start other segment own : String}
    (hstart : start = "/tasks/" ∨ start = "/resolve/")
    (hother : other = "/tasks/" ∨ other = "/resolve/") (h : start ++ segment = other ++ own) :
    start = other ∧ segment = own := by
  have hlist := congrArg String.toList h
  rcases hstart with rfl | rfl <;> rcases hother with rfl | rfl
  · exact ⟨rfl, String.toList_inj.1 (by simpa using hlist)⟩
  · simp at hlist
  · simp at hlist
  · exact ⟨rfl, String.toList_inj.1 (by simpa using hlist)⟩

/-- The addresses of the page of a task. -/
theorem Page.at?_eq_task_iff {path segment : String} :
    Page.at? path = some (.task segment) ↔
      path = "/tasks/" ++ segment ∧ segment ≠ "" ∧ '/' ∉ segment.toList := by
  constructor
  · intro h
    rw [Page.at?] at h
    split at h
    · next page hfixed =>
      cases h
      obtain ⟨_, ⟨-, hpage⟩ | ⟨-, hpage⟩ | ⟨-, hpage⟩, -⟩ := fixedPage?_eq_some hfixed <;>
        cases hpage
    · split at h
      · next own hown =>
        cases h
        exact segmentAfter?_eq_some_iff.1 hown
      · obtain ⟨_, -, hpage⟩ := Option.map_eq_some_iff.1 h
        cases hpage
  · intro h
    have hfixed : fixedPage? path = none := h.1 ▸ fixedPage?_append (.inl rfl) segment
    rw [Page.at?, hfixed, segmentAfter?_eq_some_iff.2 h]

/-- The addresses of the page of what a path resolves to. -/
theorem Page.at?_eq_resolve_iff {path segment : String} :
    Page.at? path = some (.resolve segment) ↔
      path = "/resolve/" ++ segment ∧ segment ≠ "" ∧ '/' ∉ segment.toList := by
  constructor
  · intro h
    rw [Page.at?] at h
    split at h
    · next page hfixed =>
      cases h
      obtain ⟨_, ⟨-, hpage⟩ | ⟨-, hpage⟩ | ⟨-, hpage⟩, -⟩ := fixedPage?_eq_some hfixed <;>
        cases hpage
    · split at h
      · cases h
      · obtain ⟨own, hown, hpage⟩ := Option.map_eq_some_iff.1 h
        cases hpage
        exact segmentAfter?_eq_some_iff.1 hown
  · intro h
    -- no address begins in both ways
    have hother : segmentAfter? "/tasks/" path = none := by
      rw [Option.eq_none_iff_forall_ne_some]
      intro own hown
      have hstart := (eq_of_append_eq (.inr rfl) (.inl rfl)
        (h.1.symm.trans (segmentAfter?_eq_some_iff.1 hown).1)).1
      exact absurd hstart (by decide)
    have hfixed : fixedPage? path = none := h.1 ▸ fixedPage?_append (.inr rfl) segment
    rw [Page.at?, hfixed, hother, segmentAfter?_eq_some_iff.2 h]
    rfl

/-! ## Answers -/

namespace App

variable {app : App} {path : String}

theorem answer_of_page {request : Request} {page : Page} (hmethod : request.method = "GET")
    (hpage : Page.at? request.path = some page) :
    app.answer request = app.render request.query page := by
  rw [answer, hpage]
  dsimp only
  rw [if_pos hmethod]

theorem taskPage_of_find {task : Task} (h : app.book.find (Path.ofDotted path) = .ok task) :
    app.taskPage path = { status := 200, body := .task (.ofTask path task) } := by
  rw [taskPage, h]

theorem taskPage_of_error {error : LookupError}
    (h : app.book.find (Path.ofDotted path) = .error error) :
    app.taskPage path = { status := 404, body := .detail error.message } := by
  rw [taskPage, h]

/-- What cannot be found is refused with the words of the look-up. -/
theorem resolvePage_of_error {error : LookupError}
    (h : app.book.find (Path.ofDotted path) = .error error) :
    app.resolvePage path = { status := 404, body := .detail error.message } := by
  have hresolve : app.book.resolve (Path.ofDotted path) = .error error := by
    rw [Book.resolve, h]
    rfl
  rw [resolvePage, hresolve]
  dsimp only
  rw [Book.isDisabled_of_find h]
  rfl

theorem resolvePage_of_disabled {task : Task}
    (h : app.book.find (Path.ofDotted path) = .ok task) (hoff : task.enabled = false) :
    (app.resolvePage path).status = 409 := by
  rw [resolvePage, Book.resolve_of_disabled h hoff]
  rfl

/-- An enabled task is resolved by what is shown of it: its command, or its default if there is
one. -/
theorem resolvePage_of_enabled {task : Task}
    (h : app.book.find (Path.ofDotted path) = .ok task) (henabled : task.enabled = true) :
    let info := TaskInfo.ofTask path task
    (∀ text, info.command = some text →
      app.resolvePage path = { status := 200, body := .resolved path text [] }) ∧
    (info.command = none → info.default ≠ [] →
      app.resolvePage path =
        { status := 200
          body := .resolved path
            (Text.join " " ("nps" :: info.default.map fun name => path ++ "." ++ name))
            info.default }) ∧
    (info.command = none → info.default = [] → (app.resolvePage path).status = 404) := by
  intro info
  have hresolve := Book.resolve_of_find h henabled
  cases task with
  | command label text =>
    refine ⟨fun own hown => ?_, nofun, nofun⟩
    rw [resolvePage, hresolve]
    cases hown
    rfl
  | group label children default =>
    refine ⟨nofun, fun _ hne => ?_, fun _ hnil => ?_⟩
    · cases default with
      | none => exact absurd rfl hne
      | some sequence =>
        rw [resolvePage, hresolve]
        rfl
    · cases default with
      | none =>
        rw [resolvePage, hresolve]
        rfl
      -- a default lists something
      | some sequence => exact absurd hnil sequence.names_ne_nil

end App

/-! ## The statement -/

/-- **The two pages of a path do not contradict each other**, whatever book is viewed and whatever
segment is asked for. The page of the task is there or not, and the page of what the path
resolves to is there, refused, or not there. If the first is not there, neither is the second, with
the same words. A task that is shown as disabled is refused. One that is shown as enabled
resolves to its command alone, or to the command line for its default, or, if it has neither,
to nothing. -/
theorem App.pages_of_path_agree (app : App) (path : String) (hne : path ≠ "")
    (hslash : '/' ∉ path.toList) (host query otherHost otherQuery : String) :
    let shown := app.answer { host := host, path := "/tasks/" ++ path, query := query }
    let resolved :=
      app.answer { host := otherHost, path := "/resolve/" ++ path, query := otherQuery }
    (shown.status = 200 ∨ shown.status = 404) ∧
    (resolved.status = 200 ∨ resolved.status = 404 ∨ resolved.status = 409) ∧
    (shown.status = 404 → resolved.status = 404 ∧
      ∃ text, shown.body = .detail text ∧ resolved.body = .detail text) ∧
    (shown.status = 200 → ∃ info : TaskInfo, shown.body = .task info ∧ info.path = path) ∧
    ∀ info : TaskInfo, shown.body = .task info →
      (info.enabled = false → resolved.status = 409) ∧
      (info.enabled = true → ∀ text, info.command = some text →
        resolved.status = 200 ∧ resolved.body = .resolved path text []) ∧
      (info.enabled = true → info.command = none → info.default ≠ [] →
        resolved.status = 200 ∧ resolved.body = .resolved path
          (Text.join " " ("nps" :: info.default.map fun name => path ++ "." ++ name))
          info.default) ∧
      (info.enabled = true → info.command = none → info.default = [] →
        resolved.status = 404) := by
  intro shown resolved
  have hshown : shown = app.taskPage path :=
    answer_of_page rfl (Page.at?_eq_task_iff.2 ⟨rfl, hne, hslash⟩)
  have hresolved : resolved = app.resolvePage path :=
    answer_of_page rfl (Page.at?_eq_resolve_iff.2 ⟨rfl, hne, hslash⟩)
  rw [hshown, hresolved]
  cases hfind : app.book.find (Path.ofDotted path) with
  | error error =>
    rw [taskPage_of_error hfind, resolvePage_of_error hfind]
    exact ⟨.inr rfl, .inr (.inl rfl), fun _ => ⟨rfl, _, rfl, rfl⟩, nofun, nofun⟩
  | ok task =>
    rw [taskPage_of_find hfind]
    cases henabled : task.enabled with
    | false =>
      have hrefused := resolvePage_of_disabled hfind henabled
      refine ⟨.inl rfl, .inr (.inr hrefused), nofun, fun _ => ⟨_, rfl, rfl⟩, ?_⟩
      rintro info ⟨⟩
      have hoff : (TaskInfo.ofTask path task).enabled ≠ true := by
        simp [TaskInfo.ofTask, henabled]
      exact ⟨fun _ => hrefused, fun h => absurd h hoff, fun h => absurd h hoff,
        fun h => absurd h hoff⟩
    | true =>
      obtain ⟨hcommand, hdefault, hnothing⟩ := resolvePage_of_enabled hfind henabled
      refine ⟨.inl rfl, ?_, nofun, fun _ => ⟨_, rfl, rfl⟩, ?_⟩
      · -- one of the three ways to resolve
        cases htext : (TaskInfo.ofTask path task).command with
        | some text => exact .inl (by rw [hcommand text htext])
        | none =>
          by_cases hnil : (TaskInfo.ofTask path task).default = []
          · exact .inr (.inl (hnothing htext hnil))
          · exact .inl (by rw [hdefault htext hnil])
      · rintro info ⟨⟩
        refine ⟨fun h => ?_, fun _ text htext => ?_, fun _ htext hdef => ?_,
          fun _ => hnothing⟩
        · rw [show (TaskInfo.ofTask path task).enabled = task.enabled from rfl, henabled] at h
          cases h
        · rw [hcommand text htext]
          exact ⟨rfl, rfl⟩
        · rw [hdefault htext hdef]
          exact ⟨rfl, rfl⟩

/-- A disabled group is shown and refused, what stands below it is shown and resolved, and what
does not stand there is missing from both pages with the same words. -/
theorem App.disabled_group_is_shown_and_refused :
    let app : App := { book := ⟨.cons "old" (.group { name := "old", enabled := false }
      (.cons "x" (.command { name := "x" } "make x") .nil) none) .nil⟩ }
    let page (start path : String) : Response := app.answer { host := "h", path := start ++ path }
    (∃ info : TaskInfo, (page "/tasks/" "old").body = .task info ∧ info.enabled = false) ∧
    (page "/resolve/" "old").status = 409 ∧
    (page "/resolve/" "old.x").body = .resolved "old.x" "make x" [] ∧
    ∃ text, (page "/tasks/" "old.y").body = .detail text ∧
      (page "/resolve/" "old.y").body = .detail text := by
  intro app page
  obtain ⟨-, -, -, hshown, hrest⟩ :=
    app.pages_of_path_agree "old" (by decide) (by decide) "h" "" "h" ""
  obtain ⟨-, -, -, hbelow, hresolved⟩ :=
    app.pages_of_path_agree "old.x" (by decide) (by decide) "h" "" "h" ""
  obtain ⟨-, -, hmissing, -⟩ :=
    app.pages_of_path_agree "old.y" (by decide) (by decide) "h" "" "h" ""
  have hold : (page "/tasks/" "old").body = .task ⟨"old", none, [], ["x"], false, none, []⟩ := rfl
  refine ⟨⟨_, hold, rfl⟩, (hrest _ hold).1 rfl, ?_, (hmissing rfl).2⟩
  have hx : (page "/tasks/" "old.x").body
      = .task ⟨"old.x", some "make x", [], [], true, none, []⟩ := rfl
  exact ((hresolved _ hx).2.1 rfl _ rfl).2

end Http

end Taskbook
