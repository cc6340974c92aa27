/-
Where a look-up gets stuck.

A path that leads to no task has a first segment that cannot be followed. There is exactly
one, since everything before it can be followed and nothing behind it is ever asked for.
`Table.StopsAt` says where it is without mentioning the look-up, and the look-up is shown
to report that place and no other (`Table.StopsAt.follow`): the depth that `Table.follow`
has reached, the table it is in and the segments it leaves behind move together, so one
induction over the path carries all three.

What the error says is made from the place alone. A command has no children, so a path that
goes on below one finds no keys there.
-/
import Mathlib.Logic.Basic
import Taskbook.Proofs.Book.Lookup

set_option autoImplicit false

namespace Taskbook

/-- The table that the segments lead to, the table itself if there are none. -/
def Table.level? (table : Table) : Path → Option Table
  | [] => some table
  | segment :: rest => (table.at? (segment :: rest)).map Task.children

/-- The first `depth` segments of the path can be followed, up to the table `level`, and the
next one is `segment` and cannot. -/
structure Table.StopsAt (table : Table) (path : Path) (depth : Nat) (level : Table)
    (segment : String) : Prop where
  followed : table.level? (path.take depth) = some level
  next : path[depth]? = some segment
  absent : level.find? segment = none

namespace Table

variable {table level : Table} {first segment : String} {rest path : Path} {depth : Nat}

theorem level?_cons_of_find? {task : Task} (hfind : table.find? first = some task) (path : Path) :
    table.level? (first :: path) = task.children.level? path := by
  rw [level?, at?, hfind, Option.bind_some]
  cases path with
  | nil => rfl
  | cons next rest => rw [task.below?_eq_at? (List.cons_ne_nil next rest), level?]

theorem level?_cons_of_absent (habsent : table.find? first = none) (path : Path) :
    table.level? (first :: path) = none := by
  rw [level?, at?, habsent]
  rfl

/-- Below a command there is nothing. -/
theorem keys_of_level?_command {label : Label} {text : String}
    (hlevel : table.level? path = some level)
    (hat : table.at? path = some (.command label text)) : level.keys = [] := by
  cases path with
  | nil => cases hat
  | cons segment rest =>
    rw [level?, hat] at hlevel
    cases hlevel
    rfl

/-! ## The place -/

/-- A table without the first segment is where the way ends. -/
theorem stopsAt_zero (habsent : table.find? first = none) :
    table.StopsAt (first :: rest) 0 table first :=
  ⟨rfl, rfl, habsent⟩

/-- Below the first segment, the place is one level further down. -/
theorem stopsAt_succ_iff {task : Task} (hfind : table.find? first = some task) :
    table.StopsAt (first :: rest) (depth + 1) level segment ↔
      task.children.StopsAt rest depth level segment := by
  constructor
  · rintro ⟨hfollowed, hnext, habsent⟩
    rw [List.take_succ_cons, level?_cons_of_find? hfind] at hfollowed
    exact ⟨hfollowed, hnext, habsent⟩
  · rintro ⟨hfollowed, hnext, habsent⟩
    refine ⟨?_, hnext, habsent⟩
    rw [List.take_succ_cons, level?_cons_of_find? hfind]
    exact hfollowed

/-- A path that leads to no task gets stuck somewhere. -/
theorem exists_stopsAt (hpath : path ≠ []) (hnone : table.at? path = none) :
    ∃ depth level segment, table.StopsAt path depth level segment := by
  induction path generalizing table with
  | nil => exact absurd rfl hpath
  | cons first rest ih =>
    cases hfind : table.find? first with
    | none => exact ⟨0, table, first, stopsAt_zero hfind⟩
    | some task =>
      rw [at?, hfind, Option.bind_some] at hnone
      have hrest : rest ≠ [] := by
        rintro rfl
        cases hnone
      rw [task.below?_eq_at? hrest] at hnone
      obtain ⟨depth, level, segment, hstops⟩ := ih hrest hnone
      exact ⟨depth + 1, level, segment, (stopsAt_succ_iff hfind).2 hstops⟩

/-! ## What the look-up reports -/

theorem follow_of_absent (habsent : table.find? first = none) (reached rest : Path) :
    table.follow reached first rest = .error (.missing reached first rest table.keys) := by
  cases rest <;> rw [follow, habsent]

/-- **The look-up reports the place.** It names the segments that could be followed, the one that
could not, those behind it, and the keys that are there. -/
theorem StopsAt.follow (h : table.StopsAt (first :: rest) depth level segment) (reached : Path) :
    table.follow reached first rest
      = .error (.missing (reached ++ (first :: rest).take depth) segment
          ((first :: rest).drop (depth + 1)) level.keys) := by
  induction depth generalizing reached table first rest with
  | zero =>
    obtain ⟨hfollowed, hnext, habsent⟩ := h
    cases hfollowed
    cases hnext
    rw [follow_of_absent habsent, List.take_zero, List.append_nil, List.drop_succ_cons,
      List.drop_zero]
  | succ depth ih =>
    cases hfind : table.find? first with
    | none =>
      have hfollowed := h.followed
      rw [List.take_succ_cons, level?_cons_of_absent hfind] at hfollowed
      cases hfollowed
    | some task =>
      have hbelow := (stopsAt_succ_iff hfind).1 h
      cases rest with
      | nil => cases hbelow.next
      | cons next rest =>
        rw [Table.follow, hfind]
        dsimp only
        rw [ih hbelow (reached ++ [first]), List.append_assoc, List.take_succ_cons,
          List.drop_succ_cons]
        rfl

theorem StopsAt.length_take (h : table.StopsAt path depth level segment) :
    (path.take depth).length = depth :=
  List.length_take_of_le (Nat.le_of_lt (List.getElem?_eq_some_iff.1 h.next).1)

/-- What comes before the place, the segment there, and what comes behind it are the path. -/
theorem StopsAt.split (h : table.StopsAt path depth level segment) :
    path.take depth ++ segment :: path.drop (depth + 1) = path := by
  have hdrop : path.drop depth = segment :: path.drop (depth + 1) := by
    rw [List.drop_eq_getElem?_toList_append, h.next]
    rfl
  rw [← hdrop, List.take_append_drop]

/-- There is no other place. -/
theorem StopsAt.unique {other : Nat} {further : Table} {key : String}
    (h : table.StopsAt path depth level segment) (hother : table.StopsAt path other further key) :
    other = depth ∧ further = level ∧ key = segment := by
  have hdepth : other = depth := by
    cases path with
    | nil => cases h.next
    | cons first rest =>
      -- the one look-up reports both
      have hsame := (hother.follow []).symm.trans (h.follow [])
      obtain ⟨hreached, -⟩ := LookupError.missing.inj (Except.error.inj hsame)
      rw [← hother.length_take, ← h.length_take]
      exact congrArg List.length hreached
  subst hdepth
  refine ⟨rfl, ?_, ?_⟩
  · exact Option.some.inj (hother.followed.symm.trans h.followed)
  · exact Option.some.inj (hother.next.symm.trans h.next)

end Table

/-- A valid path that gets stuck is reported with the place. -/
theorem Book.find_of_stopsAt {book : Book} {path : Path} (hvalid : path.isValid = true)
    {depth : Nat} {level : Table} {segment : String}
    (h : book.tasks.StopsAt path depth level segment) :
    book.find path
      = .error (.missing (path.take depth) segment (path.drop (depth + 1)) level.keys) := by
  unfold Book.find
  rw [if_pos hvalid]
  cases path with
  | nil => cases h.next
  | cons first rest => exact h.follow []

/-! ## What it says -/

theorem LookupError.orElse_join {mark : String} (hmark : mark ≠ "") (texts : List String)
    (other : String) :
    orElse (Text.join mark texts) other
      = if texts = [] ∨ texts = [""] then other else Text.join mark texts := by
  simp only [orElse, Text.join_eq_empty_iff hmark]

/-- The message about a missing segment, where the segments before it are proper. -/
theorem LookupError.message_missing {reached : Path} (hreached : ∀ segment ∈ reached, segment ≠ "")
    (segment : String) (rest : Path) (available : List String) :
    (missing reached segment rest available).message
      = "Task '" ++ Path.dotted (reached ++ segment :: rest) ++ "' not found: no '" ++ segment
        ++ "' in " ++ (if reached = [] then "<root>" else reached.dotted) ++ ". Available: "
        ++ (if available = [] ∨ available = [""] then "none"
            else Text.join ", " available) := by
  have hproper : reached ≠ [""] := by
    rintro rfl
    exact hreached "" (List.mem_singleton_self "") rfl
  have hwhere :
      orElse reached.dotted "<root>" = if reached = [] then "<root>" else reached.dotted :=
    (orElse_join (by decide) reached "<root>").trans (if_congr (or_iff_left hproper) rfl rfl)
  unfold message
  dsimp only
  rw [hwhere, orElse_join (by decide : ", " ≠ "")]

/-! ## The statement -/

/-- **A failed look-up reports the longest part of the path that is there.** A path of proper
segments finds the task that it leads to. If it leads to none, there is one depth where it
stops, and to look it up and to resolve it give the same error. It has the whole path, and its
message has the path with dots, the segment that is missing, the segments before it with dots
or that there are none, and the keys at this place in the order of their declaration. It says
that there are none below a command. -/
theorem Book.missing_reports_longest_prefix (book : Book) (path : Path) (hpath : path ≠ [])
    (hsegments : ∀ segment ∈ path, segment ≠ "") :
    (∀ task, book.find path = .ok task ↔ book.tasks.at? path = some task) ∧
    (book.tasks.at? path = none →
      ∃ depth level segment error, book.tasks.StopsAt path depth level segment ∧
        (∀ other further key, book.tasks.StopsAt path other further key → other = depth) ∧
        book.find path = .error error ∧ book.resolve path = .error error ∧
        error = .missing (path.take depth) segment (path.drop (depth + 1)) level.keys ∧
        error.path = path ∧
        error.message = "Task '" ++ path.dotted ++ "' not found: no '" ++ segment ++ "' in "
          ++ (if depth = 0 then "<root>" else Path.dotted (path.take depth)) ++ ". Available: "
          ++ (if level.keys = [] ∨ level.keys = [""] then "none"
              else Text.join ", " level.keys) ∧
        ∀ label text, book.tasks.at? (path.take depth) = some (.command label text) →
          level.keys = []) := by
  have hvalid : path.isValid = true := Path.isValid_iff.2 ⟨hpath, hsegments⟩
  refine ⟨fun task => ?_, fun hnone => ?_⟩
  · rw [Book.find_eq_ok_iff, and_iff_right hvalid]
  · obtain ⟨depth, level, segment, hstops⟩ := Table.exists_stopsAt hpath hnone
    have hfind := Book.find_of_stopsAt hvalid hstops
    have hsplit := hstops.split
    have hroot : path.take depth = [] ↔ depth = 0 := by
      rw [← List.length_eq_zero_iff, hstops.length_take]
    refine ⟨depth, level, segment, _, hstops, fun _ _ _ h => (hstops.unique h).1, hfind,
      Book.resolve_of_find_error hfind, rfl, hsplit, ?_, fun label text hat => ?_⟩
    · rw [LookupError.message_missing fun key hkey => hsegments key (List.mem_of_mem_take hkey),
        hsplit]
      simp only [hroot]
    · exact Table.keys_of_level?_command hstops.followed hat

/-- A misspelt sub-task, with a segment behind it that is never asked for. -/
theorem Book.missing_of_misspelt :
    let book : Book := ⟨.cons "build" (.command { name := "build" } "make")
      (.cons "schema" (.group { name := "schema" }
        (.cons "create" (.command { name := "create" } "make schema")
          (.cons "hub" (.command { name := "hub" } "make hub") .nil)) none) .nil)⟩
    let path := ["schema", "hubs", "all"]
    path ≠ [] ∧ (∀ segment ∈ path, segment ≠ "") ∧ book.tasks.at? path = none ∧
    ∃ error, book.find path = .error error ∧ book.resolve path = .error error ∧
      error.message = "Task 'schema.hubs.all' not found: no 'hubs' in schema. " ++
        "Available: create, hub" := by
  intro book path
  obtain ⟨-, hmissing⟩ := book.missing_reports_longest_prefix path (by decide) (by decide)
  obtain ⟨_, _, _, error, -, -, hfind, hresolve, -⟩ := hmissing rfl
  refine ⟨by decide, by decide, rfl, error, hfind, hresolve, ?_⟩
  cases hfind
  rfl

end Taskbook
