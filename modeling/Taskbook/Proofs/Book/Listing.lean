/-
The lines of a listing, beside the paths that can be called.

A listing and the list of paths are drawn from the same walk, each with a question of its own: the
paths ask whether a task means something when it is called, the lines whether there is a text
to show. The two questions have one answer (`Entry.isSome_commandLine?`), so the lines and the
paths stand side by side, and what the line of a path says can be compared with what a look-up
says about it (`Book.Tells`).

They are not the same on a disabled task. It has its line and its text, with a mark, but a look-up
that asks what to run refuses it. Whether a group above it is disabled makes no difference to
either: an enabled task below a disabled group is listed without a mark, and it resolves.
-/
import Taskbook.Proofs.Book.Walk
import Taskbook.Proofs.InOrder

set_option autoImplicit false

namespace Taskbook

/-! ## What a line says -/

/-- The task declares this text for being called under the path: its own text, or the line that
its default is written as. -/
def Task.Declares (task : Task) (path text : String) : Prop :=
  task.text? = some text ∨ ∃ sequence, task.default? = some sequence ∧ sequence.render path = text

/-- The command line that a resolution of the path amounts to. -/
def Resolution.commandLine (path : String) : Resolution → String
  | .command text => text
  | .sequence names => names.render path

/-- The line tells what there is to know about calling the path. There is a task that declares
the text on the line; without a mark it is also what the path resolves to, and with a mark the
path is refused because the task is disabled. -/
inductive Book.Tells (book : Book) (path : String) : String → Prop
  | plain (task : Task) (text : String) (resolution : Resolution)
      (hfind : book.find (Path.ofDotted path) = .ok task) (hdeclares : task.Declares path text)
      (hresolve : book.resolve (Path.ofDotted path) = .ok resolution)
      (hsame : resolution.commandLine path = text) :
      Tells book path (path ++ "  " ++ text)
  | marked (task : Task) (text : String) (error : LookupError)
      (hfind : book.find (Path.ofDotted path) = .ok task) (hdeclares : task.Declares path text)
      (hresolve : book.resolve (Path.ofDotted path) = .error error)
      (hdisabled : error.isDisabled = true) :
      Tells book path (path ++ " (disabled)" ++ "  " ++ text)

/-! ## One entry -/

theorem Entry.commandLine?_eq_some_iff {entry : Entry} {text : String} :
    entry.commandLine? = some text ↔ entry.task.Declares entry.dotted text := by
  unfold Entry.commandLine? Task.Declares
  cases entry.task with
  | command label own => simp [Task.text?, Task.default?]
  | group label children default => simp [Task.text?, Task.default?]

/-- There is a text to show exactly for the tasks that can be called. -/
theorem Entry.isSome_commandLine? (entry : Entry) :
    entry.commandLine?.isSome = entry.task.isInvocable := by
  unfold Entry.commandLine? Task.isInvocable
  cases entry.task with
  | command label text => rfl
  | group label children default => cases default <;> rfl

/-- What a task declares is what it resolves to, if it is not disabled. -/
theorem Task.Declares.resolution {task : Task} {path : Path} {text : String}
    (h : task.Declares path.dotted text) :
    ∃ resolution, task.resolution path = .ok resolution ∧
      resolution.commandLine path.dotted = text := by
  rcases h with htext | ⟨sequence, hdefault, rfl⟩
  · cases task with
    | command label own =>
      obtain rfl : own = text := by simpa [Task.text?] using htext
      exact ⟨.command own, rfl, rfl⟩
    | group => cases htext
  · cases task with
    | command => cases hdefault
    | group label children default =>
      obtain rfl : default = some sequence := hdefault
      exact ⟨.sequence sequence, rfl, rfl⟩

/-- The line of an entry that can be looked up tells of its path. -/
theorem Book.tells_of_entry {book : Book} {entry : Entry} {text : String}
    (hfind : book.find entry.path = .ok entry.task)
    (hback : Path.ofDotted entry.dotted = entry.path) (htext : entry.commandLine? = some text) :
    ∃ line, entry.line? = some line ∧ book.Tells entry.dotted line := by
  have hdeclares := Entry.commandLine?_eq_some_iff.1 htext
  refine ⟨_, by rw [Entry.line?, htext, Option.map_some], ?_⟩
  cases henabled : entry.task.enabled with
  | true =>
    obtain ⟨resolution, hown, hsame⟩ := hdeclares.resolution
    have hresolve := (Book.resolve_of_find hfind henabled).trans hown
    rw [if_pos rfl, String.append_empty]
    exact .plain entry.task text resolution (by rw [hback, hfind]) hdeclares
      (by rw [hback, hresolve]) hsame
  | false =>
    have hresolve := Book.resolve_of_disabled hfind henabled
    rw [if_neg Bool.false_ne_true]
    exact .marked entry.task text _ (by rw [hback, hfind]) hdeclares (by rw [hback, hresolve]) rfl

/-! ## All lines -/

/-- **The listing tells what look-ups tell.** In a sound book whose keys are all proper names, the
lines of the listing stand side by side with the paths that can be called, with the disabled ones
or without, and each line tells of its path. -/
theorem Book.listing_tells_of_paths (book : Book) (hsound : book.isSound = true)
    (hkeys : book.tasks.keysPass validName = true) (withDisabled : Bool) :
    List.Forall₂ book.Tells (book.paths withDisabled) (book.listing withDisabled) := by
  unfold Book.paths Book.listing
  apply forall₂_map_filter_filterMap
  · intro entry hentry hinvocable
    have hfind := ((Book.mem_entries_iff hsound hkeys).1 hentry).1
    rw [← Entry.isSome_commandLine?, Option.isSome_iff_exists] at hinvocable
    obtain ⟨text, htext⟩ := hinvocable
    exact Book.tells_of_entry hfind (Book.ofDotted_dotted_of_find hkeys hfind) htext
  · intro entry _ hnot
    rw [← Entry.isSome_commandLine?, Option.isSome_eq_false_iff, Option.isNone_iff_eq_none] at hnot
    rw [Entry.line?, hnot, Option.map_none]

/-- In a disabled group with a default, the group is marked and its task is not. -/
theorem Book.disabled_group_is_marked :
    let book : Book := ⟨.cons "old" (.group { name := "old", enabled := false }
      (.cons "x" (.command { name := "x" } "make x") .nil) (Sequence.ofNames? ["x", "x"])) .nil⟩
    book.isSound = true ∧ book.tasks.keysPass validName = true ∧
    book.paths true = ["old", "old.x"] ∧
    book.listing true = ["old (disabled)  nps old.x old.x", "old.x  make x"] ∧
    book.Tells "old" "old (disabled)  nps old.x old.x" ∧ book.Tells "old.x" "old.x  make x" := by
  intro book
  have hsound : book.isSound = true := by decide
  have hkeys : book.tasks.keysPass validName = true := by decide
  have hpaths : book.paths true = ["old", "old.x"] := by decide
  have hlines : book.listing true = ["old (disabled)  nps old.x old.x", "old.x  make x"] := by
    decide
  have htells := book.listing_tells_of_paths hsound hkeys true
  rw [hpaths, hlines, List.forall₂_cons, List.forall₂_cons] at htells
  exact ⟨hsound, hkeys, hpaths, hlines, htells.1, htells.2.1⟩

end Taskbook
