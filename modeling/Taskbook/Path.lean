/-
Paths: the way to a task, from the top of the book down.

A path is a list of segments, one key for each level. It is written with dots,
and both spellings name the same task. A segment is never empty, so a path that
is empty or has an empty segment is refused before any look-up. Whether a
segment may hold a dot is left to the book: the dotted spelling cannot express
it, the list can.
-/
import Taskbook.Text.Split

set_option autoImplicit false

namespace Taskbook

/-- The keys that lead to a task, outermost first. -/
abbrev Path := List String

namespace Path

/-- The segments of a dotted text; the empty text has none (`split_path`). -/
def ofDotted (text : String) : Path :=
  if text = "" then [] else Text.pieces '.' text

/-- The segments with dots between them. -/
def dotted (path : Path) : String :=
  Text.join "." path

/-- A path that can lead to a task: at least one segment, none of them empty. -/
def isValid (path : Path) : Bool :=
  !path.isEmpty && path.all (fun segment => segment != "")

/-- The dotted spelling loses nothing. -/
theorem dotted_ofDotted (text : String) : (ofDotted text).dotted = text := by
  unfold ofDotted dotted
  split
  · next h => simp [Text.join, h]
  · exact Text.join_pieces '.' text

/-- Segments without a dot come back from the dotted spelling. -/
theorem ofDotted_dotted {path : Path} (hvalid : path.isValid = true)
    (hdots : ∀ segment ∈ path, '.' ∉ segment.toList) : ofDotted path.dotted = path := by
  have hne : path ≠ [] := by
    rintro rfl
    simp [isValid] at hvalid
  have back : Text.pieces '.' path.dotted = path := Text.pieces_join hne hdots
  have htext : path.dotted ≠ "" := by
    intro hempty
    rw [hempty] at back
    have hpath : path = [""] := by
      rw [← back]
      rfl
    rw [hpath] at hvalid
    simp [isValid] at hvalid
  simp [ofDotted, htext, back]

end Path

end Taskbook
