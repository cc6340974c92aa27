/-
The line that runs some of a group's tasks, written from their names and read back into them.

Writing puts one space between the words. Reading takes the words of a line whatever blanks
stand between and around them, so the two are inverse to each other up to blanks: a line is
read as a list of names exactly if its words, one space apart, are the line that is written
for these names (`Sequence.parse_eq_ok_iff_render`).

Not every list of names can be written and read again. A blank in a name tears it apart, a
task without a name is no task, and the first dot of a word ends the parent, which therefore
holds none (`Sequence.FitsLine`). The names themselves may hold dots. Reading takes care of all
this by itself: what it gives always fits.
-/
import Taskbook.Proofs.Mapping.Reading
import Mathlib.Data.List.TakeWhile

set_option autoImplicit false

namespace Taskbook

/-! ## Names that fit on a line -/

/-- The names can be written on a line below the parent: no blank stands in any of them or in
the parent, the parent has no dot, and none of the names is empty. -/
structure Sequence.FitsLine (parent : String) (names : List String) : Prop where
  no_blank : ∀ name ∈ parent :: names, ∀ c ∈ name.toList, Text.isBlank c = false
  no_dot : '.' ∉ parent.toList
  no_empty : ∀ name ∈ names, name ≠ ""

/-- A rendered sequence is read as the runner's word and the dotted names. -/
theorem Sequence.words_render {parent : String} {sequence : Sequence}
    (h : ∀ name ∈ parent :: sequence.names, ∀ c ∈ name.toList, Text.isBlank c = false) :
    Text.words (sequence.render parent) = "nps" :: sequence.names.map (parent ++ "." ++ ·) := by
  refine Text.words_join (List.cons_ne_nil _ _) (List.forall_mem_cons.2 ⟨by decide, ?_⟩)
  refine List.forall_mem_map.2 fun name hname => Text.isSolid_iff.2 ⟨by simp, fun c hc => ?_⟩
  obtain ⟨hparent, hnames⟩ := List.forall_mem_cons.1 h
  -- the characters are those of the two names and a dot
  simp only [String.toList_append, List.mem_append] at hc
  rcases hc with (hc | hc) | hc
  · exact hparent c hc
  · obtain rfl : c = '.' := by simpa using hc
    decide
  · exact hnames name hname c hc

/-! ## Names that are read -/

/-- Nothing that stands before the first dot is a dot. -/
theorem dot_not_mem_of_splitFirstDot {token first name : String}
    (h : splitFirstDot token = (first, name)) : '.' ∉ first.toList := by
  rw [splitFirstDot, Prod.mk.injEq] at h
  rw [← h.1, String.toList_ofList]
  intro hdot
  simpa using List.mem_takeWhile_imp hdot

/-- A parent that names have been read below has no dot. -/
theorem Sequence.dot_not_mem_of_parse {parent line : String} {sequence : Sequence}
    (h : Sequence.parse parent line = .ok (some sequence.names)) : '.' ∉ parent.toList := by
  obtain ⟨tokens, -, hread⟩ := Sequence.parse_eq_ok_iff_mapM.1 h
  -- any of the words tells, and there is one because there are names
  obtain ⟨name, hname⟩ := List.exists_mem_of_ne_nil _ sequence.names_ne_nil
  obtain ⟨token, -, htoken⟩ := item_of_mapM_ok hread hname
  exact dot_not_mem_of_splitFirstDot (subTaskName_eq_ok_iff_splitFirstDot.1 htoken).1

/-- The dotted names are words, so that nothing in them is blank. -/
theorem Sequence.no_blank_of_words {parent line : String} {sequence : Sequence}
    (h : Text.words line = "nps" :: sequence.names.map (parent ++ "." ++ ·)) :
    ∀ name ∈ parent :: sequence.names, ∀ c ∈ name.toList, Text.isBlank c = false := by
  have hwhole : ∀ name ∈ sequence.names, ∀ c ∈ (parent ++ "." ++ name).toList,
      Text.isBlank c = false := by
    intro name hname
    have hword : parent ++ "." ++ name ∈ Text.words line := by
      rw [h]
      exact List.mem_cons_of_mem _ (List.mem_map_of_mem hname)
    exact (Text.isSolid_iff.1 (Text.isSolid_of_mem_words hword)).2
  obtain ⟨first, hfirst⟩ := List.exists_mem_of_ne_nil _ sequence.names_ne_nil
  refine List.forall_mem_cons.2 ⟨?_, ?_⟩
  · intro c hc
    exact hwhole first hfirst c (by simp [hc])
  · intro name hname c hc
    exact hwhole name hname c (by simp [hc])

/-! ## Writing against reading -/

/-- **Reading is writing, up to blanks.** A line is read as the names of a sequence exactly if
the names fit on a line and its words, a space apart, are the line that is written for them. -/
theorem Sequence.parse_eq_ok_iff_render {parent line : String} {sequence : Sequence} :
    Sequence.parse parent line = .ok (some sequence.names) ↔
      Sequence.FitsLine parent sequence.names ∧
        sequence.render parent = Text.join " " (Text.words line) := by
  constructor
  · intro h
    have hdot := Sequence.dot_not_mem_of_parse h
    obtain ⟨hwords, hempty⟩ := (Sequence.parse_eq_ok_iff hdot).1 h
    refine ⟨⟨Sequence.no_blank_of_words hwords, hdot, hempty⟩, ?_⟩
    rw [hwords]
    rfl
  · rintro ⟨hfits, hline⟩
    have hwords : Text.words line = "nps" :: sequence.names.map (parent ++ "." ++ ·) := by
      rw [← Sequence.words_render hfits.no_blank, hline, Text.words_join_words]
    exact (Sequence.parse_eq_ok_iff hfits.no_dot).2 ⟨hwords, hfits.no_empty⟩

/-- **Writing a sequence and reading a line undo each other.** The line that is written for a
sequence whose names fit is read as these names; and if any line at all is read as the names
of a sequence, the names fit, and what is written for them is the line with its words one
space apart. -/
theorem Sequence.render_and_parse_undo_each_other (parent : String) (sequence : Sequence) :
    (Sequence.FitsLine parent sequence.names →
      Sequence.parse parent (sequence.render parent) = .ok (some sequence.names)) ∧
    ∀ line, Sequence.parse parent line = .ok (some sequence.names) →
      Sequence.FitsLine parent sequence.names ∧
        sequence.render parent = Text.join " " (Text.words line) := by
  constructor
  · intro hfits
    refine Sequence.parse_eq_ok_iff_render.2 ⟨hfits, ?_⟩
    -- the words of the written line are those it was made of
    rw [Sequence.words_render hfits.no_blank]
    rfl
  · intro line hread
    exact Sequence.parse_eq_ok_iff_render.1 hread

/-- A line with odd blanks that runs a task of a dotted name twice. -/
theorem Sequence.odd_blanks_are_evened :
    let sequence : Sequence := ⟨["unit.fast", "lint", "unit.fast"], by decide⟩
    let line := " nps\tcheck.unit.fast\x0d\n  check.lint\u2003check.unit.fast\x1f"
    Sequence.FitsLine "check" sequence.names ∧
    Sequence.parse "check" (sequence.render "check") = .ok (some sequence.names) ∧
    Sequence.parse "check" line = .ok (some sequence.names) ∧
    sequence.render "check" = Text.join " " (Text.words line) := by
  intro sequence line
  have hsolid : ∀ name ∈ "check" :: sequence.names, Text.isSolid name.toList = true := by decide
  have hfits : Sequence.FitsLine "check" sequence.names :=
    ⟨fun name hname => (Text.isSolid_iff.1 (hsolid name hname)).2, by decide, by decide⟩
  have hread : Sequence.parse "check" line = .ok (some sequence.names) := by decide
  obtain ⟨hback, hline⟩ := Sequence.render_and_parse_undo_each_other "check" sequence
  exact ⟨hfits, hback hfits, hread, (hline line hread).2⟩

end Taskbook
