/-
Blank characters, and what is left of a text without them.

Two readers of this library go by blanks: the default of a group is written as
words, and a setting is read without the blanks around it. Both mean the blanks
of Unicode, the four separators U+001C to U+001F among them, and not the space
bar alone: a no-break space separates words, a zero-width space does not.
-/
import Taskbook.Text.Split

set_option autoImplicit false

namespace Taskbook.Text

/-- The blank characters: the controls U+0009 to U+000D and U+001C to U+001F,
NEXT LINE, and every character that Unicode lists as a space or as a line or
paragraph separator. -/
def isBlank (c : Char) : Bool :=
  let n := c.toNat
  (0x09 ≤ n && n ≤ 0x0D) || (0x1C ≤ n && n ≤ 0x20) || n == 0x85 || n == 0xA0 || n == 0x1680 ||
    (0x2000 ≤ n && n ≤ 0x200A) || n == 0x2028 || n == 0x2029 || n == 0x202F || n == 0x205F ||
    n == 0x3000

/-- A text with at least one character, none of them blank: the form of a word. -/
def isSolid (text : List Char) : Bool :=
  !text.isEmpty && text.all (fun c => !isBlank c)

/-- The words of a text: its runs of characters that are not blank. -/
def wordsOf (text : List Char) : List (List Char) :=
  (splitWhere isBlank text).filter (fun run => !run.isEmpty)

/-- Words are solid. -/
theorem isSolid_of_mem_wordsOf {text word : List Char} (h : word ∈ wordsOf text) :
    isSolid word = true := by
  obtain ⟨hmem, hne⟩ := List.mem_filter.1 h
  have solid : ∀ c ∈ word, isBlank c = false := fun c hc =>
    cut_eq_false_of_mem_splitWhere hmem hc
  simp_all [isSolid]

/-- The words of `text`, in order. -/
def words (text : String) : List String :=
  (wordsOf text.toList).map String.ofList

/-- A text is solid exactly if it has a character and none of them is blank. -/
theorem isSolid_iff {text : List Char} :
    isSolid text = true ↔ text ≠ [] ∧ ∀ c ∈ text, isBlank c = false := by
  simp [isSolid]

/-- Solid texts are the words of the line that they are joined to. -/
theorem words_join {texts : List String} (hne : texts ≠ [])
    (hsolid : ∀ text ∈ texts, isSolid text.toList = true) : words (join " " texts) = texts := by
  have hruns : splitWhere isBlank (glue [' '] (texts.map String.toList))
      = texts.map String.toList := by
    refine splitWhere_glue (by decide) (by simpa using hne) fun run hrun => ?_
    obtain ⟨text, htext, rfl⟩ := List.mem_map.1 hrun
    exact (isSolid_iff.1 (hsolid text htext)).2
  have hkept : (texts.map String.toList).filter (fun run => !run.isEmpty)
      = texts.map String.toList := by
    refine List.filter_eq_self.2 fun run hrun => ?_
    obtain ⟨text, htext, rfl⟩ := List.mem_map.1 hrun
    simpa using (isSolid_iff.1 (hsolid text htext)).1
  have hspace : " ".toList = [' '] := rfl
  rw [words, wordsOf, toList_join, hspace, hruns, hkept, List.map_map]
  simp [Function.comp_def]

theorem isSolid_of_mem_words {text word : String} (h : word ∈ words text) :
    isSolid word.toList = true := by
  obtain ⟨run, hrun, rfl⟩ := List.mem_map.1 h
  rw [String.toList_ofList]
  exact isSolid_of_mem_wordsOf hrun

/-- Joined by spaces, the words of a text are its words still. -/
theorem words_join_words (text : String) : words (join " " (words text)) = words text := by
  by_cases hnone : words text = []
  · rw [hnone]
    rfl
  · exact words_join hnone fun _ hword => isSolid_of_mem_words hword

/-- The text without the blanks at its two ends. -/
def trim (text : String) : String :=
  String.ofList (((text.toList.dropWhile isBlank).reverse.dropWhile isBlank).reverse)

end Taskbook.Text
