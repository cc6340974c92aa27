/-
Directories that can be written down, and where they lead.

A directory is a root and a list of parts, and most lists of parts cannot be written: a
part that is empty, a dot, or holds a slash never comes out of a text. `Dir.IsWritten`
leaves those out. What is left are exactly the directories that texts name, because each
is read back from its own spelling (`Dir.ofText_text`).

Two directories overlap if one of them lies at or below the other. That is a test of two
prefixes; what it is meant to find out is whether some path lies at or below both.
`Dir.overlaps_iff_meets` says that it does.

A directory can also be followed. `Dir.join` starts at a base, and `Dir.collapse` lets
every `..` take back the part before it. Both go by the spelling alone. A list of parts
without `..` survives the collapse as it is, at the end of whatever came before, and this
is the one fact that comparing collapsed directories needs (`Dir.collapse_below`).
-/
import Taskbook.Directory

set_option autoImplicit false

namespace Taskbook

/-! ## Directories that a text names -/

/-- Every part can stand between two slashes and says something there. -/
def Dir.IsWritten (dir : Dir) : Prop :=
  ∀ part ∈ dir.parts, Dir.isTelling part = true ∧ '/' ∉ part.toList

theorem Dir.isWritten_ofText (text : String) : (Dir.ofText text).IsWritten := by
  intro part hpart
  obtain ⟨hpiece, htelling⟩ := List.mem_filter.1 hpart
  exact ⟨htelling, Text.not_mem_of_mem_pieces hpiece⟩

/-- The root is read back from in front of a text that does not start with a slash. -/
theorem Root.ofText_append (root : Root) {rest : String} (hrest : '/' ∉ rest.toList.head?) :
    Root.ofText (root.text ++ rest) = root := by
  have hstop : rest.toList.takeWhile (· == '/') = [] := by
    cases hlist : rest.toList with
    | nil => rfl
    | cons c more =>
      have hc : c ≠ '/' := by
        rw [hlist] at hrest
        simpa [eq_comm] using hrest
      simp [hc]
  cases root <;> simp [Root.ofText, Root.text, hstop]

/-- A slash in front only adds an empty piece. -/
theorem Text.pieces_slash (rest : String) :
    Text.pieces '/' ("/" ++ rest) = "" :: Text.pieces '/' rest := by
  rw [Text.pieces, String.toList_append]
  rfl

/-- The slashes of the root add no part. -/
theorem Dir.filter_pieces_root (root : Root) (rest : String) :
    (Text.pieces '/' (root.text ++ rest)).filter Dir.isTelling
      = (Text.pieces '/' rest).filter Dir.isTelling := by
  have hempty : Dir.isTelling "" = false := rfl
  cases root with
  | here => rw [Root.text, String.empty_append]
  | top => rw [Root.text, Text.pieces_slash, List.filter_cons_of_neg (by simp [hempty])]
  | doubled =>
    have hslashes : "//" ++ rest = "/" ++ ("/" ++ rest) := by
      rw [← String.append_assoc]
      rfl
    rw [Root.text, hslashes, Text.pieces_slash, Text.pieces_slash,
      List.filter_cons_of_neg (by simp [hempty]), List.filter_cons_of_neg (by simp [hempty])]

/-- Parts that can be written are the pieces of their joined text. -/
theorem Dir.filter_pieces_join {parts : List String}
    (hparts : ∀ part ∈ parts, Dir.isTelling part = true ∧ '/' ∉ part.toList) :
    (Text.pieces '/' (Text.join "/" parts)).filter Dir.isTelling = parts := by
  cases parts with
  | nil => rfl
  | cons part rest =>
    have hpieces : Text.pieces '/' (Text.join "/" (part :: rest)) = part :: rest :=
      Text.pieces_join (List.cons_ne_nil part rest) fun other hother => (hparts other hother).2
    rw [hpieces, List.filter_eq_self]
    exact fun other hother => (hparts other hother).1

/-- The joined text of such parts does not start with a slash. -/
theorem Dir.head?_join_ne_slash {parts : List String}
    (hparts : ∀ part ∈ parts, Dir.isTelling part = true ∧ '/' ∉ part.toList) :
    '/' ∉ (Text.join "/" parts).toList.head? := by
  cases parts with
  | nil => simp [Text.join]
  | cons part rest =>
    obtain ⟨htelling, hslash⟩ := hparts part List.mem_cons_self
    -- the first part is not empty, so its first character is the first of the text
    have hne : part.toList ≠ [] := by
      intro hnil
      rw [String.toList_eq_nil_iff.1 hnil] at htelling
      cases htelling
    obtain ⟨c, others, hfirst⟩ := List.exists_cons_of_ne_nil hne
    have hhead : (Text.join "/" (part :: rest)).toList.head? = some c := by
      cases rest with
      | nil => rw [Text.join, hfirst, List.head?_cons]
      | cons next more =>
        rw [Text.join, String.toList_append, String.toList_append, hfirst, List.cons_append,
          List.cons_append, List.head?_cons]
    rw [hhead, Option.mem_some_iff]
    rintro rfl
    exact hslash (hfirst ▸ List.mem_cons_self)

/-- A directory that can be written is read back from its spelling. -/
theorem Dir.ofText_text {dir : Dir} (h : dir.IsWritten) : Dir.ofText dir.text = dir := by
  obtain ⟨root, parts⟩ := dir
  rw [Dir.text]
  split
  · next hempty =>
    -- nothing to write: no root and no parts
    obtain ⟨hroot, hjoin⟩ : root.text = "" ∧ Text.join "/" parts = "" :=
      String.append_eq_empty_iff.1 hempty
    have hparts : parts = [] := by
      have hback := Dir.filter_pieces_join h
      rw [hjoin] at hback
      exact hback.symm
    subst hparts
    cases root with
    | here => rfl
    | top => simp [Root.text] at hroot
    | doubled => simp [Root.text] at hroot
  · rw [Dir.ofText, Root.ofText_append root (Dir.head?_join_ne_slash h), Dir.filter_pieces_root,
      Dir.filter_pieces_join h]

/-! ## Paths at or below two directories -/

theorem Dir.liesWithin_refl (dir : Dir) : dir.liesWithin dir = true :=
  Dir.liesWithin_iff.2 ⟨rfl, List.prefix_refl _⟩

/-- Some path that can be written lies at or below both directories. -/
def Dir.Meets (a b : Dir) : Prop :=
  ∃ text, (Dir.ofText text).liesWithin a = true ∧ (Dir.ofText text).liesWithin b = true

theorem Dir.Meets.symm {a b : Dir} (h : a.Meets b) : b.Meets a := by
  obtain ⟨text, ha, hb⟩ := h
  exact ⟨text, hb, ha⟩

/-- Directories overlap exactly if some path lies at or below both of them. -/
theorem Dir.overlaps_iff_meets {a b : Dir} (ha : a.IsWritten) (hb : b.IsWritten) :
    a.overlaps b = true ↔ a.Meets b := by
  rw [Dir.overlaps, Bool.or_eq_true]
  constructor
  · -- the lower of the two is such a path itself
    rintro (hin | hin)
    · refine ⟨a.text, ?_, ?_⟩ <;> rw [Dir.ofText_text ha]
      · exact a.liesWithin_refl
      · exact hin
    · refine ⟨b.text, ?_, ?_⟩ <;> rw [Dir.ofText_text hb]
      · exact hin
      · exact b.liesWithin_refl
  · rintro ⟨text, hina, hinb⟩
    obtain ⟨hroota, hparta⟩ := Dir.liesWithin_iff.1 hina
    obtain ⟨hrootb, hpartb⟩ := Dir.liesWithin_iff.1 hinb
    have hroot : a.root = b.root := hroota.symm.trans hrootb
    -- two first parts of one list: the shorter begins the longer
    rcases List.prefix_or_prefix_of_prefix hparta hpartb with hpre | hpre
    · exact .inr (Dir.liesWithin_iff.2 ⟨hroot.symm, hpre⟩)
    · exact .inl (Dir.liesWithin_iff.2 ⟨hroot, hpre⟩)

/-! ## Following a directory -/

/-- The directory that `dir` leads to from `base`: below it, unless `dir` has a root of its
own. -/
def Dir.join (base dir : Dir) : Dir :=
  if dir.root = .here then base.below dir.parts else dir

theorem Dir.below_below (dir : Dir) (first second : List String) :
    (dir.below first).below second = dir.below (first ++ second) := by
  rw [Dir.below, Dir.below, Dir.below, List.append_assoc]

theorem Dir.join_below (base dir : Dir) (parts : List String) :
    base.join (dir.below parts) = (base.join dir).below parts := by
  rw [Dir.join, Dir.join]
  have hroot : (dir.below parts).root = dir.root := rfl
  rw [hroot]
  split
  · exact (Dir.below_below base dir.parts parts).symm
  · rfl

/-- One more part after those in `above`, which stand nearest first. Two dots take back the
nearest; at a root there is nothing to take back, and at the current directory they stay. -/
def Dir.goOn (root : Root) (above : List String) (part : String) : List String :=
  if part = ".." then
    match above with
    | [] => if root = .here then [".."] else []
    | nearest :: others => if nearest = ".." then ".." :: nearest :: others else others
  else part :: above

/-- The directory with every `..` worked off as far as possible. -/
def Dir.collapse (dir : Dir) : Dir :=
  ⟨dir.root, (dir.parts.foldl (Dir.goOn dir.root) []).reverse⟩

/-- Parts without two dots are taken one after the other. -/
theorem Dir.foldl_goOn_of_plain {root : Root} {parts : List String} (hplain : ".." ∉ parts)
    (above : List String) : parts.foldl (Dir.goOn root) above = parts.reverse ++ above := by
  induction parts generalizing above with
  | nil => rfl
  | cons part rest ih =>
    rw [List.mem_cons, not_or] at hplain
    have hstep : Dir.goOn root above part = part :: above := if_neg (Ne.symm hplain.1)
    rw [List.foldl_cons, hstep, ih hplain.2, List.reverse_cons, List.append_assoc]
    rfl

/-- Parts without two dots stay as they are at the end of a collapsed directory. -/
theorem Dir.collapse_below (dir : Dir) {parts : List String} (hplain : ".." ∉ parts) :
    (dir.below parts).collapse = dir.collapse.below parts := by
  rw [Dir.collapse, Dir.below, List.foldl_append, Dir.foldl_goOn_of_plain hplain,
    List.reverse_append, List.reverse_reverse]
  rfl

/-- Going on in the same way from two directories that collapse to the same leads to the
same. -/
theorem Dir.collapse_below_congr {a b : Dir} (h : a.collapse = b.collapse)
    (parts : List String) : (a.below parts).collapse = (b.below parts).collapse := by
  obtain ⟨hroot, hparts⟩ := Dir.mk.inj h
  have habove := List.reverse_inj.1 hparts
  simp only [Dir.collapse, Dir.below, List.foldl_append]
  rw [habove, hroot]

/-- Below one directory, what lies within what is a matter of the parts that follow. -/
theorem Dir.below_liesWithin_below_iff (dir : Dir) {first second : List String} :
    (dir.below first).liesWithin (dir.below second) = true ↔ second <+: first := by
  have hroot : (dir.below first).root = (dir.below second).root := rfl
  rw [Dir.liesWithin_iff, and_iff_right hroot]
  exact List.prefix_append_right_inj dir.parts

end Taskbook
