/-
Two spellings of a path: one text with dots, or the list of its segments.

Whatever is asked of a book, the path may come in either spelling. It is taken apart first
(`Spelling.split`), and what is no path is refused there. A text is a path exactly if no dot stands
first, last or beside another (`WellDotted`): an empty piece is what is before a first dot, behind a
last one, or between two neighbours (`Text.empty_mem_pieces_iff`). Cutting at the dots and putting
dots between the pieces undo each other, so a text and its pieces are the same path to every
operation, and an error that writes its path with dots writes the very text that was asked for.

The operations themselves refuse what is no path, too. So it does not matter whether what they are
given has been taken apart before (`Spelling.lookUp_of_refuses`).
-/
import Mathlib.Data.List.Infix
import Mathlib.Tactic.MkIffOfInductiveProp
import Taskbook.Proofs.Plan.Expansion

set_option autoImplicit false

namespace Taskbook

/-! ## Empty pieces -/

namespace Text

/-- The first piece is empty if the text is or if a mark stands first. -/
theorem nil_mem_splitWhere_iff (mark : Char) (text : List Char) :
    [] ∈ splitWhere (· == mark) text ↔
      text = [] ∨ text.head? = some mark ∨ [] ∈ (splitWhere (· == mark) text).tail := by
  cases text with
  | nil => simp [splitWhere]
  | cons c rest =>
    by_cases hc : c = mark
    · simp [splitWhere, hc]
    · simp only [splitWhere, beq_iff_eq, hc, if_false]
      split <;> simp [hc]

/-- A later piece is empty if a mark stands last, or two stand side by side. -/
theorem nil_mem_tail_splitWhere_iff (mark : Char) (text : List Char) :
    [] ∈ (splitWhere (· == mark) text).tail ↔
      text.getLast? = some mark ∨ [mark, mark] <:+: text := by
  induction text with
  | nil => simp [splitWhere]
  | cons c rest ih =>
    by_cases hc : c = mark
    · -- the pieces of the rest are the later pieces now, the first of them with the others
      subst hc
      have htail : (splitWhere (· == c) (c :: rest)).tail = splitWhere (· == c) rest := by
        simp [splitWhere]
      rw [htail, nil_mem_splitWhere_iff, ih, List.infix_cons_iff]
      cases rest with
      | nil => simp
      | cons d rest =>
        have hpair : [c, c] <+: c :: d :: rest ↔ d = c := by
          simp [List.cons_prefix_cons, eq_comm]
        rw [hpair, List.getLast?_cons_cons, List.head?_cons, Option.some_inj,
          or_iff_right (List.cons_ne_nil d rest)]
        exact or_left_comm
    · have htail : (splitWhere (· == mark) (c :: rest)).tail
          = (splitWhere (· == mark) rest).tail := by
        simp only [splitWhere, beq_iff_eq, hc, if_false]
        split
        · next h => exact absurd h (splitWhere_ne_nil _ _)
        · next h => rw [h]; rfl
      have hpair : ¬[mark, mark] <+: c :: rest := by
        intro hprefix
        exact hc (List.cons_prefix_cons.1 hprefix).1.symm
      rw [htail, ih, List.infix_cons_iff, or_iff_right hpair]
      cases rest with
      | nil => simp [hc]
      | cons d rest => rw [List.getLast?_cons_cons]

/-- One of the pieces is empty if there is nothing but it, or a mark stands first, last or beside
another. -/
theorem empty_mem_pieces_iff (mark : Char) (text : String) :
    "" ∈ pieces mark text ↔
      text = "" ∨ text.toList.head? = some mark ∨ text.toList.getLast? = some mark ∨
        [mark, mark] <:+: text.toList := by
  have hlist : "" ∈ pieces mark text ↔ [] ∈ splitWhere (· == mark) text.toList := by
    simp [pieces]
  rw [hlist, nil_mem_splitWhere_iff, nil_mem_tail_splitWhere_iff, String.toList_eq_nil_iff]

end Text

/-! ## Taking a spelling apart -/

/-- The text is a path with dots: it is not empty, and no dot stands first, last or beside
another. -/
@[mk_iff]
structure WellDotted (text : String) : Prop where
  nonempty : text ≠ ""
  not_first : text.toList.head? ≠ some '.'
  not_last : text.toList.getLast? ≠ some '.'
  not_adjacent : ¬['.', '.'] <:+: text.toList

/-- A path as it is asked for. -/
inductive Spelling where
  /-- One text, with dots between the segments. -/
  | dotted (text : String)
  /-- The segments one by one. -/
  | listed (segments : List String)
  deriving DecidableEq, Repr

namespace Spelling

/-- The segments that are written, be they a path or not. -/
def segments : Spelling → Path
  | dotted text => Path.ofDotted text
  | listed segments => segments

/-- The path that is written, or the refusal of what is none. -/
def split (spelling : Spelling) : Except LookupError Path :=
  if spelling.segments.isValid then .ok spelling.segments
  else .error (.invalidPath spelling.segments)

variable {spelling : Spelling} {text : String} {path : Path}

theorem split_eq_ok_iff :
    spelling.split = .ok path ↔ spelling.segments.isValid = true ∧ path = spelling.segments := by
  unfold split
  by_cases hvalid : spelling.segments.isValid = true
  · rw [if_pos hvalid, Except.ok.injEq, eq_comm, and_iff_right hvalid]
  · rw [if_neg hvalid]
    exact ⟨nofun, fun h => absurd h.1 hvalid⟩

theorem segments_dotted (htext : text ≠ "") :
    (dotted text).segments = Text.pieces '.' text := by
  rw [segments, Path.ofDotted, if_neg htext]

/-- The empty text has no segments at all, and not one that is empty. -/
example : (dotted "").split = .error (.invalidPath []) ∧
    (listed (Text.pieces '.' "")).split = .error (.invalidPath [""]) := ⟨rfl, rfl⟩

theorem isValid_segments_iff : (dotted text).segments.isValid = true ↔ WellDotted text := by
  by_cases htext : text = ""
  · constructor
    · intro hvalid
      rw [segments, Path.ofDotted, if_pos htext] at hvalid
      cases hvalid
    · intro h
      exact absurd htext h.nonempty
  · have hpieces : (∀ segment ∈ Text.pieces '.' text, segment ≠ "") ↔
        "" ∉ Text.pieces '.' text := List.forall_mem_ne'
    rw [segments_dotted htext, Path.isValid_iff, and_iff_right (Text.pieces_ne_nil '.' text),
      hpieces, Text.empty_mem_pieces_iff, wellDotted_iff, not_or, not_or, not_or]

instance (text : String) : Decidable (WellDotted text) :=
  decidable_of_iff _ isValid_segments_iff

/-- A path of segments without dots is read back from the text. -/
theorem split_dotted_dotted (hpath : path ≠ [])
    (hkeys : ∀ key ∈ path, key ≠ "" ∧ '.' ∉ key.toList) :
    (dotted path.dotted).split = .ok path := by
  have hvalid : path.isValid = true :=
    Path.isValid_iff.2 ⟨hpath, fun key hkey => (hkeys key hkey).1⟩
  have hback : (dotted path.dotted).segments = path :=
    Path.ofDotted_dotted hvalid fun key hkey => (hkeys key hkey).2
  rw [split_eq_ok_iff, hback]
  exact ⟨hvalid, rfl⟩

/-- What a text is taken apart into is a path of segments without dots, and makes the text. -/
theorem of_split_dotted (h : (dotted text).split = .ok path) :
    path.dotted = text ∧ path ≠ [] ∧ ∀ key ∈ path, key ≠ "" ∧ '.' ∉ key.toList := by
  obtain ⟨hvalid, rfl⟩ := split_eq_ok_iff.1 h
  have htext : text ≠ "" := (isValid_segments_iff.1 hvalid).nonempty
  obtain ⟨hne, hkeys⟩ := Path.isValid_iff.1 hvalid
  refine ⟨Path.dotted_ofDotted text, hne, fun key hkey => ⟨hkeys key hkey, ?_⟩⟩
  rw [segments_dotted htext] at hkey
  exact Text.not_mem_of_mem_pieces hkey

/-- An operation on paths, for a path in either spelling. -/
def lookUp {α : Type} (operation : Path → Except LookupError α) (spelling : Spelling) :
    Except LookupError α := do
  let path ← spelling.split
  operation path

/-- An operation that refuses what is no path by itself gives what it gives for the segments. -/
theorem lookUp_of_refuses {α : Type} {operation : Path → Except LookupError α}
    (hrefuses : ∀ path : Path, path.isValid = false → operation path = .error (.invalidPath path))
    (spelling : Spelling) : spelling.lookUp operation = operation spelling.segments := by
  unfold lookUp split
  cases hvalid : spelling.segments.isValid with
  | true => rfl
  | false => exact (hrefuses _ hvalid).symm

end Spelling

/-! ## The operations of a book -/

/-- What cannot be followed is reported with all its segments. -/
theorem Table.path_of_follow {reached rest : Path} {table : Table} {segment : String}
    {error : LookupError} (h : table.follow reached segment rest = .error error) :
    error.path = reached ++ segment :: rest := by
  induction rest generalizing reached table segment with
  | nil =>
    rw [Table.follow] at h
    split at h
    · cases h
    · cases h
      rfl
  | cons next rest ih =>
    rw [Table.follow] at h
    split at h
    · rw [ih h, List.append_assoc]
      rfl
    · cases h
      rfl

namespace Book

variable {book : Book} {path : Path} {error : LookupError}

theorem find_of_invalid (hvalid : path.isValid = false) :
    book.find path = .error (.invalidPath path) := by
  unfold find
  rw [if_neg (by simp [hvalid])]

theorem resolve_of_invalid (hvalid : path.isValid = false) :
    book.resolve path = .error (.invalidPath path) :=
  resolve_of_find_error (find_of_invalid hvalid)

theorem plan_of_invalid (hvalid : path.isValid = false) :
    book.plan path = .error (.invalidPath path) :=
  plan_of_error (resolve_of_invalid hvalid)

/-- The error of a look-up has the path that was looked up. -/
theorem path_of_find (h : book.find path = .error error) : error.path = path := by
  unfold find at h
  split at h
  · split at h
    · cases h
      rfl
    · exact Table.path_of_follow h
  · cases h
    rfl

theorem path_of_resolve (h : book.resolve path = .error error) : error.path = path := by
  cases hfind : book.find path with
  | error own =>
    rw [resolve_of_find_error hfind] at h
    cases h
    exact path_of_find hfind
  | ok task =>
    cases henabled : task.enabled with
    | false =>
      rw [resolve_of_disabled hfind henabled] at h
      cases h
      rfl
    | true =>
      rw [resolve_of_find hfind henabled] at h
      rcases task with ⟨label, text⟩ | ⟨label, children, _ | sequence⟩
      · cases h
      · cases h
        rfl
      · cases h

/-- A plan is called by the dotted path. -/
theorem name_of_plan {plan : Plan} (h : book.plan path = .ok plan) : plan.name = path.dotted := by
  obtain ⟨resolution, hresolve⟩ := exists_resolve_of_plan h
  cases resolution with
  | command text =>
    rw [plan_of_command hresolve] at h
    cases h
    rfl
  | sequence sequence =>
    rw [plan_of_sequence hresolve] at h
    obtain ⟨children, -, h⟩ := bind_eq_ok_iff.1 h
    cases h
    rfl

end Book

/-- Every message about a path has it with dots, between quotes. -/
theorem LookupError.message_quotes (error : LookupError) :
    ∃ before after, error.message = before ++ ("'" ++ error.path.dotted ++ "'") ++ after := by
  have htask : "Task '" = "Task " ++ "'" := rfl
  unfold message path
  cases error with
  | invalidPath segments =>
    have hopening : "Invalid task path '" = "Invalid task path " ++ "'" := rfl
    refine ⟨"Invalid task path ", "", ?_⟩
    dsimp only
    simp only [hopening, String.append_empty, String.append_assoc]
  | missing reached segment rest available =>
    have hclosing : "' not found: no '" = "'" ++ " not found: no '" := rfl
    refine ⟨"Task ", " not found: no '" ++ segment ++ "' in " ++ orElse reached.dotted "<root>"
      ++ ". Available: " ++ orElse (Text.join ", " available) "none", ?_⟩
    dsimp only
    simp only [htask, hclosing, String.append_assoc]
  | disabled path =>
    have hclosing : "' is disabled" = "'" ++ " is disabled" := rfl
    refine ⟨"Task ", " is disabled", ?_⟩
    dsimp only
    simp only [htask, hclosing, String.append_assoc]
  | noDefault path choices =>
    have hclosing : "' has no default; pick one of: " = "'" ++ " has no default; pick one of: " :=
      rfl
    refine ⟨"Task ", " has no default; pick one of: " ++ Text.join ", " choices, ?_⟩
    dsimp only
    simp only [htask, hclosing, String.append_assoc]

/-! ## The statement -/

namespace Spelling

/-- There is a task at the path. -/
def isIn (book : Book) (spelling : Spelling) : Bool :=
  (spelling.lookUp book.find).isOk

variable (book : Book) (spelling : Spelling)

theorem lookUp_find : spelling.lookUp book.find = book.find spelling.segments :=
  lookUp_of_refuses (fun _ => Book.find_of_invalid) spelling

theorem lookUp_resolve : spelling.lookUp book.resolve = book.resolve spelling.segments :=
  lookUp_of_refuses (fun _ => Book.resolve_of_invalid) spelling

theorem lookUp_plan : spelling.lookUp book.plan = book.plan spelling.segments :=
  lookUp_of_refuses (fun _ => Book.plan_of_invalid) spelling

theorem isIn_eq : spelling.isIn book = book.contains spelling.segments := by
  rw [isIn, lookUp_find, Book.contains]

end Spelling

/-- **A text with dots and the list of its pieces are the same path.** Segments that are not empty
and hold no dot are read back from the text that has dots between them. A text can be taken apart
exactly if it is not empty and no dot stands first, last or beside another; what comes out are such
segments, and they make the text. Whatever is asked of a book, every text but the empty one gives
what its pieces give, and they give what the operation gives for them as they are. If it is an
error, it is the same error, with the pieces as its path and the text in its message. The plan that
is given is called by the text. -/
theorem Book.dotted_text_is_its_pieces (book : Book) :
    (∀ path : Path, path ≠ [] → (∀ key ∈ path, key ≠ "" ∧ '.' ∉ key.toList) →
      (Spelling.dotted path.dotted).split = .ok path) ∧
    (∀ text : String,
      ((∃ path, (Spelling.dotted text).split = .ok path) ↔ WellDotted text) ∧
      ∀ path, (Spelling.dotted text).split = .ok path →
        path.dotted = text ∧ path ≠ [] ∧ ∀ key ∈ path, key ≠ "" ∧ '.' ∉ key.toList) ∧
    ∀ text : String, text ≠ "" →
      let pieces := Text.pieces '.' text
      let dotted := Spelling.dotted text
      let listed := Spelling.listed pieces
      (dotted.lookUp book.find = listed.lookUp book.find ∧
        listed.lookUp book.find = book.find pieces) ∧
      (dotted.lookUp book.resolve = listed.lookUp book.resolve ∧
        listed.lookUp book.resolve = book.resolve pieces) ∧
      (dotted.isIn book = listed.isIn book ∧ listed.isIn book = book.contains pieces) ∧
      (dotted.lookUp book.plan = listed.lookUp book.plan ∧
        listed.lookUp book.plan = book.plan pieces) ∧
      (∀ error, dotted.lookUp book.find = .error error ∨ dotted.lookUp book.resolve = .error error →
        error.path = pieces ∧
          ∃ before after, error.message = before ++ ("'" ++ text ++ "'") ++ after) ∧
      ∀ plan, dotted.lookUp book.plan = .ok plan → plan.name = text := by
  refine ⟨fun path => Spelling.split_dotted_dotted, fun text => ⟨?_, fun path => ?_⟩, ?_⟩
  · rw [← Spelling.isValid_segments_iff]
    constructor
    · rintro ⟨path, hsplit⟩
      exact (Spelling.split_eq_ok_iff.1 hsplit).1
    · intro hvalid
      exact ⟨_, Spelling.split_eq_ok_iff.2 ⟨hvalid, rfl⟩⟩
  · exact Spelling.of_split_dotted
  · intro text htext pieces dotted listed
    have hpieces : dotted.segments = pieces := Spelling.segments_dotted htext
    have hdotted : Path.dotted pieces = text := Text.join_pieces '.' text
    rw [Spelling.lookUp_find, Spelling.lookUp_find, Spelling.lookUp_resolve,
      Spelling.lookUp_resolve, Spelling.lookUp_plan, Spelling.lookUp_plan, Spelling.isIn_eq,
      Spelling.isIn_eq, hpieces]
    refine ⟨⟨rfl, rfl⟩, ⟨rfl, rfl⟩, ⟨rfl, rfl⟩, ⟨rfl, rfl⟩, fun error herror => ?_,
      fun plan hplan => ?_⟩
    · have hpath : error.path = pieces := herror.elim Book.path_of_find Book.path_of_resolve
      have hquotes := error.message_quotes
      rw [hpath, hdotted] at hquotes
      exact ⟨hpath, hquotes⟩
    · rw [Book.name_of_plan hplan, hdotted]

/-- A misspelt part of the documentation is reported alike in both spellings. Two dots side by side
are no path in either. -/
theorem Book.misspelt_in_both_spellings :
    let path := ["release", "docs", "manuel"]
    let text := "release.docs.manuel"
    path ≠ [] ∧ (∀ key ∈ path, key ≠ "" ∧ '.' ∉ key.toList) ∧
    (Spelling.dotted text).split = .ok path ∧ text ≠ "" ∧ WellDotted text ∧
    (∃ error, (Spelling.dotted text).lookUp releaseBook.resolve = .error error ∧
      (Spelling.listed path).lookUp releaseBook.resolve = .error error ∧ error.path = path ∧
      error.message
        = "Task 'release.docs.manuel' not found: no 'manuel' in release.docs. "
          ++ "Available: html, manual") ∧
    ¬WellDotted "release..docs" ∧
    (Spelling.dotted "release..docs").lookUp releaseBook.plan
      = .error (.invalidPath ["release", "", "docs"]) := by
  intro path text
  obtain ⟨hjoined, htexts, hoperations⟩ := releaseBook.dotted_text_is_its_pieces
  have hkeys : ∀ key ∈ path, key ≠ "" ∧ '.' ∉ key.toList := by decide
  have hsplit : (Spelling.dotted text).split = .ok path := hjoined path (by decide) hkeys
  have hpieces : Text.pieces '.' text = path := by decide +kernel
  have hempty : Text.pieces '.' "release..docs" = ["release", "", "docs"] := by decide +kernel
  obtain ⟨-, ⟨hresolve, hlisted⟩, -, -, hreported, -⟩ := hoperations text (by decide)
  obtain ⟨-, -, -, ⟨hplan, hinvalid⟩, -⟩ := hoperations "release..docs" (by decide)
  rw [hpieces] at hresolve hlisted hreported
  have hmissing : (Spelling.listed path).lookUp releaseBook.resolve
      = .error (.missing ["release", "docs"] "manuel" [] ["html", "manual"]) := hlisted.trans rfl
  refine ⟨by decide, hkeys, hsplit, by decide, (htexts text).1.1 ⟨path, hsplit⟩,
    ⟨_, hresolve.trans hmissing, hmissing, ?_, rfl⟩, ?_, ?_⟩
  · exact (hreported _ (.inr (hresolve.trans hmissing))).1
  · decide +kernel
  · rw [hplan, hinvalid, hempty]
    exact Book.plan_of_invalid rfl

end Taskbook
