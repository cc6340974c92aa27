/-
Cutting a text at marked characters and putting the pieces back together.

A dotted task path, a command line of a code generator and a directory path are
all read the same way: the text is cut at every occurrence of one character and
every piece is kept, the empty ones too. Keeping the empty pieces is what makes
the cut lossless, so joining the pieces with the same character gives back the
text, whatever it was (`join_pieces`). The other way round needs one condition,
that no piece holds the mark, and it needs at least one piece, because a cut
never yields none (`pieces_join`).

The work is done on lists of characters, where it is structural recursion; the
functions on `String` only wrap it.
-/
set_option autoImplicit false

namespace Taskbook.Text

/-! ## On lists of characters -/

/-- The runs of characters between those that `cut` marks, the empty runs
included: a text with `n` marked characters has `n + 1` runs. -/
def splitWhere (cut : Char → Bool) : List Char → List (List Char)
  | [] => [[]]
  | c :: rest =>
    if cut c then [] :: splitWhere cut rest
    else
      match splitWhere cut rest with
      | [] => [[c]]
      | piece :: pieces => (c :: piece) :: pieces

/-- The pieces in order, with `mark` between neighbours. -/
def glue (mark : List Char) : List (List Char) → List Char
  | [] => []
  | [piece] => piece
  | piece :: next :: rest => piece ++ mark ++ glue mark (next :: rest)

theorem splitWhere_ne_nil (cut : Char → Bool) (text : List Char) :
    splitWhere cut text ≠ [] := by
  cases text with
  | nil => simp [splitWhere]
  | cons c rest =>
    simp only [splitWhere]
    split
    · simp
    · split <;> simp

/-- No piece holds a marked character. -/
theorem cut_eq_false_of_mem_splitWhere {cut : Char → Bool} {text piece : List Char} {c : Char}
    (hpiece : piece ∈ splitWhere cut text) (hc : c ∈ piece) : cut c = false := by
  induction text generalizing piece with
  | nil => simp_all [splitWhere]
  | cons d rest ih =>
    simp only [splitWhere] at hpiece
    split at hpiece
    · rcases List.mem_cons.1 hpiece with rfl | hrest
      · simp at hc
      · exact ih hrest hc
    · next hd =>
      split at hpiece
      · simp_all
      · next first others heq =>
        rcases List.mem_cons.1 hpiece with rfl | hothers
        · rcases List.mem_cons.1 hc with rfl | hfirst
          · simpa using hd
          · exact ih (heq ▸ List.mem_cons_self) hfirst
        · exact ih (heq ▸ List.mem_cons_of_mem _ hothers) hc

/-- A text without marked characters is its own only piece. -/
theorem splitWhere_eq_singleton {cut : Char → Bool} {text : List Char}
    (h : ∀ c ∈ text, cut c = false) : splitWhere cut text = [text] := by
  induction text with
  | nil => rfl
  | cons c rest ih =>
    have hc : cut c = false := h c (by simp)
    have hrest : splitWhere cut rest = [rest] := ih (fun d hd => h d (by simp [hd]))
    simp [splitWhere, hc, hrest]

/-- The first mark ends the first piece. -/
theorem splitWhere_append_cons {cut : Char → Bool} {piece : List Char} {mark : Char}
    (rest : List Char) (hpiece : ∀ c ∈ piece, cut c = false) (hmark : cut mark = true) :
    splitWhere cut (piece ++ mark :: rest) = piece :: splitWhere cut rest := by
  induction piece with
  | nil => simp [splitWhere, hmark]
  | cons c tail ih =>
    have hc : cut c = false := hpiece c (by simp)
    have htail := ih (fun d hd => hpiece d (by simp [hd]))
    simp [splitWhere, hc, htail]

/-- Cutting at one character loses nothing. -/
theorem glue_splitWhere (mark : Char) (text : List Char) :
    glue [mark] (splitWhere (· == mark) text) = text := by
  induction text with
  | nil => rfl
  | cons c rest ih =>
    simp only [splitWhere]
    cases hpieces : splitWhere (· == mark) rest with
    | nil => exact absurd hpieces (splitWhere_ne_nil _ _)
    | cons piece pieces =>
      rw [hpieces] at ih
      by_cases hc : c = mark
      · subst hc
        simp [glue, ih]
      · have hb : (c == mark) = false := by simpa using hc
        simp only [hb, Bool.false_eq_true, if_false]
        cases pieces with
        | nil => simpa [glue] using ih
        | cons next others => simpa [glue] using ih

/-- Pieces without a marked character come back from their joined text, if they are joined
with one. -/
theorem splitWhere_glue {cut : Char → Bool} {mark : Char} (hmark : cut mark = true)
    {pieces : List (List Char)} (hne : pieces ≠ [])
    (hpieces : ∀ piece ∈ pieces, ∀ c ∈ piece, cut c = false) :
    splitWhere cut (glue [mark] pieces) = pieces := by
  induction pieces with
  | nil => exact absurd rfl hne
  | cons piece rest ih =>
    cases rest with
    | nil => exact splitWhere_eq_singleton (hpieces piece (by simp))
    | cons next others =>
      have step : glue [mark] (piece :: next :: others)
          = piece ++ mark :: glue [mark] (next :: others) := by
        simp [glue]
      rw [step, splitWhere_append_cons _ (hpieces piece (by simp)) hmark]
      rw [ih (by simp) (fun p hp => hpieces p (by simp [hp]))]

/-- What is in a joined text is in the mark or in one of the pieces. -/
theorem mem_of_mem_glue {mark : List Char} {c : Char} {pieces : List (List Char)}
    (h : c ∈ glue mark pieces) : c ∈ mark ∨ ∃ piece ∈ pieces, c ∈ piece := by
  induction pieces with
  | nil => cases h
  | cons piece rest ih =>
    cases rest with
    | nil => exact .inr ⟨piece, List.mem_cons_self, h⟩
    | cons next others =>
      rw [glue, List.append_assoc] at h
      rcases List.mem_append.1 h with hpiece | h
      · exact .inr ⟨piece, List.mem_cons_self, hpiece⟩
      · rcases List.mem_append.1 h with hmark | hothers
        · exact .inl hmark
        · refine (ih hothers).imp_right ?_
          rintro ⟨later, hlater, hc⟩
          exact ⟨later, List.mem_cons_of_mem _ hlater, hc⟩

/-- The text less one line end, if it finishes with one. -/
def dropLineEnd (text : List Char) : List Char :=
  match text.reverse with
  | '\n' :: rest => rest.reverse
  | _ => text

/-- A text without its line end is the text, or the text lacks only a line end. -/
theorem eq_of_dropLineEnd {text rest : List Char} (h : dropLineEnd text = rest) :
    text = rest ∨ text = rest ++ ['\n'] := by
  unfold dropLineEnd at h
  split at h
  · next before hreverse =>
    rw [List.reverse_eq_iff, List.reverse_cons] at hreverse
    exact .inr (h ▸ hreverse)
  · exact .inl h

theorem dropLineEnd_append (text : List Char) : dropLineEnd (text ++ ['\n']) = text := by
  simp [dropLineEnd]

/-- Only a line end is dropped. -/
theorem dropLineEnd_of_not_mem {text : List Char} (h : '\n' ∉ text) : dropLineEnd text = text := by
  unfold dropLineEnd
  split
  · next rest hreverse =>
    rw [List.reverse_eq_iff, List.reverse_cons] at hreverse
    exact absurd (hreverse ▸ List.mem_append_right _ List.mem_cons_self) h
  · rfl

/-! ## On strings -/

/-- The pieces of `text` between the occurrences of `mark`, the empty ones
included. -/
def pieces (mark : Char) (text : String) : List String :=
  (splitWhere (· == mark) text.toList).map String.ofList

/-- The text less one line end, if it finishes with one. -/
def withoutLineEnd (text : String) : String :=
  String.ofList (dropLineEnd text.toList)

theorem eq_of_withoutLineEnd {text rest : String} (h : withoutLineEnd text = rest) :
    text = rest ∨ text = rest ++ "\n" := by
  have hlist : dropLineEnd text.toList = rest.toList := by
    rw [← h, withoutLineEnd, String.toList_ofList]
  rcases eq_of_dropLineEnd hlist with hsame | hline
  · exact .inl (String.toList_inj.1 hsame)
  · refine .inr (String.toList_inj.1 ?_)
    rw [hline, String.toList_append]
    rfl

/-- A text without a line end is what is left of it, and of the same with one line end behind
it. -/
theorem withoutLineEnd_eq_iff {text rest : String} (hrest : '\n' ∉ rest.toList) :
    withoutLineEnd text = rest ↔ text = rest ∨ text = rest ++ "\n" := by
  refine ⟨eq_of_withoutLineEnd, ?_⟩
  rintro (rfl | rfl)
  · rw [withoutLineEnd, dropLineEnd_of_not_mem hrest, String.ofList_toList]
  · have hlist : (rest ++ "\n").toList = rest.toList ++ ['\n'] := String.toList_append
    rw [withoutLineEnd, hlist, dropLineEnd_append, String.ofList_toList]

/-- The pieces in order, with `mark` between neighbours. -/
def join (mark : String) : List String → String
  | [] => ""
  | [piece] => piece
  | piece :: next :: rest => piece ++ mark ++ join mark (next :: rest)

theorem toList_join (mark : String) (texts : List String) :
    (join mark texts).toList = glue mark.toList (texts.map String.toList) := by
  induction texts with
  | nil => rfl
  | cons piece rest ih =>
    cases rest with
    | nil => rfl
    | cons next others =>
      simp only [List.map_cons] at ih
      simp [join, glue, ih]

/-- Nothing is joined to an empty text but no texts and the empty one by itself. -/
theorem join_eq_empty_iff {mark : String} (hmark : mark ≠ "") {texts : List String} :
    join mark texts = "" ↔ texts = [] ∨ texts = [""] := by
  match texts with
  | [] => simp [join]
  | [piece] => simp [join]
  | piece :: next :: rest => simp [join, hmark]

theorem pieces_ne_nil (mark : Char) (text : String) : pieces mark text ≠ [] := by
  simp [pieces, splitWhere_ne_nil]

/-- No piece holds the mark that the text was cut at. -/
theorem not_mem_of_mem_pieces {mark : Char} {text piece : String}
    (hpiece : piece ∈ pieces mark text) : mark ∉ piece.toList := by
  obtain ⟨run, hrun, rfl⟩ := List.mem_map.1 hpiece
  rw [String.toList_ofList]
  intro hmark
  simpa using cut_eq_false_of_mem_splitWhere hrun hmark

/-- Joining the pieces with the mark they were cut at gives back the text. -/
theorem join_pieces (mark : Char) (text : String) :
    join (String.singleton mark) (pieces mark text) = text := by
  apply String.toList_inj.1
  rw [toList_join]
  have unwrap : (pieces mark text).map String.toList = splitWhere (· == mark) text.toList := by
    simp [pieces, Function.comp_def]
  rw [unwrap]
  simpa using glue_splitWhere mark text.toList

/-- Pieces that do not hold the mark come back from their joined text. -/
theorem pieces_join {mark : Char} {texts : List String} (hne : texts ≠ [])
    (htexts : ∀ piece ∈ texts, mark ∉ piece.toList) :
    pieces mark (join (String.singleton mark) texts) = texts := by
  have clean : ∀ piece ∈ texts.map String.toList, ∀ c ∈ piece, (c == mark) = false := by
    intro piece hpiece c hc
    obtain ⟨text, htext, rfl⟩ := List.mem_map.1 hpiece
    have hother : c ≠ mark := fun h => htexts text htext (h ▸ hc)
    simpa using hother
  have hglue : splitWhere (· == mark) (glue [mark] (texts.map String.toList))
      = texts.map String.toList :=
    splitWhere_glue (by simp) (by simpa using hne) clean
  simp [pieces, toList_join, hglue, Function.comp_def]

end Taskbook.Text
