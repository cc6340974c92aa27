/-
What is read out of a document, and out of a line.

Reading is the inverse of writing. A list of scripts is written as the table of
their texts (`Script.document`), and a document is read as a list of scripts exactly
if that is what is written in it, entry by entry and to the letter. A default that
runs sub-tasks is written as the runner's word and the dotted names, and a line is
read as a list of names exactly if its words are those.

The second statement needs a parent without a dot: what comes before the first dot
of a word is then the parent, and whatever comes after it, dots included, is the
name of the sub-task.
-/
import Taskbook.Mapping.Load
import Taskbook.Proofs.InOrder

set_option autoImplicit false

namespace Taskbook

/-! ## The shape of a document -/

/-- The part of a document that a script is written as. -/
def Script.document : Script → Document
  | command text => .text text
  | table entries => .table (entries.map fun entry => (entry.1, .text entry.2))

/-- The document is a table with these scripts, in this order, under its key for
them. -/
def Document.HoldsScripts (document : Document) (scripts : List (String × Script)) : Prop :=
  ∃ entries, document = .table entries ∧
    ("scripts", .table (scripts.map fun entry => (entry.1, entry.2.document))) ∈ entries

mutual

/-- Every table of the document has each of its keys once. -/
def Document.keysOnce : Document → Bool
  | .list items => Document.allKeysOnce items
  | .table entries => (entries.map Prod.fst).Nodup && Document.entriesKeysOnce entries
  | _ => true

/-- The same for every item. -/
def Document.allKeysOnce : List Document → Bool
  | [] => true
  | item :: rest => item.keysOnce && Document.allKeysOnce rest

/-- The same for every value of a table. -/
def Document.entriesKeysOnce : List (String × Document) → Bool
  | [] => true
  | (_, value) :: rest => value.keysOnce && Document.entriesKeysOnce rest

end

theorem Document.keysOnce_of_mem {entries : List (String × Document)} {entry : String × Document}
    (h : Document.entriesKeysOnce entries = true) (hmem : entry ∈ entries) :
    entry.2.keysOnce = true := by
  induction entries with
  | nil => simp at hmem
  | cons first rest ih =>
    obtain ⟨key, value⟩ := first
    rw [Document.entriesKeysOnce, Bool.and_eq_true] at h
    rcases List.mem_cons.1 hmem with rfl | hrest
    · exact h.1
    · exact ih h.2 hrest

/-- A table is read as texts exactly if it is written from them. -/
theorem Document.texts_eq_iff {entries : List (String × Document)}
    {values : List (String × String)} :
    Document.texts entries = (values, []) ↔
      entries = values.map fun entry => (entry.1, .text entry.2) := by
  induction entries generalizing values with
  | nil => cases values <;> simp [Document.texts]
  | cons entry rest ih =>
    obtain ⟨key, value⟩ := entry
    cases values with
    | nil => cases value <;> simp [Document.texts]
    | cons first others =>
      cases value with
      | text value =>
        rw [List.map_cons, List.cons.injEq, ← ih]
        simp [Document.texts, Prod.ext_iff, and_assoc]
      | _ => simp [Document.texts]

theorem Document.script_eq_ok_iff {key : String} {document : Document} {script : Script} :
    document.script key = .ok script ↔ document = script.document := by
  cases document with
  | text value => cases script <;> simp [Document.script, Script.document]
  | table entries =>
    rw [Document.script]
    cases script with
    | command text =>
      rw [Script.document]
      split <;> simp
    | table values =>
      rw [Script.document, Document.table.injEq, ← Document.texts_eq_iff]
      split
      · next found hfound => simp [hfound]
      · -- a key without a text is left over
        next found others hother hfound =>
        rw [hfound, Prod.mk.injEq]
        exact iff_of_false nofun fun h => hother h.2
  | _ => cases script <;> simp [Document.script, Script.document]

theorem Document.scriptsOf_eq_ok_iff {entries : List (String × Document)}
    {scripts : List (String × Script)} :
    Document.scriptsOf entries = .ok scripts ↔
      entries = scripts.map fun entry => (entry.1, entry.2.document) := by
  induction entries generalizing scripts with
  | nil => cases scripts <;> simp [Document.scriptsOf]
  | cons entry rest ih =>
    obtain ⟨key, value⟩ := entry
    rw [Document.scriptsOf]
    constructor
    · intro h
      split at h
      · next script others hscript hothers =>
        cases h
        rw [List.map_cons, ← ih.1 hothers, Document.script_eq_ok_iff.1 hscript]
      · cases h
      · cases h
      · cases h
    · intro h
      cases scripts with
      | nil => cases h
      | cons first others =>
        rw [List.map_cons, List.cons.injEq, Prod.mk.injEq] at h
        obtain ⟨⟨rfl, hvalue⟩, hrest⟩ := h
        rw [Document.script_eq_ok_iff.2 hvalue, ih.2 hrest]

/-- **Reading a document** gives the scripts that it holds. -/
theorem Document.scripts_eq_ok_iff {document : Document} (honce : document.keysOnce = true)
    {scripts : List (String × Script)} :
    document.scripts = .ok scripts ↔ document.HoldsScripts scripts := by
  cases document with
  | table entries =>
    rw [Document.keysOnce, Bool.and_eq_true, decide_eq_true_eq] at honce
    rw [Document.scripts]
    constructor
    · intro h
      split at h
      · next found hfound =>
        rw [Document.scriptsOf_eq_ok_iff.1 h, lookup_eq_some_iff_mem honce.1] at hfound
        exact ⟨entries, rfl, hfound⟩
      · cases h
      · cases h
    · rintro ⟨others, hothers, hmem⟩
      cases hothers
      rw [(lookup_eq_some_iff_mem honce.1).2 hmem]
      exact Document.scriptsOf_eq_ok_iff.2 rfl
  | _ => exact iff_of_false nofun fun ⟨_, h, _⟩ => nomatch h

/-! ## A line that runs sub-tasks -/

theorem splitFirstDot_append {parent : String} (hparent : '.' ∉ parent.toList) (name : String) :
    splitFirstDot (parent ++ "." ++ name) = (parent, name) := by
  have hplain : ∀ c ∈ parent.toList, (c != '.') = true := by
    intro c hc
    have hne : c ≠ '.' := fun h => hparent (h ▸ hc)
    simpa using hne
  have htoken : (parent ++ "." ++ name).toList = parent.toList ++ '.' :: name.toList := by
    simp
  rw [splitFirstDot, htoken, List.takeWhile_append_of_pos hplain,
    List.dropWhile_append_of_pos hplain]
  simp

theorem eq_of_splitFirstDot {token first name : String} (h : splitFirstDot token = (first, name))
    (hname : name ≠ "") : token = first ++ "." ++ name := by
  rw [splitFirstDot, Prod.mk.injEq] at h
  obtain ⟨hfirst, hrest⟩ := h
  have hparts : (first ++ "." ++ name).toList = token.toList.takeWhile (· != '.') ++
      '.' :: (token.toList.dropWhile (· != '.')).drop 1 := by
    rw [← hfirst, ← hrest]
    simp
  cases hdrop : token.toList.dropWhile (· != '.') with
  | nil =>
    rw [hdrop] at hrest
    exact absurd hrest.symm hname
  | cons mark after =>
    -- what ends the first part is the dot
    have hdot : mark = '.' := by
      have hstop := List.head?_dropWhile_not (· != '.') token.toList
      rw [hdrop] at hstop
      simpa using hstop
    apply String.toList_inj.1
    calc token.toList
        = token.toList.takeWhile (· != '.') ++ token.toList.dropWhile (· != '.') :=
          List.takeWhile_append_dropWhile.symm
      _ = (first ++ "." ++ name).toList := by rw [hparts, hdrop, hdot, List.drop_one, List.tail_cons]

/-- A word refers to the sub-task after its first dot, if the parent stands before it. -/
theorem subTaskName_eq_ok_iff_splitFirstDot {parent token name : String} :
    subTaskName parent token = .ok name ↔ splitFirstDot token = (parent, name) ∧ name ≠ "" := by
  rw [subTaskName]
  cases splitFirstDot token with
  | mk first after =>
    by_cases hforeign : first ≠ parent ∨ after = ""
    · simp only [if_pos hforeign, reduceCtorEq, false_iff]
      rintro ⟨hsplit, hname⟩
      cases hsplit
      exact hforeign.elim (absurd rfl) hname
    · obtain ⟨hfirst, hafter⟩ := not_or.1 hforeign
      obtain rfl := not_not.1 hfirst
      simp only [if_neg hforeign, Except.ok.injEq, Prod.mk.injEq, true_and]
      constructor
      · rintro rfl
        exact ⟨rfl, hafter⟩
      · exact And.left

/-- A word refers to a sub-task exactly if it is the dotted name of it. -/
theorem subTaskName_eq_ok_iff {parent : String} (hparent : '.' ∉ parent.toList)
    {token name : String} :
    subTaskName parent token = .ok name ↔ name ≠ "" ∧ token = parent ++ "." ++ name := by
  rw [subTaskName_eq_ok_iff_splitFirstDot]
  constructor
  · rintro ⟨hsplit, hname⟩
    exact ⟨hname, eq_of_splitFirstDot hsplit hname⟩
  · rintro ⟨hname, rfl⟩
    exact ⟨splitFirstDot_append hparent name, hname⟩

theorem mapM_subTaskName_eq_ok_iff {parent : String} (hparent : '.' ∉ parent.toList)
    {tokens names : List String} :
    tokens.mapM (subTaskName parent) = .ok names ↔
      tokens = names.map (parent ++ "." ++ ·) ∧ ∀ name ∈ names, name ≠ "" := by
  rw [mapM_eq_ok_iff]
  induction names generalizing tokens with
  | nil => simp
  | cons name rest ih =>
    rw [List.forall₂_cons_right_iff, List.map_cons, List.forall_mem_cons]
    constructor
    · rintro ⟨token, others, htoken, hothers, rfl⟩
      obtain ⟨hname, rfl⟩ := (subTaskName_eq_ok_iff hparent).1 htoken
      obtain ⟨rfl, hrest⟩ := ih.1 hothers
      exact ⟨rfl, hname, hrest⟩
    · rintro ⟨rfl, hname, hrest⟩
      exact ⟨_, _, (subTaskName_eq_ok_iff hparent).2 ⟨hname, rfl⟩, ih.2 ⟨rfl, hrest⟩, rfl⟩

/-- Names are read off a line exactly if it starts with the runner's word and the other words
refer to them. -/
theorem Sequence.parse_eq_ok_iff_mapM {parent command : String} {names : List String} :
    Sequence.parse parent command = .ok (some names) ↔
      ∃ tokens, Text.words command = "nps" :: tokens ∧
        tokens.mapM (subTaskName parent) = .ok names := by
  rw [Sequence.parse]
  cases Text.words command with
  | nil => simp
  | cons first tokens =>
    by_cases hfirst : first = "nps"
    · subst hfirst
      have hread : (some <$> tokens.mapM (subTaskName parent)) = .ok (some names) ↔
          tokens.mapM (subTaskName parent) = .ok names := by
        rw [map_eq_ok_iff]
        simp
      simpa [runner] using hread
    · simp [runner, hfirst]

/-- **Reading a line** gives the names that it runs below the parent. -/
theorem Sequence.parse_eq_ok_iff {parent : String} (hparent : '.' ∉ parent.toList)
    {command : String} {names : List String} :
    Sequence.parse parent command = .ok (some names) ↔
      Text.words command = "nps" :: names.map (parent ++ "." ++ ·) ∧ ∀ name ∈ names, name ≠ "" := by
  rw [Sequence.parse_eq_ok_iff_mapM]
  constructor
  · rintro ⟨tokens, hwords, hread⟩
    obtain ⟨rfl, hempty⟩ := (mapM_subTaskName_eq_ok_iff hparent).1 hread
    exact ⟨hwords, hempty⟩
  · rintro ⟨hwords, hempty⟩
    exact ⟨_, hwords, (mapM_subTaskName_eq_ok_iff hparent).2 ⟨rfl, hempty⟩⟩

end Taskbook
