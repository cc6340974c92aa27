/-
Capitals are their own capitals.

A text may be put into capitals more than once on its way, by the part that reads it and again
by the part that understands it. That makes no difference, because none of the characters that
the tables lead to has an entry in them. There are too many of them to look each one up in
the tables. Instead both sides, the characters with an entry and those that an entry leads to,
are written as numbers with one bit for each character, and no bit stands in both
(`reached_disjoint`).
-/
import Mathlib.Data.List.Basic
import Taskbook.Text.Upper

set_option autoImplicit false

namespace Taskbook.Text

/-! ## Sets of numbers as bits -/

/-- The number with these bits. -/
def mask (bits : List Nat) : Nat :=
  bits.foldr (fun bit rest => 1 <<< bit ||| rest) 0

theorem testBit_mask {bits : List Nat} {bit : Nat} :
    (mask bits).testBit bit = true ↔ bit ∈ bits := by
  induction bits with
  | nil => simp [mask]
  | cons first rest ih =>
    have hmask : mask (first :: rest) = 1 <<< first ||| mask rest := rfl
    rw [hmask, Nat.testBit_or, Nat.one_shiftLeft, Nat.testBit_two_pow, Bool.or_eq_true,
      decide_eq_true_eq, ih, List.mem_cons, eq_comm]

/-- Lists whose masks have no bit in common have no number in common. -/
theorem not_mem_of_mask {first second : List Nat} (h : mask first &&& mask second = 0) {bit : Nat}
    (hbit : bit ∈ first) : bit ∉ second := by
  intro hagain
  have hboth : (mask first &&& mask second).testBit bit = true := by
    rw [Nat.testBit_and, testBit_mask.2 hbit, testBit_mask.2 hagain]
    rfl
  rw [h, Nat.zero_testBit] at hboth
  cases hboth

/-! ## The tables -/

/-- The letters of a run. -/
def CaseRun.letters (run : CaseRun) : List Nat :=
  (List.range ((run.last - run.first) / run.step + 1)).map fun index =>
    run.first + index * run.step

/-- The capital of a letter of the run. -/
def CaseRun.capitalOf (run : CaseRun) (letter : Nat) : Nat :=
  (letter + run.shift).toNat

theorem CaseRun.mem_letters_of_covers {run : CaseRun} {n : Nat} (h : run.covers n = true) :
    n ∈ run.letters := by
  simp only [covers, Bool.and_eq_true, decide_eq_true_eq, beq_iff_eq] at h
  obtain ⟨⟨hfirst, hlast⟩, hstep⟩ := h
  refine List.mem_map.2 ⟨(n - run.first) / run.step, List.mem_range.2 ?_, ?_⟩
  · exact Nat.lt_succ_of_le (Nat.div_le_div_right (Nat.sub_le_sub_right hlast run.first))
  · rw [Nat.div_mul_cancel (Nat.dvd_of_mod_eq_zero hstep), Nat.add_sub_cancel' hfirst]

/-- The characters with an entry in the tables. -/
def entered : List Nat :=
  capitalForms.map Prod.fst ++ capitalRuns.flatMap CaseRun.letters

/-- The characters that the entries lead to. -/
def reached : List Nat :=
  capitalForms.flatMap Prod.snd ++ capitalRuns.flatMap fun run => run.letters.map run.capitalOf

theorem entered_of_lookup {c : Char} {form : List Nat}
    (h : capitalForms.lookup c.toNat = some form) :
    c.toNat ∈ entered ∧ ∀ n ∈ form, n ∈ reached := by
  obtain ⟨before, after, hforms, -⟩ := List.lookup_eq_some_iff.1 h
  have hmem : (c.toNat, form) ∈ capitalForms :=
    hforms ▸ List.mem_append_right before List.mem_cons_self
  refine ⟨List.mem_append_left _ (List.mem_map_of_mem hmem), fun n hn => ?_⟩
  exact List.mem_append_left _ (List.mem_flatMap.2 ⟨_, hmem, hn⟩)

theorem entered_of_find? {c : Char} {run : CaseRun}
    (h : capitalRuns.find? (fun run => run.covers c.toNat) = some run) :
    c.toNat ∈ entered ∧ run.capitalOf c.toNat ∈ reached := by
  have hmem := List.mem_of_find?_eq_some h
  have hcovers : run.covers c.toNat = true :=
    List.find?_some (p := fun run : CaseRun => run.covers c.toNat) h
  have hletter := CaseRun.mem_letters_of_covers hcovers
  refine ⟨List.mem_append_right _ (List.mem_flatMap.2 ⟨run, hmem, hletter⟩), ?_⟩
  exact List.mem_append_right _ (List.mem_flatMap.2 ⟨run, hmem, List.mem_map_of_mem hletter⟩)

/-- A character without an entry is its own capital. -/
theorem capital_of_not_entered {c : Char} (h : c.toNat ∉ entered) : capital c = [c] := by
  rw [capital]
  split
  · next form hform => exact absurd (entered_of_lookup hform).1 h
  · split
    · next run hrun => exact absurd (entered_of_find? hrun).1 h
    · rfl

theorem isValidChar_of_mem_reached : ∀ n ∈ reached, n.isValidChar := by
  decide +kernel

/-- No entry leads to a character with an entry. -/
theorem reached_disjoint : mask reached &&& mask entered = 0 := by
  decide +kernel

theorem toNat_of_mem_reached {n : Nat} (h : n ∈ reached) : (Char.ofNat n).toNat = n := by
  rw [Char.ofNat, dif_pos (isValidChar_of_mem_reached n h)]
  rfl

theorem capital_of_mem_reached {n : Nat} (h : n ∈ reached) :
    capital (Char.ofNat n) = [Char.ofNat n] := by
  apply capital_of_not_entered
  rw [toNat_of_mem_reached h]
  exact not_mem_of_mask reached_disjoint h

/-! ## Capitals of capitals -/

/-- A character is its own capital, or its entry leads to all that its capital form has. -/
theorem capital_cases (c : Char) :
    capital c = [c] ∨ ∀ d ∈ capital c, ∃ n ∈ reached, d = Char.ofNat n := by
  rw [capital]
  split
  · next form hform =>
    refine .inr fun d hd => ?_
    obtain ⟨n, hn, rfl⟩ := List.mem_map.1 hd
    exact ⟨n, (entered_of_lookup hform).2 n hn, rfl⟩
  · split
    · next run hrun =>
      exact .inr fun d hd => ⟨_, (entered_of_find? hrun).2, List.mem_singleton.1 hd⟩
    · exact .inl rfl

theorem capital_of_mem_capital {c d : Char} (h : d ∈ capital c) : capital d = [d] := by
  rcases capital_cases c with hown | hreached
  · rw [hown] at h
    rw [List.mem_singleton.1 h, hown]
  · obtain ⟨n, hn, rfl⟩ := hreached d h
    exact capital_of_mem_reached hn

/-- **A text in capitals stays as it is.** -/
theorem upper_upper (text : String) : upper (upper text) = upper text := by
  have hchars : (text.toList.flatMap capital).flatMap capital
      = (text.toList.flatMap capital).flatMap fun d => [d] := by
    refine List.flatMap_congr fun d hd => ?_
    obtain ⟨c, -, hc⟩ := List.mem_flatMap.1 hd
    exact capital_of_mem_capital hc
  rw [upper, upper, String.toList_ofList, hchars, List.flatMap_singleton']

end Taskbook.Text
