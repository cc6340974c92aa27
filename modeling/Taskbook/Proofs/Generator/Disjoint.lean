/-
Which targets the disjointness check lets pass, and which pair it reports.

Two targets clash if some path lies at or below both output directories, or at or below
both input directories. The check goes through the list once and compares each target with
those before it. So what it finds is the clash whose later target comes earliest and, for
that target, the earliest partner; and if it finds none there is none, whatever the order
of the list (`Target.checkDisjoint_finds_first_clash`).

The check compares directories as they are spelt. Where they lead is another matter: the
command may change its directory first, and `..` takes back what it follows. Two targets
that pass can therefore write to the same place (`Target.same_destination_in_four_spellings`). The
second half of this file says what passing does guarantee: between two targets that start
from the same place, and whose outputs do not climb once they part, neither directory
contains the other (`Target.checkDisjoint_keeps_apart`).
-/
import Taskbook.Generator.Disjoint
import Taskbook.Proofs.Directory

set_option autoImplicit false

namespace Taskbook

namespace Target

/-! ## Two targets -/

theorem isWritten_outputPath (target : Target) : target.outputPath.IsWritten :=
  Dir.isWritten_ofText target.outputDir

theorem isWritten_inputRoot (target : Target) : target.inputRoot.IsWritten := fun part hpart =>
  Dir.isWritten_ofText target.inputGlob part ((List.takeWhile_sublist _).subset hpart)

/-- Some path lies at or below what both write to, or at or below what both read from. -/
def Clash (a b : Target) : Prop :=
  a.outputPath.Meets b.outputPath ∨ a.inputRoot.Meets b.inputRoot

theorem Clash.symm {a b : Target} (h : a.Clash b) : b.Clash a :=
  h.imp Dir.Meets.symm Dir.Meets.symm

/-- The conflict of a pair is that of its outputs, if they meet, and else that of its
inputs, if those do. -/
theorem conflict?_eq_some_iff {earlier later : Target} {conflict : Conflict} :
    earlier.conflict? later = some conflict ↔
      earlier.outputPath.Meets later.outputPath ∧ conflict = .outputs earlier later ∨
      ¬earlier.outputPath.Meets later.outputPath ∧ earlier.inputRoot.Meets later.inputRoot ∧
        conflict = .inputs earlier later := by
  have houtputs : later.outputPath.overlaps earlier.outputPath = true ↔
      earlier.outputPath.Meets later.outputPath :=
    (Dir.overlaps_iff_meets later.isWritten_outputPath earlier.isWritten_outputPath).trans
      ⟨Dir.Meets.symm, Dir.Meets.symm⟩
  have hinputs : later.inputRoot.overlaps earlier.inputRoot = true ↔
      earlier.inputRoot.Meets later.inputRoot :=
    (Dir.overlaps_iff_meets later.isWritten_inputRoot earlier.isWritten_inputRoot).trans
      ⟨Dir.Meets.symm, Dir.Meets.symm⟩
  rw [conflict?, ← houtputs, ← hinputs]
  split
  · next h => simp [h, eq_comm (a := conflict)]
  · next h => split <;> next h' => simp [h, h', eq_comm (a := conflict)]

theorem clash_of_conflict? {earlier later : Target} {conflict : Conflict}
    (h : earlier.conflict? later = some conflict) : earlier.Clash later := by
  rcases conflict?_eq_some_iff.1 h with ⟨houtputs, -⟩ | ⟨-, hinputs, -⟩
  · exact .inl houtputs
  · exact .inr hinputs

theorem conflict?_eq_none_iff {earlier later : Target} :
    earlier.conflict? later = none ↔ ¬earlier.Clash later := by
  rw [Option.eq_none_iff_forall_ne_some]
  constructor
  · intro hnone hclash
    by_cases houtputs : earlier.outputPath.Meets later.outputPath
    · exact hnone _ (conflict?_eq_some_iff.2 (.inl ⟨houtputs, rfl⟩))
    · exact hnone _ (conflict?_eq_some_iff.2
        (.inr ⟨houtputs, hclash.resolve_left houtputs, rfl⟩))
  · exact fun hfree conflict hsome => hfree (clash_of_conflict? hsome)

/-! ## A list of targets -/

/-- No target of the list clashes with a later one. -/
def ClashFree (targets : List Target) : Prop :=
  targets.Pairwise fun earlier later => ¬earlier.Clash later

/-- The targets at positions `i` and `j` are the first that clash: the targets before `j`
do not clash with one another, and those before `i` do not clash with the one at `j`. -/
structure FirstClash (targets : List Target) (i j : Nat) (earlier later : Target) : Prop where
  lt : i < j
  earlier_at : targets[i]? = some earlier
  later_at : targets[j]? = some later
  clash : earlier.Clash later
  none_before : ClashFree (targets.take j)
  none_nearer : ∀ target ∈ targets.take i, ¬target.Clash later

theorem ClashFree.not_clash {targets : List Target} (h : ClashFree targets) {i j : Nat}
    {earlier later : Target} (hlt : i < j) (hi : targets[i]? = some earlier)
    (hj : targets[j]? = some later) : ¬earlier.Clash later := by
  obtain ⟨hilt, rfl⟩ := List.getElem?_eq_some_iff.1 hi
  obtain ⟨hjlt, rfl⟩ := List.getElem?_eq_some_iff.1 hj
  exact List.pairwise_iff_getElem.1 h i j hilt hjlt hlt

/-- There is at most one first clash. -/
theorem FirstClash.unique {targets : List Target} {i j i' j' : Nat} {a b a' b' : Target}
    (h : FirstClash targets i j a b) (h' : FirstClash targets i' j' a' b') : a = a' ∧ b = b' := by
  -- the one that ends earlier would be a clash among the targets before the other's end
  have hend : ∀ {i j i' j' : Nat} {a b a' b' : Target}, FirstClash targets i j a b →
      FirstClash targets i' j' a' b' → ¬j < j' := by
    intro i j i' j' a b a' b' h h' hlt
    refine h'.none_before.not_clash h.lt ?_ ?_ h.clash
    · rw [List.getElem?_take_of_lt (Nat.lt_trans h.lt hlt), h.earlier_at]
    · rw [List.getElem?_take_of_lt hlt, h.later_at]
  have hstart : ∀ {i i' : Nat} {a a' : Target}, FirstClash targets i j a b →
      FirstClash targets i' j a' b → ¬i < i' := by
    intro i i' a a' h h' hlt
    have hmem : a ∈ targets.take i' := by
      refine List.mem_of_getElem? (i := i) ?_
      rw [List.getElem?_take_of_lt hlt, h.earlier_at]
    exact h'.none_nearer a hmem h.clash
  obtain rfl : j = j' := Nat.le_antisymm (Nat.not_lt.1 (hend h' h)) (Nat.not_lt.1 (hend h h'))
  obtain rfl : b = b' := Option.some.inj (h.later_at.symm.trans h'.later_at)
  obtain rfl : i = i' :=
    Nat.le_antisymm (Nat.not_lt.1 (hstart h' h)) (Nat.not_lt.1 (hstart h h'))
  exact ⟨Option.some.inj (h.earlier_at.symm.trans h'.earlier_at), rfl⟩

/-! ## The loop -/

theorem clashFree_append_singleton {seen : List Target} {target : Target} :
    ClashFree (seen ++ [target]) ↔
      ClashFree seen ∧ ∀ earlier ∈ seen, ¬earlier.Clash target := by
  simp [ClashFree, List.pairwise_append]

/-- The loop ends without a conflict only if there is no clash, and else with the conflict of
the first clash. -/
theorem conflictAfter?_finds {seen : List Target} (hseen : ClashFree seen)
    (targets : List Target) :
    (conflictAfter? seen targets = none → ClashFree (seen ++ targets)) ∧
    ∀ conflict, conflictAfter? seen targets = some conflict →
      ∃ i j earlier later, FirstClash (seen ++ targets) i j earlier later ∧
        earlier.conflict? later = some conflict := by
  induction targets generalizing seen with
  | nil =>
    rw [List.append_nil]
    exact ⟨fun _ => hseen, nofun⟩
  | cons target rest ih =>
    rw [conflictAfter?]
    cases hfound : seen.findSome? fun earlier => earlier.conflict? target with
    | none =>
      -- the target joins those seen, and the loop goes on
      rw [List.findSome?_eq_none_iff] at hfound
      have hlonger : ClashFree (seen ++ [target]) :=
        clashFree_append_singleton.2
          ⟨hseen, fun earlier hmem => conflict?_eq_none_iff.1 (hfound earlier hmem)⟩
      have hrest := ih hlonger
      rwa [List.append_assoc] at hrest
    | some found =>
      refine ⟨nofun, fun conflict hconflict => ?_⟩
      cases hconflict
      -- the partner is the first of the targets seen so far that has a conflict with this one
      obtain ⟨front, earlier, behind, rfl, hpair, hfront⟩ := List.findSome?_eq_some_iff.1 hfound
      refine ⟨front.length, (front ++ earlier :: behind).length, earlier, target, ?_, hpair⟩
      refine ⟨by simp, by simp, by simp, clash_of_conflict? hpair, ?_, ?_⟩
      · rwa [List.take_left]
      · rw [List.append_assoc, List.take_left]
        exact fun other hmem => conflict?_eq_none_iff.1 (hfront other hmem)

theorem clashFree_nil : ClashFree [] :=
  List.Pairwise.nil

/-- A list with a first clash is not free of clashes. -/
theorem FirstClash.not_clashFree {targets : List Target} {i j : Nat} {earlier later : Target}
    (h : FirstClash targets i j earlier later) : ¬ClashFree targets := fun hfree =>
  hfree.not_clash h.lt h.earlier_at h.later_at h.clash

/-- The check passes exactly if there is no clash. -/
theorem checkDisjoint_eq_ok_iff {targets : List Target} :
    checkDisjoint targets = .ok () ↔ ClashFree targets := by
  obtain ⟨hnone, hsome⟩ := conflictAfter?_finds clashFree_nil targets
  rw [List.nil_append] at hnone hsome
  rw [checkDisjoint]
  cases hafter : conflictAfter? [] targets with
  | none => exact iff_of_true rfl (hnone hafter)
  | some conflict =>
    obtain ⟨i, j, earlier, later, hfirst, -⟩ := hsome conflict hafter
    exact iff_of_false nofun hfirst.not_clashFree

/-- The check fails exactly with the conflict of the first clash. -/
theorem checkDisjoint_eq_error_iff {targets : List Target} {conflict : Conflict} :
    checkDisjoint targets = .error conflict ↔
      ∃ i j earlier later, FirstClash targets i j earlier later ∧
        earlier.conflict? later = some conflict := by
  obtain ⟨hnone, hsome⟩ := conflictAfter?_finds clashFree_nil targets
  rw [List.nil_append] at hnone hsome
  rw [checkDisjoint]
  cases hafter : conflictAfter? [] targets with
  | none =>
    refine iff_of_false nofun ?_
    rintro ⟨i, j, earlier, later, hfirst, -⟩
    exact hfirst.not_clashFree (hnone hafter)
  | some found =>
    obtain ⟨i, j, earlier, later, hfirst, hfound⟩ := hsome found hafter
    constructor
    · rintro h
      cases h
      exact ⟨i, j, earlier, later, hfirst, hfound⟩
    · rintro ⟨i', j', earlier', later', hfirst', hconflict⟩
      obtain ⟨rfl, rfl⟩ := hfirst.unique hfirst'
      rw [hfound] at hconflict
      exact congrArg Except.error (Option.some.inj hconflict)

/-- **The check finds the first clash.** It passes exactly if for no two targets there is a
path at or below both outputs or a path at or below both inputs. Otherwise it reports the
first clash, by its outputs if a path lies at or below both, and else by its inputs. So it
does not matter to passing in which order the targets are given. -/
theorem checkDisjoint_finds_first_clash (targets : List Target) :
    (checkDisjoint targets = .ok () ↔
      targets.Pairwise fun earlier later =>
        ¬earlier.outputPath.Meets later.outputPath ∧ ¬earlier.inputRoot.Meets later.inputRoot) ∧
    (∀ conflict, checkDisjoint targets = .error conflict ↔
      ∃ i j earlier later, FirstClash targets i j earlier later ∧
        (earlier.outputPath.Meets later.outputPath ∧ conflict = .outputs earlier later ∨
          ¬earlier.outputPath.Meets later.outputPath ∧ conflict = .inputs earlier later)) ∧
    (∀ earlier later : Target,
      (Conflict.outputs earlier later).message
          = "Tasks '" ++ earlier.task ++ "' and '" ++ later.task ++
            "' write overlapping output directories: " ++ earlier.outputDir ++ ", " ++
            later.outputDir ∧
        (Conflict.inputs earlier later).message
          = "Tasks '" ++ earlier.task ++ "' and '" ++ later.task ++
            "' read overlapping inputs: " ++ earlier.inputGlob ++ ", " ++ later.inputGlob) ∧
    ∀ others, targets.Perm others →
      (checkDisjoint targets = .ok () ↔ checkDisjoint others = .ok ()) := by
  refine ⟨?_, fun conflict => ?_, fun earlier later => ⟨rfl, rfl⟩, fun others hperm => ?_⟩
  · rw [checkDisjoint_eq_ok_iff, ClashFree]
    simp only [Clash, not_or]
  · rw [checkDisjoint_eq_error_iff]
    refine exists_congr fun i => exists_congr fun j => exists_congr fun earlier =>
      exists_congr fun later => and_congr_right fun hfirst => ?_
    rw [conflict?_eq_some_iff]
    refine or_congr_right (and_congr_right fun houtputs => ?_)
    -- the pair clashes, so if its outputs do not meet its inputs do
    rw [and_iff_right (hfirst.clash.resolve_left houtputs)]
  · rw [checkDisjoint_eq_ok_iff, checkDisjoint_eq_ok_iff]
    exact hperm.pairwise_iff fun hfree hclash => hfree hclash.symm

/-- Four targets of which only the last two clash, by both directories. Two slashes in front
are not one, a part `.` is none, and a glob that begins with a pattern reads from the current
directory, and so from everything below it. Two more clash by their inputs alone: the pattern
stands in the second part of the first glob, which therefore reads from all of `schema`. -/
theorem last_two_clash_by_outputs :
    let schema : Target := ⟨"schema", "/in/*.json", "gen", none⟩
    let mirror : Target := ⟨"mirror", "//in/*.json", "/gen", none⟩
    let all : Target := ⟨"all", "*.json", "lib/../x", none⟩
    let part : Target := ⟨"part", "a/b/*.json", "./lib//", none⟩
    let hubs : Target := ⟨"hubs", "schema/hub*/in.json", "gen/hubs", none⟩
    let arb : Target := ⟨"arb", "schema/arb/in.json", "gen/arb", none⟩
    let targets := [schema, mirror, all, part]
    checkDisjoint targets = .error (.outputs all part) ∧
    (∃ i j, FirstClash targets i j all part ∧ all.outputPath.Meets part.outputPath) ∧
    checkDisjoint targets.reverse ≠ .ok () ∧
    checkDisjoint [hubs, arb] = .error (.inputs hubs arb) ∧
    ¬hubs.outputPath.Meets arb.outputPath ∧
    hubs.inputRoot = Dir.ofText "schema" ∧ arb.inputRoot = Dir.ofText "schema/arb/in.json" := by
  intro schema mirror all part hubs arb targets
  obtain ⟨-, herror, -, horder⟩ := checkDisjoint_finds_first_clash targets
  have hafter : conflictAfter? [] targets = some (.outputs all part) := by decide
  have hfails : checkDisjoint targets = .error (.outputs all part) := by
    rw [checkDisjoint, hafter]
  have hcut : conflictAfter? [] [hubs, arb] = some (.inputs hubs arb) := by decide
  have hinputs : checkDisjoint [hubs, arb] = .error (.inputs hubs arb) := by
    rw [checkDisjoint, hcut]
  refine ⟨hfails, ?_, ?_, hinputs, ?_, by decide, by decide⟩
  · obtain ⟨i, j, earlier, later, hfirst, ⟨hmeets, heq⟩ | ⟨-, heq⟩⟩ := (herror _).1 hfails
    · cases heq
      exact ⟨i, j, hfirst, hmeets⟩
    · cases heq
  · rw [Ne, ← horder targets.reverse (List.reverse_perm targets).symm, hfails]
    nofun
  · obtain ⟨-, _, _, _, -, ⟨-, heq⟩ | ⟨hapart, heq⟩⟩ :=
      ((checkDisjoint_finds_first_clash [hubs, arb]).2.1 _).1 hinputs
    · cases heq
    · cases heq
      exact hapart

/-! ## Where the outputs go -/

/-- The directory that the command works in when it is started in `base`. -/
def start (base : Dir) (target : Target) : Dir :=
  match target.startDir with
  | some dir => base.join (Dir.ofText dir)
  | none => base

/-- The directory that the outputs go to when the command is started in `base`. -/
def destination (base : Dir) (target : Target) : Dir :=
  ((target.start base).join target.outputPath).collapse

/-- Four targets that pass the check and write to one directory. The second goes there
first, the third takes a way around, and the fourth says where it is from the root. -/
theorem same_destination_in_four_spellings :
    let hub : Target := ⟨"hub", "hub/*.json", "types/hub", none⟩
    let arb : Target := ⟨"arb", "arb/*.json", "hub", some "types"⟩
    let farm : Target := ⟨"farm", "farm/*.json", "gen/../types/hub", none⟩
    let token : Target := ⟨"token", "token/*.json", "/srv/types/hub", none⟩
    checkDisjoint [hub, arb, farm, token] = .ok () ∧
    ∀ target ∈ [hub, arb, farm, token],
      target.destination (Dir.ofText "/srv") = Dir.ofText "/srv/types/hub" := by
  intro hub arb farm token
  have hafter : conflictAfter? [] [hub, arb, farm, token] = none := by decide
  exact ⟨by rw [checkDisjoint, hafter], by decide⟩

/-- The spellings of two outputs tell where they go: both are read from a root or both from
the same directory, and after what they have in common neither climbs again. -/
structure Comparable (base : Dir) (a b : Target) : Prop where
  rooted : a.outputPath.root = .here ↔ b.outputPath.root = .here
  start : a.outputPath.root = .here → (a.start base).collapse = (b.start base).collapse
  plain : ∃ common first second, a.outputPath.parts = common ++ first ∧
    b.outputPath.parts = common ++ second ∧ ".." ∉ first ∧ ".." ∉ second

/-- The last parts of an output, if they do not climb, are the last parts of its
destination. -/
theorem destination_eq_below (base : Dir) {target : Target} {dir : Dir} {parts : List String}
    (houtput : target.outputPath = dir.below parts) (hplain : ".." ∉ parts) :
    target.destination base = ((target.start base).join dir).collapse.below parts := by
  rw [destination, houtput, Dir.join_below, Dir.collapse_below _ hplain]

/-- Between comparable targets, what lies within what can be read off the spelling. -/
theorem Comparable.destination_liesWithin_iff {base : Dir} {a b : Target}
    (h : Comparable base a b) :
    (a.destination base).liesWithin (b.destination base) = true ↔
      a.outputPath.liesWithin b.outputPath = true := by
  obtain ⟨common, first, second, hfirst, hsecond, hplain, hplain'⟩ := h.plain
  have ha : a.outputPath = (⟨a.outputPath.root, common⟩ : Dir).below first :=
    congrArg (Dir.mk _) hfirst
  have hb : b.outputPath = (⟨b.outputPath.root, common⟩ : Dir).below second :=
    congrArg (Dir.mk _) hsecond
  have hspelt : a.outputPath.liesWithin b.outputPath = true ↔
      a.outputPath.root = b.outputPath.root ∧ second <+: first := by
    rw [Dir.liesWithin_iff, hfirst, hsecond, List.prefix_append_right_inj]
  rw [hspelt, destination_eq_below base ha hplain, destination_eq_below base hb hplain']
  by_cases hroot : a.outputPath.root = b.outputPath.root
  · -- from here on both are below one directory
    have hsame : ((a.start base).join ⟨a.outputPath.root, common⟩).collapse
        = ((b.start base).join ⟨b.outputPath.root, common⟩).collapse := by
      rw [← hroot]
      by_cases hhere : a.outputPath.root = .here
      · rw [Dir.join, if_pos hhere, Dir.join, if_pos hhere]
        exact Dir.collapse_below_congr (h.start hhere) common
      · rw [Dir.join, if_neg hhere, Dir.join, if_neg hhere]
    rw [hsame, Dir.below_liesWithin_below_iff, and_iff_right hroot]
  · -- two roots that differ are both kept, and nothing is below both
    have hhere : a.outputPath.root ≠ .here := fun hhere =>
      hroot (hhere.trans (h.rooted.1 hhere).symm)
    have hhere' : b.outputPath.root ≠ .here := fun hother => hhere (h.rooted.2 hother)
    rw [Dir.join, if_neg hhere, Dir.join, if_neg hhere', Dir.liesWithin_iff]
    exact iff_of_false (fun hin => hroot hin.1) (fun hin => hroot hin.1)

theorem Comparable.symm {base : Dir} {a b : Target} (h : Comparable base a b) :
    Comparable base b a := by
  obtain ⟨common, first, second, hfirst, hsecond, hplain, hplain'⟩ := h.plain
  exact ⟨h.rooted.symm, fun hhere => (h.start (h.rooted.2 hhere)).symm,
    common, second, first, hsecond, hfirst, hplain', hplain⟩

/-- **Passing keeps comparable targets apart.** Whatever directory the commands are started
in, two comparable targets of a list that passes write to different directories, and neither
of the two lies within the other. -/
theorem checkDisjoint_keeps_apart {targets : List Target} (hpass : checkDisjoint targets = .ok ())
    (base : Dir) :
    targets.Pairwise fun a b => Comparable base a b →
      a.destination base ≠ b.destination base ∧
      ¬(a.destination base).liesWithin (b.destination base) = true ∧
      ¬(b.destination base).liesWithin (a.destination base) = true := by
  refine (checkDisjoint_eq_ok_iff.1 hpass).imp fun {a b} hfree hcomparable => ?_
  have hspelt : ¬a.outputPath.overlaps b.outputPath = true := fun hoverlap =>
    hfree (.inl ((Dir.overlaps_iff_meets a.isWritten_outputPath b.isWritten_outputPath).1 hoverlap))
  rw [Dir.overlaps, Bool.or_eq_true, not_or, ← hcomparable.destination_liesWithin_iff,
    ← hcomparable.symm.destination_liesWithin_iff] at hspelt
  refine ⟨fun hsame => hspelt.1 ?_, hspelt⟩
  rw [hsame]
  exact Dir.liesWithin_refl _

/-- Two targets that leave the scripts directory in the same way and write side by side. -/
theorem siblings_above_are_apart :
    let hub : Target := ⟨"hub", "hub/**/*.json", "../scripts/types/dao-lst/hub", some ".."⟩
    let arb : Target := ⟨"arb", "arb/schema/*.json", "../scripts/types/arb-vault", some ".."⟩
    let base := Dir.ofText "/ws/contracts/scripts"
    checkDisjoint [hub, arb] = .ok () ∧ Comparable base hub arb ∧
    hub.destination base = Dir.ofText "/ws/scripts/types/dao-lst/hub" ∧
    ¬(hub.destination base).liesWithin (arb.destination base) = true := by
  intro hub arb base
  have hafter : conflictAfter? [] [hub, arb] = none := by decide
  have hpass : checkDisjoint [hub, arb] = .ok () := by rw [checkDisjoint, hafter]
  have hcomparable : Comparable base hub arb :=
    ⟨by decide, fun _ => rfl, ["..", "scripts", "types"], ["dao-lst", "hub"], ["arb-vault"],
      by decide, by decide, by decide, by decide⟩
  have happart := (List.pairwise_cons.1 (checkDisjoint_keeps_apart hpass base)).1 arb
    List.mem_cons_self hcomparable
  exact ⟨hpass, hcomparable, by decide, happart.2.1⟩

end Target

end Taskbook
