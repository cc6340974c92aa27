/-
Directory paths, compared by their spelling alone.

A path text is read as a root and a list of parts. Repeated slashes and the part
`.` mean nothing and are dropped; `..` is kept, because without the file system
nobody knows what it leads to. A path that starts with exactly two slashes has a
root of its own, more than two are as good as one.

One directory lies at or below another if the root is the same and the parts of
the other come first. Two directories overlap if one of them lies at or below the
other, and that is the same as having some path at or below both.
-/
import Taskbook.Text.Split

set_option autoImplicit false

namespace Taskbook

/-- Where a path starts. -/
inductive Root where
  /-- At the current directory. -/
  | here
  /-- At the root directory. -/
  | top
  /-- At the root that two slashes name. -/
  | doubled
  deriving DecidableEq, Repr

/-- A directory path without its meaningless parts. -/
structure Dir where
  root : Root := .here
  parts : List String := []
  deriving DecidableEq, Repr

namespace Root

/-- The slashes that name the root. -/
def text : Root → String
  | here => ""
  | top => "/"
  | doubled => "//"

/-- The root that the leading slashes of a text name. -/
def ofText (text : String) : Root :=
  match (text.toList.takeWhile (· == '/')).length with
  | 0 => here
  | 2 => doubled
  | _ => top

end Root

namespace Dir

/-- A part that says something about where the directory is. -/
def isTelling (part : String) : Bool :=
  part != "" && part != "."

/-- The directory that a text names. -/
def ofText (text : String) : Dir :=
  ⟨Root.ofText text, (Text.pieces '/' text).filter isTelling⟩

/-- The directory's spelling, a dot for the one that has none. -/
def text (dir : Dir) : String :=
  let spelling := dir.root.text ++ Text.join "/" dir.parts
  if spelling = "" then "." else spelling

/-- The directory at these parts, seen from `dir`. -/
def below (dir : Dir) (parts : List String) : Dir :=
  ⟨dir.root, dir.parts ++ parts⟩

/-- The directories above, from the nearest to the one without parts. -/
def parents (dir : Dir) : List Dir :=
  (List.range dir.parts.length).reverse.map fun n => ⟨dir.root, dir.parts.take n⟩

/-- `dir` is `other` or one of the directories below it. -/
def liesWithin (dir other : Dir) : Bool :=
  dir == other || dir.parents.contains other

/-- One of the two directories lies at or below the other (`_overlaps`). -/
def overlaps (a b : Dir) : Bool :=
  a.liesWithin b || b.liesWithin a

/-- Lying at or below is a matter of the root and of the first parts. -/
theorem liesWithin_iff {dir other : Dir} :
    dir.liesWithin other = true ↔ dir.root = other.root ∧ other.parts <+: dir.parts := by
  obtain ⟨root, parts⟩ := dir
  obtain ⟨root', parts'⟩ := other
  simp only [liesWithin, parents, Bool.or_eq_true, beq_iff_eq, mk.injEq, List.contains_iff_mem,
    List.mem_map, List.mem_reverse, List.mem_range]
  constructor
  · rintro (⟨rfl, rfl⟩ | ⟨n, -, rfl, rfl⟩)
    · exact ⟨rfl, List.prefix_refl _⟩
    · exact ⟨rfl, List.take_prefix _ _⟩
  · rintro ⟨rfl, hfirst⟩
    have htake : parts.take parts'.length = parts' := (List.prefix_iff_eq_take.1 hfirst).symm
    rcases Nat.lt_or_eq_of_le hfirst.length_le with hlt | heq
    · exact Or.inr ⟨parts'.length, hlt, rfl, htake⟩
    · exact Or.inl ⟨rfl, (hfirst.eq_of_length heq).symm⟩

end Dir

end Taskbook
