/-
Environments keep their order, and what is set on top wins.

The bindings of an environment stand in the order of their names, so that no name comes twice.
Nothing in the type says so: it is what setting a value keeps (`Environment.InOrder.set`), and
so whatever is made by setting values has it. Only the overrides of `Environment.extend` need
it. There a name is looked up in the overrides and then below them (`Environment.get?_extend`),
and with a name given twice the two readings would be of different bindings.
-/
import Taskbook.Environment

set_option autoImplicit false

namespace Taskbook

namespace Environment

/-- The bindings stand in the order of their names, and so each name stands there once. -/
def InOrder (environment : Environment) : Prop :=
  environment.bindings.Pairwise fun first second => first.1 < second.1

instance (environment : Environment) : Decidable environment.InOrder :=
  inferInstanceAs (Decidable (environment.bindings.Pairwise fun first second => first.1 < second.1))

/-! ## Setting one value -/

/-- After setting a name, every other binding was there before. -/
theorem mem_of_mem_insert {name value : String} {bindings : List (String × String)}
    {binding : String × String} (h : binding ∈ insert name value bindings) :
    binding = (name, value) ∨ binding ∈ bindings := by
  induction bindings with
  | nil => exact .inl (List.mem_singleton.1 h)
  | cons first rest ih =>
    rw [insert] at h
    split at h
    · exact (List.mem_cons.1 h).imp_right (List.mem_cons_of_mem _)
    · split at h
      · exact List.mem_cons.1 h
      · rcases List.mem_cons.1 h with rfl | hrest
        · exact .inr List.mem_cons_self
        · exact (ih hrest).imp_right (List.mem_cons_of_mem _)

theorem pairwise_insert {name value : String} {bindings : List (String × String)}
    (h : bindings.Pairwise fun first second => first.1 < second.1) :
    (insert name value bindings).Pairwise fun first second => first.1 < second.1 := by
  induction bindings with
  | nil => exact List.pairwise_singleton _ _
  | cons first rest ih =>
    obtain ⟨hfirst, hrest⟩ := List.pairwise_cons.1 h
    rw [insert]
    split
    · next hsame =>
      exact List.pairwise_cons.2 ⟨fun later hlater => hsame ▸ hfirst later hlater, hrest⟩
    · next hother =>
      split
      · next hbefore =>
        refine List.pairwise_cons.2 ⟨fun later hlater => ?_, h⟩
        rcases List.mem_cons.1 hlater with rfl | hmem
        · exact hbefore
        · exact String.lt_trans hbefore (hfirst later hmem)
      · next hbehind =>
        refine List.pairwise_cons.2 ⟨fun later hlater => ?_, ih hrest⟩
        rcases mem_of_mem_insert hlater with rfl | hmem
        · exact Std.lt_of_le_of_ne (String.not_lt.1 hbehind) (Ne.symm hother)
        · exact hfirst later hmem

theorem InOrder.set {environment : Environment} (h : environment.InOrder) (name value : String) :
    (environment.set name value).InOrder :=
  pairwise_insert h

/-! ## Extending -/

/-- One value of the overrides is set, and then the others. -/
theorem extend_cons (environment : Environment) (binding : String × String)
    (rest : List (String × String)) :
    environment.extend ⟨binding :: rest⟩ = (environment.set binding.1 binding.2).extend ⟨rest⟩ :=
  rfl

theorem InOrder.extend {environment : Environment} (h : environment.InOrder)
    (overrides : Environment) : (environment.extend overrides).InOrder := by
  obtain ⟨bindings⟩ := overrides
  induction bindings generalizing environment with
  | nil => exact h
  | cons binding rest ih =>
    rw [extend_cons]
    exact ih (h.set binding.1 binding.2)

end Environment

end Taskbook
