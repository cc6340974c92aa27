/-
Doing the same to every element of a list until something goes wrong.

Declarations, paths and scripts are all treated this way: one after the other, and
the first that fails is the one reported. `List.mapM` in `Except` is that loop. The
statements here say what it amounts to without the loop: success is success for
every element, and the results stand in the order of the elements. The first
section does the same for a single step after another, and the last one is about
lists that are read by key.
-/
import Mathlib.Data.List.Forall2

set_option autoImplicit false

namespace Taskbook

/-! ## One step after another -/

section

variable {α β ε δ : Type}

/-- Two steps give a result if the first gives what the second needs. -/
theorem bind_eq_ok_iff {first : Except ε α} {second : α → Except ε β} {value : β} :
    (first >>= second) = .ok value ↔ ∃ between, first = .ok between ∧ second between = .ok value := by
  cases first with
  | error error => exact ⟨nofun, fun ⟨_, h, _⟩ => nomatch h⟩
  | ok between =>
    constructor
    · exact fun h => ⟨between, rfl, h⟩
    · rintro ⟨other, hother, h⟩
      cases hother
      exact h

theorem map_eq_ok_iff {result : Except ε α} {f : α → β} {value : β} :
    f <$> result = .ok value ↔ ∃ before, result = .ok before ∧ f before = value := by
  cases result with
  | error error => exact ⟨nofun, fun ⟨_, h, _⟩ => nomatch h⟩
  | ok before => simp [Functor.map, Except.map]

theorem map_eq_error_iff {result : Except ε α} {f : α → β} {error : ε} :
    f <$> result = .error error ↔ result = .error error := by
  cases result <;> simp [Functor.map, Except.map]

theorem exists_map_ok_iff {result : Except ε α} {f : α → β} :
    (∃ value, f <$> result = .ok value) ↔ ∃ before, result = .ok before := by
  cases result <;> simp [Functor.map, Except.map]

/-- What is said about an error does not matter to success. -/
theorem mapError_eq_ok_iff {result : Except ε α} {f : ε → δ} {value : α} :
    result.mapError f = .ok value ↔ result = .ok value := by
  cases result <;> simp [Except.mapError]

/-- Without its error, a result shows whether it is this value. -/
theorem toOption_eq_some_iff {result : Except ε α} {value : α} :
    result.toOption = some value ↔ result = .ok value := by
  cases result <;> simp [Except.toOption]

end

/-! ## A whole list -/

section

variable {α β ε : Type} {f g : α → Except ε β} {items : List α}

/-- One element, and then the others unless it failed. -/
theorem mapM_cons_of_ok {item : α} {value : β} (rest : List α) (h : f item = .ok value) :
    (item :: rest).mapM f = (rest.mapM f).map (value :: ·) := by
  rw [List.mapM_cons, h]
  cases rest.mapM f <;> rfl

theorem mapM_cons_of_error {item : α} {error : ε} (rest : List α) (h : f item = .error error) :
    (item :: rest).mapM f = .error error := by
  rw [List.mapM_cons, h]
  rfl

/-- A first part, and then the others unless it failed. -/
theorem mapM_append_of_ok {first : List α} {values : List β} (rest : List α)
    (h : first.mapM f = .ok values) :
    (first ++ rest).mapM f = (rest.mapM f).map (values ++ ·) := by
  rw [List.mapM_append, h]
  cases rest.mapM f <;> rfl

theorem mapM_append_of_error {first : List α} {error : ε} (rest : List α)
    (h : first.mapM f = .error error) : (first ++ rest).mapM f = .error error := by
  rw [List.mapM_append, h]
  rfl

/-- Only what is done to the elements of the list counts. -/
theorem mapM_congr_of_mem (h : ∀ item ∈ items, f item = g item) : items.mapM f = items.mapM g := by
  induction items with
  | nil => rfl
  | cons item rest ih =>
    rw [List.mapM_cons, List.mapM_cons, h item List.mem_cons_self,
      ih fun other hother => h other (List.mem_cons_of_mem _ hother)]

/-- The results of a list are the results of its elements, in order. -/
theorem mapM_eq_ok_iff {values : List β} :
    items.mapM f = .ok values ↔ List.Forall₂ (fun item value => f item = .ok value) items values := by
  induction items generalizing values with
  | nil =>
    rw [List.forall₂_nil_left_iff, List.mapM_nil]
    exact ⟨fun h => (Except.ok.inj h).symm, fun h => h ▸ rfl⟩
  | cons item rest ih =>
    rw [List.forall₂_cons_left_iff]
    cases hitem : f item with
    | error error =>
      -- neither side gets past the first element
      rw [mapM_cons_of_error rest hitem]
      simp
    | ok value =>
      rw [mapM_cons_of_ok rest hitem]
      constructor
      · intro h
        cases hrest : rest.mapM f with
        | error error =>
          rw [hrest] at h
          cases h
        | ok others =>
          rw [hrest] at h
          exact ⟨value, others, rfl, ih.1 hrest, (Except.ok.inj h).symm⟩
      · rintro ⟨first, others, hfirst, hothers, rfl⟩
        rw [ih.2 hothers, Except.ok.inj hfirst]
        rfl

/-- Only what stands on the left counts. -/
theorem forall₂_congr_of_mem {R S : α → β → Prop} {values : List β}
    (h : ∀ item ∈ items, ∀ value, R item value ↔ S item value) :
    List.Forall₂ R items values ↔ List.Forall₂ S items values := by
  induction items generalizing values with
  | nil => rw [List.forall₂_nil_left_iff, List.forall₂_nil_left_iff]
  | cons item rest ih =>
    obtain ⟨hitem, hrest⟩ := List.forall_mem_cons.1 h
    simp only [List.forall₂_cons_left_iff, hitem, ih hrest]

/-- What stands on the right stands there for something on the left. -/
theorem exists_mem_of_forall₂ {γ : Type} {R : γ → β → Prop} {left : List γ} {right : List β}
    (h : List.Forall₂ R left right) {value : β} (hvalue : value ∈ right) :
    ∃ item ∈ left, R item value := by
  induction h with
  | nil => simp at hvalue
  | cons hfirst _ ih =>
    rcases List.mem_cons.1 hvalue with rfl | hothers
    · exact ⟨_, List.mem_cons_self, hfirst⟩
    · obtain ⟨item, hmem, hitem⟩ := ih hothers
      exact ⟨item, List.mem_cons_of_mem _ hmem, hitem⟩

/-- Of two lists that are drawn from one, each has something for the elements that pass a test and
for no others: then they stand side by side. -/
theorem forall₂_map_filter_filterMap {γ : Type} {R : β → γ → Prop} {test : α → Bool} {k : α → β}
    {l : α → Option γ}
    (hkept : ∀ item ∈ items, test item = true → ∃ value, l item = some value ∧ R (k item) value)
    (hleft : ∀ item ∈ items, test item = false → l item = none) :
    List.Forall₂ R ((items.filter test).map k) (items.filterMap l) := by
  induction items with
  | nil => exact .nil
  | cons item rest ih =>
    obtain ⟨hitem, hkept⟩ := List.forall_mem_cons.1 hkept
    obtain ⟨hnone, hleft⟩ := List.forall_mem_cons.1 hleft
    cases htest : test item with
    | true =>
      obtain ⟨value, hvalue, hrelated⟩ := hitem htest
      rw [List.filter_cons_of_pos htest, List.map_cons, List.filterMap_cons_some hvalue]
      exact .cons hrelated (ih hkept hleft)
    | false =>
      rw [List.filter_cons_of_neg (by simp [htest]), List.filterMap_cons_none (hnone htest)]
      exact ih hkept hleft

/-- Every result is that of some element. -/
theorem item_of_mapM_ok {values : List β} {value : β} (h : items.mapM f = .ok values)
    (hvalue : value ∈ values) : ∃ item ∈ items, f item = .ok value :=
  exists_mem_of_forall₂ (mapM_eq_ok_iff.1 h) hvalue

/-- Every element has its result among the results. -/
theorem value_of_mapM_ok {values : List β} {item : α} (h : items.mapM f = .ok values)
    (hitem : item ∈ items) : ∃ value ∈ values, f item = .ok value := by
  have hflip : List.Forall₂ (fun value item => f item = .ok value) values items :=
    List.Forall₂.flip (mapM_eq_ok_iff.1 h)
  exact exists_mem_of_forall₂ hflip hitem

/-- If there is only one result that an element can have, the list has that of each. -/
theorem mapM_eq_ok_iff_map {p : α → Prop} {result : α → β}
    (h : ∀ item value, f item = .ok value ↔ p item ∧ value = result item) {values : List β} :
    items.mapM f = .ok values ↔ (∀ item ∈ items, p item) ∧ values = items.map result := by
  rw [mapM_eq_ok_iff]
  induction items generalizing values with
  | nil => simp
  | cons item rest ih =>
    rw [List.forall₂_cons_left_iff, List.forall_mem_cons, List.map_cons]
    constructor
    · rintro ⟨value, others, hvalue, hothers, rfl⟩
      obtain ⟨hitem, rfl⟩ := (h item value).1 hvalue
      obtain ⟨hrest, rfl⟩ := ih.1 hothers
      exact ⟨⟨hitem, hrest⟩, rfl⟩
    · rintro ⟨⟨hitem, hrest⟩, rfl⟩
      exact ⟨_, _, (h item _).2 ⟨hitem, rfl⟩, ih.2 ⟨hrest, rfl⟩, rfl⟩

/-- What can be told of each element from its result can be told of the list. -/
theorem map_eq_of_mapM_ok {γ : Type} {k : α → γ} {l : β → γ} {values : List β}
    (h : items.mapM f = .ok values)
    (hsame : ∀ item ∈ items, ∀ value, f item = .ok value → l value = k item) :
    values.map l = items.map k := by
  have hall := mapM_eq_ok_iff.1 h
  -- the induction is on the results beside their elements, so the loop must go
  clear h
  induction hall with
  | nil => rfl
  | cons hfirst _ ih =>
    rw [List.map_cons, List.map_cons, hsame _ List.mem_cons_self _ hfirst,
      ih fun item hitem => hsame item (List.mem_cons_of_mem _ hitem)]

/-- A list succeeds exactly if every element does. -/
theorem exists_mapM_ok_iff :
    (∃ values, items.mapM f = .ok values) ↔ ∀ item ∈ items, ∃ value, f item = .ok value := by
  induction items with
  | nil => exact ⟨fun _ => by simp, fun _ => ⟨[], rfl⟩⟩
  | cons item rest ih =>
    rw [List.forall_mem_cons, ← ih]
    cases hitem : f item with
    | error error =>
      rw [mapM_cons_of_error rest hitem]
      simp
    | ok value =>
      rw [mapM_cons_of_ok rest hitem]
      cases rest.mapM f <;> simp [Except.map]

/-- A list fails exactly if one of its elements does after others that succeed, and with the
error of that one. -/
theorem mapM_eq_error_iff {error : ε} :
    items.mapM f = .error error ↔ ∃ before item after, items = before ++ item :: after ∧
      (∀ earlier ∈ before, ∃ value, f earlier = .ok value) ∧ f item = .error error := by
  constructor
  · intro h
    induction items with
    | nil => cases h
    | cons item rest ih =>
      cases hitem : f item with
      | error own =>
        rw [mapM_cons_of_error rest hitem] at h
        obtain rfl : own = error := Except.error.inj h
        exact ⟨[], item, rest, rfl, by simp, hitem⟩
      | ok value =>
        rw [mapM_cons_of_ok rest hitem] at h
        cases hrest : rest.mapM f with
        | ok values =>
          rw [hrest] at h
          cases h
        | error own =>
          rw [hrest] at h
          obtain rfl : own = error := Except.error.inj h
          obtain ⟨before, failing, after, rfl, hbefore, hfailing⟩ := ih hrest
          exact ⟨item :: before, failing, after, rfl,
            List.forall_mem_cons.2 ⟨⟨value, hitem⟩, hbefore⟩, hfailing⟩
  · rintro ⟨before, item, after, rfl, hbefore, hitem⟩
    obtain ⟨values, hvalues⟩ := exists_mapM_ok_iff.2 hbefore
    rw [mapM_append_of_ok _ hvalues, mapM_cons_of_error after hitem]
    rfl

/-- If not every element succeeds, the list fails. -/
theorem exists_mapM_error_of_mem {item : α} {error : ε} (hmem : item ∈ items)
    (h : f item = .error error) : ∃ own, items.mapM f = .error own := by
  cases hall : items.mapM f with
  | error own => exact ⟨own, rfl⟩
  | ok values =>
    obtain ⟨value, -, hvalue⟩ := value_of_mapM_ok hall hmem
    rw [h] at hvalue
    cases hvalue

/-- Elements that each come from somewhere come from somewhere together. -/
theorem exists_map_of_forall_mem {p : α → Prop} {k : α → β} {values : List β}
    (h : ∀ value ∈ values, ∃ item, p item ∧ value = k item) :
    ∃ items : List α, values = items.map k ∧ ∀ item ∈ items, p item := by
  induction values with
  | nil => exact ⟨[], rfl, by simp⟩
  | cons value rest ih =>
    obtain ⟨item, hitem, rfl⟩ := h value List.mem_cons_self
    obtain ⟨items, rfl, hitems⟩ := ih fun other hother => h other (List.mem_cons_of_mem _ hother)
    exact ⟨item :: items, rfl, List.forall_mem_cons.2 ⟨hitem, hitems⟩⟩

end

/-! ## Keys -/

/-- Where no key comes twice, looking up is finding. -/
theorem lookup_eq_some_iff_mem {α : Type} {entries : List (String × α)}
    (honce : (entries.map Prod.fst).Nodup) {key : String} {value : α} :
    entries.lookup key = some value ↔ (key, value) ∈ entries := by
  induction entries with
  | nil => simp
  | cons entry rest ih =>
    obtain ⟨first, found⟩ := entry
    rw [List.map_cons, List.nodup_cons] at honce
    rw [List.lookup_cons, List.mem_cons, Prod.mk.injEq]
    by_cases hkey : key = first
    · -- the key is not among the others, so only the first entry can have it
      subst hkey
      have hnot : (key, value) ∉ rest := fun hmem =>
        honce.1 (List.mem_map.2 ⟨_, hmem, rfl⟩)
      simp [hnot, eq_comm]
    · have hb : (key == first) = false := by simpa using hkey
      rw [hb, ih honce.2]
      simp [hkey]

end Taskbook
