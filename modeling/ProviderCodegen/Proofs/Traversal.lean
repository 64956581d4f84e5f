import Mathlib.Data.List.Basic

/-! # Loops that stop at a failure

A loop over a list whose steps can fail goes on to the first item for which one does, and fails with
the same failure (`FirstFailure`). It succeeds when every step does.
-/

namespace ProviderCodegen

variable {ε α β : Type} {step : α → Except ε β} {item : α} {items : List α} {fault : ε}

/-! ## One step -/

theorem exists_map_eq_ok_iff {first : Except ε α} (f : α → β) :
    (∃ result, first.map f = .ok result) ↔ ∃ value, first = .ok value := by
  cases first with
  | error found =>
    refine iff_of_false ?_ ?_
    · rintro ⟨result, ⟨⟩⟩
    · rintro ⟨value, ⟨⟩⟩
  | ok value => exact iff_of_true ⟨_, rfl⟩ ⟨value, rfl⟩

theorem map_eq_error_iff {first : Except ε α} (f : α → β) :
    first.map f = .error fault ↔ first = .error fault := by
  cases first with
  | error found => rw [Except.map, Except.error.injEq, Except.error.injEq]
  | ok value => exact iff_of_false nofun nofun

/-- Either the first computation fails or it succeeds and the next one does. -/
theorem bind_eq_error_iff {first : Except ε α} {next : α → Except ε β} :
    (first >>= next) = .error fault ↔
      first = .error fault ∨ ∃ value, first = .ok value ∧ next value = .error fault := by
  cases first with
  | error found => simp only [bind, Except.bind, Except.error.injEq, reduceCtorEq, false_and,
      exists_false, or_false]
  | ok value => simp only [bind, Except.bind, reduceCtorEq, Except.ok.injEq, exists_eq_left',
      false_or]

/-! ## Loops -/

/-- Whether the first item that a step fails for is one that it fails for with `fault`. -/
def FirstFailure (step : α → Except ε β) (items : List α) (fault : ε) : Prop :=
  ∃ before item after, items = before ++ item :: after ∧
    (∀ earlier ∈ before, ∃ result, step earlier = .ok result) ∧ step item = .error fault

theorem not_firstFailure_nil : ¬ FirstFailure step [] fault := by
  rintro ⟨before, item, after, split, -⟩
  cases before <;> cases split

theorem firstFailure_cons_of_ok {result : β} (passed : step item = .ok result) :
    FirstFailure step (item :: items) fault ↔ FirstFailure step items fault := by
  constructor
  · rintro ⟨before, other, after, split, earlier, failed⟩
    cases before with
    | nil =>
      cases split
      cases passed.symm.trans failed
    | cons first before =>
      cases split
      exact ⟨before, other, after, rfl, (List.forall_mem_cons.mp earlier).2, failed⟩
  · rintro ⟨before, other, after, rfl, earlier, failed⟩
    exact ⟨item :: before, other, after, rfl,
      List.forall_mem_cons.mpr ⟨⟨result, passed⟩, earlier⟩, failed⟩

theorem firstFailure_cons_of_error {found : ε} (failed : step item = .error found) :
    FirstFailure step (item :: items) fault ↔ found = fault := by
  constructor
  · rintro ⟨before, other, after, split, earlier, last⟩
    cases before with
    | nil =>
      cases split
      exact Except.error.inj (failed.symm.trans last)
    | cons first before =>
      cases split
      obtain ⟨result, passed⟩ := earlier item (List.mem_cons_self ..)
      cases failed.symm.trans passed
  · rintro rfl
    exact ⟨[], item, items, rfl, nofun, failed⟩

/-- The items before the first failure all succeed, and those behind it do not matter. -/
theorem mapM_eq_error_iff : items.mapM step = .error fault ↔ FirstFailure step items fault := by
  induction items with
  | nil => exact iff_of_false nofun not_firstFailure_nil
  | cons item items ih =>
    rw [List.mapM_cons]
    cases given : step item with
    | error found =>
      rw [firstFailure_cons_of_error given]
      exact ⟨Except.error.inj, congrArg Except.error⟩
    | ok result =>
      rw [firstFailure_cons_of_ok given, ← ih]
      cases items.mapM step with
      | error found => exact Iff.rfl
      | ok results => exact iff_of_false nofun nofun

theorem forM_eq_error_iff {step : α → Except ε Unit} :
    items.forM step = .error fault ↔ FirstFailure step items fault := by
  induction items with
  | nil => exact iff_of_false nofun not_firstFailure_nil
  | cons item items ih =>
    rw [List.forM]
    cases given : step item with
    | error found =>
      rw [firstFailure_cons_of_error given]
      exact ⟨Except.error.inj, congrArg Except.error⟩
    | ok result =>
      rw [firstFailure_cons_of_ok given, ← ih]
      exact Iff.rfl

theorem forM_eq_ok_iff {step : α → Except ε Unit} :
    items.forM step = .ok () ↔ ∀ item ∈ items, step item = .ok () := by
  induction items with
  | nil => exact iff_of_true rfl nofun
  | cons item items ih =>
    rw [List.forM, List.forall_mem_cons, ← ih]
    cases step item with
    | error found => exact iff_of_false nofun fun passes => nomatch passes.1
    | ok result => exact (and_iff_right rfl).symm

/-- A loop succeeds when each of its steps does. -/
theorem exists_mapM_iff :
    (∃ results, items.mapM step = .ok results) ↔
      ∀ item ∈ items, ∃ result, step item = .ok result := by
  induction items with
  | nil => exact iff_of_true ⟨[], rfl⟩ nofun
  | cons item items ih =>
    rw [List.mapM_cons, List.forall_mem_cons, ← ih]
    cases step item with
    | error found =>
      refine iff_of_false ?_ ?_
      · rintro ⟨results, ⟨⟩⟩
      · rintro ⟨⟨result, ⟨⟩⟩, -⟩
    | ok result =>
      cases items.mapM step with
      | error found =>
        refine iff_of_false ?_ ?_
        · rintro ⟨results, ⟨⟩⟩
        · rintro ⟨-, results, ⟨⟩⟩
      | ok results => exact iff_of_true ⟨_, rfl⟩ ⟨⟨result, rfl⟩, results, rfl⟩

end ProviderCodegen
