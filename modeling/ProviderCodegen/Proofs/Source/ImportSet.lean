import Mathlib.Data.List.Nodup
import Mathlib.Data.String.Basic
import ProviderCodegen.Source.ImportSet

/-! # The invariant of import sets

Whatever is inserted, the paths of a set stay distinct and non-empty. So an import can be looked up
by its path, selecting imports and collecting them again loses nothing, and the order by path is
strict. What a union or a list of imports adds is stated once for entries and once for paths.
-/

namespace ProviderCodegen.Source.ImportSet

variable {s t : ImportSet} {i : Import} {imports : List Import} {path : String}

/-- The paths of a set are distinct, and none of them is empty. -/
structure WellFormed (s : ImportSet) : Prop where
  distinct : s.paths.Nodup
  named : "" ∉ s.paths

theorem mem_paths : path ∈ s.paths ↔ ∃ i ∈ s.entries, i.path = path := List.mem_map

theorem contains_iff : s.contains path = true ↔ path ∈ s.paths := by
  simp only [contains, List.any_eq_true, beq_iff_eq, mem_paths]

/-- Insertion changes nothing for an empty path or one that is present, else it adds an entry at the
end. -/
theorem insert_cases (s : ImportSet) (i : Import) :
    (s.insert i = s ∧ (i.path = "" ∨ i.path ∈ s.paths)) ∨
      (s.insert i = ⟨s.entries ++ [i]⟩ ∧ i.path ≠ "" ∧ i.path ∉ s.paths) := by
  by_cases skipped : (i.path.isEmpty || s.contains i.path) = true
  · refine .inl ⟨if_pos skipped, ?_⟩
    rw [Bool.or_eq_true, contains_iff, String.isEmpty_iff] at skipped
    exact skipped
  · refine .inr ⟨if_neg skipped, ?_⟩
    rw [Bool.or_eq_true, contains_iff, String.isEmpty_iff, not_or] at skipped
    exact skipped

/-- An import whose path is present or empty is not added. -/
theorem mem_entries_insert {j : Import} (member : j ∈ (s.insert i).entries) :
    j ∈ s.entries ∨ j = i := by
  rcases insert_cases s i with ⟨same, -⟩ | ⟨added, -, -⟩
  · rw [same] at member
    exact .inl member
  · rw [added] at member
    exact (List.mem_append.mp member).imp_right List.mem_singleton.mp

/-- Whichever entry is kept for it, a path that is inserted is there. -/
theorem mem_paths_insert (named : path ≠ "") :
    path ∈ (s.insert i).paths ↔ path ∈ s.paths ∨ path = i.path := by
  rcases insert_cases s i with ⟨same, reason⟩ | ⟨added, -, -⟩
  · rw [same]
    refine ⟨.inl, ?_⟩
    rintro (member | rfl)
    · exact member
    · exact reason.resolve_left named
  · simp only [added, paths, List.map_append, List.map_cons, List.map_nil, List.mem_append,
      List.mem_singleton]

/-- An entry is added only for a path that is neither empty nor present. -/
theorem WellFormed.insert (wellFormed : s.WellFormed) (i : Import) : (s.insert i).WellFormed := by
  rcases insert_cases s i with ⟨same, -⟩ | ⟨added, named, absent⟩
  · rw [same]
    exact wellFormed
  · have paths : (s.insert i).paths = s.paths ++ [i.path] := by
      simp only [added, ImportSet.paths, List.map_append, List.map_cons, List.map_nil]
    constructor
    · rw [paths]
      exact List.nodup_append.mpr ⟨wellFormed.distinct, List.nodup_singleton _,
        fun a inSet b isNew same => absent (List.mem_singleton.mp isNew ▸ same ▸ inSet)⟩
    · rw [paths]
      intro empty
      rcases List.mem_append.mp empty with inSet | isNew
      · exact wellFormed.named inSet
      · exact named (List.mem_singleton.mp isNew).symm

/-! ## Lists of imports -/

private theorem mem_entries_foldl {j : Import} (member : j ∈ (imports.foldl insert s).entries) :
    j ∈ s.entries ∨ j ∈ imports := by
  induction imports generalizing s with
  | nil => exact .inl member
  | cons i imports ih =>
    rcases ih member with inserted | rest
    · exact (mem_entries_insert inserted).imp_right fun same => List.mem_cons.mpr (.inl same)
    · exact .inr (List.mem_cons_of_mem _ rest)

private theorem mem_paths_foldl (named : path ≠ "") :
    path ∈ (imports.foldl insert s).paths ↔ path ∈ s.paths ∨ path ∈ imports.map (·.path) := by
  induction imports generalizing s with
  | nil => simp only [List.foldl_nil, List.map_nil, List.not_mem_nil, or_false]
  | cons i imports ih =>
    rw [List.foldl_cons, ih, mem_paths_insert named, List.map_cons, List.mem_cons, or_assoc]

private theorem wellFormed_foldl (wellFormed : s.WellFormed) (imports : List Import) :
    (imports.foldl insert s).WellFormed := by
  induction imports generalizing s with
  | nil => exact wellFormed
  | cons i imports ih => exact ih (wellFormed.insert i)

private theorem foldl_eq_append (distinct : (s.paths ++ imports.map (·.path)).Nodup)
    (named : "" ∉ imports.map (·.path)) :
    imports.foldl insert s = ⟨s.entries ++ imports⟩ := by
  induction imports generalizing s with
  | nil => simp only [List.foldl_nil, List.append_nil]
  | cons i imports ih =>
    rw [List.map_cons] at distinct named
    obtain ⟨head, tail⟩ := not_or.mp (List.mem_cons.not.mp named)
    rcases insert_cases s i with ⟨-, empty | present⟩ | ⟨added, -, -⟩
    · exact absurd empty.symm head
    · have apart := (List.nodup_append.mp distinct).2.2 _ present _ (List.mem_cons_self ..)
      exact absurd rfl apart
    · have paths : (s.insert i).paths = s.paths ++ [i.path] := by
        simp only [added, ImportSet.paths, List.map_append, List.map_cons, List.map_nil]
      rw [List.foldl_cons, ih (by rw [paths, List.append_assoc]; exact distinct) tail, added,
        List.append_assoc]
      rfl

theorem wellFormed_empty : empty.WellFormed := ⟨List.nodup_nil, List.not_mem_nil⟩

theorem wellFormed_ofList (imports : List Import) : (ofList imports).WellFormed :=
  wellFormed_foldl wellFormed_empty imports

theorem mem_entries_ofList (member : i ∈ (ofList imports).entries) : i ∈ imports :=
  (mem_entries_foldl member).resolve_left List.not_mem_nil

/-- A list with distinct paths, none of them empty, is the list of its set's entries. -/
theorem entries_ofList (distinct : (imports.map (·.path)).Nodup)
    (named : "" ∉ imports.map (·.path)) : (ofList imports).entries = imports := by
  rw [ofList, foldl_eq_append (s := empty) distinct named]
  rfl

theorem mem_paths_ofPaths {paths : List String} (named : path ≠ "") :
    path ∈ (ofPaths paths).paths ↔ path ∈ paths := by
  have selected : (paths.map fun path => ({ path } : Import)).map (·.path) = paths := by
    rw [List.map_map]
    exact List.map_id paths
  rw [ofPaths, ofList, mem_paths_foldl named, selected]
  exact or_iff_right List.not_mem_nil

/-- Paths bring no names of their own. -/
theorem mem_entries_ofPaths {paths : List String} (member : i ∈ (ofPaths paths).entries) :
    i.path ∈ paths ∧ i.localName = none := by
  obtain ⟨path, listed, rfl⟩ := List.mem_map.mp (mem_entries_ofList member)
  exact ⟨listed, rfl⟩

/-! ## Unions -/

theorem mem_entries_union (member : i ∈ (s ∪ t).entries) : i ∈ s.entries ∨ i ∈ t.entries :=
  mem_entries_foldl member

/-- The path is there whichever of the two sets brought it. -/
theorem mem_paths_union (named : path ≠ "") :
    path ∈ (s ∪ t).paths ↔ path ∈ s.paths ∨ path ∈ t.paths :=
  mem_paths_foldl named

theorem WellFormed.union (wellFormed : s.WellFormed) (t : ImportSet) : (s ∪ t).WellFormed :=
  wellFormed_foldl wellFormed t.entries

section Fold

variable {α : Type} {items : List α} {imports : α → ImportSet}

theorem mem_entries_foldl_union
    (member : i ∈ (items.foldl (fun s item => s ∪ imports item) s).entries) :
    i ∈ s.entries ∨ ∃ item ∈ items, i ∈ (imports item).entries := by
  induction items generalizing s with
  | nil => exact .inl member
  | cons item items ih =>
    rw [List.exists_mem_cons_iff, ← or_assoc]
    exact (ih member).imp_left mem_entries_union

theorem mem_paths_foldl_union (named : path ≠ "") :
    path ∈ (items.foldl (fun s item => s ∪ imports item) s).paths ↔
      path ∈ s.paths ∨ ∃ item ∈ items, path ∈ (imports item).paths := by
  induction items generalizing s with
  | nil => simp only [List.foldl_nil, List.not_mem_nil, false_and, exists_false, or_false]
  | cons item items ih =>
    rw [List.foldl_cons, ih, mem_paths_union named, List.exists_mem_cons_iff, or_assoc]

theorem wellFormed_foldl_union (wellFormed : s.WellFormed) :
    (items.foldl (fun s item => s ∪ imports item) s).WellFormed := by
  induction items generalizing s with
  | nil => exact wellFormed
  | cons item items ih => exact ih (wellFormed.union _)

end Fold

/-! ## Selection and order -/

/-- Collecting selected imports again keeps every one of them, in order. -/
theorem entries_referencedIn (wellFormed : s.WellFormed) (body : String) :
    (s.referencedIn body).entries = s.entries.filter (·.isReferenced body) := by
  have selected : ((s.entries.filter (·.isReferenced body)).map (·.path)).Sublist s.paths :=
    List.filter_sublist.map _
  exact entries_ofList (wellFormed.distinct.sublist selected)
    fun empty => wellFormed.named (selected.subset empty)

theorem mem_sorted : i ∈ s.sorted ↔ i ∈ s.entries := List.mem_mergeSort

/-- The order by path is strict because no path is there twice. -/
theorem sorted_pairwise (wellFormed : s.WellFormed) :
    s.sorted.Pairwise fun i j => i.path < j.path := by
  have ascending : s.sorted.Pairwise fun i j => decide (i.path ≤ j.path) = true := by
    apply List.pairwise_mergeSort
    · intro i j k first second
      exact decide_eq_true (le_trans (of_decide_eq_true first) (of_decide_eq_true second))
    · intro i j
      rw [Bool.or_eq_true, decide_eq_true_eq, decide_eq_true_eq]
      exact le_total i.path j.path
  have distinct : s.sorted.Pairwise fun i j => i.path ≠ j.path :=
    List.pairwise_map.mp (((List.mergeSort_perm _ _).map _).nodup_iff.mpr wellFormed.distinct)
  exact (ascending.and distinct).imp fun ⟨le, ne⟩ => lt_of_le_of_ne (of_decide_eq_true le) ne

/-- In the order by path a set is known by its entries. -/
theorem sorted_eq_sorted_iff (ofFirst : s.WellFormed) (ofSecond : t.WellFormed) :
    s.sorted = t.sorted ↔ ∀ i, i ∈ s.entries ↔ i ∈ t.entries := by
  have distinct {u : ImportSet} (wellFormed : u.WellFormed) : u.sorted.Nodup := by
    refine (sorted_pairwise wellFormed).imp fun before => ?_
    rintro rfl
    exact lt_irrefl _ before
  constructor
  · intro same i
    rw [← mem_sorted, same, mem_sorted]
  · intro members
    have perm : s.sorted.Perm t.sorted := by
      refine (List.perm_ext_iff_of_nodup (distinct ofFirst) (distinct ofSecond)).mpr fun i => ?_
      rw [mem_sorted, mem_sorted, members]
    exact perm.eq_of_pairwise (fun i j _ _ before after => absurd before (lt_asymm after))
      (sorted_pairwise ofFirst) (sorted_pairwise ofSecond)

end ProviderCodegen.Source.ImportSet
