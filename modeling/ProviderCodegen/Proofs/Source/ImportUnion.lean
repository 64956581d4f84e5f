import ProviderCodegen.Proofs.Source.ImportSet

/-! # Laws of unions of import sets

The union keeps what its first set says of a path, so it is not commutative. It is associative, and
a set whose paths are all there adds nothing. The set of a list has the first import of every path
(`entries_ofList_eq_firsts`): a path is looked up in a set first, then among what is inserted. In
the order by path a set is known by its entries, so two sets that give no path two names make the
same import block in either order.
-/

namespace ProviderCodegen.Source

/-- The first import of every path, in order. The empty path is no path. -/
def firsts (imports : List Import) : List Import :=
  (imports.filter fun i => i.path ≠ "").eraseDupsBy fun i j => i.path == j.path

namespace ImportSet

variable {s t : ImportSet} {i : Import} {imports : List Import} {path : String}

/-- The first import of a path is the one that stays. -/
theorem insert_of_present (present : i.path = "" ∨ i.path ∈ s.paths) : s.insert i = s := by
  rcases insert_cases s i with ⟨same, -⟩ | ⟨-, named, absent⟩
  · exact same
  · exact absurd present (not_or.mpr ⟨named, absent⟩)

/-! ## Associativity and absorption -/

/-- Without distinct paths some entries of the second set would be lost. -/
theorem empty_union (wellFormed : s.WellFormed) : empty ∪ s = s := by
  have same : (empty ∪ s).entries = s.entries :=
    entries_ofList wellFormed.distinct wellFormed.named
  exact congrArg ImportSet.mk same

/-- An import is added to a union by adding it to the second set. -/
theorem union_insert (s t : ImportSet) (i : Import) : s ∪ t.insert i = (s ∪ t).insert i := by
  rcases insert_cases t i with ⟨same, skipped⟩ | ⟨added, -, -⟩
  · have present : i.path = "" ∨ i.path ∈ (s ∪ t).paths := by
      by_cases named : i.path = ""
      · exact .inl named
      · exact .inr ((mem_paths_union named).mpr (.inr (skipped.resolve_left named)))
    rw [same, insert_of_present present]
  · rw [added]
    exact List.foldl_append

/-- Imports can be added before or after a union. -/
theorem union_foldl_insert (s t : ImportSet) (imports : List Import) :
    s ∪ imports.foldl insert t = imports.foldl insert (s ∪ t) := by
  induction imports generalizing t with
  | nil => rfl
  | cons i imports ih => rw [List.foldl_cons, ih, union_insert, List.foldl_cons]

theorem union_assoc (s t u : ImportSet) : s ∪ t ∪ u = s ∪ (t ∪ u) :=
  (union_foldl_insert s t u.entries).symm

/-- Adding the entries of a set or the imports it was made from is the same. -/
theorem union_ofList (s : ImportSet) (imports : List Import) :
    s ∪ ofList imports = imports.foldl insert s :=
  union_foldl_insert s empty imports

theorem ofList_append (first second : List Import) :
    ofList (first ++ second) = ofList first ∪ ofList second := by
  rw [union_ofList, ofList, List.foldl_append]
  rfl

/-- A set is the set of its entries. -/
theorem ofList_entries (wellFormed : s.WellFormed) : ofList s.entries = s :=
  empty_union wellFormed

/-- A set adds nothing to one that has its paths. -/
theorem union_of_subset (subset : ∀ path ∈ t.paths, path ≠ "" → path ∈ s.paths) : s ∪ t = s := by
  have unchanged (entries : List Import) (listed : ∀ i ∈ entries, i ∈ t.entries) :
      entries.foldl insert s = s := by
    induction entries with
    | nil => rfl
    | cons i entries ih =>
      have present : i.path = "" ∨ i.path ∈ s.paths := by
        by_cases named : i.path = ""
        · exact .inl named
        · exact .inr (subset _ (List.mem_map_of_mem (listed i (List.mem_cons_self ..))) named)
      rw [List.foldl_cons, insert_of_present present]
      exact ih fun j member => listed j (List.mem_cons_of_mem _ member)
  exact unchanged t.entries fun _ member => member

/-! ## The set of a list -/

private theorem firsts_cons_of_named (named : i.path ≠ "") (imports : List Import) :
    firsts (i :: imports) = i :: firsts (imports.filter fun j => j.path ≠ i.path) := by
  have later : (imports.filter fun j => j.path ≠ "").filter (fun j => (j.path == i.path) = false) =
      (imports.filter fun j => j.path ≠ i.path).filter fun j => j.path ≠ "" := by
    rw [List.filter_filter, List.filter_filter]
    refine List.filter_congr fun j _ => ?_
    rw [Bool.and_comm]
    simp only [beq_eq_false_iff_ne]
  rw [firsts, List.filter_cons_of_pos (by simpa using named), List.eraseDupsBy_cons, later]
  rfl

/-- Inserting a list adds the first import of every path that is not present. -/
theorem entries_foldl_insert (s : ImportSet) (imports : List Import) :
    (imports.foldl insert s).entries =
      s.entries ++ firsts (imports.filter fun i => i.path ∉ s.paths) := by
  induction imports generalizing s with
  | nil => exact (List.append_nil _).symm
  | cons i imports ih =>
    rw [List.foldl_cons, ih]
    rcases insert_cases s i with ⟨same, empty | present⟩ | ⟨added, named, absent⟩
    · rw [same]
      by_cases present : i.path ∈ s.paths
      · rw [List.filter_cons_of_neg (by simpa using present)]
      · rw [List.filter_cons_of_pos (by simpa using present), firsts, firsts,
          List.filter_cons_of_neg (by simpa using empty)]
    · rw [same, List.filter_cons_of_neg (by simpa using present)]
    · have paths : (s.insert i).paths = s.paths ++ [i.path] := by
        simp only [added, ImportSet.paths, List.map_append, List.map_cons, List.map_nil]
      have later : (imports.filter fun j => j.path ∉ (s.insert i).paths) =
          (imports.filter fun j => j.path ∉ s.paths).filter fun j => j.path ≠ i.path := by
        rw [List.filter_filter]
        refine List.filter_congr fun j _ => ?_
        simp only [paths, List.mem_append, List.mem_singleton, not_or, and_comm, Bool.decide_and]
      rw [List.filter_cons_of_pos (by simpa using absent), firsts_cons_of_named named, later, added,
        List.append_assoc]
      rfl

/-- The set of a list has the first import of every path in the list. -/
theorem entries_ofList_eq_firsts (imports : List Import) :
    (ofList imports).entries = firsts imports := by
  have all : (imports.filter fun i => i.path ∉ empty.paths) = imports :=
    List.filter_eq_self.mpr fun _ _ => decide_eq_true List.not_mem_nil
  rw [ofList, entries_foldl_insert, all]
  rfl

theorem mem_paths_ofList :
    path ∈ (ofList imports).paths ↔ path ≠ "" ∧ ∃ i ∈ imports, i.path = path := by
  by_cases named : path = ""
  · subst named
    exact iff_of_false (wellFormed_ofList imports).named fun ⟨absurdly, _⟩ => absurdly rfl
  · have listed : path ∈ (ofList imports).paths ↔
        path ∈ empty.paths ∨ path ∈ (ImportSet.mk imports).paths := mem_paths_union named
    have nowhere : path ∉ empty.paths := List.not_mem_nil
    rw [listed, or_iff_right nowhere, and_iff_right named, mem_paths]

/-- A path is first looked up among the entries of a set, then among what is inserted. -/
theorem find?_foldl_insert (named : path ≠ "") (s : ImportSet) (imports : List Import) :
    (imports.foldl insert s).entries.find? (·.path == path) =
      (s.entries.find? (·.path == path)).or (imports.find? (·.path == path)) := by
  induction imports generalizing s with
  | nil => rw [List.find?_nil, Option.or_none, List.foldl_nil]
  | cons i imports ih =>
    have step : (s.insert i).entries.find? (·.path == path) =
        (s.entries.find? (·.path == path)).or ([i].find? (·.path == path)) := by
      rcases insert_cases s i with ⟨same, reason⟩ | ⟨added, -, -⟩
      · rw [same]
        by_cases wanted : i.path = path
        · have present : path ∈ s.paths := by
            rw [← wanted] at named ⊢
            exact reason.resolve_left named
          obtain ⟨j, listed, ofPath⟩ := mem_paths.mp present
          have found : (s.entries.find? (·.path == path)).isSome = true :=
            List.find?_isSome.mpr ⟨j, listed, beq_iff_eq.mpr ofPath⟩
          rw [Option.or_of_isSome found]
        · rw [List.find?_singleton, if_neg (by simpa using wanted), Option.or_none]
      · rw [added, List.find?_append]
    have split : (i :: imports).find? (·.path == path) =
        ([i].find? (·.path == path)).or (imports.find? (·.path == path)) := by
      rw [← List.find?_append, List.singleton_append]
    rw [List.foldl_cons, ih, step, split, Option.or_assoc]

/-- Where paths are distinct an entry is found by its path. -/
theorem WellFormed.mem_entries_iff (wellFormed : s.WellFormed) :
    i ∈ s.entries ↔ s.entries.find? (·.path == i.path) = some i := by
  refine ⟨fun member => ?_, List.mem_of_find?_eq_some⟩
  cases found : s.entries.find? (·.path == i.path) with
  | none => exact absurd (List.find?_eq_none.mp found i member) (not_not_intro (beq_self_eq_true _))
  | some j =>
    have matching := List.find?_some found
    have same : j = i := List.inj_on_of_nodup_map wellFormed.distinct
      (List.mem_of_find?_eq_some found) member (beq_iff_eq.mp matching)
    rw [same]

/-- What a path leads to is the entry with this path. -/
theorem WellFormed.find?_eq_some_iff (wellFormed : s.WellFormed) {path : String} :
    s.entries.find? (·.path == path) = some i ↔ i ∈ s.entries ∧ i.path = path := by
  constructor
  · intro found
    have matching := List.find?_some found
    exact ⟨List.mem_of_find?_eq_some found, beq_iff_eq.mp matching⟩
  · rintro ⟨member, rfl⟩
    exact wellFormed.mem_entries_iff.mp member

theorem find?_eq_none_iff : s.entries.find? (·.path == path) = none ↔ path ∉ s.paths := by
  rw [List.find?_eq_none, mem_paths, not_exists]
  simp only [beq_iff_eq, not_and]

/-- What is inserted becomes an entry when it is the first one of a path that is not present. -/
theorem mem_entries_foldl_insert_iff (wellFormed : s.WellFormed) :
    i ∈ (imports.foldl insert s).entries ↔
      i ∈ s.entries ∨
        i.path ≠ "" ∧ i.path ∉ s.paths ∧ imports.find? (·.path == i.path) = some i := by
  have inserted : (imports.foldl insert s).WellFormed := wellFormed.union ⟨imports⟩
  by_cases named : i.path = ""
  · have absent {t : ImportSet} (ofSet : t.WellFormed) : i ∉ t.entries :=
      fun member => ofSet.named (mem_paths.mpr ⟨i, member, named⟩)
    refine iff_of_false (absent inserted) ?_
    rintro (member | ⟨other, -⟩)
    · exact absent wellFormed member
    · exact other named
  · rw [inserted.mem_entries_iff, find?_foldl_insert named, Option.or_eq_some_iff,
      find?_eq_none_iff, wellFormed.mem_entries_iff, and_iff_right named]

/-- An import is in the set of a list when it is the first one of its path there. -/
theorem mem_entries_ofList_iff :
    i ∈ (ofList imports).entries ↔
      i.path ≠ "" ∧ imports.find? (·.path == i.path) = some i := by
  have nothing : i ∉ empty.entries := List.not_mem_nil
  have nowhere : i.path ∉ empty.paths := List.not_mem_nil
  rw [ofList, mem_entries_foldl_insert_iff wellFormed_empty, or_iff_right nothing,
    and_iff_right nowhere]

end ImportSet

/-! ## Paths with one name -/

section OneName

variable {imports first second : List Import} {i : Import}

/-- Whether no path is imported under two names. The empty path is not imported. -/
def OneName (imports : List Import) : Prop :=
  ∀ i ∈ imports, ∀ j ∈ imports, i.path ≠ "" → i.path = j.path → i.localName = j.localName

instance (imports : List Import) : Decidable (OneName imports) :=
  inferInstanceAs (Decidable (∀ _ ∈ _, _))

/-- Without two names for a path no import loses to another. -/
theorem OneName.mem_entries_iff (oneName : OneName imports) :
    i ∈ (ImportSet.ofList imports).entries ↔ i.path ≠ "" ∧ i ∈ imports := by
  rw [ImportSet.mem_entries_ofList_iff]
  refine and_congr_right fun named => ⟨List.mem_of_find?_eq_some, fun member => ?_⟩
  cases found : imports.find? (·.path == i.path) with
  | none => exact absurd (beq_self_eq_true _) (List.find?_eq_none.mp found i member)
  | some j =>
    have matching := List.find?_some found
    have path : j.path = i.path := beq_iff_eq.mp matching
    have name := oneName i member j (List.mem_of_find?_eq_some found) named path.symm
    cases i
    cases j
    cases path
    cases name
    rfl

/-- The order in which imports are collected matters only for paths with two names. -/
theorem OneName.mem_entries_perm (oneName : OneName first) (perm : first.Perm second) :
    i ∈ (ImportSet.ofList first).entries ↔ i ∈ (ImportSet.ofList second).entries := by
  have ofSecond : OneName second := fun i member j other =>
    oneName i (perm.mem_iff.mpr member) j (perm.mem_iff.mpr other)
  rw [oneName.mem_entries_iff, ofSecond.mem_entries_iff, perm.mem_iff]

end OneName

namespace ImportSet

variable {s t : ImportSet} {path : String}

theorem union_eq_ofList (wellFormed : s.WellFormed) (t : ImportSet) :
    s ∪ t = ofList (s.entries ++ t.entries) := by
  rw [ofList_append, ofList_entries wellFormed, union_ofList]
  rfl

/-- Sets that agree on the names of the paths that they share give no path two names. -/
theorem oneName_of_agree (ofFirst : s.WellFormed) (ofSecond : t.WellFormed)
    (agree : ∀ i ∈ s.entries, ∀ j ∈ t.entries, i.path = j.path → i.localName = j.localName) :
    OneName (s.entries ++ t.entries) := by
  have same {u : ImportSet} (wellFormed : u.WellFormed) {i j : Import} (first : i ∈ u.entries)
      (second : j ∈ u.entries) (path : i.path = j.path) : i.localName = j.localName :=
    congrArg Import.localName (List.inj_on_of_nodup_map wellFormed.distinct first second path)
  intro i first j second _ path
  rcases List.mem_append.mp first with first | first <;>
    rcases List.mem_append.mp second with second | second
  · exact same ofFirst first second path
  · exact agree i first j second path
  · exact (agree j second i first path.symm).symm
  · exact same ofSecond first second path

/-- Where two sets agree on names, it does not show in the order by path which of them is first. -/
theorem sorted_union_comm (ofFirst : s.WellFormed) (ofSecond : t.WellFormed)
    (agree : ∀ i ∈ s.entries, ∀ j ∈ t.entries, i.path = j.path → i.localName = j.localName) :
    (s ∪ t).sorted = (t ∪ s).sorted := by
  refine (sorted_eq_sorted_iff (ofFirst.union t) (ofSecond.union s)).mpr fun i => ?_
  rw [union_eq_ofList ofFirst, union_eq_ofList ofSecond]
  exact (oneName_of_agree ofFirst ofSecond agree).mem_entries_perm List.perm_append_comm

/-- The order of a union decides on names only, never on paths. -/
theorem mem_paths_union_comm (ofFirst : s.WellFormed) (ofSecond : t.WellFormed) :
    path ∈ (s ∪ t).paths ↔ path ∈ (t ∪ s).paths := by
  by_cases named : path = ""
  · subst named
    exact iff_of_false (ofFirst.union t).named (ofSecond.union s).named
  · rw [mem_paths_union named, mem_paths_union named, or_comm]

/-- Unions are those of a monoid in which the first set counts: they are associative, the empty set
changes nothing on either side, and a set adds nothing to one that has its paths, so least of all to
itself. The set of two lists is the union of their sets. The paths of a union do not depend on which
set is first, and neither does the order by path unless a path has two names. -/
theorem union_laws (s t u : ImportSet) (ofFirst : s.WellFormed) (ofSecond : t.WellFormed) :
    s ∪ t ∪ u = s ∪ (t ∪ u) ∧
      (empty ∪ s = s ∧ s ∪ empty = s) ∧
      ((∀ path ∈ t.paths, path ∈ s.paths) → s ∪ t = s) ∧
      s ∪ s = s ∧
      (∀ first second, ofList (first ++ second) = ofList first ∪ ofList second) ∧
      (∀ path, path ∈ (s ∪ t).paths ↔ path ∈ (t ∪ s).paths) ∧
      ((∀ i ∈ s.entries, ∀ j ∈ t.entries, i.path = j.path → i.localName = j.localName) →
        (s ∪ t).sorted = (t ∪ s).sorted) := by
  refine ⟨union_assoc s t u, ⟨empty_union ofFirst, rfl⟩, ?_, ?_, ofList_append, ?_, ?_⟩
  · intro subset
    exact union_of_subset fun path member _ => subset path member
  · exact union_of_subset fun _ member _ => member
  · intro path
    exact mem_paths_union_comm ofFirst ofSecond
  · exact sorted_union_comm ofFirst ofSecond

/-- A set with a path that has a name. -/
def namingSet : ImportSet :=
  ofList [{ path := "b" }, { path := "a", localName := some "x" }]

/-- A set that gives the path the same name. -/
def agreeingSet : ImportSet :=
  ofList [{ path := "c" }, { path := "a", localName := some "x" }]

/-- A set that gives the path no name. -/
def clashingSet : ImportSet :=
  ofList [{ path := "a" }, { path := "b" }]

/-- The first set shows in the order of a union and in the name of a path that has two. -/
theorem union_namingSet :
    namingSet ∪ agreeingSet ≠ agreeingSet ∪ namingSet ∧
      (namingSet ∪ agreeingSet).sorted = (agreeingSet ∪ namingSet).sorted ∧
      namingSet ∪ clashingSet = namingSet ∧ clashingSet ∪ namingSet ≠ namingSet := by
  have ofNaming : namingSet.WellFormed := wellFormed_ofList _
  have agreeing := union_laws namingSet agreeingSet clashingSet ofNaming (wellFormed_ofList _)
  have clashing := union_laws namingSet clashingSet agreeingSet ofNaming (wellFormed_ofList _)
  exact ⟨by decide, agreeing.2.2.2.2.2.2 (by decide), clashing.2.2.1 (by decide), by decide⟩

end ImportSet

end ProviderCodegen.Source
