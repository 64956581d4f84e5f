import Mathlib.Data.List.Induction
import Mathlib.Data.List.Perm.Subperm
import ProviderCodegen.Proofs.NameMap

/-! # Entries in the order of their names

What becomes of a list of entries, when it is sorted or made into a map, is known from the entries
of each name in their order (`named`). Sorting keeps them, and a map has the last of them. So
neither depends on the order in which entries of different names are given.
-/

namespace ProviderCodegen.NameMap

variable {α : Type} {entries : NameMap α} {name : String} {first second : List (String × α)}
  {entry : String × α}

/-- The entries of one name, in their order. -/
def named (entries : List (String × α)) (name : String) : List (String × α) :=
  entries.filter (·.1 = name)

theorem named_cons_self (entry : String × α) (entries : List (String × α)) :
    named (entry :: entries) entry.1 = entry :: named entries entry.1 :=
  List.filter_cons_of_pos (decide_eq_true rfl)

theorem named_cons_of_ne (differs : entry.1 ≠ name) (entries : List (String × α)) :
    named (entry :: entries) name = named entries name :=
  List.filter_cons_of_neg fun same => differs (of_decide_eq_true same)

theorem named_eq_nil (free : ∀ entry ∈ first, entry.1 ≠ name) : named first name = [] :=
  List.filter_eq_nil_iff.mpr fun entry member same => free entry member (of_decide_eq_true same)

theorem named_map {β : Type} (f : α → β) (entries : List (String × α)) (name : String) :
    named (entries.map (Prod.map id f)) name = (named entries name).map (Prod.map id f) :=
  List.filter_map

theorem sorted_perm (entries : List (String × α)) : (sorted entries).Perm entries :=
  List.mergeSort_perm ..

private theorem le_trans_names (first second third : String × α) :
    decide (first.1 ≤ second.1) = true → decide (second.1 ≤ third.1) = true →
      decide (first.1 ≤ third.1) = true := by
  simp only [decide_eq_true_eq]
  exact le_trans

private theorem le_total_names (first second : String × α) :
    (decide (first.1 ≤ second.1) || decide (second.1 ≤ first.1)) = true := by
  simp only [Bool.or_eq_true, decide_eq_true_eq]
  exact le_total ..

theorem pairwise_sorted (entries : List (String × α)) :
    (sorted entries).Pairwise fun left right => left.1 ≤ right.1 :=
  (List.pairwise_mergeSort le_trans_names le_total_names entries).imp of_decide_eq_true

/-- Sorting keeps the order of the entries of one name. -/
theorem named_sorted (entries : List (String × α)) (name : String) :
    named (sorted entries) name = named entries name := by
  have alike :
      (named entries name).Pairwise fun left right => decide (left.1 ≤ right.1) = true := by
    refine List.pairwise_of_forall_mem_list fun left inLeft right inRight => ?_
    have ofLeft := of_decide_eq_true (List.mem_filter.mp inLeft).2
    have ofRight := of_decide_eq_true (List.mem_filter.mp inRight).2
    rw [ofLeft, ofRight]
    exact decide_eq_true le_rfl
  have inside := (List.sublist_mergeSort le_trans_names le_total_names alike
    List.filter_sublist).filter (·.1 = name)
  have again : (named entries name).filter (·.1 = name) = named entries name :=
    List.filter_eq_self.mpr fun _ member => (List.mem_filter.mp member).2
  rw [again] at inside
  exact (inside.eq_of_length ((sorted_perm entries).filter _).length_eq.symm).symm

/-- The first name of a list in order is the first that has entries. -/
private theorem not_lt_of_named {rest : List (String × α)}
    (ofSecond : (second.Pairwise fun left right => left.1 ≤ right.1))
    (same : named (entry :: rest) entry.1 = named second entry.1) {other : String × α}
    (isHead : second.head? = some other) : ¬ entry.1 < other.1 := by
  intro before
  cases second with
  | nil => cases isHead
  | cons head tail =>
    cases isHead
    have later := (List.pairwise_cons.mp ofSecond).1
    have free : named (other :: tail) entry.1 = [] := named_eq_nil fun found member => by
      rcases List.mem_cons.mp member with same | member
      · exact same ▸ ne_of_gt before
      · exact ne_of_gt (lt_of_lt_of_le before (later found member))
    rw [named_cons_self, free] at same
    cases same

/-- Lists in the order of names are the same if they have the same entries of every name. -/
theorem eq_of_named (ofFirst : first.Pairwise fun left right => left.1 ≤ right.1)
    (ofSecond : second.Pairwise fun left right => left.1 ≤ right.1)
    (same : ∀ name, named first name = named second name) : first = second := by
  induction first generalizing second with
  | nil =>
    cases second with
    | nil => rfl
    | cons other others =>
      have none := same other.1
      rw [named_cons_self] at none
      cases none
  | cons entry rest ih =>
    cases second with
    | nil =>
      have none := same entry.1
      rw [named_cons_self] at none
      cases none
    | cons other others =>
      have notBefore := not_lt_of_named ofSecond (same entry.1) rfl
      have notAfter := not_lt_of_named ofFirst (same other.1).symm rfl
      have name : entry.1 = other.1 := le_antisymm (not_lt.mp notAfter) (not_lt.mp notBefore)
      have heads := same entry.1
      rw [named_cons_self, name, named_cons_self] at heads
      obtain ⟨rfl, tails⟩ := List.cons.inj heads
      refine congrArg (entry :: ·) (ih ofFirst.of_cons ofSecond.of_cons fun name => ?_)
      by_cases isHead : entry.1 = name
      · exact isHead ▸ tails
      · have whole := same name
        rwa [named_cons_of_ne isHead, named_cons_of_ne isHead] at whole

/-- As sorting is stable, two lists sort alike exactly when entries of one name are in the same
order in both. -/
theorem sorted_eq_sorted_iff :
    sorted first = sorted second ↔ ∀ name, named first name = named second name := by
  refine ⟨fun same name => ?_, fun same => ?_⟩
  · rw [← named_sorted first, same, named_sorted]
  · refine eq_of_named (pairwise_sorted first) (pairwise_sorted second) fun name => ?_
    rw [named_sorted, named_sorted, same]

theorem sorted_sorted (entries : List (String × α)) : sorted (sorted entries) = sorted entries :=
  sorted_eq_sorted_iff.mpr fun name => named_sorted entries name

theorem sorted_map {β : Type} (f : α → β) (entries : List (String × α)) :
    sorted (entries.map (Prod.map id f)) = (sorted entries).map (Prod.map id f) := by
  rw [sorted, sorted, List.map_mergeSort]
  exact fun _ _ _ _ => rfl

private theorem named_filterMap {β : Type} {f : String × α → Option (String × β)}
    (keeps : ∀ entry result, f entry = some result → result.1 = entry.1)
    (entries : List (String × α)) (name : String) :
    named (entries.filterMap f) name = (named entries name).filterMap f := by
  rw [named, named, List.filter_filterMap, List.filterMap_filter]
  refine List.filterMap_congr fun entry _ => ?_
  cases given : f entry with
  | none => rw [ite_self, Option.filter_none]
  | some result => rw [Option.filter_some, keeps entry result given]

/-- Entries can be dropped and changed before or after sorting if they keep their names. -/
theorem sorted_filterMap {β : Type} {f : String × α → Option (String × β)}
    (keeps : ∀ entry result, f entry = some result → result.1 = entry.1)
    (entries : List (String × α)) :
    sorted (entries.filterMap f) = (sorted entries).filterMap f := by
  have inOrder : ((sorted entries).filterMap f).Pairwise fun left right => left.1 ≤ right.1 := by
    refine (pairwise_sorted entries).filterMap f
      fun left right before first isFirst second isSecond => ?_
    rw [keeps left first isFirst, keeps right second isSecond]
    exact before
  refine eq_of_named (pairwise_sorted _) inOrder fun name => ?_
  rw [named_sorted, named_filterMap keeps, named_filterMap keeps, named_sorted]

/-- One more entry in front of both is the first of its name in both. -/
theorem sorted_cons_congr (entry : String × α) (same : sorted first = sorted second) :
    sorted (entry :: first) = sorted (entry :: second) := by
  refine sorted_eq_sorted_iff.mpr fun name => ?_
  have rest := sorted_eq_sorted_iff.mp same name
  by_cases isHead : entry.1 = name
  · subst isHead
    rw [named_cons_self, named_cons_self, rest]
  · rw [named_cons_of_ne isHead, named_cons_of_ne isHead, rest]

/-- Neighbours of different names can change places. -/
theorem sorted_swap {other : String × α} (distinct : entry.1 ≠ other.1)
    (rest : List (String × α)) :
    sorted (entry :: other :: rest) = sorted (other :: entry :: rest) := by
  refine sorted_eq_sorted_iff.mpr fun name => ?_
  by_cases isEntry : entry.1 = name
  · subst isEntry
    rw [named_cons_self, named_cons_of_ne (Ne.symm distinct), named_cons_of_ne (Ne.symm distinct),
      named_cons_self]
  · by_cases isOther : other.1 = name
    · subst isOther
      rw [named_cons_of_ne isEntry, named_cons_self, named_cons_self, named_cons_of_ne isEntry]
    · rw [named_cons_of_ne isEntry, named_cons_of_ne isOther, named_cons_of_ne isOther,
        named_cons_of_ne isEntry]

/-! ## Maps of entries -/

private theorem named_of_notMem (free : name ∉ entries.names) : named entries name = [] :=
  named_eq_nil fun _ member same => free (same ▸ List.mem_map_of_mem member)

/-- A map has at most one entry for a name, the one inserted last. -/
theorem named_insert (ordered : Ordered entries) (name : String) (value : α) (other : String) :
    named (entries.insert name value) other =
      if other = name then [(name, value)] else named entries other := by
  induction entries with
  | nil =>
    split_ifs with same
    · exact same ▸ named_cons_self (name, value) []
    · exact named_cons_of_ne (Ne.symm same) []
  | cons head rest ih =>
    obtain ⟨present, kept⟩ := head
    obtain ⟨later, ordered⟩ := List.pairwise_cons.mp ordered
    have inside := ih ordered
    by_cases isNew : other = name
    · subst isNew
      rw [if_pos rfl] at inside ⊢
      unfold insert
      split_ifs with before same
      · have free : other ∉ NameMap.names ((present, kept) :: rest) := by
          intro member
          rcases List.mem_cons.mp member with rfl | member
          · exact lt_irrefl _ before
          · exact lt_asymm before (later other member)
        rw [named_cons_self (other, value), named_of_notMem free]
      · subst same
        have free : other ∉ NameMap.names rest := fun member => lt_irrefl _ (later other member)
        rw [named_cons_self (other, value), named_of_notMem free]
      · rw [named_cons_of_ne (Ne.symm same), inside]
    · rw [if_neg isNew] at inside ⊢
      unfold insert
      split_ifs with before same
      · exact named_cons_of_ne (Ne.symm isNew) _
      · subst same
        rw [named_cons_of_ne (Ne.symm isNew), named_cons_of_ne (Ne.symm isNew)]
      · by_cases isHead : other = present
        · subst isHead
          rw [named_cons_self (other, kept), named_cons_self (other, kept), inside]
        · rw [named_cons_of_ne (Ne.symm isHead), named_cons_of_ne (Ne.symm isHead), inside]

theorem ofList_concat (entries : List (String × α)) (entry : String × α) :
    ofList (entries ++ [entry]) = (ofList entries).insert entry.1 entry.2 := by
  rw [ofList, List.foldl_concat]
  rfl

theorem ordered_ofList (entries : List (String × α)) : Ordered (ofList entries) := by
  induction entries using List.reverseRecOn with
  | nil => exact ordered_nil
  | append_singleton entries entry ih =>
    rw [ofList_concat]
    exact ih.insert entry.1 entry.2

/-- The last entry of a name is the one in the map. -/
theorem named_ofList (entries : List (String × α)) (name : String) :
    named (ofList entries) name = (named entries name).getLast?.toList := by
  induction entries using List.reverseRecOn with
  | nil => rfl
  | append_singleton entries entry ih =>
    have split : named (entries ++ [entry]) name = named entries name ++ named [entry] name :=
      List.filter_append ..
    rw [ofList_concat, named_insert (ordered_ofList entries), split]
    split_ifs with same
    · subst same
      rw [named_cons_self, List.getLast?_append_of_ne_nil _ (List.cons_ne_nil _ _)]
      rfl
    · rw [named_cons_of_ne (Ne.symm same), ih]
      exact congrArg (fun list => (List.getLast? list).toList) (List.append_nil _).symm

/-- Entries in strict order are in order. -/
theorem Ordered.pairwise (ordered : Ordered entries) :
    entries.Pairwise fun left right => left.1 ≤ right.1 :=
  (List.pairwise_map.mp ordered).imp le_of_lt

/-- Of all entries with one name a map keeps the last. -/
theorem mem_ofList_iff (entries : List (String × α)) :
    entry ∈ ofList entries ↔ (named entries entry.1).getLast? = some entry := by
  rw [← Option.mem_toList, ← named_ofList, named, List.mem_filter]
  exact (and_iff_left (decide_eq_true rfl)).symm

/-- A map does not depend on the order of different names. -/
theorem ofList_sorted (entries : List (String × α)) : ofList (sorted entries) = ofList entries := by
  refine eq_of_named (ordered_ofList _).pairwise (ordered_ofList _).pairwise fun name => ?_
  rw [named_ofList, named_ofList, named_sorted]

/-- If no name is given twice, a map has all entries. -/
theorem ofList_eq_sorted {entries : List (String × α)} (distinct : (entries.map Prod.fst).Nodup) :
    ofList entries = sorted entries := by
  refine eq_of_named (ordered_ofList _).pairwise (pairwise_sorted _) fun name => ?_
  rw [named_ofList, named_sorted]
  have differ : (named entries name).Pairwise (·.1 ≠ ·.1) := (List.pairwise_map.mp distinct).filter _
  have ofName : ∀ entry ∈ named entries name, entry.1 = name := fun entry member =>
    of_decide_eq_true (List.mem_filter.mp member).2
  cases split : named entries name with
  | nil => rfl
  | cons first rest =>
    cases rest with
    | nil => rfl
    | cons second rest =>
      rw [split] at differ ofName
      obtain ⟨ofFirst, ofRest⟩ := List.forall_mem_cons.mp ofName
      refine absurd ?_ (List.rel_of_pairwise_cons differ (List.mem_cons_self ..))
      exact ofFirst.trans (List.forall_mem_cons.mp ofRest).1.symm

theorem mem_names_iff_named : name ∈ entries.names ↔ named entries name ≠ [] := by
  rw [← not_iff_not, not_not, named, List.filter_eq_nil_iff, names, List.mem_map]
  simp only [decide_eq_true_eq, not_exists, not_and]

/-- A map has the names of its entries. -/
theorem mem_names_ofList (entries : List (String × α)) :
    name ∈ (ofList entries).names ↔ name ∈ names entries := by
  rw [mem_names_iff_named, mem_names_iff_named, named_ofList, not_iff_not]
  cases named entries name with
  | nil => exact iff_of_true rfl rfl
  | cons entry rest => rw [List.getLast?_cons]; exact iff_of_false nofun nofun

/-- A map has no more entries than it is made of, and as many only if no name is given twice. -/
theorem length_ofList (entries : List (String × α)) :
    (ofList entries).length ≤ entries.length ∧
      ((ofList entries).length = entries.length ↔ (names entries).Nodup) := by
  have distinct := (ordered_ofList entries).nodup_names
  have inside : (ofList entries).names ⊆ names entries := fun _ => (mem_names_ofList entries).mp
  have fewer := distinct.length_le_of_subset inside
  simp only [names, List.length_map] at fewer
  refine ⟨fewer, fun same => ?_, fun distinct => ?_⟩
  · have all : (names entries).length ≤ (ofList entries).names.length := by
      simp only [names, List.length_map, same, le_refl]
    exact ((List.Nodup.subperm distinct inside).perm_of_length_le all).nodup_iff.mp distinct
  · rw [ofList_eq_sorted distinct, (sorted_perm entries).length_eq]

/-- Which entry is kept depends on names alone. -/
theorem ofList_map {β : Type} (f : α → β) (entries : List (String × α)) :
    ofList (entries.map (Prod.map id f)) = (ofList entries).map (Prod.map id f) := by
  induction entries using List.reverseRecOn with
  | nil => rfl
  | append_singleton entries entry ih =>
    rw [List.map_append, List.map_singleton, ofList_concat, ofList_concat, ih, map_insert]
    rfl

end ProviderCodegen.NameMap
