import Mathlib.Data.String.Basic
import ProviderCodegen.NameMap

/-! # The order of name maps

`insert` keeps names in strictly ascending order, adds nothing but the entry it is given, and does
not depend on the order in which two different names are inserted. Where the entries go depends on
their names only, so maps that are filled alike stay alike (`Pointwise`).
-/

namespace ProviderCodegen.NameMap

variable {α : Type} {entries : NameMap α} {name other : String} {value : α}

/-- Every name stands before all names behind it. -/
def Ordered (entries : NameMap α) : Prop :=
  entries.names.Pairwise (· < ·)

theorem contains_iff : entries.contains name = true ↔ name ∈ entries.names := by
  simp only [contains, names, List.any_eq_true, beq_iff_eq, List.mem_map]

/-- A name that was there is still there, whether or not it was bound anew. -/
theorem mem_names_insert :
    other ∈ (entries.insert name value).names ↔ other = name ∨ other ∈ entries.names := by
  induction entries with
  | nil => simp only [insert, names, List.map_cons, List.map_nil, List.mem_singleton,
      List.not_mem_nil, or_false]
  | cons entry rest ih =>
    obtain ⟨present, kept⟩ := entry
    simp only [names, List.map_cons, List.mem_cons] at ih ⊢
    unfold insert
    split_ifs with before same
    · simp only [List.map_cons, List.mem_cons]
    · simp only [List.map_cons, List.mem_cons, same, or_self_left]
    · simp only [List.map_cons, List.mem_cons, ih]
      rw [or_left_comm]

/-- The new entry may have taken the place of an old one. -/
theorem mem_insert {entry : String × α} (member : entry ∈ entries.insert name value) :
    entry = (name, value) ∨ entry ∈ entries := by
  induction entries with
  | nil => exact .inl (List.mem_singleton.mp member)
  | cons first rest ih =>
    obtain ⟨present, kept⟩ := first
    unfold insert at member
    split_ifs at member with before same
    · exact List.mem_cons.mp member
    · exact (List.mem_cons.mp member).imp_right (List.mem_cons_of_mem _)
    · rcases List.mem_cons.mp member with rfl | member
      · exact .inr (List.mem_cons_self ..)
      · exact (ih member).imp_right (List.mem_cons_of_mem _)

theorem Ordered.nodup_names (ordered : Ordered entries) : entries.names.Nodup :=
  ordered.imp fun before => ne_of_lt before

theorem ordered_nil : Ordered ([] : NameMap α) := List.Pairwise.nil

/-- An entry is put where its name belongs. -/
theorem Ordered.insert (ordered : Ordered entries) (name : String) (value : α) :
    Ordered (entries.insert name value) := by
  induction entries with
  | nil => exact List.pairwise_singleton _ _
  | cons first rest ih =>
    obtain ⟨present, kept⟩ := first
    obtain ⟨head, tail⟩ := List.pairwise_cons.mp ordered
    unfold NameMap.insert
    split_ifs with before same
    · refine List.pairwise_cons.mpr ⟨fun other member => ?_, ordered⟩
      rcases List.mem_cons.mp member with rfl | member
      · exact before
      · exact lt_trans before (head other member)
    · subst same
      exact ordered
    · refine List.pairwise_cons.mpr ⟨fun other member => ?_, ih tail⟩
      rcases mem_names_insert.mp member with rfl | member
      · exact lt_of_le_of_ne (not_lt.mp before) (Ne.symm same)
      · exact head other member

private theorem insert_cons_of_lt {rest : NameMap α} {kept : α} (before : name < other) :
    NameMap.insert name value ((other, kept) :: rest) = (name, value) :: (other, kept) :: rest :=
  if_pos before

private theorem insert_cons_self {rest : NameMap α} {kept : α} :
    NameMap.insert name value ((name, kept) :: rest) = (name, value) :: rest := by
  simp only [insert, lt_irrefl, if_false, if_true]

private theorem insert_cons_of_gt {rest : NameMap α} {kept : α} (after : other < name) :
    NameMap.insert name value ((other, kept) :: rest) =
      (other, kept) :: NameMap.insert name value rest := by
  simp only [insert, not_lt_of_gt after, if_false, (ne_of_gt after : name ≠ other)]

private theorem insert_comm_of_lt {kept : α} (before : name < other) :
    (entries.insert other kept).insert name value =
      (entries.insert name value).insert other kept := by
  induction entries with
  | nil =>
    change NameMap.insert name value ((other, kept) :: []) =
      NameMap.insert other kept ((name, value) :: [])
    rw [insert_cons_of_lt before, insert_cons_of_gt before]
    rfl
  | cons first rest ih =>
    obtain ⟨present, found⟩ := first
    rcases lt_trichotomy name present with atStart | rfl | later
    · -- The smaller name comes first whatever becomes of the larger one.
      rw [insert_cons_of_lt atStart, insert_cons_of_gt before]
      rcases lt_trichotomy other present with between | rfl | behind
      · rw [insert_cons_of_lt between, insert_cons_of_lt before]
      · rw [insert_cons_self, insert_cons_of_lt before]
      · rw [insert_cons_of_gt behind, insert_cons_of_lt atStart]
    · rw [insert_cons_of_gt before, insert_cons_self, insert_cons_self, insert_cons_of_gt before]
    · have behind : present < other := lt_trans later before
      rw [insert_cons_of_gt behind, insert_cons_of_gt later, insert_cons_of_gt later,
        insert_cons_of_gt behind, ih]

/-- Two different names can be bound in either order. -/
theorem insert_comm {kept : α} (distinct : name ≠ other) :
    (entries.insert other kept).insert name value =
      (entries.insert name value).insert other kept := by
  rcases lt_or_gt_of_ne distinct with before | after
  · exact insert_comm_of_lt before
  · exact (insert_comm_of_lt after).symm

/-- A new name adds one entry. -/
theorem insert_perm (free : name ∉ entries.names) (value : α) :
    (entries.insert name value).Perm ((name, value) :: entries) := by
  induction entries with
  | nil => exact .refl _
  | cons first rest ih =>
    obtain ⟨present, kept⟩ := first
    obtain ⟨differs, free⟩ := not_or.mp (mt List.mem_cons.mpr free)
    unfold insert
    split_ifs with before
    · exact .refl _
    · exact (List.Perm.cons _ (ih free)).trans (List.Perm.swap ..)

theorem names_map {β : Type} (f : α → β) (entries : NameMap α) :
    NameMap.names (List.map (Prod.map id f) entries) = entries.names := by
  rw [names, names, List.map_map]
  rfl

/-- Where an entry goes depends on names alone. -/
theorem map_insert {β : Type} (f : α → β) (entries : NameMap α) (name : String) (value : α) :
    List.map (Prod.map id f) (entries.insert name value) =
      NameMap.insert name (f value) (List.map (Prod.map id f) entries) := by
  induction entries with
  | nil => rfl
  | cons first rest ih =>
    obtain ⟨present, kept⟩ := first
    simp only [insert, List.map_cons, Prod.map_apply, id_eq]
    split_ifs with before same
    · rfl
    · rfl
    · rw [List.map_cons, ih]
      rfl

theorem mem_of_find? (found : entries.find? name = some value) : (name, value) ∈ entries := by
  obtain ⟨before, after, rfl, -⟩ := List.lookup_eq_some_iff.mp found
  exact List.mem_append_right before (List.mem_cons_self ..)

/-- In a map in order a name is bound to one value. -/
theorem Ordered.find?_of_mem (ordered : Ordered entries) (member : (name, value) ∈ entries) :
    entries.find? name = some value := by
  induction entries with
  | nil => exact absurd member List.not_mem_nil
  | cons first rest ih =>
    obtain ⟨present, kept⟩ := first
    obtain ⟨head, tail⟩ := List.pairwise_cons.mp ordered
    rw [find?, List.lookup_cons]
    rcases List.mem_cons.mp member with same | later
    · cases same
      simp only [beq_self_eq_true]
    · have differs : name ≠ present := ne_of_gt (head name (List.mem_map_of_mem later))
      simp only [beq_eq_false_iff_ne.mpr differs]
      exact ih tail later

/-! ## Maps with the same names -/

variable {β : Type} {related : α → β → Prop}

/-- Whether two lists of entries have the same names in the same order, with related values. -/
def Pointwise (related : α → β → Prop) (first : List (String × α)) (second : List (String × β)) :
    Prop :=
  List.Forall₂ (fun left right => left.1 = right.1 ∧ related left.2 right.2) first second

/-- Two maps with the same names have the same place for another name. -/
theorem Pointwise.insert {first : NameMap α} {second : NameMap β}
    (pointwise : Pointwise related first second) (name : String) {left : α} {right : β}
    (holds : related left right) :
    Pointwise related (first.insert name left) (second.insert name right) := by
  induction pointwise with
  | nil => exact .cons ⟨rfl, holds⟩ .nil
  | cons head tail ih =>
    rename_i leftEntry rightEntry leftRest rightRest
    obtain ⟨leftName, leftKept⟩ := leftEntry
    obtain ⟨rightName, rightKept⟩ := rightEntry
    obtain ⟨rfl, kept⟩ := head
    simp only [NameMap.insert]
    split_ifs with before same
    · exact .cons ⟨rfl, holds⟩ (.cons ⟨rfl, kept⟩ tail)
    · exact .cons ⟨rfl, holds⟩ tail
    · exact .cons ⟨rfl, kept⟩ ih

/-- Maps of entries with related values have related values. -/
theorem Pointwise.ofList {first : List (String × α)} {second : List (String × β)}
    (pointwise : Pointwise related first second) :
    Pointwise related (NameMap.ofList first) (NameMap.ofList second) := by
  have general {leftMap : NameMap α} {rightMap : NameMap β}
      (kept : Pointwise related leftMap rightMap) :
      Pointwise related
        (first.foldl (fun map entry => NameMap.insert entry.1 entry.2 map) leftMap)
        (second.foldl (fun map entry => NameMap.insert entry.1 entry.2 map) rightMap) := by
    induction pointwise generalizing leftMap rightMap with
    | nil => exact kept
    | cons head tail ih =>
      rename_i leftEntry rightEntry leftRest rightRest
      obtain ⟨same, holds⟩ := head
      have next := kept.insert leftEntry.1 holds
      rw [List.foldl_cons, List.foldl_cons, ← same]
      exact ih next
  exact general .nil

end ProviderCodegen.NameMap
