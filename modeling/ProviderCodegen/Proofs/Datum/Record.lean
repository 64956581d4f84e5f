import ProviderCodegen.Proofs.Json.RoundTrip
import ProviderCodegen.Spec.Reading
import ProviderCodegen.Spec.Writing

/-! # Fields of written records

A record is written as a map whose keys are the names of its fields in their order, some of them left
out (`Within`). Read back, it gives these entries as its fields, and each field has the datum that
was written for it.
-/

namespace ProviderCodegen

namespace Datum

/-! ## Typed data -/

mutual

/-- What has a JSON form is of a definite type already. -/
theorem typed_of_hasJson : ∀ datum : Datum, datum.HasJson → datum.typed = some datum
  | .null, _ => rfl
  | .bool _, _ => rfl
  | .int _, _ => rfl
  | .float _, _ => rfl
  | .text form _, has => by
      obtain rfl : form = .quoted := has
      rfl
  | .list form items, has => by
      obtain ⟨rfl, has⟩ := has
      rw [typed, typedItems_of_haveJson items has]
      rfl
  | .map entries, has => by
      rw [typed, typedEntries_of_haveJson entries has]
      rfl
  | .tagged _ _, has => has.elim
  | .unreadable, has => has.elim

private theorem typedItems_of_haveJson : ∀ items : List Datum, ItemsHaveJson items →
    typedItems items = some items
  | [], _ => rfl
  | item :: rest, has => by
      rw [typedItems, typed_of_hasJson item has.1, typedItems_of_haveJson rest has.2]
      rfl

private theorem typedEntries_of_haveJson : ∀ entries : List (Datum × Datum),
    EntriesHaveJson entries → typedEntries entries = some entries
  | [], _ => rfl
  | (key, value) :: rest, has => by
      obtain ⟨⟨name, rfl⟩, ofValue, ofRest⟩ := has
      rw [typedEntries, typed_of_hasJson value ofValue, typedEntries_of_haveJson rest ofRest]
      rfl

end

/-- Whether a datum is of a definite type and holds something, so that a reader of what may be
missing does not take it for missing. -/
def IsDefinite : Datum → Prop
  | null => False
  | text form _ => form = .quoted
  | tagged _ _ => False
  | _ => True

end Datum

/-! ## What holds of all entries -/

namespace Entries

variable {P : Datum → Prop}

/-- Whether all entries hold data with a property. -/
def All (P : Datum → Prop) (entries : Entries) : Prop :=
  ∀ entry ∈ entries, P entry.2

@[simp]
theorem all_nil : All P [] := nofun

@[simp]
theorem all_cons {entry : String × Datum} {entries : Entries} :
    All P (entry :: entries) ↔ P entry.2 ∧ All P entries :=
  List.forall_mem_cons

@[simp]
theorem all_append {first second : Entries} : All P (first ++ second) ↔ All P first ∧ All P second :=
  List.forall_mem_append

/-- A field that is unset has no entry for which anything could fail. -/
@[simp]
theorem all_optionalEntry {α : Type} {name : String} {write : α → Datum} {value : Option α} :
    All P (optionalEntry name write value) ↔ ∀ inside ∈ value, P (write inside) := by
  cases value <;> simp [optionalEntry]

/-- A list that is empty is left out, so nothing need hold of an empty array. -/
@[simp]
theorem all_listEntry {α : Type} {name : String} {write : α → Datum} {values : List α} :
    All P (listEntry name write values) ↔ (values ≠ [] → P (.array (values.map write))) := by
  cases values <;> simp [listEntry]

end Entries

namespace Datum

/-- A list has a JSON form if its items have. -/
@[simp]
theorem hasJson_array {items : List Datum} : (array items).HasJson ↔ ∀ item ∈ items, item.HasJson := by
  have items_iff : ItemsHaveJson items ↔ ∀ item ∈ items, item.HasJson := by
    induction items with
    | nil => exact iff_of_true trivial nofun
    | cons first rest ih => rw [ItemsHaveJson, ih, List.forall_mem_cons]
  rw [HasJson, items_iff]
  exact and_iff_right rfl

/-- A record has a JSON form if its entries have. -/
@[simp]
theorem hasJson_object {entries : Entries} : (object entries).HasJson ↔ entries.All HasJson := by
  rw [object, HasJson]
  induction entries with
  | nil => exact iff_of_true trivial nofun
  | cons entry rest ih =>
    rw [List.map_cons, EntriesHaveJson, ih, Entries.all_cons]
    exact and_iff_right ⟨entry.1, rfl⟩

@[simp]
theorem hasJson_string (text : String) : (string text).HasJson := rfl

@[simp]
theorem hasJson_bool (value : Bool) : (bool value).HasJson := trivial

end Datum

open Datum (Fields)

namespace Entries

variable {entries first second own shared : Entries} {names more : List String}

/-- Whether entries are under some of the given names, in their order. -/
def Within (entries : Entries) (names : List String) : Prop :=
  (entries.map Prod.fst).Sublist names

/-- Records are put together from parts, with their names in the order of the parts. -/
theorem Within.append (ofFirst : Within first names) (ofSecond : Within second more) :
    Within (first ++ second) (names ++ more) := by
  rw [Within, List.map_append]
  exact List.Sublist.append ofFirst ofSecond

theorem Within.cons {name : String} {datum : Datum} (within : Within entries names) :
    Within ((name, datum) :: entries) (name :: names) :=
  List.Sublist.cons_cons name within

theorem within_nil : Within [] [] := List.Sublist.slnil

theorem within_optionalEntry {α : Type} (name : String) (write : α → Datum) (value : Option α) :
    Within (optionalEntry name write value) [name] := by
  cases value with
  | none => exact List.nil_sublist _
  | some value => exact List.Sublist.refl _

theorem within_listEntry {α : Type} (name : String) (write : α → Datum) (values : List α) :
    Within (listEntry name write values) [name] := by
  unfold listEntry
  split_ifs
  · exact List.nil_sublist _
  · exact List.Sublist.refl _

theorem Within.optional {α : Type} {name : String} {write : α → Datum} {value : Option α}
    (within : Within entries names) :
    Within (entries ++ optionalEntry name write value) (names ++ [name]) :=
  within.append (within_optionalEntry name write value)

theorem Within.list {α : Type} {name : String} {write : α → Datum} {values : List α}
    (within : Within entries names) :
    Within (entries ++ listEntry name write values) (names ++ [name]) :=
  within.append (within_listEntry name write values)

/-- An entry under a name outside the list is impossible, which is what rules out unknown fields. -/
theorem Within.mem (within : Within entries names) {name : String} {datum : Datum}
    (member : (name, datum) ∈ entries) : name ∈ names :=
  List.Sublist.subset within (List.mem_map_of_mem member)

private theorem add?_of_free {fields : Fields} {name : String} (free : name ∉ fields.map Prod.fst)
    (datum : Datum) : Fields.add? fields name datum = some (fields ++ [(name, datum)]) := by
  have absent : fields.any (·.1 == name) = false := by
    rw [List.any_eq_false]
    rintro ⟨other, kept⟩ member
    rw [beq_iff_eq]
    rintro rfl
    exact free (List.mem_map_of_mem member)
  rw [Fields.add?, absent]
  rfl

/-- Entries under different names are added one after the other, where the step adds one whose name
is free. -/
private theorem foldlM_add {σ : Type} {step : σ → Datum × Datum → Option σ} (place : Fields → σ)
    (entries : Entries) (fields : Fields)
    (adds : ∀ entry ∈ entries, ∀ fields, entry.1 ∉ List.map Prod.fst fields →
      step (place fields) (.string entry.1, entry.2) = some (place (fields ++ [entry])))
    (distinct : ((fields ++ entries).map Prod.fst).Nodup) :
    (entries.map fun (key, value) => (Datum.string key, value)).foldlM step (place fields) =
      some (place (fields ++ entries)) := by
  induction entries generalizing fields with
  | nil => rw [List.append_nil]; rfl
  | cons entry rest ih =>
    have free : entry.1 ∉ fields.map Prod.fst := by
      rw [List.map_append, List.nodup_append] at distinct
      exact fun taken => distinct.2.2 entry.1 taken entry.1 (List.mem_cons_self ..) rfl
    have later := ih (fields ++ [entry])
      (fun other member => adds other (List.mem_cons_of_mem _ member))
      (by rwa [List.append_assoc, List.singleton_append])
    rw [List.map_cons, List.foldlM_cons, adds entry (List.mem_cons_self ..) fields free]
    rw [List.append_assoc, List.singleton_append] at later
    exact later

/-- The fields of a record that is written are its entries. -/
theorem record?_object (within : Within entries names) (distinct : names.Nodup) :
    Datum.record? names (.object entries) = some entries := by
  refine foldlM_add id entries [] (fun entry member fields free => ?_)
    (distinct.sublist within)
  have known : names.contains entry.1 = true := List.contains_iff_mem.mpr (within.mem member)
  simp only [Datum.keyName?, Datum.text?, Option.map_some, Option.bind_eq_bind, Option.bind_some, known,
    if_true]
  exact add?_of_free free entry.2

private theorem foldlM_own (within : Within own names) (distinct : names.Nodup) (shared : Fields) :
    (own.map fun (key, value) => (Datum.string key, value)).foldlM (Datum.addShared? names more)
      ([], shared) = some (own, shared) := by
  refine foldlM_add (·, shared) own [] (fun entry member fields free => ?_)
    (distinct.sublist within)
  have known : names.contains entry.1 = true := List.contains_iff_mem.mpr (within.mem member)
  simp only [Datum.addShared?, Datum.keyName?, Datum.text?, Option.map_some, Option.filter, known,
    if_true, Option.bind_eq_bind, Option.bind_some, add?_of_free free, Option.pure_def]

private theorem foldlM_shared (within : Within shared more) (distinct : more.Nodup)
    (foreign : ∀ name ∈ more, name ∉ names) (typed : shared.All Datum.HasJson) (own : Fields) :
    (shared.map fun (key, value) => (Datum.string key, value)).foldlM (Datum.addShared? names more)
      (own, []) = some (own, shared) := by
  refine foldlM_add (own, ·) shared [] (fun entry member fields free => ?_)
    (distinct.sublist within)
  have known : more.contains entry.1 = true := List.contains_iff_mem.mpr (within.mem member)
  have other : names.contains entry.1 = false :=
    Bool.eq_false_iff.mpr fun isOwn => foreign _ (within.mem member) (List.contains_iff_mem.mp isOwn)
  simp only [Datum.addShared?, Datum.keyName?, Datum.text?, Option.map_some, Option.filter, other,
    Bool.false_eq_true, if_false, known, if_true, Option.bind_eq_bind, Option.bind_some,
    Datum.typed_of_hasJson entry.2 (typed entry member), add?_of_free free, Option.pure_def]

/-- The fields of a record that is written after those it shares. -/
theorem sharedRecord?_shared_own (ofShared : Within shared more) (ofOwn : Within own names)
    (distinct : (more ++ names).Nodup) (typed : shared.All Datum.HasJson) :
    Datum.sharedRecord? names more (.object (shared ++ own)) = some (own, shared) := by
  obtain ⟨distinctShared, distinctOwn, disjoint⟩ := List.nodup_append.mp distinct
  have foreign : ∀ name ∈ more, name ∉ names :=
    fun name isShared isOwn => disjoint name isShared name isOwn rfl
  rw [Datum.object, Datum.sharedRecord?, List.map_append, List.foldlM_append,
    foldlM_shared ofShared distinctShared foreign typed]
  exact foldlM_own ofOwn distinctOwn shared

/-- The fields of a record that is written before those it shares. -/
theorem sharedRecord?_own_shared (ofOwn : Within own names) (ofShared : Within shared more)
    (distinct : (more ++ names).Nodup) (typed : shared.All Datum.HasJson) :
    Datum.sharedRecord? names more (.object (own ++ shared)) = some (own, shared) := by
  obtain ⟨distinctShared, distinctOwn, disjoint⟩ := List.nodup_append.mp distinct
  have foreign : ∀ name ∈ more, name ∉ names :=
    fun name isShared isOwn => disjoint name isShared name isOwn rfl
  rw [Datum.object, Datum.sharedRecord?, List.map_append, List.foldlM_append,
    foldlM_own ofOwn distinctOwn]
  exact foldlM_shared ofShared distinctShared foreign typed own

/-! ## Finding a field -/

section Find

variable {name other : String} {datum : Datum}

@[simp]
theorem find?_nil : Fields.find? [] name = none := rfl

/-- The first entry of a name is the one that counts. -/
@[simp]
theorem find?_cons (entries : Entries) :
    Fields.find? ((other, datum) :: entries) name =
      if name = other then some datum else Fields.find? entries name := by
  rw [Fields.find?, List.lookup_cons]
  split_ifs with same
  · subst same
    simp only [beq_self_eq_true]
  · simp only [beq_eq_false_iff_ne.mpr same]
    rfl

/-- Later entries are looked at only if none before has the name. -/
@[simp]
theorem find?_append (first second : Entries) :
    Fields.find? (first ++ second) name = (Fields.find? first name).or (Fields.find? second name) := by
  induction first with
  | nil => rfl
  | cons entry rest ih =>
    rw [List.cons_append, find?_cons, find?_cons, ih]
    split_ifs <;> rfl

@[simp]
theorem find?_optionalEntry {α : Type} (write : α → Datum) (value : Option α) :
    Fields.find? (optionalEntry other write value) name =
      if name = other then value.map write else none := by
  cases value with
  | none => rw [Option.map_none, ite_self]; rfl
  | some value => rw [optionalEntry, find?_cons, find?_nil, Option.map_some]

/-- A list that is written, unless it has no items. -/
def writtenList {α : Type} (write : α → Datum) (values : List α) : Option Datum :=
  if values.isEmpty then none else some (.array (values.map write))

@[simp]
theorem find?_listEntry {α : Type} (write : α → Datum) (values : List α) :
    Fields.find? (listEntry other write values) name =
      if name = other then writtenList write values else none := by
  unfold listEntry writtenList
  cases values.isEmpty with
  | true => exact (ite_self none).symm
  | false => exact find?_cons []

end Find

end Entries

/-! ## Reading a field -/

section Read

variable {α : Type} {read : Datum → Option α} {write : α → Datum}

/-- Whether a value is read back from what is written for it, which no reader takes for missing. -/
structure Datum.ReadBack (read : Datum → Option α) (write : α → Datum) (value : α) : Prop where
  definite : (write value).IsDefinite
  reads : read (write value) = some value

/-- What is written for a value is never the null that stands for a missing one. -/
theorem Datum.ReadBack.optional {value : α} (back : ReadBack read write value) :
    Datum.optional? read (write value) = some (some value) := by
  obtain ⟨definite, reads⟩ := back
  generalize write value = datum at definite reads
  cases datum with
  | null => exact definite.elim
  | text form _ =>
    obtain rfl : form = .quoted := definite
    exact congrArg (Option.map some) reads
  | tagged _ _ => exact definite.elim
  | _ => exact congrArg (Option.map some) reads

/-- What is written as a record is read back if its entries are. -/
theorem Datum.ReadBack.of_record {value : α} {names : List String} {fields? : Fields → Option α}
    {entries : Entries} (reader : ∀ datum, read datum = (datum.record? names).bind fields?)
    (written : write value = .object entries) (within : Entries.Within entries names)
    (distinct : names.Nodup) (reads : fields? entries = some value) : ReadBack read write value := by
  refine ⟨by rw [written]; trivial, ?_⟩
  rw [reader, written, Entries.record?_object within distinct]
  exact reads

namespace Datum.Fields

/-- Read the datum of a field, which may be left out. -/
def foundD? (read : Datum → Option α) (absent : α) : Option Datum → Option α
  | some datum => read datum
  | none => some absent

@[simp]
theorem required?_eq (fields : Fields) (name : String) :
    fields.required? name read = (fields.find? name).bind read := rfl

/-- A missing field has its default, and a field that is there must be readable. -/
@[simp]
theorem getD?_eq (fields : Fields) (name : String) (absent : α) :
    fields.getD? name read absent = foundD? read absent (fields.find? name) := by
  unfold getD? foundD?
  cases fields.find? name <;> rfl

@[simp]
theorem optional?_eq (fields : Fields) (name : String) :
    fields.optional? name read = foundD? (Datum.optional? read) none (fields.find? name) :=
  getD?_eq fields name none

/-- A missing list is the empty one, which is why it can be left out. -/
@[simp]
theorem list?_eq (fields : Fields) (name : String) :
    fields.list? name read = foundD? (Datum.list? read) [] (fields.find? name) :=
  getD?_eq fields name []

@[simp]
theorem foundD?_some (absent : α) (datum : Datum) : foundD? read absent (some datum) = read datum := rfl

/-- What is written if it is set is read back. -/
@[simp]
theorem foundD?_map {value : Option α} (back : ∀ inside ∈ value, ReadBack read write inside) :
    foundD? (Datum.optional? read) none (value.map write) = some value := by
  cases value with
  | none => rfl
  | some inside => exact (back inside rfl).optional

end Datum.Fields

@[simp]
theorem Datum.list?_array {values : List α} (back : ∀ value ∈ values, ReadBack read write value) :
    Datum.list? read (.array (values.map write)) = some values := by
  simp only [Datum.list?, Datum.items?, Option.bind_some]
  induction values with
  | nil => rfl
  | cons first rest ih =>
    obtain ⟨ofFirst, ofRest⟩ := List.forall_mem_cons.mp back
    rw [List.map_cons, List.mapM_cons, ofFirst.reads, ih ofRest]
    rfl

/-- A list that is left out without items is read back. -/
@[simp]
theorem Datum.Fields.foundD?_writtenList {values : List α} {items? : Datum → Option (List α)}
    (reads : items? (.array (values.map write)) = some values) :
    foundD? items? [] (Entries.writtenList write values) = some values := by
  cases values with
  | nil => rfl
  | cons first rest => exact reads

end Read

/-! ## Depth -/

namespace Datum

theorem depth_pos : ∀ datum : Datum, 0 < datum.depth
  | list _ _ => Nat.succ_pos _
  | map _ => Nat.succ_pos _
  | tagged _ content => content.depth_pos
  | null | bool _ | int _ | float _ | text _ _ | unreadable => Nat.one_pos

/-- The brackets of an array are one level around its items. -/
theorem depth_array_le {items : List Datum} {bound : Nat} :
    (array items).depth ≤ bound + 1 ↔ ∀ item ∈ items, item.depth ≤ bound := by
  rw [depth, Nat.add_le_add_iff_right]
  induction items with
  | nil => exact iff_of_true (Nat.zero_le _) nofun
  | cons first rest ih => rw [itemsDepth, max_le_iff, ih, List.forall_mem_cons]

/-- Likewise the braces of an object around what is bound in it. -/
theorem depth_object_le {entries : Entries} {bound : Nat} :
    (object entries).depth ≤ bound + 1 ↔ entries.All (·.depth ≤ bound) := by
  rw [object, depth, Nat.add_le_add_iff_right]
  induction entries with
  | nil => exact iff_of_true (Nat.zero_le _) nofun
  | cons entry rest ih =>
    have key : max (string entry.1).depth entry.2.depth = entry.2.depth := max_eq_right entry.2.depth_pos
    rw [List.map_cons, entriesDepth, max_le_iff, ih, Entries.all_cons, key]

/-- An item is not as deep as its list. -/
theorem depth_lt_array {items : List Datum} {item : Datum} (member : item ∈ items) :
    item.depth < (array items).depth :=
  Nat.lt_succ_of_le (depth_array_le.mp le_rfl item member)

/-- What an entry holds is not as deep as the record. -/
theorem depth_lt_object {entries : Entries} {name : String} {datum : Datum}
    (member : (name, datum) ∈ entries) : datum.depth < (object entries).depth :=
  Nat.lt_succ_of_le (depth_object_le.mp le_rfl (name, datum) member)

end Datum

end ProviderCodegen
