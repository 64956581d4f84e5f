import ProviderCodegen.Proofs.Schema.FieldsByName

/-! # What a type shows

The expression of a type shows the type level by level and stops at a custom type: this stands for
everything below it. So a level is visible when no level above has a custom type
(`ElementType.Visible`). The imports are collected by a recursion of their own. It stops at the same
levels, so what is imported is what the visible levels need, and neither the expression nor the
imports change when all that is hidden is taken away (`ElementType.pruned`).
-/

namespace ProviderCodegen.Schema

open Source (Import closeBrace composite inQuotes openBrace)
open Spec (CustomType)

namespace ElementType

variable {type level : ElementType} {i : Import} {path : String}

/-! ## Levels -/

/-- The types that a type is made of, directly below it. -/
def components : ElementType → List ElementType
  | primitive _ _ => []
  | collection _ element _ => [element]
  | object fields _ => fields.map Prod.snd

/-- The levels of a type, each with the levels above it. -/
inductive Level : ElementType → List ElementType → ElementType → Prop
  | top (type : ElementType) : Level type [] type
  | under {type inner level : ElementType} {above : List ElementType}
      (directly : inner ∈ type.components)
      (ofInner : Level inner above level) : Level type (type :: above) level

/-- Whether a level of a type is visible: no level above has a custom type. -/
def Visible (type level : ElementType) : Prop :=
  ∃ above, Level type above level ∧ ∀ upper ∈ above, upper.customType = none

/-- A visible level is the type itself or, unless the type is custom, visible in a type directly
below. -/
theorem visible_iff :
    type.Visible level ↔
      level = type ∨ type.customType = none ∧ ∃ inner ∈ type.components, inner.Visible level := by
  constructor
  · rintro ⟨above, isLevel, plain⟩
    cases isLevel with
    | top => exact .inl rfl
    | under directly ofInner =>
      obtain ⟨ofType, ofAbove⟩ := List.forall_mem_cons.mp plain
      exact .inr ⟨ofType, _, directly, _, ofInner, ofAbove⟩
  · rintro (rfl | ⟨ofType, inner, directly, above, ofInner, plain⟩)
    · exact ⟨[], .top _, nofun⟩
    · exact ⟨_, .under directly ofInner, List.forall_mem_cons.mpr ⟨ofType, plain⟩⟩

mutual

private theorem induction_of_components {motive : ElementType → Prop}
    (step : ∀ type, (∀ inner ∈ type.components, motive inner) → motive type) : ∀ type, motive type
  | primitive _ _ => step _ fun _ member => absurd member List.not_mem_nil
  | collection _ element _ => step _ fun inner member => by
      rw [List.mem_singleton.mp member]
      exact induction_of_components step element
  | object fields _ => step _ fun inner member => by
      obtain ⟨field, listed, rfl⟩ := List.mem_map.mp member
      exact induction_of_fields step fields field listed

private theorem induction_of_fields {motive : ElementType → Prop}
    (step : ∀ type, (∀ inner ∈ type.components, motive inner) → motive type) :
    ∀ fields : Fields, ∀ field ∈ fields, motive field.2
  | [], _, member => absurd member List.not_mem_nil
  | (_, type) :: rest, field, member => by
      rcases List.mem_cons.mp member with rfl | member
      · exact induction_of_components step type
      · exact induction_of_fields step rest field member

end

/-! ## Imports -/

/-- What a level needs itself: the package of its custom type, else the package of the type map if
it is an object. -/
def ownParts (type : ElementType) : List Import :=
  match type.customType, type with
  | some custom, _ => custom.package.toList
  | none, object _ _ => [{ path := Source.Framework.attr }]
  | none, _ => []

/-- A level needs attribute types for the map of an object, and otherwise the package of its custom
type. -/
theorem mem_ownParts_iff :
    i ∈ type.ownParts ↔
      (i = { path := Source.Framework.attr } ∧ ∃ fields, type = object fields none) ∨
        ∃ custom, type.customType = some custom ∧ custom.package = some i := by
  cases type with
  | primitive kind custom => cases custom <;> simp [ownParts, customType]
  | collection kind element custom => cases custom <;> simp [ownParts, customType]
  | object fields custom => cases custom <;> simp [ownParts, customType]

/-- A type needs what it needs itself and, unless it is custom, what the types directly below need. -/
theorem parts_eq (type : ElementType) :
    type.parts =
      type.ownParts ++ if type.customType = none then type.components.flatMap parts else [] := by
  cases type with
  | primitive kind custom => cases custom <;> simp [parts, ownParts, customType, components]
  | collection kind element custom => cases custom <;> simp [parts, ownParts, customType, components]
  | object fields custom =>
    cases custom with
    | none => simp [parts, ownParts, customType, components, fieldParts_eq, List.flatMap_map]
    | some custom => simp [parts, ownParts, customType]

/-- A type needs what its visible levels need. -/
theorem mem_parts_iff : i ∈ type.parts ↔ ∃ level, type.Visible level ∧ i ∈ level.ownParts := by
  induction type using induction_of_components with
  | step type ih =>
    have inside : i ∈ (if type.customType = none then type.components.flatMap parts else []) ↔
        type.customType = none ∧
          ∃ inner ∈ type.components, ∃ level, inner.Visible level ∧ i ∈ level.ownParts := by
      rw [List.mem_ite_nil_right, List.mem_flatMap]
      exact and_congr_right fun _ => exists_congr fun inner => and_congr_right (ih inner)
    rw [parts_eq, List.mem_append, inside]
    constructor
    · rintro (own | ⟨plain, inner, directly, level, visible, needed⟩)
      · exact ⟨type, visible_iff.mpr (.inl rfl), own⟩
      · exact ⟨level, visible_iff.mpr (.inr ⟨plain, inner, directly, visible⟩), needed⟩
    · rintro ⟨level, visible, needed⟩
      rcases visible_iff.mp visible with rfl | ⟨plain, inner, directly, visible⟩
      · exact .inl needed
      · exact .inr ⟨plain, inner, directly, level, visible, needed⟩

/-- The types of the framework are always imported, and besides these what the type needs. -/
theorem mem_paths_imports_iff :
    path ∈ type.imports.paths ↔
      path = Source.Framework.types ∨ path ≠ "" ∧ ∃ i ∈ type.parts, i.path = path := by
  have known : Source.Framework.types ≠ "" := by decide
  rw [imports_eq, Source.ImportSet.mem_paths_ofList, contributions, List.exists_mem_cons_iff]
  constructor
  · rintro ⟨named, rfl | needed⟩
    · exact .inl rfl
    · exact .inr ⟨named, needed⟩
  · rintro (rfl | ⟨named, needed⟩)
    · exact ⟨known, .inl rfl⟩
    · exact ⟨named, .inr needed⟩

/-! ## Expressions -/

private theorem isInfix_between (before text after : String) :
    text.toList <:+: (before ++ text ++ after).toList := by
  rw [String.toList_append, String.toList_append]
  exact List.infix_append ..

private theorem isInfix_join {part : String} {parts : List String} (member : part ∈ parts) :
    part.toList <:+: (String.join parts).toList := by
  induction parts with
  | nil => exact absurd member List.not_mem_nil
  | cons first rest ih =>
    rw [String.join_cons, String.toList_append]
    rcases List.mem_cons.mp member with rfl | member
    · exact (List.prefix_append ..).isInfix
    · exact (ih member).trans (List.suffix_append ..).isInfix

private theorem isInfix_composite {entry type : String} {entries : List String}
    (member : entry ∈ entries) : entry.toList <:+: (composite type entries).toList := by
  have inLine : entry.toList <:+: ("\n" ++ entry).toList := by
    rw [String.toList_append]
    exact (List.suffix_append ..).isInfix
  have inJoined := inLine.trans (isInfix_join (List.mem_map_of_mem member))
  have split : composite type entries =
      type ++ openBrace ++ String.join (entries.map ("\n" ++ ·)) ++ ("\n" ++ closeBrace) :=
    String.append_assoc
  rw [split]
  exact inJoined.trans (isInfix_between ..)

private theorem isInfix_attrTypesLiteral {name text : String} {types : List (String × String)}
    (member : (name, text) ∈ types) : text.toList <:+: (attrTypesLiteral types).toList := by
  have filled : types.isEmpty = false := by
    rw [List.isEmpty_eq_false_iff]
    exact List.ne_nil_of_mem member
  rw [attrTypesLiteral, filled, if_neg Bool.false_ne_true]
  exact (isInfix_between ..).trans (isInfix_composite (List.mem_map_of_mem member))

/-- Unless a type is custom, its expression shows those of the types that it is made of. -/
theorem isInfix_expression_of_mem {component : ElementType} (plain : type.customType = none)
    (member : component ∈ type.components) :
    component.expression.toList <:+: type.expression.toList := by
  cases type with
  | primitive kind custom => exact absurd member List.not_mem_nil
  | collection kind element custom =>
    cases plain
    rw [List.mem_singleton.mp member, expression]
    exact (isInfix_between ..).trans (isInfix_composite (List.mem_singleton_self _))
  | object fields custom =>
    cases plain
    obtain ⟨⟨name, type⟩, listed, rfl⟩ := List.mem_map.mp member
    have entry : (name, type.expression) ∈ NameMap.sorted (expressions fields) := by
      rw [(NameMap.sorted_perm _).mem_iff, expressions_eq]
      exact List.mem_map_of_mem listed
    rw [expression]
    exact (isInfix_attrTypesLiteral entry).trans <|
      (isInfix_between ..).trans (isInfix_composite (List.mem_singleton_self _))

/-- The expression of a type shows that of every visible level. -/
theorem Visible.isInfix_expression (visible : type.Visible level) :
    level.expression.toList <:+: type.expression.toList := by
  obtain ⟨above, isLevel, plain⟩ := visible
  induction isLevel with
  | top type => exact List.infix_rfl
  | under directly _ ih =>
    obtain ⟨ofType, ofAbove⟩ := List.forall_mem_cons.mp plain
    exact (ih ofAbove).trans (isInfix_expression_of_mem ofType directly)

mutual

/-- The type without anything below the levels that have a custom type. -/
def pruned : ElementType → ElementType
  | primitive kind custom => primitive kind custom
  | collection kind _ (some custom) => collection kind (primitive .bool none) (some custom)
  | object _ (some custom) => object [] (some custom)
  | collection kind element none => collection kind element.pruned none
  | object fields none => object (allPruned fields) none

/-- Fields without anything below the levels that have a custom type. -/
def allPruned : Fields → Fields
  | [] => []
  | (name, type) :: rest => (name, type.pruned) :: allPruned rest

end

mutual

/-- What is below a custom type is not written. -/
theorem expression_pruned : ∀ type : ElementType, type.pruned.expression = type.expression
  | primitive _ _ => rfl
  | collection _ _ (some _) => rfl
  | object _ (some _) => rfl
  | collection _ element none => by
    rw [pruned, expression, expression, expression_pruned element]
  | object fields none => by
    rw [pruned, expression, expression, expressions_allPruned fields]

private theorem expressions_allPruned : ∀ fields : Fields,
    expressions (allPruned fields) = expressions fields
  | [] => rfl
  | (_, type) :: rest => by
    rw [allPruned, expressions, expressions, expression_pruned type, expressions_allPruned rest]

end

mutual

theorem parts_pruned : ∀ type : ElementType, type.pruned.parts = type.parts
  | primitive _ _ => rfl
  | collection _ _ (some _) => rfl
  | object _ (some _) => rfl
  | collection _ element none => by rw [pruned, parts, parts, parts_pruned element]
  | object fields none => by rw [pruned, parts, parts, fieldParts_allPruned fields]

private theorem fieldParts_allPruned : ∀ fields : Fields,
    fieldParts (allPruned fields) = fieldParts fields
  | [] => rfl
  | (_, type) :: rest => by
    rw [allPruned, fieldParts, fieldParts, parts_pruned type, fieldParts_allPruned rest]

end

theorem imports_pruned (type : ElementType) : type.pruned.imports = type.imports := by
  rw [imports_eq, imports_eq, contributions, contributions, parts_pruned]

/-- The imports of a type match what its expression shows. A path is imported if and only if it is
that of the framework's types, that of the type map while some visible object has no custom type, or
that of the package of a custom type at a visible level. The expression of every visible level stands
in that of the type. And nothing that is hidden shows: types that are the same but for what is below
custom types have the same expression and the same imports. -/
theorem imports_of_visible (type : ElementType) :
    (∀ path, path ∈ type.imports.paths ↔
      path = Source.Framework.types ∨
        (path = Source.Framework.attr ∧ ∃ fields, type.Visible (object fields none)) ∨
        path ≠ "" ∧ ∃ level custom package, type.Visible level ∧
          level.customType = some custom ∧ custom.package = some package ∧ package.path = path) ∧
      (∀ level, type.Visible level → level.expression.toList <:+: type.expression.toList) ∧
      ∀ other : ElementType, other.pruned = type.pruned →
        other.expression = type.expression ∧ other.imports = type.imports := by
  refine ⟨fun path => ?_, fun level visible => visible.isInfix_expression, fun other same => ?_⟩
  · have known : Source.Framework.attr ≠ "" := by decide
    rw [mem_paths_imports_iff]
    refine or_congr_right ⟨?_, ?_⟩
    · rintro ⟨named, i, needed, rfl⟩
      obtain ⟨level, visible, own⟩ := mem_parts_iff.mp needed
      rcases mem_ownParts_iff.mp own with ⟨rfl, fields, rfl⟩ | ⟨custom, ofLevel, ofCustom⟩
      · exact .inl ⟨rfl, fields, visible⟩
      · exact .inr ⟨named, level, custom, i, visible, ofLevel, ofCustom, rfl⟩
    · rintro (⟨rfl, fields, visible⟩ | ⟨named, level, custom, i, visible, ofLevel, ofCustom, rfl⟩)
      · have own := mem_ownParts_iff.mpr (.inl ⟨rfl, fields, rfl⟩)
        exact ⟨known, _, mem_parts_iff.mpr ⟨_, visible, own⟩, rfl⟩
      · have own := mem_ownParts_iff.mpr (.inr ⟨custom, ofLevel, ofCustom⟩)
        exact ⟨named, i, mem_parts_iff.mpr ⟨level, visible, own⟩, rfl⟩
  · rw [← expression_pruned other, ← imports_pruned other, same, expression_pruned, imports_pruned]
    exact ⟨rfl, rfl⟩

def customOf (package : String) : CustomType where
  package := some { path := "example.com/" ++ package }
  type := package ++ ".Type"
  valueType := package ++ ".Value"

/-- A list of objects, each with a map of a custom type. -/
def gridType (cell : ElementType) : ElementType :=
  .collection .list
    (.object [("cells", .collection .map cell (some (customOf "cells"))),
      ("size", .primitive .int64 none)] none) none

/-- The custom type of the map shows, and another one in its elements does not. -/
theorem gridType_imports :
    (gridType (.primitive .bool none)).Visible
        (.collection .map (.primitive .bool none) (some (customOf "cells"))) ∧
      "example.com/cells" ∈ (gridType (.primitive .bool none)).imports.paths ∧
      (gridType (.object [("x", .primitive .bool (some (customOf "x")))] none)).expression =
        (gridType (.primitive .bool none)).expression ∧
      (gridType (.object [("x", .primitive .bool (some (customOf "x")))] none)).imports.paths =
        [Source.Framework.types, Source.Framework.attr, "example.com/cells"] := by
  have visible : (gridType (.primitive .bool none)).Visible
      (.collection .map (.primitive .bool none) (some (customOf "cells"))) := by
    refine visible_iff.mpr (.inr ⟨rfl, _, List.mem_singleton_self _, ?_⟩)
    refine visible_iff.mpr (.inr ⟨rfl, _, List.mem_cons_self .., ?_⟩)
    exact visible_iff.mpr (.inl rfl)
  obtain ⟨imported, -, shown⟩ := imports_of_visible (gridType (.primitive .bool none))
  obtain ⟨expression, imports⟩ :=
    shown (gridType (.object [("x", .primitive .bool (some (customOf "x")))] none)) rfl
  refine ⟨visible, (imported _).mpr ?_, expression, ?_⟩
  · exact .inr (.inr ⟨by decide, _, _, _, visible, rfl, rfl, rfl⟩)
  · rw [imports]
    decide

end ElementType

end ProviderCodegen.Schema
