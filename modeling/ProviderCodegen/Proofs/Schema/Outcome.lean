import ProviderCodegen.Proofs.Schema.Outline

/-! # The outcome of building

An outline tells the outcome of building (`Foretold`): building fails with the first fault that a walk
through the outline meets, and succeeds if there is none. This passes from the kinds of a value to
the value, since the first kind that is set decides on both sides, and from children to the map they
are added to, where the names that are taken are those that the walk has passed
(`fault?_addChildren`).
-/

namespace ProviderCodegen.Schema

open Spec (ChildKind)

section Outcomes

variable {α β : Type} {fault : BuildError}

/-- The fault with which building something fails. -/
def fault? : Except BuildError α → Option BuildError
  | .error fault => some fault
  | .ok _ => none

theorem fault?_eq_some_iff {outcome : Except BuildError α} :
    fault? outcome = some fault ↔ outcome = .error fault := by
  cases outcome with
  | error found => rw [fault?, Option.some.injEq, Except.error.injEq]
  | ok value => exact iff_of_false nofun nofun

theorem fault?_eq_none_iff {outcome : Except BuildError α} :
    fault? outcome = none ↔ ∃ value, outcome = .ok value := by
  cases outcome with
  | error fault => exact iff_of_false nofun nofun
  | ok value => exact iff_of_true rfl ⟨value, rfl⟩

/-- Of two steps the first fault counts. -/
theorem fault?_bind {first : Except BuildError α} {next : α → Except BuildError β}
    {later : Option BuildError} (same : ∀ value, fault? (next value) = later) :
    fault? (first >>= next) = (fault? first).or later := by
  cases first with
  | error fault => rfl
  | ok value => exact same value

/-- A step that cannot fail adds no fault. -/
theorem fault?_map {first : Except BuildError α} (next : α → β) :
    fault? (first >>= fun value => pure (next value)) = fault? first := by
  cases first <;> rfl

/-- Whether an outline tells the outcome of building: the first of its faults, or success. -/
def Foretold (outcome : Except BuildError α) (outline : Outline) : Prop :=
  fault? outcome = outline.faults.head?

/-- Where two lists of kinds set the same kinds, with related values, the first of each are
related. -/
theorem rel_findSome? {related : α → β → Prop} {first : List (Option α)} {second : List (Option β)}
    (each : List.Forall₂ (Option.Rel related) first second) :
    Option.Rel related (first.findSome? id) (second.findSome? id) := by
  induction each with
  | nil => exact .none
  | cons head tail ih =>
    cases head with
    | some holds => exact .some holds
    | none => exact ih

/-- The first kind that is set decides, or that there is none. -/
theorem related_first {κ : Type} {related : Except BuildError α → β → Prop} {kinds : List κ}
    {outcome : κ → Option (Except BuildError α)} {options : List (Option β)} {unset : β}
    (each : List.Forall₂ (Option.Rel related) (kinds.map outcome) options)
    (absent : related (.error fault) unset) :
    related ((kinds.findSome? outcome).getD (.error fault)) (firstSet options unset) := by
  have first := rel_findSome? each
  rw [List.findSome?_map, Function.id_comp] at first
  rw [firstSet]
  generalize kinds.findSome? outcome = outcome? at first ⊢
  generalize options.findSome? id = option? at first ⊢
  cases first with
  | some holds => exact holds
  | none => exact absent

/-- Kinds are tried in one order in both, so the first that is set is the same. -/
theorem foretold_first {κ : Type} {kinds : List κ} {outcome : κ → Option (Except BuildError α)}
    {outlines : List (Option Outline)}
    (each : List.Forall₂ (Option.Rel Foretold) (kinds.map outcome) outlines) :
    Foretold ((kinds.findSome? outcome).getD (.error fault)) (firstSet outlines (.unset fault)) :=
  related_first each rfl

end Outcomes

/-! ## Element types -/

private theorem foretold_primitiveType (kind : PrimitiveKind) (spec : Option Spec.PrimitiveType) :
    Option.Rel Foretold (ElementType.buildPrimitive? kind spec) (Outline.leaf? spec) := by
  cases spec with
  | none => exact .none
  | some given => exact .some rfl

/-- A value with one element type has the faults of the type. -/
theorem Foretold.element {α β : Type} {outcome : Except BuildError α} {outline : Outline}
    (foretold : Foretold outcome outline) (next : α → β) :
    Foretold (outcome >>= fun value => pure (next value)) (.holding [outline] [] []) := by
  rw [Foretold, fault?_map, foretold, Outline.faults, Outline.typeFaults, Outline.typeFaults,
    Outline.namedFaults, Outline.namedFaults, List.append_nil, List.append_nil, List.append_nil]

/-- A value with typed fields has the faults of their types. -/
theorem foretold_fields {α β : Type} {outcome : Except BuildError α} {types : List Outline}
    (foretold : fault? outcome = (Outline.typeFaults types).head?) (next : α → β) :
    Foretold (outcome >>= fun value => pure (next value)) (.holding types [] []) := by
  rw [Foretold, fault?_map, foretold, Outline.faults, Outline.namedFaults, Outline.namedFaults,
    List.append_nil, List.append_nil]

mutual

private theorem foretold_typeKinds (missing : BuildError) : ∀ spec : Spec.ElementType,
    Foretold ((ElementKind.all.findSome? fun kind => ElementType.buildKind? kind spec).getD
      (.error missing)) (.ofType missing spec)
  | ⟨bool, float64, int64, number, string, list, map, set, object⟩ =>
      foretold_first <| .cons (foretold_primitiveType _ bool) <|
        .cons (foretold_primitiveType _ float64) <| .cons (foretold_primitiveType _ int64) <|
        .cons (foretold_primitiveType _ number) <| .cons (foretold_primitiveType _ string) <|
        .cons (foretold_collectionType _ list) <| .cons (foretold_collectionType _ map) <|
        .cons (foretold_collectionType _ set) <| .cons (foretold_objectType object) .nil

private theorem foretold_collectionType (kind : CollectionKind) :
    ∀ spec : Option Spec.CollectionType,
      Option.Rel Foretold (ElementType.buildCollection? kind spec) (Outline.ofCollection? spec)
  | none => .none
  | some ⟨element, _⟩ => .some ((foretold_typeKinds .undefinedElement element).element _)

private theorem foretold_objectType : ∀ spec : Option Spec.ObjectType,
    Option.Rel Foretold (ElementType.buildObject? spec) (Outline.ofObject? spec)
  | none => .none
  | some ⟨fields, _⟩ => .some (foretold_fields (fault?_buildFields fields) _)

private theorem fault?_buildFields : ∀ specs : List Spec.ObjectField,
    fault? (ElementType.buildFields specs) = (Outline.typeFaults (Outline.ofFields specs)).head?
  | [] => rfl
  | ⟨name, kind⟩ :: rest => by
      have ofFirst := foretold_typeKinds (.undefinedField name) kind
      have ofRest := fault?_buildFields rest
      rw [ElementType.buildFields, fault?_bind fun type => (fault?_map _).trans ofRest, ofFirst,
        Outline.ofFields, Outline.typeFaults, List.head?_append]

end

/-- An element type is built unless a value in it sets no kind. -/
theorem foretold_elementType (spec : Spec.ElementType) :
    Foretold (ElementType.build spec) (.ofType .undefinedElement spec) :=
  foretold_typeKinds .undefinedElement spec

/-! ## Children -/

/-- Children are added until a name is taken or a node fails. -/
theorem fault?_addChildren {α : Type} {kind : ChildKind}
    {outcomes : List (String × Except BuildError α)} {outlines : List (String × Outline)}
    (foretold : NameMap.Pointwise Foretold outcomes outlines)
    {built : NameMap α} {before : List String} (same : ∀ name, name ∈ built.names ↔ name ∈ before) :
    fault? (addChildren kind built outcomes) = (Outline.namedFaults kind before outlines).head? := by
  induction foretold generalizing built before with
  | nil => rfl
  | cons head tail ih =>
    rename_i outcome outline outcomes outlines
    obtain ⟨name, node⟩ := outcome
    obtain ⟨named, first⟩ := outline
    obtain ⟨rfl, holds⟩ := head
    rw [addChildren, Outline.namedFaults]
    by_cases taken : name ∈ before
    · rw [addChild, NameMap.contains_iff.mpr ((same name).mpr taken), if_pos rfl, if_pos taken]
      rfl
    · have free : built.contains name = false :=
        Bool.eq_false_iff.mpr fun contained =>
          taken ((same name).mp (NameMap.contains_iff.mp contained))
      rw [addChild, free, if_neg Bool.false_ne_true, if_neg taken, List.nil_append]
      cases node with
      | error fault =>
        rw [List.head?_append, ← holds]
        rfl
      | ok node =>
        have none : first.faults = [] := List.head?_eq_none_iff.mp holds.symm
        rw [none, List.nil_append]
        refine ih fun other => ?_
        rw [NameMap.mem_names_insert, List.mem_cons, same]

/-! ## Attributes and blocks -/

/-- A value with attributes and blocks has the faults of the attributes, then those of the blocks. -/
theorem foretold_children {α β γ : Type} {attributes : Except BuildError α}
    {blocks : Except BuildError β} {named below : List (String × Outline)}
    (ofAttributes : fault? attributes = (Outline.namedFaults .attr [] named).head?)
    (ofBlocks : fault? blocks = (Outline.namedFaults .block [] below).head?) (next : α → β → γ) :
    Foretold (attributes >>= fun value => blocks >>= fun inner => pure (next value inner))
      (.holding [] named below) := by
  rw [Foretold, fault?_bind fun value => (fault?_map (next value)).trans ofBlocks, ofAttributes,
    Outline.faults, Outline.typeFaults, List.nil_append, List.head?_append]

/-- A value with attributes only has the faults of the attributes. -/
theorem foretold_attributes {α β : Type} {attributes : Except BuildError α}
    {named : List (String × Outline)}
    (ofAttributes : fault? attributes = (Outline.namedFaults .attr [] named).head?) (next : α → β) :
    Foretold (attributes >>= fun value => pure (next value)) (.holding [] named []) := by
  rw [Foretold, fault?_map, ofAttributes, Outline.faults, Outline.typeFaults, Outline.namedFaults,
    List.nil_append, List.append_nil]

private theorem foretold_primitiveAttribute {δ : Type} (kind : PrimitiveKind)
    (default : Option δ → Option Default) (spec : Option (Spec.PrimitiveAttribute δ)) :
    Option.Rel Foretold (Attribute.buildPrimitive? kind default spec) (Outline.leaf? spec) := by
  cases spec with
  | none => exact .none
  | some given => exact .some rfl

private theorem foretold_collectionAttribute (kind : CollectionKind)
    (spec : Option Spec.CollectionAttribute) :
    Option.Rel Foretold (Attribute.buildCollection? kind spec)
      (Outline.ofAttribute.ofElements? spec) := by
  cases spec with
  | none => exact .none
  | some given => exact .some ((foretold_elementType given.elementType).element _)

private theorem foretold_objectAttribute (spec : Option Spec.ObjectAttribute) :
    Option.Rel Foretold (Attribute.buildObject? spec) (Outline.ofAttribute.ofTyped? spec) := by
  cases spec with
  | none => exact .none
  | some given => exact .some (foretold_fields (fault?_buildFields given.attributeTypes) _)

private theorem fault?_attributes {specs : List Spec.Attribute}
    (each : NameMap.Pointwise Foretold (Attribute.outcomes specs) (Outline.ofAttributes specs)) :
    fault? (Attributes.build specs) =
      (Outline.namedFaults .attr [] (Outline.ofAttributes specs)).head? := by
  rw [Attributes.build_eq]
  exact fault?_addChildren each fun _ => Iff.rfl

mutual

private theorem foretold_attribute : ∀ spec : Spec.Attribute,
    Foretold (Attribute.build spec) (.ofAttribute spec)
  | ⟨_, bool, float64, int64, number, string, list, map, set, listNested, mapNested, setNested,
      singleNested, object⟩ =>
      foretold_first <| .cons (foretold_primitiveAttribute _ _ bool) <|
        .cons (foretold_primitiveAttribute _ _ float64) <|
        .cons (foretold_primitiveAttribute _ _ int64) <|
        .cons (foretold_primitiveAttribute _ _ number) <|
        .cons (foretold_primitiveAttribute _ _ string) <|
        .cons (foretold_collectionAttribute _ list) <|
        .cons (foretold_collectionAttribute _ map) <|
        .cons (foretold_collectionAttribute _ set) <|
        .cons (foretold_nestedAttribute _ listNested) <|
        .cons (foretold_nestedAttribute _ mapNested) <|
        .cons (foretold_nestedAttribute _ setNested) <|
        .cons (foretold_singleAttribute singleNested) <|
        .cons (foretold_objectAttribute object) .nil

private theorem foretold_nestedAttribute (kind : CollectionKind) :
    ∀ spec : Option Spec.NestedAttribute,
      Option.Rel Foretold (Attribute.buildNested? kind spec) (Outline.ofNested? spec)
  | none => .none
  | some ⟨_, ⟨attributes, _, _, _, _⟩, _⟩ =>
      .some (foretold_attributes (fault?_attributes (foretold_eachAttribute attributes)) _)

private theorem foretold_singleAttribute : ∀ spec : Option Spec.SingleNestedAttribute,
    Option.Rel Foretold (Attribute.buildSingle? spec) (Outline.ofSingle? spec)
  | none => .none
  | some ⟨_, attributes, _, _⟩ =>
      .some (foretold_attributes (fault?_attributes (foretold_eachAttribute attributes)) _)

private theorem foretold_eachAttribute : ∀ specs : List Spec.Attribute,
    NameMap.Pointwise Foretold (Attribute.outcomes specs) (Outline.ofAttributes specs)
  | [] => .nil
  | first :: rest => .cons ⟨rfl, foretold_attribute first⟩ (foretold_eachAttribute rest)

end

/-- The first fault of a list of attributes is the first in its outline. -/
theorem Attributes.fault?_build (specs : List Spec.Attribute) :
    fault? (Attributes.build specs) =
      (Outline.namedFaults .attr [] (Outline.ofAttributes specs)).head? :=
  fault?_attributes (foretold_eachAttribute specs)

private theorem fault?_blocks {specs : List Spec.Block}
    (each : NameMap.Pointwise Foretold (Block.outcomes specs) (Outline.ofBlocks specs)) :
    fault? (Blocks.build specs) =
      (Outline.namedFaults .block [] (Outline.ofBlocks specs)).head? := by
  rw [Blocks.build_eq]
  exact fault?_addChildren each fun _ => Iff.rfl

mutual

private theorem foretold_block : ∀ spec : Spec.Block, Foretold (Block.build spec) (.ofBlock spec)
  | ⟨_, listNested, setNested, singleNested⟩ =>
      foretold_first <| .cons (foretold_nestedBlock _ listNested) <|
        .cons (foretold_nestedBlock _ setNested) <| .cons (foretold_singleBlock singleNested) .nil

private theorem foretold_nestedBlock (kind : RepeatedKind) : ∀ spec : Option Spec.NestedBlock,
    Option.Rel Foretold (Block.buildNested? kind spec) (Outline.ofNestedBlock? spec)
  | none => .none
  | some ⟨_, ⟨attributes, blocks, _, _, _, _⟩⟩ =>
      .some (foretold_children (Attributes.fault?_build attributes)
        (fault?_blocks (foretold_eachBlock blocks)) _)

private theorem foretold_singleBlock : ∀ spec : Option Spec.SingleNestedBlock,
    Option.Rel Foretold (Block.buildSingle? spec) (Outline.ofSingleBlock? spec)
  | none => .none
  | some ⟨_, attributes, blocks, _⟩ =>
      .some (foretold_children (Attributes.fault?_build attributes)
        (fault?_blocks (foretold_eachBlock blocks)) _)

private theorem foretold_eachBlock : ∀ specs : List Spec.Block,
    NameMap.Pointwise Foretold (Block.outcomes specs) (Outline.ofBlocks specs)
  | [] => .nil
  | first :: rest => .cons ⟨rfl, foretold_block first⟩ (foretold_eachBlock rest)

end

theorem Blocks.fault?_build (specs : List Spec.Block) :
    fault? (Blocks.build specs) = (Outline.namedFaults .block [] (Outline.ofBlocks specs)).head? :=
  fault?_blocks (foretold_eachBlock specs)

/-- The outline of a schema tells whether the schema is built, and if not, what the fault is. -/
theorem ResourceSchema.foretold_build (spec : Spec.Schema) :
    Foretold (ResourceSchema.build spec) (.ofSchema spec) :=
  foretold_children (Attributes.fault?_build spec.attributes) (Blocks.fault?_build spec.blocks) _

end ProviderCodegen.Schema
