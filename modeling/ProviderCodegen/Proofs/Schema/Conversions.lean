import ProviderCodegen.Proofs.Schema.Imports
import ProviderCodegen.Proofs.Schema.MethodCalls

/-! # Where conversion methods come from

Every pair of conversion methods belongs to a node with an external type, and converts the fields of
that node. A field without methods of its own is made from a framework type, which the node or the
attribute behind the field imports.
-/

namespace ProviderCodegen

open Conversion (ConversionMethods ConvertedField Plan)
open Source (ImportSet)

namespace Schema

variable {methods : ConversionMethods}

/-- Every pair of methods is for the external type and the fields of a node. -/
theorem ResourceSchema.exists_node_of_methods {schema : ResourceSchema}
    (member : methods ∈ schema.methods) :
    ∃ entry ∈ schema.nodes,
      entry.2.externalType = some methods.external ∧ methods.fields = entry.2.converted := by
  obtain ⟨place, listed, made⟩ := exists_place_of_methods member
  have makes := Place.methods?_eq_some_iff.mp made
  exact ⟨place.entry, map_entry_places schema ▸ List.mem_map_of_mem listed, makes.external,
    makes.fields⟩

/-! ## What conversions import -/

variable {path name : String} {node : Node} {field : ConvertedField}

/-- A node with an external type imports what conversions need. -/
theorem mem_ownImports_of_external {external : Spec.ExternalType}
    (given : node.externalType = some external) (named : path ≠ "")
    (member : path ∈ Source.Framework.conversionImports.paths) : path ∈ node.ownImports.paths := by
  have needed : path ∈ (externalTypeImports node.externalType).paths := by
    rw [given]
    exact (ImportSet.mem_paths_union named).mpr (.inl member)
  cases node with
  | attr node =>
    cases node with
    | primitive => cases given
    | collection => cases given
    | nested =>
      simp only [Node.ownImports, Attribute.ownImports, Attribute.emptied, Attribute.imports,
        nestedImports, ImportSet.mem_paths_union named]
      exact .inl (.inl (.inl needed))
    | singleNested =>
      simp only [Node.ownImports, Attribute.ownImports, Attribute.emptied, Attribute.imports,
        ObjectFacets.imports, ImportSet.mem_paths_union named]
      exact .inl (.inl (.inl (.inl (.inl needed))))
    | object =>
      simp only [Node.ownImports, Attribute.ownImports, Attribute.emptied, Attribute.imports,
        fixedObjectImports, ImportSet.mem_paths_union named]
      exact .inl (.inl (.inl (.inl (.inl needed))))
  | block node =>
    cases node with
    | nested =>
      simp only [Node.ownImports, Block.ownImports, Block.emptied, Block.imports,
        nestedImports, ImportSet.mem_paths_union named]
      exact .inl (.inl (.inl needed))
    | singleNested =>
      simp only [Node.ownImports, Block.ownImports, Block.emptied, Block.imports,
        ObjectFacets.imports, ImportSet.mem_paths_union named]
      exact .inl (.inl (.inl (.inl (.inl needed))))

private theorem without_of_requireKindType {facets : Facets} {word subject : String} {result : Unit}
    (required : requireKindType facets word subject = .ok result) : facets.customType = none := by
  unfold requireKindType at required
  split_ifs at required with given
  exact Option.not_isSome_iff_eq_none.mp given

/-- A node with a plan imports the framework's types. -/
private theorem mem_types_of_plan {direction : Conversion.Direction} {plan : Plan}
    (planned : node.plan direction name = .ok plan) :
    Source.Framework.types ∈ node.ownImports.paths := by
  have named : Source.Framework.types ≠ "" := by decide
  cases node with
  | block node => cases node <;> cases planned
  | attr node =>
    cases node with
    | primitive kind facets default =>
      obtain ⟨_, required, -⟩ := bind_eq_ok.mp planned
      simp only [Node.ownImports, Attribute.ownImports, Attribute.emptied, Attribute.imports,
        Facets.imports, ImportSet.mem_paths_union named]
      exact .inl (.inl (mem_types_customTypeImports (without_of_requireKindType required)))
    | collection kind facets element default =>
      obtain ⟨_, required, -⟩ := bind_eq_ok.mp planned
      simp only [Node.ownImports, Attribute.ownImports, Attribute.emptied, Attribute.imports,
        Facets.imports, ImportSet.mem_paths_union named]
      exact .inl (.inl (.inl (mem_types_customTypeImports (without_of_requireKindType required))))
    | nested => cases planned
    | singleNested => cases planned
    | object facets fields external default =>
      exact (ImportSet.mem_paths_union named).mpr
        (.inr (Fields.mem_imports fields named (List.mem_cons_self ..)))

private theorem isExternal_of_mirrors {toNative ofNative : Plan}
    (mirrors : toNative.Mirrors ofNative) : toNative.isExternal = ofNative.isExternal := by
  cases mirrors <;> rfl

/-- A field of a node has methods of its own in both directions or in none, and if in none the
framework's types are imported. -/
theorem ResourceSchema.converted_cases {schema : ResourceSchema} {entry : String × Node}
    (member : entry ∈ schema.nodes) (converts : field ∈ entry.2.converted) :
    field.toNative.isExternal = field.ofNative.isExternal ∧
      (field.ofNative.isExternal = false → Source.Framework.types ∈ schema.imports.paths) := by
  have named : Source.Framework.types ≠ "" := by decide
  cases typed : entry.2.isTypedObject with
  | false =>
    rw [Node.converted_eq typed] at converts
    obtain ⟨child, isChild, converts⟩ := List.mem_filterMap.mp converts
    obtain ⟨-, first, second⟩ := ConvertedField.ofPlans?_eq_some_iff.mp converts
    have alike := child.2.alike_plan child.1
    rw [first, second] at alike
    have imports := mem_paths_of_node named _ (mem_nodes_of_child member isChild)
      (mem_types_of_plan second)
    exact ⟨isExternal_of_mirrors alike.related_of_ok, fun _ => imports⟩
  | true =>
    obtain ⟨name, node⟩ := entry
    obtain ⟨facets, fields, external, default, rfl⟩ := Node.eq_object_of_typed typed
    obtain ⟨first, second⟩ := Fields.isExternal_of_converted converts
    refine ⟨first.trans second.symm, fun _ => mem_paths_of_node named _ member ?_⟩
    exact (ImportSet.mem_paths_union named).mpr
      (.inr (Fields.mem_imports fields named (List.mem_cons_self ..)))

end Schema

end ProviderCodegen
