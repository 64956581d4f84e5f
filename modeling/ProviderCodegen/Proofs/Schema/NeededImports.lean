import ProviderCodegen.Proofs.Schema.Imports
import ProviderCodegen.Proofs.UsedPackages

/-! # Packages that a node needs

Where the code of a node uses a package of the framework, the node imports it: for the type that is
generated for it, for the type of its kind in the model, and for the types of elements and fields in
its declaration. A custom type takes the place of both the code and the import.
-/

namespace ProviderCodegen.Schema

open Source (ImportSet Uses StartsWith uses_composite_entry startsWith_composite valueName)

variable {path : String} {node : Node}

/-- A node for which a type is generated imports what the type needs. -/
theorem mem_ownImports_of_generatesType (generated : node.generatesType = true) (named : path ≠ "")
    (needed : path ∈ Source.Framework.valueTypeImports.paths) : path ∈ node.ownImports.paths := by
  have ofCustom {custom : Option Spec.CustomType} (without : custom.isNone = true) :
      path ∈ (generatedTypeImports custom).paths := by
    rw [Option.isNone_iff_eq_none.mp without]
    exact needed
  cases node with
  | attr node =>
    cases node with
    | primitive => cases generated
    | collection => cases generated
    | nested kind facets item attributes default =>
      simp only [Node.ownImports, Attribute.ownImports, Attribute.emptied, Attribute.imports,
        nestedImports, ObjectFacets.imports,
        ImportSet.mem_paths_union named]
      exact .inr (.inl (.inl (.inl (.inl (.inr (ofCustom generated))))))
    | singleNested facets attributes external default =>
      simp only [Node.ownImports, Attribute.ownImports, Attribute.emptied, Attribute.imports,
        ObjectFacets.imports,
        ImportSet.mem_paths_union named]
      exact .inl (.inl (.inl (.inl (.inr (ofCustom generated)))))
    | object facets fields external default =>
      obtain ⟨converts, without⟩ := (Bool.and_eq_true _ _).mp generated
      simp only [Node.ownImports, Attribute.ownImports, Attribute.emptied, Attribute.imports,
        fixedObjectImports, converts, if_true,
        ImportSet.mem_paths_union named]
      exact .inl (.inl (.inl (.inl (.inr (ofCustom without)))))
  | block node =>
    cases node with
    | nested kind facets item attributes blocks =>
      simp only [Node.ownImports, Block.ownImports, Block.emptied, Block.imports,
        nestedImports, ObjectFacets.imports,
        ImportSet.mem_paths_union named]
      exact .inr (.inl (.inl (.inl (.inl (.inr (ofCustom generated))))))
    | singleNested facets attributes blocks external =>
      simp only [Node.ownImports, Block.ownImports, Block.emptied, Block.imports,
        ObjectFacets.imports,
        ImportSet.mem_paths_union named]
      exact .inl (.inl (.inl (.inl (.inr (ofCustom generated)))))

/-! ## The type of a kind in the model -/

/-- The type that the kind of a node has in the model, if neither a custom type nor a generated one
takes its place. -/
def Node.kindModelType? : Node → Option String
  | attr (.primitive kind facets _) => if facets.customType.isNone then some kind.modelType else none
  | attr (.collection kind facets _ _) =>
      if facets.customType.isNone then some kind.modelType else none
  | attr (.nested kind facets _ _ _) =>
      if facets.customType.isNone then some kind.modelType else none
  | attr (.object facets _ none _) =>
      if facets.customType.isNone then some "types.Object" else none
  | block (.nested kind facets _ _ _) =>
      if facets.customType.isNone then some kind.collection.modelType else none
  | _ => none

private theorem resolve_of_without {name kindType : String} {custom : Option Spec.CustomType}
    (without : custom.isNone = true) :
    (ModelField.resolve name custom false kindType).valueType = kindType := by
  rw [Option.isNone_iff_eq_none.mp without]
  rfl

private theorem startsWith_modelType (name : String) : StartsWith "types" ("types." ++ name) :=
  StartsWith.append (show StartsWith "types" "types." by decide) _

/-- A field of the model that has the type of a kind has a framework type, which is imported. -/
theorem modelField_of_kindModelType {type : String} (given : node.kindModelType? = some type)
    (name : String) :
    (node.modelField name).valueType = type ∧ StartsWith "types" type ∧
      Source.Framework.types ∈ node.ownImports.paths := by
  have named : Source.Framework.types ≠ "" := by decide
  cases node with
  | attr node =>
    cases node with
    | primitive kind facets default =>
      obtain ⟨without, rfl⟩ := Option.ite_some_none_eq_some.mp given
      refine ⟨resolve_of_without without, startsWith_modelType _, ?_⟩
      simp only [Node.ownImports, Attribute.ownImports, Attribute.emptied, Attribute.imports,
        Facets.imports,
        ImportSet.mem_paths_union named]
      exact .inl (.inl (mem_types_customTypeImports (Option.isNone_iff_eq_none.mp without)))
    | collection kind facets element default =>
      obtain ⟨without, rfl⟩ := Option.ite_some_none_eq_some.mp given
      exact ⟨resolve_of_without without, startsWith_modelType _,
        (ImportSet.mem_paths_union named).mpr (.inr element.mem_types_imports)⟩
    | nested kind facets item attributes default =>
      obtain ⟨without, rfl⟩ := Option.ite_some_none_eq_some.mp given
      refine ⟨resolve_of_without without, startsWith_modelType _, ?_⟩
      simp only [Node.ownImports, Attribute.ownImports, Attribute.emptied, Attribute.imports,
        nestedImports, Facets.imports,
        ImportSet.mem_paths_union named]
      exact .inl (.inl (.inr (.inl (mem_types_customTypeImports
        (Option.isNone_iff_eq_none.mp without)))))
    | singleNested facets attributes external default => cases given
    | object facets fields external default =>
      cases external with
      | some external => cases given
      | none =>
        obtain ⟨without, rfl⟩ := Option.ite_some_none_eq_some.mp given
        exact ⟨resolve_of_without without, startsWith_modelType "Object",
          (ImportSet.mem_paths_union named).mpr
            (.inr (Fields.mem_imports fields named (List.mem_cons_self ..)))⟩
  | block node =>
    cases node with
    | nested kind facets item attributes blocks =>
      obtain ⟨without, rfl⟩ := Option.ite_some_none_eq_some.mp given
      refine ⟨resolve_of_without without, startsWith_modelType _, ?_⟩
      simp only [Node.ownImports, Block.ownImports, Block.emptied, Block.imports,
        nestedImports, Facets.imports,
        ImportSet.mem_paths_union named]
      exact .inl (.inl (.inr (.inl (mem_types_customTypeImports
        (Option.isNone_iff_eq_none.mp without)))))
    | singleNested facets attributes blocks external => cases given

def Node.customType : Node → Option Spec.CustomType
  | attr (.primitive _ facets _) => facets.customType
  | attr (.collection _ facets _ _) => facets.customType
  | attr (.nested _ facets _ _ _) => facets.customType
  | attr (.singleNested facets _ _ _) => facets.customType
  | attr (.object facets _ _ _) => facets.customType
  | block (.nested _ facets _ _ _) => facets.customType
  | block (.singleNested facets _ _ _) => facets.customType

/-- A field of the model that does not have the type of a kind has a custom type or a generated
one. -/
theorem Node.modelField_of_kindModelType?_eq_none (node : Node)
    (other : node.kindModelType? = none) (name : String) :
    (∃ custom, node.customType = some custom ∧ (node.modelField name).valueType = custom.valueType) ∨
      (node.modelField name).valueType = valueName name := by
  have ofKind {custom : Option Spec.CustomType} {kindType : String}
      (other : (if custom.isNone then some kindType else none) = none) :
      ∃ given, custom = some given ∧
        (ModelField.resolve name custom false kindType).valueType = given.valueType := by
    cases custom with
    | none => cases other
    | some given => exact ⟨given, rfl, rfl⟩
  have ofGenerated {custom : Option Spec.CustomType} (generated : Bool) :
      (∃ given, custom = some given ∧
          (ModelField.resolve name custom generated (valueName name)).valueType = given.valueType) ∨
        (ModelField.resolve name custom generated (valueName name)).valueType = valueName name := by
    cases custom with
    | none => exact .inr (ite_self _)
    | some given => exact .inl ⟨given, rfl, rfl⟩
  cases node with
  | attr node =>
    cases node with
    | primitive => exact .inl (ofKind other)
    | collection => exact .inl (ofKind other)
    | nested => exact .inl (ofKind other)
    | singleNested => exact ofGenerated _
    | object facets fields external default =>
      cases external with
      | none => exact .inl (ofKind other)
      | some external => exact ofGenerated true
  | block node =>
    cases node with
    | nested => exact .inl (ofKind other)
    | singleNested => exact ofGenerated _

/-- A model with a field of a framework type uses the framework's types. -/
theorem ResourceSchema.uses_model {schema : ResourceSchema} {entry : String × Node} {type : String}
    (member : entry ∈ schema.children) (given : entry.2.kindModelType? = some type)
    (name : String) : Uses "types" (schema.model name) := by
  obtain ⟨same, starts, -⟩ := modelField_of_kindModelType given entry.1
  have inModel : entry.2.modelField entry.1 ∈ schema.modelFields := by
    obtain ⟨entry, listed, rfl⟩ | ⟨entry, listed, rfl⟩ := mem_namedNodes.mp member
    · exact List.mem_append_left _ (List.mem_map.mpr ⟨entry, listed, rfl⟩)
    · exact List.mem_append_right _ (List.mem_map.mpr ⟨entry, listed, rfl⟩)
  have uses : Uses "types" (entry.2.modelField entry.1).declaration := by
    have space : ((entry.2.modelField entry.1).name ++ " ").toList.getLast? = some ' ' := by
      rw [String.toList_append]
      exact List.getLast?_concat
    exact (((same ▸ starts).behind space).append _).append _
  have listed : .code 0 (entry.2.modelField entry.1).declaration ∈
      schema.modelFields.map fun field => (field.declaration : Source.Line) :=
    List.mem_map.mpr ⟨_, inModel, rfl⟩
  rw [ResourceSchema.model]
  exact ((Source.linesUse_code uses listed).block _).renderLines

/-! ## The types of elements and fields -/

namespace ElementType

/-- A type that is not custom is one of the framework, which it names first. -/
theorem startsWith_expression {type : ElementType} (without : type.customType = none) :
    StartsWith "types" type.expression := by
  cases type with
  | primitive kind custom =>
    cases without
    exact (startsWith_modelType kind.name).append _
  | collection kind element custom =>
    cases without
    exact startsWith_composite ((startsWith_modelType kind.name).append _) _
  | object fields custom =>
    cases without
    exact startsWith_composite (show StartsWith "types" "types.ObjectType" by decide) _

end ElementType

private theorem uses_attrTypesLiteral (types : List (String × String)) :
    Uses "attr" (attrTypesLiteral types) := by
  have uses : Uses "attr" "map[string]attr.Type" := ⟨']', by decide, by decide⟩
  unfold attrTypesLiteral
  split
  · exact (uses.append _).append _
  · exact Source.uses_composite uses _

/-- An object lists the types of its fields in a map of attribute types. -/
theorem ElementType.uses_expression {type : ElementType} (shows : type.showsObject = true) :
    Uses "attr" type.expression := by
  fun_induction ElementType.showsObject type with
  | case1 kind element ih =>
    exact uses_composite_entry (((ih shows).behind _).append _) (List.mem_singleton_self _) _
  | case2 fields =>
    have inside := ((uses_attrTypesLiteral (NameMap.sorted (expressions fields))).behind
      "AttrTypes: ").append ","
    exact uses_composite_entry inside (List.mem_singleton_self _) _
  | case3 => cases shows

/-- Whether the declaration of a node has the type of an element, not hidden by a custom type. -/
def Node.showsElementType : Node → Bool
  | attr (.collection _ _ element _) => element.customType.isNone
  | _ => false

/-- Whether the declaration of a node spells out the types of the fields of an object. -/
def Node.showsFieldTypes : Node → Bool
  | attr (.collection _ _ element _) => element.showsObject
  | attr (.object _ _ _ _) => true
  | _ => false

/-- A declaration that has the type of an element uses the framework's types, which are imported. -/
theorem Node.uses_elementType (shows : node.showsElementType = true) (name : String) :
    Uses "types" (node.declaration name) ∧ Source.Framework.types ∈ node.ownImports.paths := by
  cases node with
  | block => cases shows
  | attr node =>
    cases node with
    | collection kind facets element default =>
      have starts := element.startsWith_expression (Option.isNone_iff_eq_none.mp shows)
      exact ⟨uses_declaration ((starts.field _).behind _) name _,
        (ImportSet.mem_paths_union (by decide)).mpr (.inr element.mem_types_imports)⟩
    | primitive => cases shows
    | nested => cases shows
    | singleNested => cases shows
    | object => cases shows

/-- A declaration that spells out field types uses the package of attributes, which is imported. -/
theorem Node.uses_fieldTypes (shows : node.showsFieldTypes = true) (name : String) :
    Uses "attr" (node.declaration name) ∧ Source.Framework.attr ∈ node.ownImports.paths := by
  have named : Source.Framework.attr ≠ "" := by decide
  cases node with
  | block => cases shows
  | attr node =>
    cases node with
    | collection kind facets element default =>
      exact ⟨uses_declaration ((uses_entry (element.uses_expression shows) _).behind _) name _,
        (ImportSet.mem_paths_union named).mpr (.inr (element.mem_attr_imports shows))⟩
    | object facets fields external default =>
      refine ⟨uses_declaration ((uses_entry (uses_attrTypesLiteral _) _).behind _) name _, ?_⟩
      exact (ImportSet.mem_paths_union named).mpr (.inr (Fields.mem_imports fields named
        (List.mem_cons_of_mem _ (List.mem_cons_self ..))))
    | primitive => cases shows
    | nested => cases shows
    | singleNested => cases shows

end ProviderCodegen.Schema
