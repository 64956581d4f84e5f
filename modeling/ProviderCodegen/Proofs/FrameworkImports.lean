import ProviderCodegen.Proofs.ImportBlock
import ProviderCodegen.Proofs.Schema.Conversions
import ProviderCodegen.Proofs.Schema.NeededImports
import ProviderCodegen.Proofs.Schema.SuppliedImports

/-! # No import of the framework is missing

Generated code names packages of the framework, and the file must import them. What the code uses
and what a schema imports are computed apart, by two recursions over the same nodes, and the imports
are then selected by a search of the code. Here the two are brought together: an import that the
schema has under the package's own name, and that some part of the file uses, is in the block.
-/

namespace ProviderCodegen

open Source (Import ImportSet Uses)
open Source.Framework (context fmt types basetypes attr diag tftypes resourceSchema)
open Schema (Node ResourceSchema)

/-- The packages that generated code is written with, under the names that it uses. -/
def frameworkNames : List (String × String) :=
  [(context, "context"), (fmt, "fmt"), (types, "types"), (basetypes, "basetypes"), (attr, "attr"),
   (diag, "diag"), (tftypes, "tftypes"), (resourceSchema, "schema")]

/-- The paths of the packages that generated code is written with. -/
def frameworkPaths : List String :=
  frameworkNames.map Prod.fst

/-- The code uses the packages by their own names. -/
theorem packageName_of_framework : ∀ entry ∈ frameworkNames,
    ({ path := entry.1 } : Import).packageName = entry.2 ∧ entry.1 ≠ "" := by
  decide

variable {resource : Spec.Resource} {options : GenerateOptions} {file : GeneratedFile}
  {schema : ResourceSchema} {key path name part : String}

/-- The imports of a schema that give no other names to packages of the framework. -/
def Unaliased (schema : ResourceSchema) : Prop :=
  ∀ i ∈ schema.imports.entries, i.path ∈ frameworkPaths → i.localName = none

/-- The generator gives names of its own to no import, so only supplied ones could rename the
framework. -/
theorem unaliased_of_build {spec : Spec.Schema} (built : ResourceSchema.build spec = .ok schema)
    (unaliased : ∀ i ∈ spec.supplied, i.path ∈ frameworkPaths → i.localName = none) :
    Unaliased schema := by
  intro i member known
  rcases ResourceSchema.suppliedBy_of_build built i member with ownName | supplied
  · exact ownName
  · exact unaliased i supplied known

/-- A package that the schema imports and some part of the file uses is in the import block. -/
theorem mem_importBlock_of_uses (unaliased : Unaliased schema) (known : (path, name) ∈ frameworkNames)
    (imported : path ∈ schema.imports.paths) (inFile : part ∈ sections schema key options)
    (uses : Uses name part) : { path } ∈ importBlock schema key options := by
  obtain ⟨i, member, rfl⟩ := ImportSet.mem_paths.mp imported
  have ownName := unaliased i member (List.mem_map_of_mem known)
  have same : i = { path := i.path } := by
    obtain ⟨path, localName⟩ := i
    cases ownName
    rfl
  have named : i.packageName = name := by
    rw [same]
    exact (packageName_of_framework _ known).1
  exact same ▸ mem_importBlock.mpr
    ⟨member, part, inFile, Import.isReferenced_of_uses (named ▸ uses)⟩

theorem function_mem_sections : schema.function key ∈ sections schema key options := by
  simp only [sections, List.cons_append]
  exact List.mem_cons_self ..

/-- The model is a section of the file only if it is asked for. -/
theorem model_mem_sections (model : options.model) :
    schema.model key ∈ sections schema key options := by
  simp only [sections, if_pos model, List.mem_append, List.mem_singleton, true_or, or_true]

theorem valueType_mem_sections {type : Schema.ValueType} (member : type ∈ schema.valueTypes) :
    type.render ∈ sections schema key options :=
  List.mem_append_left _ (List.mem_append_right _ (List.mem_map_of_mem member))

/-- Conversions are sections of the file only if they are asked for. -/
theorem methods_mem_sections {methods : Conversion.ConversionMethods}
    (conversions : options.conversions) (member : methods ∈ schema.methods) :
    methods.render ∈ sections schema key options := by
  simp only [sections, if_pos conversions]
  exact List.mem_append_right _ (List.mem_map_of_mem member)

/-! ## What each part imports -/

private theorem function_names : ∀ path ∈ [context, resourceSchema],
    ∃ entry ∈ frameworkNames, entry.1 = path ∧ entry.2 ∈ ResourceSchema.usedNames := by
  decide

private theorem valueType_names : ∀ path ∈ [types, basetypes, attr, diag, tftypes, context, fmt],
    ∃ entry ∈ frameworkNames, entry.1 = path ∧ entry.2 ∈ Schema.ValueType.usedNames := by
  decide

private theorem methods_names : ∀ path ∈ [attr, diag, context],
    ∃ entry ∈ frameworkNames, entry.1 = path ∧
      entry.2 ∈ Conversion.ConversionMethods.usedNames := by
  decide

private theorem methods_paths : ∀ path ∈ [attr, diag, context],
    path ∈ Source.Framework.conversionImports.paths := by
  decide

private theorem types_name : (types, "types") ∈ frameworkNames := by
  decide

private theorem attr_name : (attr, "attr") ∈ frameworkNames := by
  decide

private theorem ne_empty_of_known (known : (path, name) ∈ frameworkNames) : path ≠ "" :=
  (packageName_of_framework _ known).2

/-- A part that uses packages under all of some names brings those that have the names, as far as
the schema imports them. -/
private theorem part_imports (unaliased : Unaliased schema) {paths names : List String}
    (known : ∀ path ∈ paths, ∃ entry ∈ frameworkNames, entry.1 = path ∧ entry.2 ∈ names)
    (inFile : part ∈ sections schema key options) (uses : ∀ name ∈ names, Uses name part)
    (imported : ∀ path ∈ paths, path ≠ "" → path ∈ schema.imports.paths) :
    ∀ path ∈ paths, { path } ∈ importBlock schema key options := by
  intro path listed
  obtain ⟨⟨path, name⟩, isKnown, rfl, used⟩ := known path listed
  exact mem_importBlock_of_uses unaliased isKnown
    (imported path listed (ne_empty_of_known isKnown)) inFile (uses name used)

/-- The schema function takes a context and returns a schema. -/
theorem function_imports (unaliased : Unaliased schema) :
    ∀ path ∈ [context, resourceSchema], { path } ∈ importBlock schema key options := by
  refine part_imports unaliased function_names function_mem_sections
    (fun _ used => ResourceSchema.uses_signature key used) fun path listed named => ?_
  exact (ImportSet.mem_paths_union named).mpr (.inr ((ImportSet.mem_paths_ofPaths named).mpr listed))

/-- A generated type, of a node at any depth, brings all that generated types use. -/
theorem valueType_imports (unaliased : Unaliased schema) (generates : schema.valueTypes ≠ []) :
    ∀ path ∈ [types, basetypes, attr, diag, tftypes, context, fmt],
      { path } ∈ importBlock schema key options := by
  -- Any of the types shows the use, and its node, wherever it is, has the import.
  obtain ⟨type, member⟩ := List.exists_mem_of_ne_nil _ generates
  have ofNode := member
  rw [ResourceSchema.valueTypes_eq] at ofNode
  obtain ⟨entry, generated, -⟩ := List.mem_map.mp ofNode
  obtain ⟨isNode, generated⟩ := List.mem_filter.mp generated
  refine part_imports unaliased valueType_names (valueType_mem_sections member)
    (fun _ used => type.uses_render used) fun path listed named => ?_
  exact ResourceSchema.mem_paths_of_node named entry isNode (Schema.mem_ownImports_of_generatesType
    generated named ((ImportSet.mem_paths_ofPaths named).mpr listed))

section Methods

variable {methods : Conversion.ConversionMethods} (unaliased : Unaliased schema)
  (conversions : options.conversions) (member : methods ∈ schema.methods)

include unaliased conversions member

/-- A pair of conversion methods brings what every pair uses. -/
theorem methods_imports :
    ∀ path ∈ [attr, diag, context], { path } ∈ importBlock schema key options := by
  obtain ⟨entry, isNode, given, -⟩ := ResourceSchema.exists_node_of_methods member
  refine part_imports unaliased methods_names (methods_mem_sections conversions member)
    (fun _ used => Conversion.ConversionMethods.uses_render used) fun path listed named => ?_
  exact ResourceSchema.mem_paths_of_node named entry isNode
    (Schema.mem_ownImports_of_external given named (methods_paths path listed))

/-- A field that converts without methods of its own, in either direction, brings the framework's
types: it is made from one in the direction that returns the value. -/
theorem methods_import_types {field : Conversion.ConvertedField} (converts : field ∈ methods.fields)
    (internal : field.toNative.isExternal = false ∨ field.ofNative.isExternal = false) :
    { path := types } ∈ importBlock schema key options := by
  obtain ⟨entry, isNode, -, fields⟩ := ResourceSchema.exists_node_of_methods member
  obtain ⟨same, imported⟩ := ResourceSchema.converted_cases isNode (fields ▸ converts)
  have ofNative : field.ofNative.isExternal = false := internal.elim same.symm.trans id
  exact mem_importBlock_of_uses unaliased types_name (imported ofNative)
    (methods_mem_sections conversions member)
    (Conversion.ConversionMethods.uses_types converts ofNative)

end Methods

/-- A field of the model with the type of a kind brings the framework's types. -/
theorem model_imports_types (unaliased : Unaliased schema) (model : options.model)
    {entry : String × Node} (member : entry ∈ schema.children) {type : String}
    (given : entry.2.kindModelType? = some type) :
    (entry.2.modelField entry.1).valueType = type ∧
      { path := types } ∈ importBlock schema key options := by
  obtain ⟨same, -, own⟩ := Schema.modelField_of_kindModelType given entry.1
  have isNode : entry ∈ schema.nodes := ResourceSchema.mem_nodes_of_top member
  have imported := ResourceSchema.mem_paths_of_node (ne_empty_of_known types_name) entry isNode own
  exact ⟨same, mem_importBlock_of_uses unaliased types_name imported (model_mem_sections model)
    (ResourceSchema.uses_model member given key)⟩

/-- What a declaration uses and its node imports is in the import block. -/
private theorem declaration_imports (unaliased : Unaliased schema) {entry : String × Node}
    (member : entry ∈ schema.nodes) (known : (path, name) ∈ frameworkNames)
    (needed : Uses name (entry.2.declaration entry.1) ∧ path ∈ entry.2.ownImports.paths) :
    { path } ∈ importBlock schema key options :=
  mem_importBlock_of_uses unaliased known
    (ResourceSchema.mem_paths_of_node (ne_empty_of_known known) entry member needed.2)
    function_mem_sections (ResourceSchema.uses_function key entry member needed.1)

/-- Whether the block of a file imports a package under its own name, with the quoted path on one of
the lines. -/
structure ImportsPath (block : List Import) (lines : List String) (path : String) : Prop where
  entry : { path } ∈ block
  line : "\t\"" ++ path ++ "\"" ∈ lines

/-- An import that gives no name has the quoted path on its line. -/
theorem WrittenFile.importsPath {content package : String} {imports : List Import}
    {parts lines : List String} (written : WrittenFile content package imports parts lines)
    (member : { path } ∈ imports) : ImportsPath imports lines path := by
  obtain ⟨line, listed, shown⟩ := written.exists_line member
  cases shown
  exact ⟨member, listed⟩

/-- What the import block of a file has of the framework, by what the file uses. -/
structure ImportsFramework (schema : ResourceSchema) (key : String) (options : GenerateOptions)
    (lines : List String) : Prop where
  /-- Every file has the schema function. -/
  function : ∀ path ∈ [context, resourceSchema],
    ImportsPath (importBlock schema key options) lines path
  /-- A type is generated for some node, at any depth. -/
  valueTypes : schema.valueTypes ≠ [] →
    ∀ path ∈ [types, basetypes, attr, diag, tftypes, context, fmt],
      ImportsPath (importBlock schema key options) lines path
  /-- There is a pair of conversion methods. -/
  methods : options.conversions → schema.methods ≠ [] →
    ∀ path ∈ [attr, diag, context], ImportsPath (importBlock schema key options) lines path
  /-- A pair converts a field by the plan of a primitive, a collection or an object. -/
  convertedFields : options.conversions → ∀ pair ∈ schema.methods, ∀ field ∈ pair.fields,
    (field.toNative.isExternal = false ∨ field.ofNative.isExternal = false) →
      ImportsPath (importBlock schema key options) lines types
  /-- A field of the model has the type of its kind. -/
  model : options.model → ∀ entry ∈ schema.children, ∀ type,
    entry.2.kindModelType? = some type →
      (entry.2.modelField entry.1).valueType = type ∧
        ImportsPath (importBlock schema key options) lines types
  /-- Any other field of the model has a custom type or a generated one. -/
  otherModel : ∀ entry ∈ schema.children, entry.2.kindModelType? = none →
    (∃ custom, entry.2.customType = some custom ∧
      (entry.2.modelField entry.1).valueType = custom.valueType) ∨
      (entry.2.modelField entry.1).valueType = Source.valueName entry.1
  /-- The type of an element is written, at any depth. -/
  elementTypes : ∀ entry ∈ schema.nodes, entry.2.showsElementType →
    ImportsPath (importBlock schema key options) lines types
  /-- The types of the fields of an object are written, at any depth. -/
  fieldTypes : ∀ entry ∈ schema.nodes, entry.2.showsFieldTypes →
    ImportsPath (importBlock schema key options) lines attr

/-- Each field combines what a part of the schema needs with what the text of the part uses. -/
theorem importsFramework {content package : String} {parts lines : List String}
    (unaliased : Unaliased schema)
    (written : WrittenFile content package (importBlock schema key options) parts lines) :
    ImportsFramework schema key options lines where
  function path listed := written.importsPath (function_imports unaliased path listed)
  valueTypes generates path listed :=
    written.importsPath (valueType_imports unaliased generates path listed)
  methods conversions converts path listed :=
    have ⟨_, member⟩ := List.exists_mem_of_ne_nil _ converts
    written.importsPath (methods_imports unaliased conversions member path listed)
  convertedFields conversions _ member _ converts internal :=
    written.importsPath (methods_import_types unaliased conversions member converts internal)
  model model _ member _ given :=
    (model_imports_types unaliased model member given).imp_right written.importsPath
  otherModel entry _ other := entry.2.modelField_of_kindModelType?_eq_none other entry.1
  elementTypes entry member shows := written.importsPath <|
    declaration_imports unaliased member types_name (Node.uses_elementType shows entry.1)
  fieldTypes entry member shows := written.importsPath <|
    declaration_imports unaliased member attr_name (Node.uses_fieldTypes shows entry.1)

/-- No import of the framework is missing from a file, as long as no import that the user supplies
gives another name to a package of the framework. The file is written with a line for each import of
its block; among them are the quoted paths of all packages of the framework that it uses. -/
theorem generateResource_importsFramework (generated : generateResource resource options = .ok file)
    (unaliased : ∀ i ∈ resource.schema.supplied, i.path ∈ frameworkPaths → i.localName = none) :
    ∃ schema lines, ResourceSchema.build resource.schema = .ok schema ∧
      WrittenFile file.content options.package (importBlock schema resource.name options)
        (sections schema resource.name options) lines ∧
      ImportsFramework schema resource.name options lines := by
  obtain ⟨schema, built, rfl⟩ := generateResource_eq_ok_iff.mp generated
  obtain ⟨lines, written⟩ := writtenFile_importBlock schema resource.name options
  exact ⟨schema, lines, built, written,
    importsFramework (unaliased_of_build built unaliased) written⟩

/-- A resource with an object, which has a type of its own and a list of texts inside. -/
def targetResource : Spec.Resource where
  name := "thing"
  schema := {
    attributes := [{
      name := "target"
      singleNested := some {
        facets := {}
        attributes := [{
          name := "ids"
          list := some {
            facets := {}
            elementType := { string := some { customType := none } }
            default := none } }]
        externalType := some { package := none, type := "*Target" }
        default := none } }] }

/-- An object of an external type with a list of texts in it needs all the paths at once. -/
theorem importBlock_target :
    ∃ file schema lines, generateResource targetResource {} = .ok file ∧
      WrittenFile file.content "provider" (importBlock schema "thing" {})
        (sections schema "thing" {}) lines ∧
      ∀ path ∈ frameworkPaths, ImportsPath (importBlock schema "thing" {}) lines path := by
  have generated : generateResource targetResource {} = .ok _ := rfl
  obtain ⟨schema, lines, built, written, imports⟩ := generateResource_importsFramework generated
    (show ∀ i ∈ ([] : List Import), i.path ∈ frameworkPaths → i.localName = none from nofun)
  have generates : schema.valueTypes ≠ [] := by
    cases built
    exact List.cons_ne_nil _ _
  refine ⟨_, schema, lines, generated, written, fun path listed => ?_⟩
  have splits : path ∈ [context, resourceSchema] ∨
      path ∈ [types, basetypes, attr, diag, tftypes, context, fmt] := by
    revert path
    decide
  exact splits.elim (imports.function path) (imports.valueTypes generates path)

end ProviderCodegen
