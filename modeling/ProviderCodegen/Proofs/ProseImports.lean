import ProviderCodegen.Proofs.ImportBlock
import ProviderCodegen.Proofs.Schema.ProseText

/-! # Imports that prose keeps in a file

The import block has what the code of a file uses, and what some quoted prose of the resource looks
like a use of. So resources that differ in prose only have the same import block exactly when there
is nothing the code does not use that the prose of one of them mentions and that of the other does
not.
-/

namespace ProviderCodegen

open Schema (BuildError ResourceSchema)
open Source (Import ImportSet)
open Text (goLiteral)

variable {resource other : Spec.Resource} {options : GenerateOptions}
  {schema second : ResourceSchema} {key : String} {i : Import}

/-- Whether some prose of a schema, quoted, is taken for a use of a package. -/
def MentionedInProse (schema : ResourceSchema) (i : Import) : Prop :=
  ∃ text ∈ schema.prose, i.isReferenced (goLiteral text) = true

/-- All parts but the schema function are the same without prose. -/
theorem sections_withoutProse (schema : ResourceSchema) (key : String) (options : GenerateOptions) :
    ∃ rest, sections schema key options = schema.function key :: rest ∧
      sections schema.withoutProse key options = schema.withoutProse.function key :: rest := by
  refine ⟨_, rfl, ?_⟩
  rw [sections, schema.model_withoutProse, schema.valueTypes_withoutProse,
    schema.methods_withoutProse]
  rfl

/-- The block has what the code uses and what prose mentions. -/
theorem mem_importBlock_iff_prose (schema : ResourceSchema) (key : String)
    (options : GenerateOptions) (i : Import) :
    i ∈ importBlock schema key options ↔
      i ∈ importBlock schema.withoutProse key options ∨
        i ∈ schema.imports.entries ∧ MentionedInProse schema i := by
  obtain ⟨rest, parts, without⟩ := sections_withoutProse schema key options
  have function := i.isReferenced_of_quotes (schema.quotes_function key)
  rw [mem_importBlock, mem_importBlock, schema.imports_withoutProse, parts, without,
    List.exists_mem_cons_iff, List.exists_mem_cons_iff, function, ← and_or_left,
    MentionedInProse, or_right_comm]

/-- Schemas that differ in prose only have the same block when prose mentions the same of what the
code does not use. -/
theorem importBlock_eq_iff (alike : schema.withoutProse = second.withoutProse) :
    importBlock schema key options = importBlock second key options ↔
      ∀ i ∈ schema.imports.entries, i ∉ importBlock schema.withoutProse key options →
        (MentionedInProse schema i ↔ MentionedInProse second i) := by
  have imports : second.imports = schema.imports := by
    rw [← schema.imports_withoutProse, alike, second.imports_withoutProse]
  have inFirst := mem_importBlock_iff_prose schema key options
  have inSecond := mem_importBlock_iff_prose second key options
  rw [importBlock_eq_iff_mem]
  constructor
  · intro same i member unused
    have both := same i
    rw [inFirst, inSecond, ← alike, imports, or_iff_right unused, or_iff_right unused,
      and_iff_right member, and_iff_right member] at both
    exact both
  · intro same i
    rw [inFirst, inSecond, ← alike, imports]
    by_cases used : i ∈ importBlock schema.withoutProse key options
    · exact iff_of_true (.inl used) (.inl used)
    · rw [or_iff_right used, or_iff_right used]
      exact and_congr_right fun member => same i member used

/-- Resources that differ in prose only are alike in all but the prose that shows in the file: the
same fault stops both, or both have files. The blocks of these files have the imports that the code
uses, which are the same, and those that prose mentions. So the blocks are the same exactly when
prose mentions the same of the imports that the code does not use. -/
theorem generateResource_prose (alike : resource.withoutProse = other.withoutProse)
    (options : GenerateOptions) :
    (∃ fault, generateResource resource options = .error fault ∧
      generateResource other options = .error fault) ∨
    ∃ schema second,
      generateResource resource options = .ok {
        path := resource.name ++ "_resource_gen.go"
        content := fileText options.package (importBlock schema resource.name options)
          (sections schema resource.name options) } ∧
      generateResource other options = .ok {
        path := other.name ++ "_resource_gen.go"
        content := fileText options.package (importBlock second other.name options)
          (sections second other.name options) } ∧
      schema.withoutProse = second.withoutProse ∧
      (∀ i, i ∈ importBlock schema resource.name options ↔
        i ∈ importBlock schema.withoutProse resource.name options ∨
          i ∈ schema.imports.entries ∧ MentionedInProse schema i) ∧
      (importBlock schema resource.name options = importBlock second other.name options ↔
        ∀ i ∈ schema.imports.entries, i ∉ importBlock schema.withoutProse resource.name options →
          (MentionedInProse schema i ↔ MentionedInProse second i)) := by
  have name : resource.withoutProse.name = other.withoutProse.name :=
    congrArg Spec.Resource.name alike
  change resource.name = other.name at name
  have built : (ResourceSchema.build resource.schema).map ResourceSchema.withoutProse =
      (ResourceSchema.build other.schema).map ResourceSchema.withoutProse := by
    rw [← ResourceSchema.build_withoutProse, ← ResourceSchema.build_withoutProse]
    exact congrArg (fun spec : Spec.Resource => ResourceSchema.build spec.schema) alike
  cases first : ResourceSchema.build resource.schema with
  | error fault =>
    cases second : ResourceSchema.build other.schema with
    | ok schema => rw [first, second] at built; cases built
    | error fault' =>
      rw [first, second] at built
      cases built
      refine .inl ⟨fault, ?_, ?_⟩
      · rw [generateResource, first]; rfl
      · rw [generateResource, second]; rfl
  | ok schema =>
    cases second : ResourceSchema.build other.schema with
    | error fault => rw [first, second] at built; cases built
    | ok schema' =>
      rw [first, second] at built
      have same : schema.withoutProse = schema'.withoutProse := Except.ok.inj built
      refine .inr ⟨schema, schema', generateResource_eq_ok_iff.mpr ⟨schema, first, rfl⟩,
        generateResource_eq_ok_iff.mpr ⟨schema', second, rfl⟩, same,
        mem_importBlock_iff_prose schema resource.name options, ?_⟩
      rw [← name]
      exact importBlock_eq_iff same

/-- A resource with an object whose external type is of a package that no other code uses. -/
def wrappingResource (description : String) : Spec.Resource where
  name := "thing"
  schema := {
    attributes := [{
      name := "wrapped"
      singleNested := some {
        facets := {
          requirement := some .optional
          customType := some { package := none, type := "WrappedType", valueType := "WrappedValue" }
          description := some description }
        attributes := []
        externalType := some {
          package := some { path := "example.com/apisdk" }
          type := "*apisdk.Thing" }
        default := none } }] }

def wrappingSchema (description : String) : ResourceSchema where
  attributes := [("wrapped", .singleNested {
    requirement := some .optional
    customType := some { package := none, type := "WrappedType", valueType := "WrappedValue" }
    description := some description } []
    (some { package := some { path := "example.com/apisdk" }, type := "*apisdk.Thing" }) none)]
  blocks := []
  description := none
  markdownDescription := none
  deprecationMessage := none

private theorem build_wrapping (description : String) :
    ResourceSchema.build (wrappingResource description).schema = .ok (wrappingSchema description) :=
  rfl

/-- With only the schema function in the file, nothing but prose can mention the package. -/
private theorem apisdk_unused :
    ({ path := "example.com/apisdk" } : Import) ∉
      importBlock (wrappingSchema "") "thing" { model := false, conversions := false } := by
  have name : Text.pascalCase "thing" = "Thing" := by decide
  have quoted : goLiteral "" = "\"\"" := by decide
  have unused : ({ path := "example.com/apisdk" } : Import).isReferenced
      ((wrappingSchema "").function "thing") = false := by
    simp only [Import.isReferenced, ResourceSchema.function, ResourceSchema.entries, wrappingSchema,
      Schema.Attributes.entry, Schema.Blocks.entry, Schema.Attribute.declarations,
      Schema.Block.declarations, Schema.Attribute.declaration, Schema.declaration,
      Schema.Facets.entries, Schema.customTypeEntry, Schema.requirementEntries,
      Schema.sensitiveEntry, Schema.descriptionEntries, Schema.textEntry, Schema.optionalEntry,
      Option.map, Schema.planModifiersEntry, Schema.validatorsEntry, Schema.snippetsEntry,
      Schema.childrenEntry, Schema.defaultEntry, Schema.schemaLiteral, Schema.entry,
      Source.composite, Schema.flag, name, quoted, List.isEmpty, List.map, String.join_cons,
      String.join_nil, String.toList_append, if_true, Bool.false_eq_true, if_false,
      Schema.ObjectFacets.schemaType, Schema.ObjectFacets.single, Source.inQuotes]
    decide +kernel
  intro listed
  obtain ⟨-, part, isPart, used⟩ := mem_importBlock.mp listed
  obtain rfl : part = (wrappingSchema "").function "thing" := List.mem_singleton.mp isPart
  exact absurd used (Bool.eq_false_iff.mp unused)

/-- Prose that spells the name of the package with a point keeps its import in the file. -/
private theorem apisdk_kept :
    ({ path := "example.com/apisdk" } : Import) ∈
      importBlock (wrappingSchema "Wraps apisdk.Thing.") "thing"
        { model := false, conversions := false } := by
  refine (mem_importBlock_iff_prose ..).mpr (.inr ⟨by decide, "Wraps apisdk.Thing.", ?_, by decide⟩)
  exact List.mem_cons_self ..

/-- The block of a resource whose description mentions a package that the code does not use, in terms
of the block without the description. -/
theorem importBlock_wrapping :
    ∃ schema second,
      generateResource (wrappingResource "Wraps apisdk.Thing.") {} = .ok {
        path := "thing_resource_gen.go"
        content := fileText "provider" (importBlock schema "thing" {}) (sections schema "thing" {}) } ∧
      generateResource (wrappingResource "") {} = .ok {
        path := "thing_resource_gen.go"
        content := fileText "provider" (importBlock second "thing" {}) (sections second "thing" {}) } ∧
      ∀ i, i ∈ importBlock schema "thing" {} ↔ i ∈ importBlock schema.withoutProse "thing" {} ∨
        i ∈ schema.imports.entries ∧ MentionedInProse schema i := by
  obtain ⟨fault, failed, -⟩ | ⟨schema, second, first, other, -, members, -⟩ := generateResource_prose
    (show (wrappingResource "Wraps apisdk.Thing.").withoutProse =
      (wrappingResource "").withoutProse from rfl) {}
  · cases failed
  · exact ⟨schema, second, first, other, members⟩

/-- Two resources that differ in a description can have different import blocks. -/
theorem importBlock_depends_on_prose :
    ¬ ∀ (first second : Spec.Resource) (options : GenerateOptions) (file other : GeneratedFile),
      first.withoutProse = second.withoutProse →
      generateResource first options = .ok file → generateResource second options = .ok other →
      ∃ schema schema', ResourceSchema.build first.schema = .ok schema ∧
        ResourceSchema.build second.schema = .ok schema' ∧
        importBlock schema first.name options = importBlock schema' second.name options := by
  intro always
  obtain ⟨schema, schema', first, second, same⟩ := always (wrappingResource "Wraps apisdk.Thing.")
    (wrappingResource "") { model := false, conversions := false } _ _ rfl rfl rfl
  obtain rfl : wrappingSchema _ = schema := Except.ok.inj ((build_wrapping _).symm.trans first)
  obtain rfl : wrappingSchema _ = schema' := Except.ok.inj ((build_wrapping _).symm.trans second)
  exact apisdk_unused (same ▸ apisdk_kept)

end ProviderCodegen
