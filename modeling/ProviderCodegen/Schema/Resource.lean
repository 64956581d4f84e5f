import ProviderCodegen.Conversion.Node
import ProviderCodegen.Schema.Imports
import ProviderCodegen.Schema.Text
import ProviderCodegen.Schema.ValueType

/-! # Resource schemas

The attributes and blocks of a resource, and the parts of the source file that are made from them:
the schema function, the model, the generated types and the conversion methods.
-/

namespace ProviderCodegen.Schema

open Conversion (ConversionMethods)
open Source (ImportSet block closeBrace openBrace renderLines)

/-- The schema of a resource. -/
structure ResourceSchema where
  attributes : Attributes
  blocks : Blocks
  description : Option String
  markdownDescription : Option String
  deprecationMessage : Option String

namespace ResourceSchema

/-- The schema of a specification, or the first fault in it, attributes before blocks. -/
def build (spec : Spec.Schema) : Except BuildError ResourceSchema := do
  return {
    attributes := ← Attributes.build spec.attributes
    blocks := ← Blocks.build spec.blocks
    description := spec.description
    markdownDescription := spec.markdownDescription
    deprecationMessage := spec.deprecationMessage }

/-- The imports of all nodes, then those of the schema function. -/
def imports (schema : ResourceSchema) : ImportSet :=
  Attributes.imports schema.attributes ∪ Blocks.imports schema.blocks ∪
    .ofPaths [Source.Framework.context, Source.Framework.resourceSchema]

def entries (schema : ResourceSchema) : String :=
  Attributes.entry schema.attributes ++ Blocks.entry schema.blocks ++
    textEntry "Description" schema.description ++
    textEntry "MarkdownDescription" schema.markdownDescription ++
    textEntry "DeprecationMessage" schema.deprecationMessage

/-- The function that returns the schema of the named resource. -/
def function (schema : ResourceSchema) (name : String) : String :=
  "func " ++ Text.pascalCase name ++ "ResourceSchema(ctx context.Context) schema.Schema " ++
    openBrace ++ "\nreturn " ++ schemaLiteral "Schema" schema.entries ++ "\n" ++ closeBrace

/-- The fields of the model, attributes first. -/
def modelFields (schema : ResourceSchema) : List ModelField :=
  Attributes.modelFields schema.attributes ++ Blocks.modelFields schema.blocks

/-- The struct that holds the data of the named resource. -/
def model (schema : ResourceSchema) (name : String) : String :=
  renderLines <| block ("type " ++ Text.pascalCase name ++ "Model struct")
    (schema.modelFields.map fun field => field.declaration)

/-- The generated types, those of attributes first. -/
def valueTypes (schema : ResourceSchema) : List ValueType :=
  Attributes.valueTypes schema.attributes ++ Blocks.valueTypes schema.blocks

/-- The conversion methods, those of attributes first, or what stops them from being generated. -/
def collectMethods (schema : ResourceSchema) : Except Unsupported (List ConversionMethods) :=
  return (← Attributes.methods schema.attributes) ++ (← Blocks.methods schema.blocks)

/-- Places that cannot be converted have no methods, and they are no fault. -/
theorem isSome_collectMethods (schema : ResourceSchema) :
    schema.collectMethods.toOption.isSome = true := by
  rw [collectMethods, Attributes.methods, Blocks.methods, Attribute.methodsAll_eq,
    Block.methodsAll_eq]
  rfl

/-- The conversion methods, those of attributes first: nothing stops them. -/
def methods (schema : ResourceSchema) : List ConversionMethods :=
  schema.collectMethods.toOption.get schema.isSome_collectMethods

theorem collectMethods_eq_ok (schema : ResourceSchema) :
    schema.collectMethods = .ok schema.methods := by
  have given : some schema.methods = schema.collectMethods.toOption := Option.some_get _
  cases collected : schema.collectMethods with
  | error unsupported => rw [collected] at given; cases given
  | ok methods => rw [collected] at given; exact congrArg Except.ok (Option.some.inj given).symm

end ResourceSchema

end ProviderCodegen.Schema
