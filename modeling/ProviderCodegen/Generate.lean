import ProviderCodegen.Schema.Resource

/-! # Generated files

One Go file for each resource. The file imports what some part of it uses of all that the schema may
need, sorted by path.
-/

namespace ProviderCodegen

open Source (ImportSet Line enclosed line paragraphs renderLines)
open Schema (BuildError ResourceSchema)

/-- What a generated file contains. -/
structure GenerateOptions where
  /-- The package of the files. -/
  package : String := "provider"
  /-- Whether the model is written. -/
  model : Bool := true
  /-- Whether conversion methods are written. -/
  conversions : Bool := true
deriving Repr, DecidableEq

/-- A file under a path relative to the output directory. -/
structure GeneratedFile where
  path : String
  content : String
deriving Repr, DecidableEq

/-- The parts of a file, in their order: the schema, the model, the types and the conversions. -/
def sections (schema : ResourceSchema) (name : String) (options : GenerateOptions) : List String :=
  [schema.function name] ++
  (if options.model then [schema.model name] else []) ++
  schema.valueTypes.map Schema.ValueType.render ++
  (if options.conversions then schema.methods.map Conversion.ConversionMethods.render else [])

/-- The imports that the parts of a file use. -/
def usedImports (schema : ResourceSchema) (parts : List String) : ImportSet :=
  schema.imports.referencedIn ("\n".intercalate parts)

/-- A file of a package from its imports and its parts. -/
def sourceFile (package : String) (imports : ImportSet) (parts : List String) : String :=
  renderLines (paragraphs <|
    [[line "// Code generated by tfcg. DO NOT EDIT."],
     [line ("package " ++ package)],
     enclosed "import (" ")" (imports.lines.map line)] ++
    parts.map fun part => [line part]) ++ "\n"

def generateResource (resource : Spec.Resource) (options : GenerateOptions) :
    Except BuildError GeneratedFile := do
  let schema ← ResourceSchema.build resource.schema
  let parts := sections schema resource.name options
  return {
    path := resource.name ++ "_resource_gen.go"
    content := sourceFile options.package (usedImports schema parts) parts }

/-- The files of all resources, or the first fault in one of them. -/
def generate (spec : Specification) (options : GenerateOptions) :
    Except BuildError (List GeneratedFile) :=
  spec.resources.mapM (generateResource · options)

end ProviderCodegen
