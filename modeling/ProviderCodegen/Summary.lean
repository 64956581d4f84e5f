import ProviderCodegen.Json.Printer
import ProviderCodegen.Schema.Resource
import ProviderCodegen.Spec.Parse
import ProviderCodegen.Yaml.Printer

/-! # Summaries of specifications

A summary names the resources of a specification and, for each, its attributes and blocks with their
kinds and Go types and the packages that its code may import.
-/

namespace ProviderCodegen

open Schema (BuildError ModelField ResourceSchema)

/-- What is told of an attribute or a block. -/
structure ChildSummary where
  name : String
  kind : String
  valueType : String
deriving Repr, DecidableEq

/-- A resource; `imports` are paths in ascending order. -/
structure ResourceSummary where
  name : String
  attributes : List ChildSummary
  blocks : List ChildSummary
  imports : List String
deriving Repr, DecidableEq

structure Summary where
  version : String
  resources : List ResourceSummary
deriving Repr, DecidableEq

/-- The first resource whose schema cannot be built. -/
structure InvalidResource where
  resource : String
  cause : BuildError
deriving Repr, DecidableEq

/-- The message of the error, which its cause follows. -/
def InvalidResource.message (invalid : InvalidResource) : String :=
  "invalid schema for resource " ++ invalid.resource

/-- The schema of a resource, or that it has none. -/
def buildResource (resource : Spec.Resource) : Except InvalidResource ResourceSchema :=
  (ResourceSchema.build resource.schema).mapError (⟨resource.name, ·⟩)

def ResourceSummary.ofSchema (name : String) (schema : ResourceSchema) : ResourceSummary where
  name
  attributes := schema.attributes.map fun (name, node) =>
    ⟨name, node.kind.name, (node.modelField name).valueType⟩
  blocks := schema.blocks.map fun (name, node) =>
    ⟨name, node.kind.name, (node.modelField name).valueType⟩
  imports := schema.imports.sorted.map (·.path)

/-- The summary of a resource, or that its schema cannot be built. -/
def ResourceSummary.ofResource (resource : Spec.Resource) : Except InvalidResource ResourceSummary :=
  return ofSchema resource.name (← buildResource resource)

/-- The summary of a specification, or the first resource whose schema cannot be built. -/
def Summary.ofSpecification (spec : Specification) : Except InvalidResource Summary := do
  let resources ← spec.resources.mapM ResourceSummary.ofResource
  return ⟨spec.version, resources⟩

/-- A child as a map with its keys in order. -/
def ChildSummary.toDatum (child : ChildSummary) : Datum :=
  .object [
    ("kind", .string child.kind),
    ("name", .string child.name),
    ("value_type", .string child.valueType)]

/-- A resource as a map with its keys in order. -/
def ResourceSummary.toDatum (resource : ResourceSummary) : Datum :=
  .object [
    ("attributes", .array (resource.attributes.map ChildSummary.toDatum)),
    ("blocks", .array (resource.blocks.map ChildSummary.toDatum)),
    ("imports", .array (resource.imports.map Datum.string)),
    ("name", .string resource.name)]

/-- A summary as a map with its keys in order. -/
def Summary.toDatum (summary : Summary) : Datum :=
  .object [
    ("resources", .array (summary.resources.map ResourceSummary.toDatum)),
    ("version", .string summary.version)]

/-- A summary in a notation, with the end of its last line. -/
def Summary.write (summary : Summary) : Format → String
  | .json => Json.pretty summary.toDatum ++ "\n"
  | .yaml => Yaml.write summary.toDatum

end ProviderCodegen
