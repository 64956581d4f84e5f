import ProviderCodegen.Spec.Basic

/-! # Checks on a specification

A specification is accepted when its version is known and no resource gives a name to two of its
attributes or to two of its blocks. An attribute and a block may share a name.
-/

namespace ProviderCodegen

open Spec (ChildKind)

/-- Why a specification is not accepted. -/
inductive SpecError
  /-- The text is no JSON text of a specification. -/
  | json
  /-- The text is no YAML text of a specification. -/
  | yaml
  | unsupportedVersion (version : String)
  | duplicateName (resource : String) (kind : ChildKind) (name : String)
deriving Repr, DecidableEq

/-- The message of an error. For texts that cannot be read it stops before the details. -/
def SpecError.message : SpecError → String
  | json => "failed to parse JSON"
  | yaml => "failed to parse YAML"
  | unsupportedVersion version => "unsupported specification version: " ++ version
  | duplicateName resource kind name =>
      "duplicate " ++ kind.word ++ " name in resource " ++ resource ++ ": " ++ name

/-- The first name that occurred before, given those that did. -/
def firstRepeated? (seen : List String) : List String → Option String
  | [] => none
  | name :: rest =>
      if seen.contains name then some name else firstRepeated? (name :: seen) rest

/-- Check the names of one kind within a resource. -/
def checkNames (resource : String) (kind : ChildKind) (names : List String) :
    Except SpecError Unit :=
  match firstRepeated? [] names with
  | some name => .error (.duplicateName resource kind name)
  | none => .ok ()

/-- Check the names of attributes, then those of blocks. -/
def Spec.Resource.check (resource : Spec.Resource) : Except SpecError Unit := do
  checkNames resource.name .attr (resource.schema.attributes.map (·.name))
  checkNames resource.name .block (resource.schema.blocks.map (·.name))

def isSupportedVersion (version : String) : Bool :=
  ['0', '.'].isPrefixOf version.toList

/-- Check the version, then the resources in their order. -/
def Specification.check (spec : Specification) : Except SpecError Unit := do
  if isSupportedVersion spec.version then spec.resources.forM (·.check)
  else .error (.unsupportedVersion spec.version)

end ProviderCodegen
