import ProviderCodegen.Schema.Kind
import ProviderCodegen.Spec.Basic
import ProviderCodegen.Text.Quoted

/-! # Faults in a schema

A schema is built from its specification only when every attribute, block and element type sets a
kind and no name is given twice. `BuildError` is the first fault found. `Unsupported` is no fault of
a schema: it names a conversion for which no code is generated.
-/

namespace ProviderCodegen.Schema

open Spec (ChildKind)

/-- Why a schema cannot be built. -/
inductive BuildError
  /-- The kind of attribute asked for is not set. -/
  | nilAttribute (kind : AttributeKind)
  /-- The kind of block asked for is not set. -/
  | nilBlock (kind : BlockKind)
  /-- An attribute without a kind. -/
  | undefinedAttribute (name : String)
  /-- A block without a kind. -/
  | undefinedBlock (name : String)
  /-- An element type without a kind. -/
  | undefinedElement
  /-- A field of an object without a kind. -/
  | undefinedField (name : String)
  /-- A second attribute or block of the same name beside the first. -/
  | duplicateName (kind : ChildKind) (name : String)
deriving Repr, DecidableEq

def spellRecord (type : String) (fields : List (String × String)) : String :=
  let entries := fields.map fun (name, value) => name ++ ": " ++ value
  type ++ " \x7b " ++ ", ".intercalate entries ++ " \x7d"

def unset (names : List String) : List (String × String) :=
  names.map fun name => (name, "None")

/-- A named record that sets none of its kinds. -/
def spellUnset (type name : String) (kinds : List String) : String :=
  spellRecord type (("name", Text.spelledOut name) :: unset kinds)

/-- An element type that sets none of its kinds. -/
def spellUnsetElement : String :=
  spellRecord "ElementType" (unset Spec.ElementType.kindNames)

def BuildError.message : BuildError → String
  | nilAttribute kind => kind.name ++ " spec is nil"
  | nilBlock kind => kind.name ++ " spec is nil"
  | undefinedAttribute name =>
      "attribute type not defined: " ++ spellUnset "Attribute" name Spec.Attribute.kindNames
  | undefinedBlock name =>
      "block type not defined: " ++ spellUnset "Block" name Spec.Block.kindNames
  | undefinedElement => "element type not defined: " ++ spellUnsetElement
  | undefinedField name =>
      "object attribute type not defined: " ++
        spellRecord "ObjectAttributeType"
          [("name", Text.spelledOut name), ("kind", spellUnsetElement)]
  | duplicateName kind name => "duplicate " ++ kind.word ++ " name: " ++ name

/-- A conversion for which no code is generated. -/
structure Unsupported where
  subject : String
deriving Repr, DecidableEq

def Unsupported.message (u : Unsupported) : String :=
  "not implemented: " ++ u.subject

end ProviderCodegen.Schema
