import ProviderCodegen.Decimal.Layout
import ProviderCodegen.Source.Framework
import ProviderCodegen.Source.Line
import ProviderCodegen.Spec.Basic
import ProviderCodegen.Text.Quoted

/-! # Facets and defaults

What attributes and blocks of all kinds have in common, with only those validators and plan
modifiers that have code, and the default that counts when a literal and code are given.
-/

namespace ProviderCodegen.Schema

open Source (ImportSet)
open Spec (CustomType CustomDefault ExternalType Hook LiteralDefault Requirement Snippet)

/-- The facets of an attribute or a block. Blocks have neither requirement nor sensitivity. -/
structure Facets where
  requirement : Option Requirement := none
  customType : Option CustomType := none
  deprecationMessage : Option String := none
  description : Option String := none
  sensitive : Option Bool := none
  planModifiers : List Snippet := []
  validators : List Snippet := []
deriving Repr, DecidableEq

/-- The validators or plan modifiers that have code. -/
def customHooks (hooks : List Hook) : List Snippet :=
  hooks.filterMap (·.custom)

namespace Facets

def ofAttribute (facets : Spec.AttributeFacets) : Facets where
  requirement := facets.requirement
  customType := facets.customType
  deprecationMessage := facets.deprecationMessage
  description := facets.description
  sensitive := facets.sensitive
  planModifiers := customHooks facets.planModifiers
  validators := customHooks facets.validators

def ofBlock (facets : Spec.BlockFacets) : Facets where
  customType := facets.customType
  deprecationMessage := facets.deprecationMessage
  description := facets.description
  planModifiers := customHooks facets.planModifiers
  validators := customHooks facets.validators

end Facets

/-- A custom type needs its own import and nothing else; without one the framework's types are
needed. -/
def customTypeImports : Option CustomType → ImportSet
  | some custom => .ofList custom.package.toList
  | none => .ofPaths [Source.Framework.types]

/-- What a generated type or the custom type in its place needs. -/
def generatedTypeImports : Option CustomType → ImportSet
  | some custom => .ofList custom.package.toList
  | none => Source.Framework.valueTypeImports

/-- What the conversion to an external type needs, the type's own import last. -/
def externalTypeImports : Option ExternalType → ImportSet
  | some external => Source.Framework.conversionImports ∪ .ofList external.package.toList
  | none => .empty

/-- Imports of pieces of code behind the package that they belong to, nothing without pieces. -/
def snippetImports (path : String) (snippets : List Snippet) : ImportSet :=
  if snippets.isEmpty then .empty
  else snippets.foldl (fun imports snippet => imports ∪ .ofList snippet.imports) (.ofPaths [path])

/-- Imports of plan modifiers, then those of validators. -/
def hookImports (planModifiers validators : List Snippet) : ImportSet :=
  snippetImports Source.Framework.planModifier planModifiers ∪
    snippetImports Source.Framework.validator validators

/-- Imports of the custom type, the plan modifiers and the validators. -/
def Facets.imports (facets : Facets) : ImportSet :=
  customTypeImports facets.customType ∪ hookImports facets.planModifiers facets.validators

/-- The default of an attribute. -/
inductive Default
  | bool (value : Bool)
  | float64 (value : Float)
  | int64 (value : Int64)
  | string (value : String)
  | custom (snippet : Snippet)
deriving BEq

namespace Default

/-- The default that counts: the literal, else the code. -/
def ofLiteral {α : Type} (literal : α → Default) : Option (LiteralDefault α) → Option Default
  | some ⟨some value, _⟩ => some (literal value)
  | some ⟨none, some snippet⟩ => some (custom snippet)
  | some ⟨none, none⟩ => none
  | none => none

/-- The default of a kind without literals. -/
def ofCustom (default : Option CustomDefault) : Option Default :=
  (default.bind (·.custom)).map custom

def expression : Default → String
  | bool value => "booldefault.StaticBool(" ++ (if value then "true" else "false") ++ ")"
  | float64 value =>
      "float64default.StaticFloat64(" ++ Decimal.Layout.goSource.write value ++ ")"
  | int64 value => "int64default.StaticInt64(" ++ Text.decimal value.toInt ++ ")"
  | string value => "stringdefault.StaticString(" ++ Text.goLiteral value ++ ")"
  | custom snippet => snippet.code

def imports : Default → ImportSet
  | bool _ => .ofPaths [Source.Framework.boolDefault]
  | float64 _ => .ofPaths [Source.Framework.float64Default]
  | int64 _ => .ofPaths [Source.Framework.int64Default]
  | string _ => .ofPaths [Source.Framework.stringDefault]
  | custom snippet => .ofList snippet.imports

end Default

def defaultImports : Option Default → ImportSet
  | some default => default.imports
  | none => .empty

end ProviderCodegen.Schema
