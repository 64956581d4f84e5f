import ProviderCodegen.Source.Naming
import ProviderCodegen.Schema.Facets

/-! # Declarations of a schema

A declaration is a composite literal of the framework. Each of its entries starts on a new line and
ends with a comma. Facets are written in a fixed order, before the default and the entries that only
some kinds have.
-/

namespace ProviderCodegen.Schema

open Source (composite openBrace closeBrace inQuotes)
open Spec (Requirement Snippet)

def entry (field value : String) : String :=
  "\n" ++ field ++ ": " ++ value ++ ","

/-- An entry for a value that may be missing. -/
def optionalEntry (field : String) : Option String → String
  | some value => entry field value
  | none => ""

def textEntry (field : String) (text : Option String) : String :=
  optionalEntry field (text.map Text.goLiteral)

def flag (field : String) : String :=
  entry field "true"

def requirementEntries : Option Requirement → String
  | some .computed => flag "Computed"
  | some .computedOptional => flag "Computed" ++ flag "Optional"
  | some .optional => flag "Optional"
  | some .required => flag "Required"
  | none => ""

/-- Only what is sensitive is marked. -/
def sensitiveEntry : Option Bool → String
  | some true => flag "Sensitive"
  | _ => ""

/-- A description serves as plain text and as Markdown. -/
def descriptionEntries (description : Option String) : String :=
  textEntry "Description" description ++ textEntry "MarkdownDescription" description

/-- A list of pieces of code in the given order, nothing without pieces. -/
def snippetsEntry (field type : String) (snippets : List Snippet) : String :=
  if snippets.isEmpty then ""
  else entry field (composite type (snippets.map (·.code ++ ",")))

def planModifiersEntry (type : String) : List Snippet → String :=
  snippetsEntry "PlanModifiers" ("[]planmodifier." ++ type)

/-- Validators of values of the given type. -/
def validatorsEntry (type : String) : List Snippet → String :=
  snippetsEntry "Validators" ("[]validator." ++ type)

def customTypeEntry : Option String → String :=
  optionalEntry "CustomType"

def defaultEntry (default : Option Default) : String :=
  optionalEntry "Default" (default.map Default.expression)

/-- The entries of facets, given the custom type and the type that hooks are for. -/
def Facets.entries (facets : Facets) (customType : Option String) (hookType : String) : String :=
  customTypeEntry customType ++
  requirementEntries facets.requirement ++
  sensitiveEntry facets.sensitive ++
  descriptionEntries facets.description ++
  textEntry "DeprecationMessage" facets.deprecationMessage ++
  planModifiersEntry hookType facets.planModifiers ++
  validatorsEntry hookType facets.validators

/-- A map from names to declarations, nothing without declarations. -/
def childrenEntry (field type : String) (declarations : List String) : String :=
  if declarations.isEmpty then ""
  else entry field (composite ("map[string]schema." ++ type) declarations)

/-- A literal of a type of the schema package around its entries. -/
def schemaLiteral (type entries : String) : String :=
  "schema." ++ type ++ openBrace ++ entries ++ "\n" ++ closeBrace

/-- The declaration of a named attribute or block. -/
def declaration (name type entries : String) : String :=
  inQuotes name ++ ": " ++ schemaLiteral type entries ++ ","

end ProviderCodegen.Schema
