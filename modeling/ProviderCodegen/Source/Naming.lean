import ProviderCodegen.Source.Line
import ProviderCodegen.Text.Words

/-! # Names of generated types

An object named in a specification gives rise to a type and a value type, both named after it.
`ExternalName` derives names for conversion methods from the Go type they convert to.
-/

namespace ProviderCodegen.Source

open Text (pascalCase camelCase)

/-- The type generated for an object. -/
def typeName (name : String) : String :=
  pascalCase name ++ "Type"

/-- The value type generated for an object. -/
def valueName (name : String) : String :=
  pascalCase name ++ "Value"

/-- The entry of an object type that takes the fields of a generated value type. -/
def generatedFields (name : String) : String :=
  "AttrTypes: " ++ emptyComposite (valueName name) ++ ".AttributeTypes(ctx),"

def generatedCustomType (name : String) : String :=
  composite (typeName name)
    ["ObjectType: " ++ composite "types.ObjectType" [generatedFields name] ++ ","]

/-- The generated type among the field types of the object around it. -/
def generatedAttrType (name : String) : String :=
  composite (typeName name) [composite "basetypes.ObjectType" [generatedFields name] ++ ","]

/-- Whether a type belongs to the generated package, so that methods can be added to it. -/
def isLocalType (type : String) : Bool :=
  !type.toList.contains '.'

/-- The names that go with an external type such as `*sdk.Thing`. -/
structure ExternalName where
  /-- The type itself, without the stars in front. -/
  reference : String
  isPointer : Bool
deriving Repr, DecidableEq

namespace ExternalName

def ofType (type : String) : ExternalName where
  reference := String.ofList (type.toList.dropWhile (· = '*'))
  isPointer := type.toList.head? = some '*'

/-- The type's name with its package as one word. -/
def joined (name : ExternalName) : String :=
  String.ofList (name.reference.toList.map fun c => if c = '.' then '_' else c)

/-- The suffix of the method names, such as `SdkThing`. -/
def pascal (name : ExternalName) : String :=
  pascalCase name.joined

/-- The variable that holds the value, such as `sdkThing`. -/
def variableName (name : ExternalName) : String :=
  camelCase name.joined

/-- The value that stands for no value. -/
def zero (name : ExternalName) : String :=
  if name.isPointer then "nil" else emptyComposite name.reference

end ExternalName

end ProviderCodegen.Source
