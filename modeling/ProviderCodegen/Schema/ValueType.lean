import ProviderCodegen.Source.Naming
import ProviderCodegen.Schema.Types

/-! # Generated types

An object without a custom type gets a Go type and a value type of its own. `ValueType` is such a
pair, and `ValueType.render` writes its declarations: the type, the constructors of values, and the
value type with the methods that the framework asks for.
-/

namespace ProviderCodegen.Schema

open Source (Line block closeBrace emptyComposite enclosed function inQuotes line openBrace
  paragraphs renderLines spaced)

/-- A field of a generated value type. -/
structure ValueField where
  name : String
  attrType : String
  valueType : String
deriving Repr, DecidableEq

/-- A generated type and its value type. -/
structure ValueType where
  name : String
  fields : List ValueField
deriving Repr, DecidableEq

namespace ValueField

def goName (field : ValueField) : String :=
  Text.pascalCase field.name

def valueVariable (field : ValueField) : String :=
  Text.camelCase field.name ++ "Val"

/-- The variable that holds what is to become the value. -/
def sourceVariable (field : ValueField) : String :=
  Text.camelCase field.name ++ "Attribute"

/-- Look for the field among the attributes of an object. -/
def lookup (field : ValueField) : String :=
  "attributes[" ++ inQuotes field.name ++ "]"

/-- The error for a source of another type than the field's. -/
def wrongType (field : ValueField) (source : String) : List Line :=
  Source.when "!ok"
    ["diags.AddError(",
     .code 1 "\"Attribute Wrong Type\",",
     .code 1 ("fmt.Sprintf(`" ++ field.name ++ " expected to be " ++ field.valueType ++
       ", was: %T`, " ++ source ++ "))")]

/-- Take the value of the field from an object, which must have it. -/
def takeFromObject (field : ValueField) : List Line :=
  paragraphs [
    [field.sourceVariable ++ ", ok := " ++ field.lookup],
    Source.when "!ok" <| paragraphs [
      ["diags.AddError(",
       .code 1 "\"Attribute Missing\",",
       .code 1 ("`" ++ field.name ++ " is missing from object`)")],
      ["return nil, diags"]],
    [field.valueVariable ++ ", ok := " ++ field.sourceVariable ++ ".(" ++ field.valueType ++ ")"],
    field.wrongType field.sourceVariable]

def takeFromMap (field : ValueField) : List Line :=
  paragraphs [
    [field.valueVariable ++ ", ok := " ++ field.lookup ++ ".(" ++ field.valueType ++ ")"],
    field.wrongType field.lookup]

/-- Set the field to the value that its variable holds. -/
def assignment (field : ValueField) : Line :=
  field.goName ++ ": " ++ field.valueVariable ++ ","

/-- The field in the declaration of the value type. -/
def declaration (field : ValueField) : Line :=
  field.goName ++ " " ++ field.valueType ++ " " ++ fieldTag field.name

def wireType (field : ValueField) : List Line :=
  ["attrTypes[" ++ inQuotes field.name ++ "] = " ++ field.attrType ++ ".TerraformType(ctx)"]

def wireValue (field : ValueField) : List Line :=
  paragraphs [
    ["val, err = v." ++ field.goName ++ ".ToTerraformValue(ctx)"],
    Source.when "err != nil"
      ["return tftypes.NewValue(objectType, tftypes.UnknownValue), err"],
    ["vals[" ++ inQuotes field.name ++ "] = val"]]

def objectEntry (field : ValueField) : Line :=
  inQuotes field.name ++ ": v." ++ field.goName ++ ","

def typeEntry (field : ValueField) : Line :=
  inQuotes field.name ++ ": " ++ field.attrType ++ ","

/-- Two values differ if they differ in the field. -/
def comparison (field : ValueField) : List Line :=
  Source.when ("!v." ++ field.goName ++ ".Equal(other." ++ field.goName ++ ")") ["return false"]

end ValueField

namespace ValueType

def typeName (type : ValueType) : String :=
  Source.typeName type.name

def valueName (type : ValueType) : String :=
  Source.valueName type.name

def typeDeclaration (type : ValueType) : List Line :=
  paragraphs [
    ["var _ basetypes.ObjectTypable = " ++ emptyComposite type.typeName],
    block ("type " ++ type.typeName ++ " struct") ["basetypes.ObjectType"]]

def typeMethod (type : ValueType) (signature : String) (body : List Line) : List Line :=
  function ("(t " ++ type.typeName ++ ") " ++ signature) body

def valueMethod (type : ValueType) (signature : String) (body : List Line) : List Line :=
  function ("(v " ++ type.valueName ++ ") " ++ signature) body

def typeEqual (type : ValueType) : List Line :=
  type.typeMethod "Equal(o attr.Type) bool" <| paragraphs [
    ["other, ok := o.(" ++ type.typeName ++ ")"],
    Source.when "!ok" ["return false"],
    ["return t.ObjectType.Equal(other.ObjectType)"]]

def typeString (type : ValueType) : List Line :=
  type.typeMethod "String() string" ["return " ++ inQuotes type.typeName]

/-- A known value with every field set from its variable. -/
def returnKnown (type : ValueType) : List Line :=
  enclosed ("return " ++ type.valueName ++ openBrace) (closeBrace ++ ", diags")
    (type.fields.map ValueField.assignment ++ [line "state: attr.ValueStateKnown,"])

def valueFromObject (type : ValueType) : List Line :=
  type.typeMethod ("ValueFromObject(ctx context.Context, in basetypes.ObjectValue) " ++
      "(basetypes.ObjectValuable, diag.Diagnostics)") <|
    paragraphs <|
      [[line "var diags diag.Diagnostics"]] ++
      (if type.fields.isEmpty then [] else [[line "attributes := in.Attributes()"]]) ++
      type.fields.map ValueField.takeFromObject ++
      [Source.when "diags.HasError()" ["return nil, diags"], type.returnKnown]

/-- Call the constructor of a null, unknown or known value. -/
def constructor (type : ValueType) (suffix : String) : String :=
  "New" ++ type.valueName ++ suffix

def valueFromTerraform (type : ValueType) : List Line :=
  type.typeMethod "ValueFromTerraform(ctx context.Context, in tftypes.Value) (attr.Value, error)" <|
    paragraphs [
      Source.when "in.Type() == nil" ["return " ++ type.constructor "Null" ++ "(), nil"],
      Source.when "!in.Type().Equal(t.TerraformType(ctx))"
        ["return nil, fmt.Errorf(\"expected %s, got %s\", t.TerraformType(ctx), in.Type())"],
      Source.when "!in.IsKnown()" ["return " ++ type.constructor "Unknown" ++ "(), nil"],
      Source.when "in.IsNull()" ["return " ++ type.constructor "Null" ++ "(), nil"],
      ["attributes := " ++ emptyComposite "map[string]attr.Value"],
      ["val := " ++ emptyComposite "map[string]tftypes.Value"],
      ["err := in.As(&val)"],
      Source.when "err != nil" ["return nil, err"],
      block "for k, v := range val" <| paragraphs [
        ["a, err := t.AttrTypes[k].ValueFromTerraform(ctx, v)"],
        Source.when "err != nil" ["return nil, err"],
        ["attributes[k] = a"]],
      ["return " ++ type.constructor "Must" ++ "(" ++ emptyComposite type.valueName ++
        ".AttributeTypes(ctx), attributes), nil"]]

def zeroValue (type : ValueType) : List Line :=
  type.typeMethod "ValueType(ctx context.Context) attr.Value"
    ["return " ++ emptyComposite type.valueName]

/-- The constructor of a value in a state that has no fields. -/
def stateConstructor (type : ValueType) (state : String) : List Line :=
  function (type.constructor state ++ "() " ++ type.valueName) <|
    enclosed ("return " ++ type.valueName ++ openBrace) closeBrace
      ["state: attr.ValueState" ++ state ++ ","]

/-- Report a fault of an attribute by a summary and a detail in several parts. -/
def reportFault (type : ValueType) (word summary fault : String) (details : List String) :
    List Line :=
  enclosed "diags.AddError(" ")" <|
    [line (inQuotes (word ++ " " ++ type.valueName ++ " Attribute " ++ summary) ++ ","),
     line (inQuotes ("While creating a " ++ type.valueName ++ " value, " ++ fault ++
       " attribute value was detected. ") ++ "+")] ++
    details.map (.code 1 ·)

/-- The detail that names an attribute and its expected type. -/
def expectedDetail (type : ValueType) (ending : String) : String :=
  "fmt.Sprintf(" ++
    inQuotes (type.valueName ++ " Attribute Name (%s) Expected Type: %s" ++ ending) ++
    ", name, attributeType.String())"

/-- Compare the attributes given with the types expected. -/
def checkExpected (type : ValueType) : List Line :=
  block "for name, attributeType := range attributeTypes" <| paragraphs [
    ["attribute, ok := attributes[name]"],
    Source.when "!ok" <| paragraphs [
      type.reportFault "Missing" "Value" "a missing" [type.expectedDetail "" ++ ","],
      ["continue"]],
    Source.when "!attributeType.Equal(attribute.Type(ctx))" <|
      type.reportFault "Invalid" "Type" "an invalid"
        [type.expectedDetail "\\n" ++ "+",
         "fmt.Sprintf(" ++ inQuotes (type.valueName ++ " Attribute Name (%s) Given Type: %s") ++
           ", name, attribute.Type(ctx)),"]]

/-- Refuse attributes that are not expected. -/
def checkExtra (type : ValueType) : List Line :=
  block "for name := range attributes" <| paragraphs [
    ["_, ok := attributeTypes[name]"],
    Source.when "!ok" <|
      type.reportFault "Extra" "Value" "an extra"
        ["fmt.Sprintf(" ++ inQuotes ("Extra " ++ type.valueName ++ " Attribute Name: %s") ++
          ", name),"]]

def constructorParameters : String :=
  "(attributeTypes map[string]attr.Type, attributes map[string]attr.Value) "

def knownConstructor (type : ValueType) : List Line :=
  let giveUp :=
    Source.when "diags.HasError()" ["return " ++ type.constructor "Unknown" ++ "(), diags"]
  function (type.constructor "" ++ constructorParameters ++ "(" ++ type.valueName ++
      ", diag.Diagnostics)") <|
    paragraphs <|
      [[line "var diags diag.Diagnostics"], [line "ctx := context.Background()"],
       type.checkExpected, type.checkExtra, giveUp] ++
      type.fields.map ValueField.takeFromMap ++
      [giveUp, type.returnKnown]

/-- The constructor of a known value that accepts no errors. -/
def mustConstructor (type : ValueType) : List Line :=
  function (type.constructor "Must" ++ constructorParameters ++ type.valueName) <| paragraphs [
    ["object, diags := " ++ type.constructor "" ++ "(attributeTypes, attributes)"],
    Source.when "diags.HasError()"
      ["panic(fmt.Sprintf(" ++ inQuotes (type.constructor "Must" ++ " received error(s): %v") ++
        ", diags))"],
    ["return object"]]

def valueDeclaration (type : ValueType) : List Line :=
  paragraphs [
    ["var _ basetypes.ObjectValuable = " ++ emptyComposite type.valueName],
    block ("type " ++ type.valueName ++ " struct")
      (type.fields.map ValueField.declaration ++ [line "state attr.ValueState"])]

/-- A map for an entry of every field. -/
def fieldMap (type : ValueType) (variableName elementType : String) : Line :=
  variableName ++ " := make(map[string]" ++ elementType ++ ", " ++
    Text.decimal type.fields.length ++ ")"

def toTerraformValue (type : ValueType) : List Line :=
  let known := paragraphs <|
    [[type.fieldMap "vals" "tftypes.Value"]] ++
    type.fields.map ValueField.wireValue ++
    [Source.when "err := tftypes.ValidateValue(objectType, vals); err != nil"
      ["return tftypes.NewValue(objectType, tftypes.UnknownValue), err"],
     [line "return tftypes.NewValue(objectType, vals), nil"]]
  let cases : List Line :=
    [line ("switch v.state " ++ openBrace),
     line "case attr.ValueStateKnown:"] ++ known.map Line.indent ++
    [line "case attr.ValueStateNull:",
     .code 1 "return tftypes.NewValue(objectType, nil), nil",
     line "case attr.ValueStateUnknown:",
     .code 1 "return tftypes.NewValue(objectType, tftypes.UnknownValue), nil",
     line "default:",
     .code 1 "panic(fmt.Sprintf(\"unhandled Object state in ToTerraformValue: %s\", v.state))",
     line closeBrace]
  type.valueMethod "ToTerraformValue(ctx context.Context) (tftypes.Value, error)" <| paragraphs <|
    [[type.fieldMap "attrTypes" "tftypes.Type"]] ++
    (if type.fields.isEmpty then [] else [[line "var val tftypes.Value", line "var err error"]]) ++
    type.fields.map ValueField.wireType ++
    [[line ("objectType := tftypes.Object" ++ openBrace ++ "AttributeTypes: attrTypes" ++
        closeBrace)],
     cases]

def stateTest (type : ValueType) (state : String) : List Line :=
  type.valueMethod ("Is" ++ state ++ "() bool") ["return v.state == attr.ValueState" ++ state]

def valueString (type : ValueType) : List Line :=
  type.valueMethod "String() string" ["return " ++ inQuotes type.valueName]

def toObjectValue (type : ValueType) : List Line :=
  type.valueMethod
      "ToObjectValue(ctx context.Context) (basetypes.ObjectValue, diag.Diagnostics)" <|
    paragraphs [
      ["attributeTypes := v.AttributeTypes(ctx)"],
      Source.when "v.IsNull()" ["return types.ObjectNull(attributeTypes), nil"],
      Source.when "v.IsUnknown()" ["return types.ObjectUnknown(attributeTypes), nil"],
      enclosed ("return types.ObjectValue(attributeTypes, map[string]attr.Value" ++ openBrace)
        (closeBrace ++ ")") (type.fields.map ValueField.objectEntry)]

def valueEqual (type : ValueType) : List Line :=
  type.valueMethod "Equal(o attr.Value) bool" <| paragraphs <|
    [[line ("other, ok := o.(" ++ type.valueName ++ ")")],
     Source.when "!ok" ["return false"],
     Source.when "v.state != other.state" ["return false"],
     Source.when "v.state != attr.ValueStateKnown" ["return true"]] ++
    type.fields.map ValueField.comparison ++
    [[line "return true"]]

def valueTypeMethod (type : ValueType) : List Line :=
  type.valueMethod "Type(ctx context.Context) attr.Type" <|
    enclosed ("return " ++ type.typeName ++ openBrace) closeBrace <|
      enclosed ("basetypes.ObjectType" ++ openBrace) (closeBrace ++ ",")
        ["AttrTypes: v.AttributeTypes(ctx),"]

def attributeTypes (type : ValueType) : List Line :=
  type.valueMethod "AttributeTypes(ctx context.Context) map[string]attr.Type" <|
    enclosed ("return map[string]attr.Type" ++ openBrace) closeBrace
      (type.fields.map ValueField.typeEntry)

def lines (type : ValueType) : List Line :=
  paragraphs [
    type.typeDeclaration, type.typeEqual, type.typeString, type.valueFromObject,
    type.valueFromTerraform, type.zeroValue, type.stateConstructor "Null",
    type.stateConstructor "Unknown", type.knownConstructor, type.mustConstructor,
    type.valueDeclaration, type.toTerraformValue, type.stateTest "Null", type.stateTest "Unknown",
    type.valueString, type.toObjectValue, type.valueEqual, type.valueTypeMethod,
    type.attributeTypes]

/-- The source text of both types. -/
def render (type : ValueType) : String :=
  renderLines type.lines

end ValueType

/-! ## The generated types of a schema -/

/-- The generated type of an object, unless it has a custom one. -/
def ObjectFacets.generated (object : ObjectFacets) (name : String) (fields : List ValueField) :
    List ValueType :=
  if object.customType.isSome then [] else [{ name, fields }]

def Attribute.valueField (name : String) (node : Attribute) : ValueField where
  name
  attrType := node.attrType name
  valueType := node.valueType name

def Block.valueField (name : String) (node : Block) : ValueField where
  name
  attrType := node.attrType name
  valueType := node.valueType name

def Attributes.valueFields (attributes : Attributes) : List ValueField :=
  attributes.map fun (name, node) => node.valueField name

def Blocks.valueFields (blocks : Blocks) : List ValueField :=
  blocks.map fun (name, node) => node.valueField name

/-- Typed fields as those of a value type, by name. -/
def Fields.valueFields (fields : Fields) : List ValueField :=
  (NameMap.sorted fields).map fun (name, type) =>
    { name, attrType := type.expression, valueType := type.valueType }

namespace Attribute

mutual

/-- The types generated for an attribute and the attributes inside. -/
def valueTypes (name : String) : Attribute → List ValueType
  | primitive _ _ _ => []
  | collection _ _ _ _ => []
  | nested _ _ item attributes _ =>
      item.generated name (Attributes.valueFields attributes) ++ valueTypesAll attributes
  | singleNested facets attributes external _ =>
      (ObjectFacets.single facets external).generated name (Attributes.valueFields attributes) ++
        valueTypesAll attributes
  | object facets fields external _ =>
      if external.isSome then
        (ObjectFacets.single facets external).generated name (Fields.valueFields fields)
      else []

/-- The types generated for attributes, in their order. -/
def valueTypesAll : List (String × Attribute) → List ValueType
  | [] => []
  | (name, first) :: rest => first.valueTypes name ++ valueTypesAll rest

end

end Attribute

def Attributes.valueTypes (attributes : Attributes) : List ValueType :=
  Attribute.valueTypesAll attributes

namespace Block

mutual

/-- The types generated for a block and what is inside. -/
def valueTypes (name : String) : Block → List ValueType
  | nested _ _ item attributes blocks =>
      item.generated name (Attributes.valueFields attributes ++ Blocks.valueFields blocks) ++
        Attributes.valueTypes attributes ++ valueTypesAll blocks
  | singleNested facets attributes blocks external =>
      (ObjectFacets.single facets external).generated name
          (Attributes.valueFields attributes ++ Blocks.valueFields blocks) ++
        Attributes.valueTypes attributes ++ valueTypesAll blocks

/-- The types generated for blocks, in their order. -/
def valueTypesAll : List (String × Block) → List ValueType
  | [] => []
  | (name, first) :: rest => first.valueTypes name ++ valueTypesAll rest

end

end Block

def Blocks.valueTypes (blocks : Blocks) : List ValueType :=
  Block.valueTypesAll blocks

end ProviderCodegen.Schema
