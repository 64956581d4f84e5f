import ProviderCodegen.Conversion.Code

/-! # Conversion methods

A value type whose object has an external type gets two methods: one makes a value of the external
type, the other makes the value from it. `methodsText` writes both from the conversions of their
fields. `ConversionMethods` is such a pair with a plan for each field and direction.
-/

namespace ProviderCodegen.Conversion

open Source (ExternalName Line block closeBrace enclosed function inQuotes line openBrace paragraphs
  renderLines)
open Schema (Unsupported)
open Spec (ExternalType)

/-- The word for a field without a value. -/
def missingValue : String := "None"

/-- The field in the native form; one without a value is set later. -/
def FieldText.nativeEntry (field : FieldText) : List Line :=
  match field.value with
  | some value => if value.isEmpty then [] else [field.name ++ ": " ++ value ++ ","]
  | none => []

def FieldText.valueEntry (field : FieldText) : Line :=
  field.name ++ ": " ++ field.value.getD missingValue ++ ","

/-- Statements, each a paragraph. -/
def statements (texts : List String) : List (List Line) :=
  texts.map fun text => [line text]

/-- The method that makes a value of the external type. -/
def toNativeLines (receiver : String) (external : ExternalType) (fields : List FieldText) :
    List Line :=
  let names := ExternalName.ofType external.type
  let result := if names.isPointer then "&" ++ names.variableName else names.variableName
  let giveUp := line ("return " ++ names.zero ++ ", diags")
  function ("(v " ++ receiver ++ ") To" ++ names.pascal ++ "(ctx context.Context) (" ++
      external.type ++ ", diag.Diagnostics)") <|
    paragraphs <|
      [[line "var diags diag.Diagnostics"],
       Source.when "v.IsNull()" [giveUp],
       Source.when "v.IsUnknown()" <| paragraphs [
         enclosed "diags.Append(diag.NewErrorDiagnostic(" "))"
           [inQuotes (receiver ++ " Value Is Unknown") ++ ",",
            "`" ++ inQuotes receiver ++ " is unknown.`,"],
         [giveUp]]] ++
      statements (fields.flatMap (·.preamble)) ++
      [enclosed (names.variableName ++ " := " ++ names.reference ++ openBrace) closeBrace
        (fields.flatMap FieldText.nativeEntry)] ++
      statements (fields.flatMap (·.post)) ++
      [[line ("return " ++ result ++ ", diags")]]

/-- The method that makes the value from one of the external type. -/
def ofNativeLines (receiver : String) (external : ExternalType) (fields : List FieldText) :
    List Line :=
  let names := ExternalName.ofType external.type
  let ofNothing :=
    if names.isPointer then
      [Source.when "apiObject == nil" ["return New" ++ receiver ++ "Null(), diags"]]
    else []
  function ("(v " ++ receiver ++ ") From" ++ names.pascal ++
      "(ctx context.Context, apiObject " ++ external.type ++ ") (" ++ receiver ++
      ", diag.Diagnostics)") <|
    paragraphs <|
      [[line "var diags diag.Diagnostics"]] ++ ofNothing ++
      statements (fields.flatMap (·.preamble)) ++
      [Source.when "diags.HasError()" ["return New" ++ receiver ++ "Unknown(), diags"],
       enclosed ("return " ++ receiver ++ openBrace) (closeBrace ++ ", diags")
        (fields.map FieldText.valueEntry ++ [line "state: attr.ValueStateKnown,"])]

def methodsText (receiver : String) (external : ExternalType)
    (toNative ofNative : List FieldText) : String :=
  renderLines <| paragraphs
    [toNativeLines receiver external toNative, ofNativeLines receiver external ofNative]

/-- A field that converts, with its plans for both directions. -/
structure ConvertedField where
  name : String
  toNative : Plan
  ofNative : Plan
deriving Repr, DecidableEq

/-- A field that converts, if it does in both directions. -/
def ConvertedField.ofPlans? (name : String) (plan : Direction → Except Unsupported Plan) :
    Option ConvertedField :=
  match plan .toNative, plan .ofNative with
  | .ok toNative, .ok ofNative => some { name, toNative, ofNative }
  | _, _ => none

/-- The pair of conversion methods of a value type. -/
structure ConversionMethods where
  receiver : String
  external : ExternalType
  fields : List ConvertedField
deriving Repr, DecidableEq

namespace ConversionMethods

/-- The variable that holds the value of the external type. -/
def target (methods : ConversionMethods) : String :=
  (ExternalName.ofType methods.external.type).variableName

/-- The conversions of the fields to the native form. -/
def toNative (methods : ConversionMethods) : List FieldCode :=
  methods.fields.map fun field => field.toNative.toNative field.name methods.target

/-- The conversions of the fields from the native form. -/
def ofNative (methods : ConversionMethods) : List FieldCode :=
  methods.fields.map fun field => field.ofNative.ofNative field.name

def render (methods : ConversionMethods) : String :=
  methodsText methods.receiver methods.external (methods.toNative.map FieldCode.render)
    (methods.ofNative.map FieldCode.render)

end ConversionMethods

end ProviderCodegen.Conversion
