import ProviderCodegen.Conversion.Plan
import ProviderCodegen.Source.Naming

/-! # Conversion code

The statements that convert one field inside a conversion method. Local variables are kept apart
from the text around them: `Statement.declared` and `Statement.used` tell where a variable comes
from and where it goes.
-/

namespace ProviderCodegen.Conversion

open Source (openBrace closeBrace emptyComposite inQuotes ExternalName)
open Schema (attrTypesLiteral)
open Text (pascalCase camelCase)

/-- A part of an expression. -/
inductive Piece
  | text (text : String)
  /-- A local variable of the method. -/
  | var (name : String)
deriving Repr, DecidableEq

abbrev Expression := List Piece

namespace Piece

instance : Coe String Piece := ⟨text⟩

def render : Piece → String
  | text source => source
  | var name => name

def name? : Piece → Option String
  | text _ => none
  | var name => some name

end Piece

def Expression.render (expression : Expression) : String :=
  String.join (expression.map Piece.render)

def Expression.variables (expression : Expression) : List String :=
  expression.filterMap Piece.name?

/-- A statement of a conversion method. -/
inductive Statement
  /-- Declare a variable of a type. -/
  | declare (name type : String)
  /-- Declare a variable with a value that comes with diagnostics. -/
  | define (name : String) (value : Expression)
  /-- Keep the diagnostics that came with a value. -/
  | keepDiagnostics
  /-- Store the elements of a collection. -/
  | readElements (source : String) (destination : Expression)
  /-- Store the result of a method of the matched value. -/
  | store (destination function : String)
  /-- Go on with a value if it is of a type. -/
  | whenTyped (source type : String) (body : Statement)
deriving Repr, DecidableEq

namespace Statement

def render : Statement → String
  | declare name type => "var " ++ name ++ " " ++ type
  | define name value => name ++ ", d := " ++ Expression.render value
  | keepDiagnostics => "diags.Append(d...)"
  | readElements source destination =>
      "diags.Append(" ++ source ++ ".ElementsAs(ctx, &" ++ Expression.render destination ++
        ", false)...)"
  | store destination function => destination ++ " = val." ++ function ++ "()"
  | whenTyped source type body =>
      "if val, ok := " ++ source ++ ".(" ++ type ++ "); ok " ++ openBrace ++ "\n" ++
        body.render ++ "\n" ++ closeBrace

/-- The variables that a statement adds to the method. -/
def declared : Statement → List String
  | declare name _ => [name]
  | define name _ => [name]
  | _ => []

def used : Statement → List String
  | define _ value => Expression.variables value
  | readElements _ destination => Expression.variables destination
  | whenTyped _ _ body => body.used
  | _ => []

end Statement

/-- The conversion of one field as text. -/
structure FieldText where
  /-- The field, on both sides. -/
  name : String
  /-- Statements before the result is put together. -/
  preamble : List String := []
  /-- The value of the field in the result, unless it is set later. -/
  value : Option String := none
  /-- Statements after the result is put together. -/
  post : List String := []
deriving Repr, DecidableEq

/-- The conversion of one field. -/
structure FieldCode where
  name : String
  preamble : List Statement := []
  value : Option Expression := none
  post : List Statement := []
deriving Repr, DecidableEq

def FieldCode.render (code : FieldCode) : FieldText where
  name := code.name
  preamble := code.preamble.map Statement.render
  value := code.value.map Expression.render
  post := code.post.map Statement.render

/-! ## To the native form -/

/-- The variable that holds the native form of a field. -/
def nativeVariable (field : String) : String :=
  camelCase field ++ "Field"

/-- The variable that holds the value of a field. -/
def valueVariable (field : String) : String :=
  camelCase field ++ "Val"

def valueField (field : String) : String :=
  "v." ++ pascalCase field

def nativeField (field : String) : String :=
  "apiObject." ++ pascalCase field

/-- Set a field of an object within the native form held by `target`. -/
def fieldToNative (target field : String) (part : String × FieldPlan) : Statement :=
  let destination := target ++ "." ++ pascalCase field ++ "." ++ pascalCase part.1
  let source := valueField field ++ ".Attributes()[" ++ inQuotes part.1 ++ "]"
  .whenTyped source part.2.valueType <|
    match part.2.plan with
    | .function name => .store destination name
    | .collection .. => .readElements "val" [destination]

/-- The code that takes a field of the value to the native form held by `target`. -/
def Plan.toNative (plan : Plan) (field target : String) : FieldCode :=
  let result := nativeVariable field
  match plan with
  | .value (.function name) =>
      { name := pascalCase field, value := some [valueField field ++ "." ++ name ++ "()"] }
  | .value (.collection _ _ nativeType) =>
      { name := pascalCase field
        preamble := [.declare result nativeType, .readElements (valueField field) [.var result]]
        value := some [.var result] }
  | .external target _ =>
      let method := "To" ++ (ExternalName.ofType target.type).pascal
      { name := pascalCase field
        preamble :=
          [.define result [valueField field ++ "." ++ method ++ "(ctx)"], .keepDiagnostics]
        value := some [.var result] }
  | .object fields =>
      { name := pascalCase field, post := fields.map (fieldToNative target field) }

/-! ## From the native form -/

/-- The call that makes a collection value from a native one. -/
def collectionFrom (kind : Schema.CollectionKind) (elementType source : String) : Expression :=
  ["types." ++ kind.name ++ "ValueFrom(ctx, " ++ elementType ++ ", " ++ source ++ ")"]

/-- The variable that holds the value of a field of an object. -/
def partVariable (field part : String) : String :=
  camelCase field ++ pascalCase part ++ "Val"

/-- The statements that make the value of a field of an object. -/
def partStatements (field : String) (part : String × FieldPlan) : List Statement :=
  match part.2.plan with
  | .function _ => []
  | .collection kind elementType _ =>
      let source := nativeField field ++ "." ++ pascalCase part.1
      [.define (partVariable field part.1) (collectionFrom kind elementType source),
       .keepDiagnostics]

/-- The entry of a field in the values of an object. -/
def partEntry (field : String) (part : String × FieldPlan) : Expression :=
  match part.2.plan with
  | .function name =>
      [inQuotes part.1 ++ ": types." ++ name ++ "(" ++ nativeField field ++ "." ++
        pascalCase part.1 ++ "),"]
  | .collection .. => [inQuotes part.1 ++ ": ", .var (partVariable field part.1), ","]

/-- Expressions on lines of their own. -/
def joinLines : List Expression → Expression
  | [] => []
  | [last] => last
  | first :: rest => first ++ [.text "\n"] ++ joinLines rest

def objectValue (field : String) (fields : NameMap FieldPlan) : Expression :=
  let types := attrTypesLiteral (fields.map fun (name, part) => (name, part.attrType))
  [.text ("types.ObjectValue(" ++ types ++ ", map[string]attr.Value" ++ openBrace ++ "\n")] ++
    joinLines (fields.map (partEntry field)) ++ [.text ("\n" ++ closeBrace ++ ")")]

/-- The code that makes a field of the value from the native form. -/
def Plan.ofNative (plan : Plan) (field : String) : FieldCode :=
  let result := valueVariable field
  let defined (before : List Statement) (value : Expression) : FieldCode :=
    { name := pascalCase field
      preamble := before ++ [.define result value, .keepDiagnostics]
      value := some [.var result] }
  match plan with
  | .value (.function name) =>
      { name := pascalCase field
        value := some ["types." ++ name ++ "(" ++ nativeField field ++ ")"] }
  | .value (.collection kind elementType _) =>
      defined [] (collectionFrom kind elementType (nativeField field))
  | .external source valueType =>
      let method := "From" ++ (ExternalName.ofType source.type).pascal
      defined []
        [emptyComposite valueType ++ "." ++ method ++ "(ctx, " ++ nativeField field ++ ")"]
  | .object fields => defined (fields.flatMap (partStatements field)) (objectValue field fields)

end ProviderCodegen.Conversion
