import ProviderCodegen.Schema.ElementType

/-! # Conversion plans

How the value of a node converts to its native Go form and back. Framework primitives convert by a
function, collections of them element by element, objects of such values field by field, and objects
with an external type by methods of their own. For all else no code is generated, which is said by
`Unsupported`.
-/

namespace ProviderCodegen.Conversion

open Schema (CollectionKind ElementType Fields PrimitiveKind Unsupported)
open Spec (ExternalType)

/-- Which way a conversion goes. -/
inductive Direction
  /-- From the framework's value to the native form. -/
  | toNative
  /-- From the native form to the framework's value. -/
  | ofNative
deriving Repr, DecidableEq

/-- A conversion of a single value. -/
inductive ValuePlan
  /-- By a function of the framework. -/
  | function (name : String)
  /-- Element by element. -/
  | collection (kind : CollectionKind) (elementType nativeType : String)
deriving Repr, DecidableEq

/-- The conversion of a field of an object. -/
structure FieldPlan where
  attrType : String
  valueType : String
  plan : ValuePlan
deriving Repr, DecidableEq

/-- The conversion of a node. -/
inductive Plan
  | value (plan : ValuePlan)
  /-- By the methods of a value type for an external type. -/
  | external (external : ExternalType) (valueType : String)
  /-- Field by field. -/
  | object (fields : NameMap FieldPlan)
deriving Repr, DecidableEq

def Direction.function : Direction → PrimitiveKind → String
  | toNative, kind => kind.toNative
  | ofNative, kind => kind.ofNative

def primitive? : ElementType → Option PrimitiveKind
  | .primitive kind none => some kind
  | _ => none

/-- The native form of the elements of a collection that converts; numbers do not. -/
def elementNativeType? (element : ElementType) : Option String :=
  ((primitive? element).filter (· ≠ .number)).map PrimitiveKind.nativeType

def collectionPlan (kind : CollectionKind) (element : ElementType) (subject : String) :
    Except Unsupported ValuePlan :=
  match elementNativeType? element with
  | some native => .ok (.collection kind element.expression (kind.nativeType native))
  | none => .error ⟨"conversion of " ++ kind.word ++ " attribute " ++ subject ++
      " with element type " ++ element.expression⟩

def elementPlan (direction : Direction) (type : ElementType) (subject : String) :
    Except Unsupported ValuePlan :=
  match type with
  | .primitive kind none => .ok (.function (direction.function kind))
  | .collection kind element none => collectionPlan kind element subject
  | type => .error ⟨"conversion of " ++ subject ++ " of type " ++ type.expression⟩

def fieldPlan (direction : Direction) (subject : String) (field : String × ElementType) :
    Except Unsupported (String × FieldPlan) := do
  let (name, type) := field
  let plan ← elementPlan direction type (subject ++ "." ++ name)
  return (name, { attrType := type.expression, valueType := type.valueType, plan })

/-- The plan for an object of typed fields: every field has one. -/
def objectPlan (direction : Direction) (fields : Fields) (subject : String) :
    Except Unsupported Plan := do
  return .object (.ofList (← fields.mapM (fieldPlan direction subject)))

end ProviderCodegen.Conversion
