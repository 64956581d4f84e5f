/-! # Kinds

Every attribute, block and element type is of one kind. A kind fixes the names of the framework
types, of its values and of the functions that convert them.
-/

namespace ProviderCodegen.Schema

inductive PrimitiveKind
  | bool
  | float64
  | int64
  | number
  | string
deriving Repr, DecidableEq

namespace PrimitiveKind

def name : PrimitiveKind → String
  | bool => "Bool"
  | float64 => "Float64"
  | int64 => "Int64"
  | number => "Number"
  | string => "String"

/-- The name within a sentence. -/
def word : PrimitiveKind → String
  | bool => "bool"
  | float64 => "float64"
  | int64 => "int64"
  | number => "number"
  | string => "string"

/-- The method that takes a value to its native form. -/
def toNative : PrimitiveKind → String
  | bool => "ValueBoolPointer"
  | float64 => "ValueFloat64Pointer"
  | int64 => "ValueInt64Pointer"
  | number => "ValueBigFloat"
  | string => "ValueStringPointer"

/-- The function that takes a native form to a value. -/
def ofNative : PrimitiveKind → String
  | bool => "BoolPointerValue"
  | float64 => "Float64PointerValue"
  | int64 => "Int64PointerValue"
  | number => "NumberValue"
  | string => "StringPointerValue"

/-- The native form. -/
def nativeType : PrimitiveKind → String
  | bool => "*bool"
  | float64 => "*float64"
  | int64 => "*int64"
  | number => "*big.Float"
  | string => "*string"

def modelType (kind : PrimitiveKind) : String :=
  "types." ++ kind.name

def valueType (kind : PrimitiveKind) : String :=
  "basetypes." ++ kind.name ++ "Value"

end PrimitiveKind

inductive CollectionKind
  | list
  | map
  | set
deriving Repr, DecidableEq

namespace CollectionKind

def name : CollectionKind → String
  | list => "List"
  | map => "Map"
  | set => "Set"

def word : CollectionKind → String
  | list => "list"
  | map => "map"
  | set => "set"

def modelType (kind : CollectionKind) : String :=
  "types." ++ kind.name

def valueType (kind : CollectionKind) : String :=
  "basetypes." ++ kind.name ++ "Value"

/-- The native form of a collection of elements with the given native form. -/
def nativeType : CollectionKind → String → String
  | list, element => "[]" ++ element
  | set, element => "[]" ++ element
  | map, element => "map[string]" ++ element

end CollectionKind

inductive ElementKind
  | primitive (kind : PrimitiveKind)
  | collection (kind : CollectionKind)
  | object
deriving Repr, DecidableEq

/-- The kinds of element types, in the order in which they count. -/
def ElementKind.all : List ElementKind :=
  [primitive .bool, primitive .float64, primitive .int64, primitive .number, primitive .string,
   collection .list, collection .map, collection .set, object]

inductive AttributeKind
  | primitive (kind : PrimitiveKind)
  | collection (kind : CollectionKind)
  | nested (kind : CollectionKind)
  | singleNested
  | object
deriving Repr, DecidableEq

namespace AttributeKind

/-- The kinds of attributes, in the order in which they count. -/
def all : List AttributeKind :=
  [primitive .bool, primitive .float64, primitive .int64, primitive .number, primitive .string,
   collection .list, collection .map, collection .set, nested .list, nested .map, nested .set,
   singleNested, object]

/-- The name of the framework type of an attribute. -/
def name : AttributeKind → String
  | primitive kind => kind.name ++ "Attribute"
  | collection kind => kind.name ++ "Attribute"
  | nested kind => kind.name ++ "NestedAttribute"
  | singleNested => "SingleNestedAttribute"
  | object => "ObjectAttribute"

end AttributeKind

/-- The kinds of collections of blocks; there are no maps of blocks. -/
inductive RepeatedKind
  | list
  | set
deriving Repr, DecidableEq

/-- The collection that a repeated block makes. -/
def RepeatedKind.collection : RepeatedKind → CollectionKind
  | list => .list
  | set => .set

inductive BlockKind
  | nested (kind : RepeatedKind)
  | singleNested
deriving Repr, DecidableEq

namespace BlockKind

/-- The kinds of blocks, in the order in which they count. -/
def all : List BlockKind :=
  [nested .list, nested .set, singleNested]

/-- The name of the framework type of a block. -/
def name : BlockKind → String
  | nested kind => kind.collection.name ++ "NestedBlock"
  | singleNested => "SingleNestedBlock"

end BlockKind

end ProviderCodegen.Schema
