/-! # Go imports

An import makes a package available under a name: the one it is given, or the one its path ends in.
`Import.isReferenced` says whether a Go text uses the package.
-/

namespace ProviderCodegen.Source

/-- An imported package. -/
structure Import where
  path : String
  /-- The name that the importing file gives the package. -/
  localName : Option String := none
deriving Repr, DecidableEq

/-- ASCII letters, digits and the underscore. -/
def isIdentifierChar (c : Char) : Bool :=
  c.isAlphanum || c = '_'

def isVersionNumber (chars : List Char) : Bool :=
  !chars.isEmpty && chars.all Char.isDigit

/-- A path segment such as `v2`, which is no part of the package's name. -/
def isMajorVersion : List Char → Bool
  | 'v' :: rest => isVersionNumber rest
  | _ => false

/-- The parts between the slashes of a path, the last one first. -/
def reversedSegments (path : List Char) : List (List Char) :=
  (path.splitOn '/').reverse

/-- A name without a version at its end: `yaml.v3` names the package `yaml`. -/
def dropVersion (name : List Char) : List Char :=
  let reversed := name.reverse
  match reversed.dropWhile Char.isDigit with
  | 'v' :: '.' :: base =>
      if (reversed.head?.map Char.isDigit).getD false then base.reverse else name
  | _ => name

/-- The package name that a path ends in. -/
def pathName (path : List Char) : List Char :=
  match reversedSegments path with
  | [] => []
  | [last] => dropVersion last
  | last :: parent :: _ => dropVersion (if isMajorVersion last then parent else last)

namespace Import

/-- The name by which a Go text refers to the package. -/
def packageName (i : Import) : String :=
  match i.localName with
  | some name => name
  | none => String.ofList (pathName i.path.toList)

/-- The line of an import block. -/
def line (i : Import) : String :=
  match i.localName with
  | some name => name ++ " \"" ++ i.path ++ "\""
  | none => "\"" ++ i.path ++ "\""

end Import

/-- Whether an identifier may start after this character. -/
def isBoundary (before : Option Char) : Bool :=
  match before with
  | some c => !isIdentifierChar c
  | none => true

/-- Whether a qualifier stands somewhere in a text where an identifier may start. -/
def mentions (qualifier : List Char) (before : Option Char) : List Char → Bool
  | [] => false
  | c :: rest =>
      (isBoundary before && qualifier.isPrefixOf (c :: rest)) || mentions qualifier (some c) rest

/-- Whether a text uses the package. A package without a usable name, such as one imported for its
effects, counts as used by every text. -/
def Import.isReferenced (i : Import) (body : String) : Bool :=
  let name := i.packageName
  name == "_" || name == "." || !name.toList.all isIdentifierChar ||
    mentions (name.toList ++ ['.']) none body.toList

end ProviderCodegen.Source
