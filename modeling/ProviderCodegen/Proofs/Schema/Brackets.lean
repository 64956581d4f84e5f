import ProviderCodegen.Proofs.Schema.GeneratedTypes
import ProviderCodegen.Proofs.Source.Brackets
import ProviderCodegen.Proofs.Text.Pascal
import ProviderCodegen.Proofs.UsedPackages

/-! # Brackets of a schema

Every writer of a schema opens and closes its own brackets, and all that comes from a specification
is a quoted text, a name or a piece of code. So a schema is balanced if its code is and its names
can stand between quotes; nothing is asked of descriptions, messages and static texts.
-/

namespace ProviderCodegen.Schema

open Source (Bracket Closes ClosesLast Flat IsBalanced Opens Quotable closesLast_of_balanced
  composite emptyComposite flat_inQuotes flat_of_plain generatedCustomType generatedFields
  inQuotes isBalanced_composite isBalanced_emptyComposite isBalanced_goLiteral isBalanced_inQuotes
  isBalanced_join isPlain through_plain typeName valueName)
open Spec (CustomType Snippet)

/-! ## What is given -/

/-- Whether the code of a custom type is balanced. -/
def TidyType (custom : Option CustomType) : Prop :=
  ∀ given ∈ custom, IsBalanced given.type

/-- Whether all pieces of code are balanced. -/
def TidyCode (snippets : List Snippet) : Prop :=
  ∀ snippet ∈ snippets, IsBalanced snippet.code

/-- Whether the code of a default is balanced, if it is code. -/
def TidyDefault : Option Default → Prop
  | some (.custom snippet) => IsBalanced snippet.code
  | _ => True

mutual

/-- Whether all custom types in an element type are balanced and all names in it can be quoted. -/
def ElementType.Tidy : ElementType → Prop
  | primitive _ custom => TidyType custom
  | collection _ element custom => TidyType custom ∧ element.Tidy
  | object fields custom => TidyType custom ∧ FieldsTidy fields

/-- Whether all custom types in fields are balanced and all names can be quoted. -/
def ElementType.FieldsTidy : Fields → Prop
  | [] => True
  | (name, type) :: rest => (Quotable name ∧ type.Tidy) ∧ FieldsTidy rest

end

/-- Whether the code of facets is balanced. -/
structure Facets.Tidy (facets : Facets) : Prop where
  customType : TidyType facets.customType
  planModifiers : TidyCode facets.planModifiers
  validators : TidyCode facets.validators

/-- Whether the code of an object is balanced. -/
structure ObjectFacets.Tidy (object : ObjectFacets) : Prop where
  customType : TidyType object.customType
  planModifiers : TidyCode object.planModifiers
  validators : TidyCode object.validators

/-- Whether the code that a node is given is balanced and the names of its fields can be quoted. -/
def Node.Tidy : Node → Prop
  | attr (.primitive _ facets default) => facets.Tidy ∧ TidyDefault default
  | attr (.collection _ facets element default) =>
      facets.Tidy ∧ TidyDefault default ∧ element.Tidy
  | attr (.nested _ facets item _ default) => facets.Tidy ∧ TidyDefault default ∧ item.Tidy
  | attr (.singleNested facets _ _ default) => facets.Tidy ∧ TidyDefault default
  | attr (.object facets fields _ default) =>
      facets.Tidy ∧ TidyDefault default ∧ ElementType.FieldsTidy fields
  | block (.nested _ facets item _ _) => facets.Tidy ∧ item.Tidy
  | block (.singleNested facets _ _ _) => facets.Tidy

/-- Whether a node can be written under a name: the name can be quoted, and what the node is given
for itself is balanced. -/
structure TidyEntry (entry : String × Node) : Prop where
  quotable : Quotable entry.1
  tidy : entry.2.Tidy

/-- Whether all code in a schema is balanced and all names in it can be quoted. -/
def ResourceSchema.Tidy (schema : ResourceSchema) : Prop :=
  ∀ entry ∈ schema.nodes, TidyEntry entry

/-! ## Words and numbers -/

section Words

variable {c : Char} {text : String}

theorem isPlain_of_isNameChar (named : Text.isNameChar c = true) : isPlain c = true := by
  rw [isPlain, Bool.not_eq_true', List.contains_eq_mem, decide_eq_false_iff_not]
  intro member
  simp only [List.mem_cons, List.not_mem_nil, or_false] at member
  rcases member with rfl | rfl | rfl | rfl | rfl | rfl | rfl <;> exact absurd named (by decide)

theorem flat_of_isWord (word : Text.isWord text = true) : Flat text :=
  flat_of_plain <| List.all_eq_true.mpr fun c member =>
    isPlain_of_isNameChar (List.all_eq_true.mp word c member)

/-- Whatever the name, nothing but letters, digits and underscores is left of it. -/
theorem flat_pascalCase (name : String) : Flat (Text.pascalCase name) :=
  flat_of_isWord (Text.isWord_pascalCase name)

theorem all_isPlain_toDigits (n : Nat) : (Nat.toDigits 10 n).all isPlain = true := by
  refine List.all_eq_true.mpr fun c member => isPlain_of_isNameChar ?_
  have digit := Nat.isDigit_of_mem_toDigits (by decide) (by decide) member
  simp only [Text.isNameChar, Char.isAlphanum, digit, Bool.or_true, Bool.true_or]

theorem isBalanced_decimal (n : Int) : IsBalanced (Text.decimal n) := by
  have digits : IsBalanced (String.ofList (Nat.toDigits 10 n.natAbs)) := by
    rw [IsBalanced, String.toList_ofList]
    exact through_plain (all_isPlain_toDigits _)
  unfold Text.decimal
  dsimp only
  split_ifs
  · exact IsBalanced.append rfl digits
  · exact digits

private theorem all_isPlain_writePositional {digits : List Char} (plain : digits.all isPlain = true)
    (point : Int) : (Decimal.Layout.goSource.writePositional digits point).all isPlain = true := by
  have zero : isPlain '0' = true := by decide
  have dot : isPlain '.' = true := by decide
  have zeros (count : Nat) : (List.replicate count '0').all isPlain = true :=
    List.all_eq_true.mpr fun c member => List.eq_of_mem_replicate member ▸ zero
  have front : (digits.take point.toNat).all isPlain = true :=
    List.all_eq_true.mpr fun c member => List.all_eq_true.mp plain c (List.mem_of_mem_take member)
  have back : (digits.drop point.toNat).all isPlain = true :=
    List.all_eq_true.mpr fun c member => List.all_eq_true.mp plain c (List.mem_of_mem_drop member)
  unfold Decimal.Layout.writePositional
  split_ifs
  · simp only [List.all_append, List.all_cons, zero, dot, zeros, plain, Bool.and_self]
  · rw [List.all_append, List.all_append, plain, zeros]
    rfl
  · simp only [List.all_append, List.all_cons, dot, front, back, Bool.and_self]

/-- A number is written without brackets and quotation marks. -/
theorem isBalanced_goSource (value : Float) : IsBalanced (Decimal.Layout.goSource.write value) := by
  have magnitude : (Decimal.Layout.goSource.magnitude value).all isPlain = true := by
    have zero : ['0'].all isPlain = true := by decide
    unfold Decimal.Layout.magnitude
    cases Decimal.shortest value with
    | none => exact all_isPlain_writePositional zero 1
    | some found => exact all_isPlain_writePositional (all_isPlain_toDigits _) found.point
  rw [IsBalanced, Decimal.Layout.write, String.toList_ofList]
  refine through_plain ?_
  split_ifs
  · rfl
  · rfl
  · rfl
  · rw [List.all_cons, magnitude]
    rfl
  · exact magnitude

end Words

/-! ## Types -/

theorem isBalanced_generatedFields (name : String) : IsBalanced (generatedFields name) := by
  have value : IsBalanced (emptyComposite (valueName name)) :=
    isBalanced_emptyComposite ((flat_pascalCase name).balanced.append (by rfl))
  exact (IsBalanced.append (by rfl) value).append (by rfl)

theorem isBalanced_generatedCustomType (name : String) : IsBalanced (generatedCustomType name) := by
  have ofType := (flat_pascalCase name).balanced.append (by rfl : IsBalanced "Type")
  refine isBalanced_composite ofType fun entry listed => ?_
  rw [List.mem_singleton.mp listed]
  refine (IsBalanced.append (by rfl) ?_).append (by rfl)
  refine isBalanced_composite (by rfl) fun fields listed => ?_
  rw [List.mem_singleton.mp listed]
  exact isBalanced_generatedFields name

/-- A custom type is code that was given, which is why it must be tidy. -/
theorem isBalanced_schemaType {object : ObjectFacets} (tidy : object.Tidy) (name : String) :
    IsBalanced (object.schemaType name) := by
  unfold ObjectFacets.schemaType
  split
  · exact tidy.customType _ ‹_›
  · exact isBalanced_generatedCustomType name

theorem isBalanced_attrTypesLiteral {types : List (String × String)}
    (each : ∀ type ∈ types, Quotable type.1 ∧ IsBalanced type.2) :
    IsBalanced (attrTypesLiteral types) := by
  unfold attrTypesLiteral
  split_ifs
  · rfl
  · refine isBalanced_composite (by rfl) fun entry member => ?_
    obtain ⟨type, listed, rfl⟩ := List.mem_map.mp member
    obtain ⟨quotable, balanced⟩ := each type listed
    exact (((isBalanced_inQuotes quotable).append (by rfl)).append balanced).append (by rfl)

namespace ElementType

mutual

/-- By induction on the type, as objects quote the names of their fields. -/
theorem isBalanced_expression : ∀ type : ElementType, type.Tidy → IsBalanced type.expression
  | primitive kind none, _ => by cases kind <;> rfl
  | primitive _ (some custom), tidy => tidy custom rfl
  | collection kind element none, tidy => by
      have ofType : IsBalanced ("types." ++ kind.name ++ "Type") := by cases kind <;> rfl
      refine isBalanced_composite ofType fun entry listed => ?_
      rw [List.mem_singleton.mp listed]
      exact (IsBalanced.append (by rfl) (isBalanced_expression element tidy.2)).append (by rfl)
  | collection _ _ (some custom), tidy => tidy.1 custom rfl
  | object fields none, tidy => by
      refine isBalanced_composite (by rfl) fun entry listed => ?_
      rw [List.mem_singleton.mp listed]
      refine (IsBalanced.append (by rfl) ?_).append (by rfl)
      refine isBalanced_attrTypesLiteral fun type member => ?_
      exact isBalanced_expressions fields tidy.2 type (List.mem_mergeSort.mp member)
  | object _ (some custom), tidy => tidy.1 custom rfl

theorem isBalanced_expressions : ∀ fields : Fields, FieldsTidy fields →
    ∀ type ∈ expressions fields, Quotable type.1 ∧ IsBalanced type.2
  | [], _, _, member => absurd member List.not_mem_nil
  | (name, type) :: rest, tidy, entry, member => by
      rcases List.mem_cons.mp member with rfl | member
      · exact ⟨tidy.1.1, isBalanced_expression type tidy.1.2⟩
      · exact isBalanced_expressions rest tidy.2 entry member

end

end ElementType

theorem isBalanced_fieldsLiteral {fields : Fields} (tidy : ElementType.FieldsTidy fields) :
    IsBalanced (Fields.literal fields) :=
  isBalanced_attrTypesLiteral fun type member =>
    ElementType.isBalanced_expressions fields tidy type (List.mem_mergeSort.mp member)

/-! ## Entries -/

section Entries

variable {value field type entries name : String}

theorem isBalanced_entry (ofField : IsBalanced field) (balanced : IsBalanced value) :
    IsBalanced (entry field value) :=
  (((IsBalanced.append (by rfl) ofField).append (by rfl)).append balanced).append (by rfl)

theorem isBalanced_optionalEntry {text : Option String} (ofField : IsBalanced field)
    (balanced : ∀ value ∈ text, IsBalanced value) : IsBalanced (optionalEntry field text) := by
  cases text with
  | none => rfl
  | some value => exact isBalanced_entry ofField (balanced value rfl)

/-- A text needs no condition, since its literal escapes all that could end it. -/
theorem isBalanced_textEntry (ofField : IsBalanced field) (text : Option String) :
    IsBalanced (textEntry field text) := by
  refine isBalanced_optionalEntry ofField fun value given => ?_
  obtain ⟨text, -, rfl⟩ := Option.map_eq_some_iff.mp given
  exact isBalanced_goLiteral text

/-- Snippets are set between the braces of a list as they were given. -/
theorem isBalanced_snippetsEntry {snippets : List Snippet} (tidy : TidyCode snippets)
    (ofField : IsBalanced field) (ofType : IsBalanced type) :
    IsBalanced (snippetsEntry field type snippets) := by
  unfold snippetsEntry
  split_ifs
  · rfl
  · refine isBalanced_entry ofField (isBalanced_composite ofType fun entry member => ?_)
    obtain ⟨snippet, listed, rfl⟩ := List.mem_map.mp member
    exact (tidy snippet listed).append (by rfl)

theorem isBalanced_hookEntries {planModifiers validators : List Snippet}
    (ofModifiers : TidyCode planModifiers) (ofValidators : TidyCode validators)
    (ofType : IsBalanced type) :
    IsBalanced (planModifiersEntry type planModifiers) ∧
      IsBalanced (validatorsEntry type validators) :=
  ⟨isBalanced_snippetsEntry ofModifiers (by rfl) (IsBalanced.append (by rfl) ofType),
    isBalanced_snippetsEntry ofValidators (by rfl) (IsBalanced.append (by rfl) ofType)⟩

theorem isBalanced_requirementEntries (requirement : Option Spec.Requirement) :
    IsBalanced (requirementEntries requirement) := by
  rcases requirement with _ | requirement
  · rfl
  · cases requirement <;> rfl

theorem isBalanced_sensitiveEntry (sensitive : Option Bool) :
    IsBalanced (sensitiveEntry sensitive) := by
  rcases sensitive with _ | sensitive
  · rfl
  · cases sensitive <;> rfl

/-- The description is quoted, so conditions are only on the code in custom types and hooks. -/
theorem isBalanced_facets {facets : Facets} (tidy : facets.Tidy) {custom : Option String}
    (ofCustom : ∀ value ∈ custom, IsBalanced value) (ofType : IsBalanced type) :
    IsBalanced (facets.entries custom type) := by
  obtain ⟨modifiers, validators⟩ := isBalanced_hookEntries tidy.planModifiers tidy.validators ofType
  have described : IsBalanced (descriptionEntries facets.description) :=
    (isBalanced_textEntry (by rfl) _).append (isBalanced_textEntry (by rfl) _)
  have flags : IsBalanced (customTypeEntry custom ++ requirementEntries facets.requirement ++
      sensitiveEntry facets.sensitive) :=
    ((isBalanced_optionalEntry (by rfl) ofCustom).append (isBalanced_requirementEntries _)).append
      (isBalanced_sensitiveEntry _)
  have deprecated : IsBalanced (textEntry "DeprecationMessage" facets.deprecationMessage) :=
    isBalanced_textEntry (by rfl) _
  exact (((flags.append described).append deprecated).append modifiers).append validators

theorem isBalanced_explicitType {facets : Facets} (tidy : facets.Tidy) :
    ∀ value ∈ facets.explicitType, IsBalanced value := by
  intro value given
  obtain ⟨custom, isCustom, rfl⟩ := Option.map_eq_some_iff.mp given
  exact tidy.customType custom isCustom

theorem isBalanced_singleType {facets : Facets} (tidy : facets.Tidy) (name : String)
    (external : Option Spec.ExternalType) :
    ∀ value ∈ some ((ObjectFacets.single facets external).schemaType name), IsBalanced value := by
  intro value given
  obtain rfl := Option.some.inj given
  exact isBalanced_schemaType ⟨tidy.customType, tidy.planModifiers, tidy.validators⟩ name

theorem isBalanced_fixedObjectType {facets : Facets} (tidy : facets.Tidy) (name : String)
    (external : Option Spec.ExternalType) :
    ∀ value ∈ fixedObjectType name facets external, IsBalanced value := by
  intro value given
  unfold fixedObjectType at given
  split at given
  · cases given
    exact tidy.customType _ ‹_›
  · split_ifs at given
    · exact Option.some.inj given ▸ isBalanced_generatedCustomType name
    · cases given

/-- Literal defaults are balanced whatever they are, and those in code must be tidy. -/
theorem isBalanced_defaultEntry {default : Option Default} (tidy : TidyDefault default) :
    IsBalanced (defaultEntry default) := by
  refine isBalanced_optionalEntry (by rfl) fun value given => ?_
  obtain ⟨default, rfl, rfl⟩ := Option.map_eq_some_iff.mp given
  have closes : Closes ")" .round := rfl
  cases default with
  | bool value => cases value <;> rfl
  | float64 value => exact (isBalanced_goSource value).between (by rfl) closes
  | int64 value => exact (isBalanced_decimal _).between (by rfl) closes
  | string value => exact (isBalanced_goLiteral value).between (by rfl) closes
  | custom snippet => exact tidy

/-- The children are balanced one by one, and so are the braces around all of them. -/
theorem isBalanced_childrenEntry {declarations : List String} (ofField : IsBalanced field)
    (ofType : IsBalanced type) (each : ∀ text ∈ declarations, IsBalanced text) :
    IsBalanced (childrenEntry field type declarations) := by
  unfold childrenEntry
  split_ifs
  · rfl
  · exact isBalanced_entry ofField (isBalanced_composite (IsBalanced.append (by rfl) ofType) each)

theorem isBalanced_schemaLiteral (ofType : IsBalanced type) (balanced : IsBalanced entries) :
    IsBalanced (schemaLiteral type entries) := by
  have opens : Opens ("schema." ++ type ++ Source.openBrace) .brace :=
    Source.opens_brace.behind (IsBalanced.append (by rfl) ofType)
  have closes : Closes ("\n" ++ Source.closeBrace) .brace := rfl
  have between := balanced.between opens closes
  rwa [← String.append_assoc] at between

/-- An object has an entry of its own only below lists, maps and sets. -/
theorem isBalanced_objectEntry {object : ObjectFacets} (tidy : object.Tidy) (name : String)
    (ofType : IsBalanced type) {children : String} (balanced : IsBalanced children) :
    IsBalanced (object.entry name type children) := by
  have ofObject : IsBalanced "Object" := rfl
  obtain ⟨modifiers, validators⟩ :=
    isBalanced_hookEntries tidy.planModifiers tidy.validators ofObject
  have custom : IsBalanced (customTypeEntry (some (object.schemaType name))) :=
    isBalanced_entry (by rfl) (isBalanced_schemaType tidy name)
  exact isBalanced_entry (by rfl) (isBalanced_schemaLiteral ofType
    (((balanced.append custom).append modifiers).append validators))

/-- The name is quoted as it is, without escapes. -/
theorem isBalanced_declaration (quotable : Quotable name) (ofType : IsBalanced type)
    (balanced : IsBalanced entries) : IsBalanced (declaration name type entries) :=
  (((isBalanced_inQuotes quotable).append (by rfl)).append
    (isBalanced_schemaLiteral ofType balanced)).append (by rfl)

/-- The brace of a declaration is the outermost one of its text. -/
theorem closesLast_declaration (quotable : Quotable name) (ofType : Flat type)
    (balanced : IsBalanced entries) : ClosesLast (declaration name type entries) := by
  have behind : Flat ": schema." := flat_of_plain (by decide)
  have head := ((flat_inQuotes quotable).append behind).append ofType
  have lines : IsBalanced (entries ++ "\n") := balanced.append (by rfl)
  have same : declaration name type entries = inQuotes name ++ ": schema." ++ type ++
      Source.openBrace ++ (entries ++ "\n") ++ Source.closeBrace ++ "," := by
    have parts : ": schema." = ": " ++ "schema." := rfl
    simp only [declaration, schemaLiteral, parts, String.append_assoc]
  rw [same]
  exact closesLast_of_balanced head lines

end Entries

/-! ## The tree -/

theorem flat_attributeKind (kind : AttributeKind) : Flat kind.name := by
  refine flat_of_isWord ?_
  cases kind with
  | primitive kind => cases kind <;> rfl
  | collection kind => cases kind <;> rfl
  | nested kind => cases kind <;> rfl
  | singleNested => rfl
  | object => rfl

theorem flat_blockKind (kind : BlockKind) : Flat kind.name := by
  refine flat_of_isWord ?_
  cases kind with
  | nested kind => cases kind <;> rfl
  | singleNested => rfl

theorem isBalanced_primitiveKind (kind : PrimitiveKind) : IsBalanced kind.name := by
  cases kind <;> rfl

theorem isBalanced_collectionKind (kind : CollectionKind) : IsBalanced kind.name := by
  cases kind <;> rfl

section Children

variable {attributes : Attributes} {blocks : Blocks}

theorem isBalanced_attributes
    (each : ∀ entry ∈ namedNodes attributes blocks, IsBalanced (entry.2.declaration entry.1)) :
    IsBalanced (Attributes.entry attributes) := by
  rw [Attributes.entry, Attribute.declarations_eq]
  refine isBalanced_childrenEntry (by rfl) (by rfl) fun text member => ?_
  obtain ⟨entry, listed, rfl⟩ := List.mem_map.mp member
  exact each _ (mem_namedNodes.mpr (.inl ⟨entry, listed, rfl⟩))

theorem isBalanced_blocks
    (each : ∀ entry ∈ namedNodes attributes blocks, IsBalanced (entry.2.declaration entry.1)) :
    IsBalanced (Blocks.entry blocks) := by
  rw [Blocks.entry, Block.declarations_eq]
  refine isBalanced_childrenEntry (by rfl) (by rfl) fun text member => ?_
  obtain ⟨entry, listed, rfl⟩ := List.mem_map.mp member
  exact each _ (mem_namedNodes.mpr (.inr ⟨entry, listed, rfl⟩))

end Children

/-- Whether the declaration of a node is balanced and closes with its own brace. -/
structure Node.WellBracketed (name : String) (node : Node) : Prop where
  balanced : IsBalanced (node.declaration name)
  closesLast : ClosesLast (node.declaration name)

/-- The brace that a declaration ends with is the one opened behind its type. -/
theorem Node.wellBracketed_of_entries {name type entries : String} {node : Node}
    (quotable : Quotable name) (ofType : Flat type) (balanced : IsBalanced entries)
    (written : node.declaration name = Schema.declaration name type entries) :
    node.WellBracketed name := by
  constructor <;> rw [written]
  · exact isBalanced_declaration quotable ofType.balanced balanced
  · exact closesLast_declaration quotable ofType balanced

/-- A node whose children are balanced is well bracketed itself. -/
theorem Node.wellBracketed_of_children {name : String} {node : Node}
    (tidy : TidyEntry (name, node))
    (each : ∀ child ∈ node.children, IsBalanced (child.2.declaration child.1)) :
    node.WellBracketed name := by
  obtain ⟨quotable, tidy⟩ := tidy
  cases node with
  | attr node =>
    cases node with
    | primitive kind facets default =>
      have own := isBalanced_facets tidy.1 (isBalanced_explicitType tidy.1)
        (isBalanced_primitiveKind kind)
      exact wellBracketed_of_entries quotable (flat_attributeKind _)
        (own.append (isBalanced_defaultEntry tidy.2)) rfl
    | collection kind facets element default =>
      obtain ⟨ofFacets, ofDefault, ofElement⟩ := tidy
      have own := isBalanced_facets ofFacets (isBalanced_explicitType ofFacets)
        (isBalanced_collectionKind kind)
      have elements : IsBalanced (entry "ElementType" element.expression) :=
        isBalanced_entry rfl (ElementType.isBalanced_expression element ofElement)
      exact wellBracketed_of_entries quotable (flat_attributeKind _)
        ((own.append (isBalanced_defaultEntry ofDefault)).append elements) rfl
    | nested kind facets item attributes default =>
      obtain ⟨ofFacets, ofDefault, ofItem⟩ := tidy
      have own := isBalanced_facets ofFacets (isBalanced_explicitType ofFacets)
        (isBalanced_collectionKind kind)
      have object : IsBalanced (item.entry name "NestedAttributeObject"
          (Attributes.entry attributes)) :=
        isBalanced_objectEntry ofItem name (by rfl) (isBalanced_attributes each)
      exact wellBracketed_of_entries quotable (flat_attributeKind _)
        ((own.append (isBalanced_defaultEntry ofDefault)).append object) rfl
    | singleNested facets attributes external default =>
      have own := isBalanced_facets tidy.1 (isBalanced_singleType tidy.1 name external)
        (by rfl : IsBalanced "Object")
      exact wellBracketed_of_entries quotable (flat_attributeKind _)
        ((own.append (isBalanced_defaultEntry tidy.2)).append (isBalanced_attributes each)) rfl
    | object facets fields external default =>
      obtain ⟨ofFacets, ofDefault, ofFields⟩ := tidy
      have own := isBalanced_facets ofFacets (isBalanced_fixedObjectType ofFacets name external)
        (by rfl : IsBalanced "Object")
      have types : IsBalanced (entry "AttributeTypes" (Fields.literal fields)) :=
        isBalanced_entry rfl (isBalanced_fieldsLiteral ofFields)
      exact wellBracketed_of_entries quotable (flat_attributeKind _)
        ((own.append (isBalanced_defaultEntry ofDefault)).append types) rfl
  | block node =>
    have inside := (isBalanced_attributes each).append (isBalanced_blocks each)
    cases node with
    | nested kind facets item attributes blocks =>
      obtain ⟨ofFacets, ofItem⟩ := tidy
      have own := isBalanced_facets ofFacets (isBalanced_explicitType ofFacets)
        (isBalanced_collectionKind kind.collection)
      have object : IsBalanced (item.entry name "NestedBlockObject"
          (Attributes.entry attributes ++ Blocks.entry blocks)) :=
        isBalanced_objectEntry ofItem name (by rfl) inside
      exact wellBracketed_of_entries quotable (flat_blockKind _) (own.append object) rfl
    | singleNested facets attributes blocks external =>
      have own := isBalanced_facets tidy (isBalanced_singleType tidy name external)
        (by rfl : IsBalanced "Object")
      have entries := own.append inside
      rw [← String.append_assoc] at entries
      exact wellBracketed_of_entries quotable (flat_blockKind _) entries rfl

/-- Whether a node and all nodes inside can be written under their names. -/
def Node.AllTidy (name : String) (node : Node) : Prop :=
  ∀ entry ∈ (name, node) :: node.inside, TidyEntry entry

/-- The nodes of a tree are listed with what is inside each of them. -/
private theorem allTidy_of_listed {top : List (String × Node)}
    (tidy : ∀ entry ∈ top.flatMap fun entry => entry :: entry.2.inside, TidyEntry entry) :
    ∀ entry ∈ top, entry.2.AllTidy entry.1 :=
  fun entry isTop _ member => tidy _ (List.mem_flatMap.mpr ⟨entry, isTop, member⟩)

theorem Node.AllTidy.children {name : String} {node : Node} (tidy : node.AllTidy name) :
    ∀ child ∈ node.children, child.2.AllTidy child.1 := by
  refine allTidy_of_listed ?_
  rw [← inside_eq]
  exact fun entry member => tidy entry (List.mem_cons_of_mem _ member)

/-- A node is well bracketed if it and all nodes inside can be written. -/
theorem Node.wellBracketed_of_allTidy {node : Node} :
    ∀ {name}, node.AllTidy name → node.WellBracketed name := by
  induction node with
  | step node ih =>
    intro name tidy
    refine wellBracketed_of_children (tidy _ (List.mem_cons_self ..)) fun child isChild => ?_
    exact (ih child isChild (tidy.children child isChild)).balanced

/-! ## The schema function -/

namespace ResourceSchema

variable {schema : ResourceSchema}

private theorem wellBracketed_nodes (tidy : schema.Tidy) :
    ∀ entry ∈ schema.nodes, entry.2.WellBracketed entry.1 := by
  rw [Tidy, nodes_eq] at tidy
  have allTidy : ∀ entry ∈ schema.nodes, entry.2.AllTidy entry.1 :=
    forall_nodes (allTidy_of_listed tidy) fun _ _ holds => holds.children
  exact fun entry member => Node.wellBracketed_of_allTidy (allTidy entry member)

/-- The schema function of a schema is balanced if the code in the schema is and the names in it can
stand between quotes. So is the declaration of every attribute and block at any depth, and its
outermost brace closes at its end. The name of the resource and all descriptions, messages and
static texts may be whatever they are. -/
theorem well_bracketed (tidy : schema.Tidy) :
    (∀ name, IsBalanced (schema.function name)) ∧
      ∀ entry ∈ schema.nodes, IsBalanced (entry.2.declaration entry.1) ∧
        ClosesLast (entry.2.declaration entry.1) := by
  have nodes := wellBracketed_nodes tidy
  refine ⟨fun name => ?_, fun entry member =>
    ⟨(nodes entry member).balanced, (nodes entry member).closesLast⟩⟩
  have top : ∀ entry ∈ namedNodes schema.attributes schema.blocks,
      IsBalanced (entry.2.declaration entry.1) :=
    fun entry isTop => (nodes entry (mem_nodes_of_top isTop)).balanced
  have entries : IsBalanced schema.entries :=
    ((((isBalanced_attributes top).append (isBalanced_blocks top)).append
      (isBalanced_textEntry (by rfl) _)).append (isBalanced_textEntry (by rfl) _)).append
      (isBalanced_textEntry (by rfl) _)
  have opens : Opens ("func " ++ Text.pascalCase name ++
      "ResourceSchema(ctx context.Context) schema.Schema " ++ Source.openBrace) .brace :=
    Source.opens_brace.behind
      ((IsBalanced.append (by rfl) (flat_pascalCase name).balanced).append (by rfl))
  have closes : Closes ("\n" ++ Source.closeBrace) .brace := rfl
  have body : IsBalanced ("\nreturn " ++ schemaLiteral "Schema" schema.entries) :=
    IsBalanced.append (by rfl) (isBalanced_schemaLiteral (by rfl) entries)
  have whole := body.between opens closes
  rwa [← String.append_assoc, ← String.append_assoc] at whole

end ResourceSchema

/-- A schema with brackets in a description, in a message and in a static text, none of them closed
there, and with code for a validator and a type. -/
def hostsSchema : ResourceSchema where
  attributes := [("hosts", .nested .list
    { description := some "Hosts (\"[a\" and \x7b\n"
      validators := [{ imports := [], code := "listvalidator.SizeAtLeast(1)" }] } {}
    [("labels", .object {} [("port_1", .primitive .int64
        (some ⟨none, "PortType\x7b\x7d", "PortValue"⟩))] none none),
      ("name", .primitive .string {} (some (.string "([\x7b\\")))]
    none)]
  blocks := []
  description := none
  markdownDescription := none
  deprecationMessage := some "\x7d]"

/-- Brackets in quotation marks do not count, even those behind an escaped quotation mark. -/
theorem hostsSchema_balanced :
    hostsSchema.Tidy ∧ IsBalanced (hostsSchema.function "host") := by
  have noCode : TidyCode [] := nofun
  have empty : ({} : Facets).Tidy := ⟨nofun, noCode, noCode⟩
  have port : TidyType (some ⟨none, "PortType\x7b\x7d", "PortValue"⟩) := by
    rintro _ ⟨⟩
    rfl
  have hosts : TidyCode [⟨[], "listvalidator.SizeAtLeast(1)"⟩] := List.forall_mem_singleton.mpr rfl
  have tidy : hostsSchema.Tidy :=
    List.forall_mem_cons.mpr
      ⟨⟨Source.quotable_of_snake rfl, ⟨nofun, noCode, hosts⟩, trivial, nofun, noCode, noCode⟩,
    List.forall_mem_cons.mpr
      ⟨⟨Source.quotable_of_snake rfl, empty, trivial, ⟨Source.quotable_of_snake rfl, port⟩,
        trivial⟩,
    List.forall_mem_singleton.mpr ⟨Source.quotable_of_snake rfl, empty, trivial⟩⟩⟩
  exact ⟨tidy, (ResourceSchema.well_bracketed tidy).1 "host"⟩

end ProviderCodegen.Schema
