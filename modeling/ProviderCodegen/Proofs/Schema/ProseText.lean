import ProviderCodegen.Proofs.Schema.Prose
import ProviderCodegen.Proofs.Source.Quotation

/-! # Where prose shows in a file

Prose has no influence on the imports of a schema, on its model, its generated types and its
conversion methods. It shows in the schema function only, as quoted texts: the function quotes the
prose of every node and of the schema, and is the same with these quotations emptied.
-/

namespace ProviderCodegen.Schema

open Source (Quotes quotes_code quotes_literal composite)
open Spec (emptied)

def Node.withoutProse : Node → Node
  | attr node => attr node.withoutProse
  | block node => block node.withoutProse

/-! ## What prose has no influence on -/

theorem Change.keepsCode_withoutProse : Change.withoutProse.KeepsCode where
  customType _ := rfl
  planModifiers _ := rfl
  validators _ := rfl
  expression _ := rfl
  nativeType _ := rfl
  literal _ := rfl
  valueFields _ := rfl
  converted _ := rfl
  plan _ _ _ := rfl

/-- Descriptions and messages need no import. -/
theorem Change.contributes_withoutProse : Change.withoutProse.Contributes Eq where
  __ := Change.keepsCode_withoutProse
  default default := by cases default <;> rfl
  element _ := rfl
  fields _ := rfl

namespace ResourceSchema

theorem imports_withoutProse (schema : ResourceSchema) :
    schema.withoutProse.imports = schema.imports := by
  have same := schema.contributions_changed keptByAppend_eq Change.contributes_withoutProse
  rw [withoutProse_eq, schema.imports_eq, ← same, ← imports_eq]
  rfl

theorem model_withoutProse (schema : ResourceSchema) (name : String) :
    schema.withoutProse.model name = schema.model name := by
  rw [withoutProse_eq]
  exact schema.model_changed Change.keepsCode_withoutProse name

theorem valueTypes_withoutProse (schema : ResourceSchema) :
    schema.withoutProse.valueTypes = schema.valueTypes := by
  rw [withoutProse_eq]
  exact schema.valueTypes_changed Change.keepsCode_withoutProse

/-- Conversions are about values, whatever their descriptions are. -/
theorem methods_withoutProse (schema : ResourceSchema) :
    schema.withoutProse.methods = schema.methods := by
  rw [withoutProse_eq]
  exact schema.methods_changed Change.keepsCode_withoutProse

end ResourceSchema

/-! ## Where prose is quoted -/

def Facets.prose (facets : Facets) : List String :=
  facets.description.toList ++ facets.deprecationMessage.toList

/-- The text of a default, if it is a static text. -/
def Default.prose : Default → List String
  | string text => [text]
  | _ => []

def defaultProse (default : Option Default) : List String :=
  default.toList.flatMap Default.prose

/-- The prose of a node apart from that inside. -/
def Node.prose : Node → List String
  | attr (.primitive _ facets default) => facets.prose ++ defaultProse default
  | attr (.collection _ facets _ default) => facets.prose ++ defaultProse default
  | attr (.nested _ facets _ _ default) => facets.prose ++ defaultProse default
  | attr (.singleNested facets _ _ default) => facets.prose ++ defaultProse default
  | attr (.object facets _ _ default) => facets.prose ++ defaultProse default
  | block (.nested _ facets _ _ _) => facets.prose
  | block (.singleNested facets _ _ _) => facets.prose

/-- The prose of a schema: that of all nodes and that of the schema itself. -/
def ResourceSchema.prose (schema : ResourceSchema) : List String :=
  (schema.nodes.flatMap fun entry => entry.2.prose) ++ schema.description.toList ++
    schema.markdownDescription.toList ++ schema.deprecationMessage.toList

section Entries

variable {whole other : String} {texts : List String}

theorem quotes_entry (quotes : Quotes whole other texts) (field : String) :
    Quotes (entry field whole) (entry field other) texts :=
  (quotes.behind _).before _

theorem quotes_textEntry (field : String) (text : Option String) :
    Quotes (textEntry field text) (textEntry field (emptied text)) text.toList := by
  cases text with
  | none => exact quotes_code _
  | some text => exact quotes_entry (quotes_literal text) field

/-- The description is written twice, as plain text and as Markdown, and is still one text. -/
theorem quotes_descriptionEntries (description : Option String) :
    Quotes (descriptionEntries description) (descriptionEntries (emptied description))
      description.toList := by
  refine ((quotes_textEntry _ _).append (quotes_textEntry _ _)).congr fun text => ?_
  rw [List.mem_append, or_self]

/-- Entries of facets that hold no prose are the same in both texts. -/
theorem quotes_facets (facets : Facets) (custom : Option String) (hookType : String) :
    Quotes (facets.entries custom hookType) (facets.withoutProse.entries custom hookType)
      facets.prose := by
  have described := (quotes_descriptionEntries facets.description).append
    (quotes_textEntry "DeprecationMessage" facets.deprecationMessage)
  have behind := described.behind
    (customTypeEntry custom ++ requirementEntries facets.requirement ++
      sensitiveEntry facets.sensitive)
  have before := (behind.before (planModifiersEntry hookType facets.planModifiers)).before
    (validatorsEntry hookType facets.validators)
  simpa only [Facets.entries, Facets.withoutProse, Facets.prose, String.append_assoc] using before

theorem quotes_default (default : Option Default) :
    Quotes (defaultEntry default) (defaultEntry (default.map Default.withoutProse))
      (defaultProse default) := by
  rcases default with _ | default
  · exact quotes_code _
  · cases default with
    | string text => exact quotes_entry (((quotes_literal text).behind _).before _) _
    | _ => exact quotes_code _

theorem quotes_schemaLiteral (quotes : Quotes whole other texts) (type : String) :
    Quotes (schemaLiteral type whole) (schemaLiteral type other) texts :=
  ((quotes.behind _).before _).before _

theorem quotes_declaration (quotes : Quotes whole other texts) (name type : String) :
    Quotes (declaration name type whole) (declaration name type other) texts :=
  ((quotes_schemaLiteral quotes type).behind _).before _

theorem quotes_objectEntry (quotes : Quotes whole other texts) (object : ObjectFacets)
    (name type : String) :
    Quotes (object.entry name type whole) (object.entry name type other) texts := by
  have literal := ((quotes.before (customTypeEntry (some (object.schemaType name)))).before
    (planModifiersEntry "Object" object.planModifiers)).before
    (validatorsEntry "Object" object.validators)
  exact quotes_entry (quotes_schemaLiteral literal type) _

/-- The texts quoted are those of the children, in their order. -/
theorem quotes_childrenEntry {α : Type} {items : List α} {render renderOther : α → String}
    {quoted : α → List String} (field type : String)
    (each : ∀ item ∈ items, Quotes (render item) (renderOther item) (quoted item)) :
    Quotes (childrenEntry field type (items.map render))
      (childrenEntry field type (items.map renderOther)) (items.flatMap quoted) := by
  cases items with
  | nil => exact quotes_code _
  | cons item items =>
    have lines := Quotes.join fun item listed => (each item listed).behind "\n"
    have literal := ((lines.behind ("map[string]schema." ++ type ++ Source.openBrace)).before
      "\n").before Source.closeBrace
    simp only [childrenEntry, composite, List.map_map]
    exact quotes_entry literal field

end Entries

def Node.allProse (node : Node) : List String :=
  node.prose ++ node.inside.flatMap fun entry => entry.2.prose

section Children

variable {attributes : Attributes} {blocks : Blocks}

/-- The entries of attributes and of blocks quote what the declarations of each of them quote. -/
theorem quotes_namedNodes
    (each : ∀ entry ∈ namedNodes attributes blocks,
      Quotes (entry.2.declaration entry.1) (entry.2.withoutProse.declaration entry.1)
        entry.2.allProse) :
    Quotes (Attributes.entry attributes ++ Blocks.entry blocks)
      (Attributes.entry (Attribute.allWithoutProse attributes) ++
        Blocks.entry (Block.allWithoutProse blocks))
      ((namedNodes attributes blocks).flatMap fun entry => entry.2.allProse) := by
  have ofAttributes : Quotes (Attributes.entry attributes)
      (Attributes.entry (Attribute.allWithoutProse attributes))
      (attributes.flatMap fun entry => (Node.attr entry.2).allProse) := by
    rw [Attributes.entry, Attributes.entry, Attribute.allWithoutProse_eq,
      Attribute.declarations_eq, Attribute.declarations_eq, List.map_map]
    exact quotes_childrenEntry _ _ fun entry listed =>
      each _ (mem_namedNodes.mpr (.inl ⟨entry, listed, rfl⟩))
  have ofBlocks : Quotes (Blocks.entry blocks) (Blocks.entry (Block.allWithoutProse blocks))
      (blocks.flatMap fun entry => (Node.block entry.2).allProse) := by
    rw [Blocks.entry, Blocks.entry, Block.allWithoutProse_eq, Block.declarations_eq,
      Block.declarations_eq, List.map_map]
    exact quotes_childrenEntry _ _ fun entry listed =>
      each _ (mem_namedNodes.mpr (.inr ⟨entry, listed, rfl⟩))
  rw [namedNodes, List.flatMap_append, List.flatMap_map, List.flatMap_map]
  exact ofAttributes.append ofBlocks

end Children

/-- The prose of a node stands before that of its children. -/
theorem Node.allProse_eq (node : Node) :
    node.allProse = node.prose ++ node.children.flatMap fun entry => entry.2.allProse := by
  rw [allProse, Node.flatMap_inside]
  rfl

/-- The declaration of a node quotes the prose of the node and of the nodes inside. -/
theorem Node.quotes_declaration (node : Node) :
    ∀ name, Quotes (node.declaration name) (node.withoutProse.declaration name) node.allProse := by
  induction node with
  | step node ih =>
    intro name
    have inside := quotes_namedNodes fun entry isChild => ih entry isChild entry.1
    rw [allProse_eq]
    cases node with
    | attr node =>
      -- An attribute has no blocks inside, so only the entry of its attributes is written.
      have ofAttributes {attributes : Attributes} {texts : List String}
          (both : Quotes (Attributes.entry attributes ++ Blocks.entry [])
            (Attributes.entry (Attribute.allWithoutProse attributes) ++ Blocks.entry []) texts) :
          Quotes (Attributes.entry attributes)
            (Attributes.entry (Attribute.allWithoutProse attributes)) texts := by
        have empty : Blocks.entry [] = "" := rfl
        rwa [empty, String.append_empty, String.append_empty] at both
      cases node with
      | primitive kind facets default =>
        rw [show children (.attr (.primitive kind facets default)) = [] from rfl, List.flatMap_nil,
          List.append_nil]
        have own := (quotes_facets facets facets.explicitType kind.name).append (quotes_default default)
        exact Schema.quotes_declaration own name _
      | collection kind facets element default =>
        rw [show children (.attr (.collection kind facets element default)) = [] from rfl,
          List.flatMap_nil, List.append_nil]
        have own := (quotes_facets facets facets.explicitType kind.name).append (quotes_default default)
        exact Schema.quotes_declaration (own.before _) name _
      | object facets fields external default =>
        rw [show children (.attr (.object facets fields external default)) = [] from rfl,
          List.flatMap_nil, List.append_nil]
        have own := (quotes_facets facets (fixedObjectType name facets external) "Object").append
          (quotes_default default)
        exact Schema.quotes_declaration (own.before _) name _
      | nested kind facets item attributes default =>
        have own := (quotes_facets facets facets.explicitType kind.name).append (quotes_default default)
        have object := quotes_objectEntry (ofAttributes inside) item name "NestedAttributeObject"
        exact Schema.quotes_declaration (own.append object) name _
      | singleNested facets attributes external default =>
        have own := (quotes_facets facets
          (some ((ObjectFacets.single facets external).schemaType name)) "Object").append
          (quotes_default default)
        exact Schema.quotes_declaration (own.append (ofAttributes inside)) name _
    | block node =>
      cases node with
      | nested kind facets item attributes blocks =>
        have own := quotes_facets facets facets.explicitType kind.collection.name
        have object := quotes_objectEntry inside item name "NestedBlockObject"
        exact Schema.quotes_declaration (own.append object) name _
      | singleNested facets attributes blocks external =>
        have own := quotes_facets facets
          (some ((ObjectFacets.single facets external).schemaType name)) "Object"
        have entries := own.append inside
        rw [← String.append_assoc, ← String.append_assoc] at entries
        exact Schema.quotes_declaration entries name _

/-- The schema function quotes the prose of the schema. -/
theorem ResourceSchema.quotes_function (schema : ResourceSchema) (name : String) :
    Quotes (schema.function name) (schema.withoutProse.function name) schema.prose := by
  have nodes : Quotes (Attributes.entry schema.attributes ++ Blocks.entry schema.blocks)
      (Attributes.entry (Attribute.allWithoutProse schema.attributes) ++
        Blocks.entry (Block.allWithoutProse schema.blocks))
      (schema.nodes.flatMap fun entry => entry.2.prose) := by
    rw [flatMap_nodes]
    exact quotes_namedNodes fun entry _ => entry.2.quotes_declaration entry.1
  have entries := ((nodes.append (quotes_textEntry "Description" schema.description)).append
    (quotes_textEntry "MarkdownDescription" schema.markdownDescription)).append
    (quotes_textEntry "DeprecationMessage" schema.deprecationMessage)
  exact (((quotes_schemaLiteral entries "Schema").behind _).before _).before _

end ProviderCodegen.Schema
