import ProviderCodegen.Proofs.Schema.Tree
import ProviderCodegen.Proofs.Source.ImportUnion

/-! # The imports of a schema and its nodes

The imports of a schema are a well-formed set, and they are those of its nodes: whatever a node at
any depth may need is imported under its path, and every import is one of a node or of the schema
function.
-/

namespace ProviderCodegen.Schema

open Source (Import ImportSet)

/-! ## Well-formedness -/

/-- There is one import at most, which is the package of the custom type if it has one. -/
theorem wellFormed_customTypeImports (custom : Option Spec.CustomType) :
    (customTypeImports custom).WellFormed := by
  cases custom <;> exact ImportSet.wellFormed_ofList _

theorem wellFormed_externalTypeImports (external : Option Spec.ExternalType) :
    (externalTypeImports external).WellFormed := by
  cases external with
  | none => exact ImportSet.wellFormed_empty
  | some external => exact (ImportSet.wellFormed_ofList _).union _

theorem Attribute.wellFormed_imports (node : Attribute) : node.imports.WellFormed := by
  cases node with
  | primitive => exact ((wellFormed_customTypeImports _).union _).union _
  | collection => exact (((wellFormed_customTypeImports _).union _).union _).union _
  | nested => exact (((wellFormed_externalTypeImports _).union _).union _).union _
  | singleNested =>
    exact (((((wellFormed_externalTypeImports _).union _).union _).union _).union _).union _
  | object => exact (((((wellFormed_externalTypeImports _).union _).union _).union _).union _).union _

theorem Block.wellFormed_imports (node : Block) : node.imports.WellFormed := by
  cases node with
  | nested => exact (((wellFormed_externalTypeImports _).union _).union _).union _
  | singleNested =>
    exact (((((wellFormed_externalTypeImports _).union _).union _).union _).union _).union _

/-- The imports of attributes, collected one by one. -/
theorem Attribute.importsAll_eq (start : ImportSet) (attributes : List (String × Attribute)) :
    importsAll start attributes = attributes.foldl (fun s entry => s ∪ entry.2.imports) start := by
  induction attributes generalizing start with
  | nil => rfl
  | cons entry rest ih => exact ih _

/-- The imports of blocks, collected one by one. -/
theorem Block.importsAll_eq (start : ImportSet) (blocks : List (String × Block)) :
    importsAll start blocks = blocks.foldl (fun s entry => s ∪ entry.2.imports) start := by
  induction blocks generalizing start with
  | nil => rfl
  | cons entry rest ih => exact ih _

theorem Attributes.wellFormed_imports (attributes : Attributes) :
    (Attributes.imports attributes).WellFormed := by
  rw [Attributes.imports, Attribute.importsAll_eq]
  exact ImportSet.wellFormed_foldl_union ImportSet.wellFormed_empty

/-- What a schema may need is a well-formed set. -/
theorem ResourceSchema.wellFormed_imports (schema : ResourceSchema) : schema.imports.WellFormed :=
  ((Attributes.wellFormed_imports _).union _).union _

/-! ## The framework's types -/

theorem mem_types_customTypeImports {custom : Option Spec.CustomType} (without : custom = none) :
    Source.Framework.types ∈ (customTypeImports custom).paths := by
  subst without
  exact List.mem_singleton_self _

/-- Even an object without fields is written with these two packages. -/
theorem Fields.mem_imports {path : String} (fields : Fields) (named : path ≠ "")
    (member : path ∈ [Source.Framework.types, Source.Framework.attr]) :
    path ∈ (Fields.imports fields).paths :=
  (ImportSet.mem_paths_foldl_union named).mpr (.inl ((ImportSet.mem_paths_ofPaths named).mpr member))

/-- Whether the expression of an element type has an object, whose field types it spells out. What
is below a custom type does not show. -/
def ElementType.showsObject : ElementType → Bool
  | collection _ element none => element.showsObject
  | object _ none => true
  | _ => false

theorem ElementType.mem_types_imports (type : ElementType) :
    Source.Framework.types ∈ type.imports.paths :=
  (ImportSet.mem_paths_union (by decide)).mpr (.inl (List.mem_singleton_self _))

theorem ElementType.partImportsAll_eq (start : ImportSet) (fields : Fields) :
    partImportsAll start fields = fields.foldl (fun s field => s ∪ field.2.partImports) start := by
  induction fields generalizing start with
  | nil => rfl
  | cons field rest ih => exact ih _

/-- An element type that shows an object imports what the types of its fields are spelled with. -/
theorem ElementType.mem_attr_imports {type : ElementType} (shows : type.showsObject = true) :
    Source.Framework.attr ∈ type.imports.paths := by
  have named : Source.Framework.attr ≠ "" := by decide
  refine (ImportSet.mem_paths_union named).mpr (.inr ?_)
  fun_induction ElementType.showsObject type with
  | case1 kind element ih => exact ih shows
  | case2 fields =>
    rw [partImports, partImportsAll_eq]
    exact (ImportSet.mem_paths_foldl_union named).mpr (.inl (List.mem_singleton_self _))
  | case3 => cases shows

/-! ## The imports of nodes -/

def Attribute.emptied : Attribute → Attribute
  | nested kind facets item _ default => nested kind facets item [] default
  | singleNested facets _ external default => singleNested facets [] external default
  | primitive kind facets default => primitive kind facets default
  | collection kind facets element default => collection kind facets element default
  | object facets fields external default => object facets fields external default

/-- The block without the attributes and the blocks inside. -/
def Block.emptied : Block → Block
  | nested kind facets item _ _ => nested kind facets item [] []
  | singleNested facets _ _ external => singleNested facets [] [] external

/-- The imports of an attribute apart from those of what is inside. -/
def Attribute.ownImports (node : Attribute) : ImportSet :=
  node.emptied.imports

/-- The imports of a block apart from those of what is inside. -/
def Block.ownImports (node : Block) : ImportSet :=
  node.emptied.imports

/-- What is inside comes after all that the object itself needs. -/
theorem ObjectFacets.imports_eq (object : ObjectFacets) (hooks attributes blocks : ImportSet) :
    object.imports hooks attributes blocks =
      object.imports hooks .empty .empty ∪ attributes ∪ blocks := rfl

/-- The object of a collection adds what is inside last, so what is inside stands behind all that
the collection needs itself. -/
theorem nestedImports_eq (facets : Facets) (object : ObjectFacets) (default : Option Default)
    (attributes blocks : ImportSet) :
    nestedImports facets object default attributes blocks =
      nestedImports facets object default .empty .empty ∪ attributes ∪ blocks := by
  rw [nestedImports, ObjectFacets.imports_eq, ← ImportSet.union_assoc, ← ImportSet.union_assoc]
  rfl

namespace Node

/-- The node without what is inside. -/
def emptied : Node → Node
  | attr node => attr node.emptied
  | block node => block node.emptied

/-- The imports of a node and of what is inside. -/
def imports : Node → ImportSet
  | attr node => node.imports
  | block node => node.imports

/-- The imports of a node apart from those of what is inside. -/
def ownImports : Node → ImportSet
  | attr node => node.ownImports
  | block node => node.ownImports

/-- Without what is inside a node needs only what it needs by itself. -/
theorem imports_emptied (node : Node) : node.emptied.imports = node.ownImports := by
  cases node <;> rfl

theorem imports_eq (node : Node) :
    node.imports =
      node.ownImports ∪ Attributes.imports node.attributes ∪ Blocks.imports node.blocks := by
  cases node with
  | attr node =>
    cases node with
    | nested => exact nestedImports_eq ..
    | singleNested => exact ObjectFacets.imports_eq ..
    | primitive => rfl
    | collection => rfl
    | object => rfl
  | block node =>
    cases node with
    | nested => exact nestedImports_eq ..
    | singleNested => exact ObjectFacets.imports_eq ..

end Node

variable {attributes : Attributes} {blocks : Blocks} {schema : ResourceSchema} {i : Import}
  {path : String}

private theorem mem_paths_namedNodes (named : path ≠ "") {entry : String × Node}
    (member : entry ∈ namedNodes attributes blocks) (inside : path ∈ entry.2.imports.paths) :
    path ∈ (Attributes.imports attributes).paths ∨ path ∈ (Blocks.imports blocks).paths := by
  rw [Attributes.imports, Blocks.imports, Attribute.importsAll_eq, Block.importsAll_eq,
    ImportSet.mem_paths_foldl_union named, ImportSet.mem_paths_foldl_union named]
  obtain ⟨entry, listed, rfl⟩ | ⟨entry, listed, rfl⟩ := mem_namedNodes.mp member
  · exact .inl (.inr ⟨entry, listed, inside⟩)
  · exact .inr (.inr ⟨entry, listed, inside⟩)

/-- What a node at any depth may need itself is imported. -/
theorem ResourceSchema.mem_paths_of_node (named : path ≠ "") :
    ∀ entry ∈ schema.nodes, path ∈ entry.2.ownImports.paths → path ∈ schema.imports.paths := by
  have whole : ∀ entry ∈ schema.nodes,
      path ∈ entry.2.imports.paths → path ∈ schema.imports.paths := by
    refine forall_nodes
      (motive := fun _ node => path ∈ node.imports.paths → path ∈ schema.imports.paths)
      (fun entry top inside => ?_) fun name node imported child isChild inside => ?_
    · rw [ResourceSchema.imports, ImportSet.mem_paths_union named, ImportSet.mem_paths_union named]
      exact .inl (mem_paths_namedNodes named top inside)
    · apply imported
      rw [Node.imports_eq, ImportSet.mem_paths_union named, ImportSet.mem_paths_union named, or_assoc]
      exact .inr (mem_paths_namedNodes named isChild inside)
  intro entry member own
  refine whole entry member ?_
  rw [Node.imports_eq, ImportSet.mem_paths_union named, ImportSet.mem_paths_union named, or_assoc]
  exact .inl own

private theorem exists_namedNode (member : i ∈ (Attributes.imports attributes).entries ∨
      i ∈ (Blocks.imports blocks).entries) :
    ∃ entry ∈ namedNodes attributes blocks, i ∈ entry.2.imports.entries := by
  rw [Attributes.imports, Blocks.imports, Attribute.importsAll_eq, Block.importsAll_eq] at member
  rcases member with inAttributes | inBlocks
  · obtain ⟨entry, listed, inside⟩ :=
      (ImportSet.mem_entries_foldl_union inAttributes).resolve_left List.not_mem_nil
    exact ⟨_, mem_namedNodes.mpr (.inl ⟨entry, listed, rfl⟩), inside⟩
  · obtain ⟨entry, listed, inside⟩ :=
      (ImportSet.mem_entries_foldl_union inBlocks).resolve_left List.not_mem_nil
    exact ⟨_, mem_namedNodes.mpr (.inr ⟨entry, listed, rfl⟩), inside⟩

private theorem imports_cases {node : Node} (member : i ∈ node.imports.entries) :
    i ∈ node.ownImports.entries ∨ ∃ child ∈ node.children, i ∈ child.2.imports.entries := by
  rw [Node.imports_eq] at member
  rcases ImportSet.mem_entries_union member with above | inBlocks
  · exact (ImportSet.mem_entries_union above).imp_right fun inAttributes =>
      exists_namedNode (.inl inAttributes)
  · exact .inr (exists_namedNode (.inr inBlocks))

/-- Every import is one of a node, or one of the schema function under the package's own name. -/
theorem ResourceSchema.exists_node_of_mem_imports (member : i ∈ schema.imports.entries) :
    (∃ entry ∈ schema.nodes, i ∈ entry.2.ownImports.entries) ∨ i.localName = none := by
  rcases ImportSet.mem_entries_union member with ofNodes | ofFunction
  · obtain ⟨top, isTop, inside⟩ := exists_namedNode (ImportSet.mem_entries_union ofNodes)
    exact .inl (exists_node
      (fun _ _ => imports_cases) isTop inside)
  · exact .inr (ImportSet.mem_entries_ofPaths ofFunction).2

end ProviderCodegen.Schema
